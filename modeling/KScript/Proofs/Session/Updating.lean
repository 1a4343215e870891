import KScript.Proofs.Session.Assigning

/-!
# Assigning with an operator

The operators of an expression have a form with an equals sign that combines a name with a value.  The
reader takes one character in front of the sign for the operator, so an operator of one character stays
whole.  Of two that are alike it takes the second and leaves the first to the target; two question marks
it leaves to the target together; and a shift makes a comparison of the sign, which is then passed over.
-/

namespace KScript

open Text

namespace Value

/-- The operators that compare, and the one that begins a conditional. -/
def comparisons : List Text :=
  ["<", ">", "<=", ">=", "==", "===", "!=", "!==", "?"].map String.toList

/-- The operators that can stand in front of the sign of an assignment. -/
def updateOperators : List Text := operators.filter fun op => !comparisons.contains op

example : updateOperators =
    ["+", "-", "*", "/", "%", "**", "&&", "||", "??", "&", "|", "^", "<<", ">>"].map String.toList := by
  decide

end Value

/-- Behind a space only the blanks in front of a text are left when its end is trimmed. -/
theorem Text.exists_trimEnd_space (v : Text) : ∃ e : Text, e.Blank ∧ (e ≠ [] ∨ v.trim = []) ∧
    trimEnd (' ' :: v) = e ++ v.trim := by
  by_cases hv : v.Blank
  · have hblank : Blank (' ' :: v) := List.forall_mem_cons.2 ⟨by decide, hv⟩
    refine ⟨[], List.forall_mem_nil _, .inr (trim_eq_nil_iff.2 hv), ?_⟩
    rw [trimEnd_eq_nil_iff.2 hblank, trim_eq_nil_iff.2 hv, List.append_nil]
  · obtain ⟨b, hb, heq⟩ := exists_blank_append_trimStart v
    have hstart : ¬ v.trimStart.Blank := by rwa [← trim_eq_nil_iff, trim_trimStart, trim_eq_nil_iff]
    refine ⟨' ' :: b, List.forall_mem_cons.2 ⟨by decide, hb⟩, .inl (List.cons_ne_nil _ _), ?_⟩
    conv_lhs => rw [heq, ← List.cons_append, trimEnd_append hstart]
    rfl

/-! ## The search for the sign -/

namespace Assignment

variable {b b' : Text} {l r : Text}

/-- Whether a sign is found depends on the passed characters through the last one only. -/
theorem around?_eq_none_iff (h : ∀ after, isSign b.head? after = isSign b'.head? after)
    (ms : List Mark) : around? b ms = none ↔ around? b' ms = none := by
  induction ms generalizing b b' with
  | nil => exact Iff.rfl
  | cons m ms ih =>
    rw [around?, around?, h]
    split
    · exact iff_of_false (Option.some_ne_none _) (Option.some_ne_none _)
    · exact ih fun _ => rfl

/-- A sign that makes a comparison is passed over, and blanks behind it do not matter. -/
theorem ofText?_eq_none_of_not_isSign (hl : '=' ∉ l) (hpast : Scan.start.past l = .start)
    (hsign : ∀ after, isSign l.getLast? after = false) {e : Text} (he : e.Blank)
    (hne : e ≠ [] ∨ r = []) (hr : ofText? r = none) : ofText? (l ++ '=' :: (e ++ r)) = none := by
  have hequals : '=' ∉ e := fun h => absurd (he '=' h) (by decide)
  have hstep : Scan.start.step '=' = .start := by decide
  rw [ofText?, Option.map_eq_none_iff, marks] at hr ⊢
  rw [around?_marks_append hl, hpast, List.append_nil, around?_marks_cons, List.head?_reverse, hsign,
    Bool.and_false, if_neg Bool.false_ne_true, hstep, around?_marks_append hequals,
    Scan.past_start_inert he.inert]
  rcases hne with hne | rfl
  · refine (around?_eq_none_iff (fun after => ?_) _).1 hr
    obtain ⟨k, c, rfl⟩ := (List.eq_nil_or_concat' e).resolve_left hne
    have hc : isBlank c = true := he c (List.mem_append_right k List.mem_cons_self)
    -- A blank in front of a sign is as good as nothing in front of it.
    have hother : c ≠ '=' ∧ c ≠ '<' ∧ c ≠ '>' ∧ c ≠ '!' := by
      refine ⟨?_, ?_, ?_, ?_⟩ <;> rintro rfl <;> exact absurd hc (by decide)
    simp [isSign, hother]
  · rfl

end Assignment

/-! ## Statements -/

namespace Statement

variable {t v k : Text} {c : Char}

theorem passed_of_mem_updateOperators {op : Text} (h : op ∈ Value.updateOperators) : Passed op := by
  have hall : ∀ op ∈ Value.updateOperators, Inert op ∧ '=' ∉ op ∧ op.head? ≠ some 'i' := by decide
  obtain ⟨hinert, hunsigned, hhead⟩ := hall op h
  exact ⟨hinert, hunsigned, hhead⟩

theorem isSign_operator (hc : Assignment.isOperator c = true) :
    Assignment.isSign (some c) none = true := by
  have hall : Assignment.operators.all (fun d => Assignment.isSign (some d) none) = true := by decide
  exact List.all_eq_true.1 hall c (Assignment.mem_operators hc)

section Reading

variable (ht : t.isIdentifier = true)

include ht

/-- The character in front of the sign is the operator, and the target is what stands before it. -/
theorem ofText_update (hwords : t ∉ headerWords) (hcolon : v.trim.getLast? ≠ some ':')
    (hk : Passed (k ++ [c])) (hc : Assignment.isOperator c = true) :
    ofText (t ++ ' ' :: (k ++ [c]) ++ "= ".toList ++ v) =
      (Value.ofText v).map (.update (Text.trim (t ++ ' ' :: k)) c) := by
  have hlast : (t ++ ' ' :: (k ++ [c])).getLast? = some c := by
    rw [← List.cons_append, ← List.append_assoc, List.getLast?_concat]
  have hdrop : (t ++ ' ' :: (k ++ [c])).dropLast = t ++ ' ' :: k := by
    rw [← List.cons_append, ← List.append_assoc, List.dropLast_concat]
  have hsides : Assignment.ofSides (t ++ ' ' :: (k ++ [c])) v =
      ⟨Text.trim (t ++ ' ' :: k), some c, v.trim⟩ := by
    rw [Assignment.ofSides, hlast, hdrop]
    exact if_pos hc
  have htarget : Text.trim (t ++ ' ' :: k) ≠ [] := by
    rw [(solid_of_isIdentifier ht).trim_append]
    exact List.append_ne_nil_of_left_ne_nil (ne_nil_of_isIdentifier ht) _
  rw [ofText_of_isSign ht hwords hcolon hk (hlast ▸ isSign_operator hc), hsides,
    ofAssignment_trim htarget]
  rfl

/-- Two question marks are no operator, and the target ends with them. -/
theorem ofText_coalesce (hwords : t ∉ headerWords) (hcolon : v.trim.getLast? ≠ some ':') :
    ofText (t ++ ' ' :: "??".toList ++ "= ".toList ++ v) =
      (Value.ofText v).map (.assign (t ++ " ??".toList)) := by
  have hlast : (t ++ ' ' :: "??".toList).getLast? = some '?' := by
    rw [List.getLast?_append_of_ne_nil t (List.cons_ne_nil _ _)]
    rfl
  have hsolid : Solid (t ++ ([' ', '?'] ++ ['?'])) :=
    (solid_of_isIdentifier ht).append (b := ['?']) (by decide) [' ', '?']
  have htrim : Text.trim (t ++ ' ' :: "??".toList) = t ++ " ??".toList := hsolid.trim_eq
  have hsides : Assignment.ofSides (t ++ ' ' :: "??".toList) v =
      ⟨t ++ " ??".toList, none, v.trim⟩ := by
    rw [Assignment.ofSides, hlast, htrim]
    rfl
  have htarget : t ++ " ??".toList ≠ [] :=
    List.append_ne_nil_of_left_ne_nil (ne_nil_of_isIdentifier ht) _
  have hpassed : Passed "??".toList := passed_of_mem_updateOperators (by decide)
  rw [ofText_of_isSign ht hwords hcolon hpassed (hlast ▸ rfl), hsides, ofAssignment_trim htarget]
  rfl

/-- A statement is not split at the sign of a comparison. -/
theorem ofText_of_not_isSign (hwords : t ∉ headerWords) (hcolon : v.trim.getLast? ≠ some ':')
    (hk : Passed k) (hsign : ∀ after, Assignment.isSign (t ++ ' ' :: k).getLast? after = false)
    (hv : Assignment.ofText? v.trim = none) :
    ofText (t ++ ' ' :: k ++ "= ".toList ++ v) =
      (Value.ofText (t ++ ' ' :: k ++ "= ".toList ++ v)).map .expression := by
  obtain ⟨e, he, hne, hend⟩ := exists_trimEnd_space v
  have hnone := Assignment.ofText?_eq_none_of_not_isSign (not_mem_passed ht hk) (past_passed ht hk)
    hsign he hne hv
  rw [← hend, List.append_assoc, List.cons_append, ← trim_assignment ht] at hnone
  have hsimple := isSimple_trim_assignment ht hwords hk hcolon
  rw [ofText, (Reads.expression hsimple hnone).ofTrimmed_eq, Value.ofText, Value.ofText, trim_trim]

end Reading

end Statement

namespace Session

variable {t v u op : Text}

/-- A statement that leaves the scope as it is leaves the session as it is. -/
theorem transform_eq_map (s : Session) {code : Text → Text}
    (h : s.scope.transform s.keywords u =
      (s.scope.reduce s.keywords v).map fun w => (code w, s.scope)) :
    s.transform u = ((s.reduce v).map code, s) := by
  rw [transform, h, reduce]
  cases s.scope.reduce s.keywords v <;> rfl

/-- The code of an assignment, with all that stands between the name and the value. -/
def updateCode (t sign w : Text) : Text := t ++ ' ' :: sign ++ ' ' :: w ++ [';']

section Operators

variable (s : Session) (ht : t.isIdentifier = true) (hwords : t ∉ Statement.headerWords)
  (hcolon : v.trim.getLast? ≠ some ':')

include ht hwords hcolon

/-- The operator is the character in front of the sign, and what stands before it is the target. -/
theorem transform_operator {k : Text} {c : Char} (hc : Assignment.isOperator c = true)
    (hpassed : Statement.Passed (k ++ [c])) :
    s.transform (t ++ ' ' :: (k ++ [c]) ++ "= ".toList ++ v) =
      ((s.reduce v).map (updateCode (Text.trim (t ++ ' ' :: k)) [c, '=']), s) := by
  have hread := Statement.ofText_update ht hwords hcolon hpassed hc
  refine s.transform_eq_map (Scope.transform_eq_map hread (fun value => ?_) fun _ => rfl)
  rw [Statement.render_update, updateCode]
  simp

/-- An operator of one character is read as it is. -/
theorem transform_single {c : Char} (hc : Assignment.isOperator c = true)
    (hpassed : Statement.Passed [c]) :
    s.transform (t ++ ' ' :: [c] ++ "= ".toList ++ v) = ((s.reduce v).map (updateCode t [c, '=']), s) := by
  have htarget : Text.trim (t ++ [' ']) = t := by
    rw [trim_append_right (by decide), (solid_of_isIdentifier ht).trim_eq]
  have htransform := transform_operator s ht hwords hcolon (k := []) hc hpassed
  rwa [htarget] at htransform

/-- Of two equal characters the first is left to the target. -/
theorem transform_double {c : Char} (hc : Assignment.isOperator c = true)
    (hpassed : Statement.Passed [c, c]) :
    s.transform (t ++ ' ' :: [c, c] ++ "= ".toList ++ v) =
      ((s.reduce v).map (updateCode t [c, ' ', c, '=']), s) := by
  have hall : Assignment.operators.all (fun d => !isBlank d) = true := by decide
  have hblank : isBlank c = false := by
    simpa using List.all_eq_true.1 hall c (Assignment.mem_operators hc)
  have hsolid : Solid [c] :=
    solid_of_forall (List.cons_ne_nil c []) (List.forall_mem_singleton.2 hblank)
  have htarget : Text.trim (t ++ ' ' :: [c]) = t ++ [' ', c] :=
    ((solid_of_isIdentifier ht).append hsolid [' ']).trim_eq
  have hcode : updateCode (t ++ [' ', c]) [c, '='] = updateCode t [c, ' ', c, '='] := by
    funext w
    simp [updateCode]
  have htransform := transform_operator s ht hwords hcolon (k := [c]) hc hpassed
  rwa [htarget, hcode] at htransform

/-- With question marks behind it the target is no name, so nothing is bound. -/
theorem transform_coalesce :
    s.transform (t ++ ' ' :: "??".toList ++ "= ".toList ++ v) =
      ((s.reduce v).map (updateCode t "?? =".toList), s) := by
  have hname : (t ++ " ??".toList).isIdentifier = false := by
    rw [Bool.eq_false_iff]
    exact fun h => not_mem_of_isIdentifier h (List.mem_append_right t List.mem_cons_self)
  have hnone : [t ++ " ??".toList].filter Text.isIdentifier = [] :=
    List.filter_cons_of_neg (Bool.eq_false_iff.1 hname)
  have hread := Statement.ofText_coalesce ht hwords hcolon
  refine s.transform_eq_map (Scope.transform_eq_map hread (fun value => ?_) fun _ =>
    congrArg s.scope.bindAll hnone)
  rw [Statement.render_assign, Statement.declarator_of_not_isIdentifier hname, Statement.assignHead,
    updateCode]
  simp

/-- A shift is part of the value that the statement is. -/
theorem transform_shift {c : Char} (hc : c = '<' ∨ c = '>') (hpassed : Statement.Passed [c, c])
    (hv : Assignment.ofText? v.trim = none) :
    let statement := t ++ ' ' :: [c, c] ++ "= ".toList ++ v
    s.transform statement = ((s.reduce statement).map (· ++ [';']), s) := by
  intro statement
  have hsign (after : Option Char) :
      Assignment.isSign (t ++ ' ' :: [c, c]).getLast? after = false := by
    rw [List.getLast?_append_of_ne_nil t (List.cons_ne_nil _ _)]
    rcases hc with rfl | rfl <;> simp [Assignment.isSign]
  have hread := Statement.ofText_of_not_isSign ht hwords hcolon hpassed hsign hv
  exact s.transform_eq_map (Scope.transform_eq_map hread (fun _ => rfl) fun _ => rfl)

end Operators

/-- **Assignments that combine a name with a value.**  They bind nothing, and they fail as the value
does.  An operator of one character stays whole in front of the sign.  One of two equal characters is
torn apart, and two question marks are torn off the sign.  A shift is passed over: if the value is no
assignment itself, the whole statement is a value. -/
theorem transform_update (s : Session) (ht : t.isIdentifier = true) (hwords : t ∉ Statement.headerWords)
    (hcolon : v.trim.getLast? ≠ some ':') (hop : op ∈ Value.updateOperators) :
    let statement := t ++ ' ' :: op ++ "= ".toList ++ v
    (op.length = 1 →
      s.transform statement = ((s.reduce v).map (updateCode t (op ++ ['='])), s)) ∧
    (∀ c, Assignment.isOperator c = true → op = [c, c] →
      s.transform statement = ((s.reduce v).map (updateCode t [c, ' ', c, '=']), s)) ∧
    (op = "??".toList →
      s.transform statement = ((s.reduce v).map (updateCode t "?? =".toList), s)) ∧
    (op = "<<".toList ∨ op = ">>".toList → Assignment.ofText? v.trim = none →
      s.transform statement = ((s.reduce statement).map (· ++ [';']), s)) := by
  intro statement
  have hpassed := Statement.passed_of_mem_updateOperators hop
  refine ⟨fun hlength => ?_, fun c hc hdouble => ?_, fun hcoalesce => ?_, fun hshift hv => ?_⟩
  · have hone : ∀ op ∈ Value.updateOperators, op.length = 1 → op.all Assignment.isOperator = true := by
      decide
    obtain ⟨c, rfl⟩ := List.length_eq_one_iff.1 hlength
    have hc : Assignment.isOperator c = true := by simpa using hone _ hop hlength
    exact transform_single s ht hwords hcolon hc hpassed
  · subst hdouble
    exact transform_double s ht hwords hcolon hc hpassed
  · subst hcoalesce
    exact transform_coalesce s ht hwords hcolon
  · rcases hshift with rfl | rfl
    · exact transform_shift s ht hwords hcolon (.inl rfl) hpassed hv
    · exact transform_shift s ht hwords hcolon (.inr rfl) hpassed hv

/-- One operator of each kind. -/
theorem transform_update_kinds :
    let s := start ∅
    s.transform "x += 2".toList = (.ok "x += 2;".toList, s) ∧
      s.transform "x &&= y-1".toList = (.ok "x & &= \"y-1\";".toList, s) ∧
      s.transform "x ??= 2".toList = (.ok "x ?? = 2;".toList, s) ∧
      s.transform "x <<= 2".toList = (.ok "x(\"<<=\", 2);".toList, s) := by
  intro s
  have ht : Text.isIdentifier "x".toList = true := by decide
  have hwords : "x".toList ∉ Statement.headerWords := by decide
  have hcolon : (Text.trim "2".toList).getLast? ≠ some ':' := by decide
  have hcolon' : (Text.trim "y-1".toList).getLast? ≠ some ':' := by decide
  have htwo : s.reduce "2".toList = .ok "2".toList := rfl
  have hword : s.reduce "y-1".toList = .ok "\"y-1\"".toList := rfl
  have hcall : s.reduce ("x".toList ++ ' ' :: "<<".toList ++ "= ".toList ++ "2".toList) =
      .ok "x(\"<<=\", 2)".toList := rfl
  have hplus : "+".toList ∈ Value.updateOperators := by decide
  have hand : "&&".toList ∈ Value.updateOperators := by decide
  have hmarks : "??".toList ∈ Value.updateOperators := by decide
  have hleft : "<<".toList ∈ Value.updateOperators := by decide
  obtain ⟨hsingle, -⟩ := transform_update s ht hwords hcolon hplus
  obtain ⟨-, hdouble, -⟩ := transform_update s ht hwords hcolon' hand
  obtain ⟨-, -, hcoalesce, -⟩ := transform_update s ht hwords hcolon hmarks
  obtain ⟨-, -, -, hshift⟩ := transform_update s ht hwords hcolon hleft
  refine ⟨?_, ?_, ?_, ?_⟩
  · exact (hsingle rfl).trans (by rw [htwo]; rfl)
  · exact (hdouble '&' rfl rfl).trans (by rw [hword]; rfl)
  · exact (hcoalesce rfl).trans (by rw [htwo]; rfl)
  · exact (hshift (.inl rfl) (by decide)).trans (by rw [hcall]; rfl)

/-- The operator of a power is torn apart. -/
theorem transform_update_power :
    let s := start ∅
    "**".toList ∈ Value.updateOperators ∧ Text.isIdentifier "x".toList = true ∧
      s.reduce "2".toList = .ok "2".toList ∧
      (s.transform "x **= 2".toList).1 = .ok "x * *= 2;".toList ∧
      (s.transform "x **= 2".toList).1 ≠ .ok "x **= 2;".toList := by
  decide

end Session

end KScript
