import KScript.Session
import KScript.Proofs.Literal.Tokens
import KScript.Proofs.Statement.Declaring
import KScript.Proofs.Value.Failures

/-!
# Assigning a value to a name

An identifier, an equals sign between spaces, and a text: such a statement is split at that sign, however
many others the text holds, and assigns the text to the identifier.  The exceptions are the words that
begin a control header, and texts that end with a colon, which make the statement the header of a block.
-/

namespace KScript

open Text

namespace Statement

variable {t v r : Text}

/-- The words that begin a control header without being one. -/
def headerWords : List Text := ["if", "while", "for"].map String.toList

/-- What can stand between a name and the equals sign of an assignment: no quote, no backslash and no
equals sign, and nothing that makes a header of the word `else`. -/
structure Passed (k : Text) : Prop where
  inert : k.Inert
  unsigned : '=' ∉ k
  head : k.head? ≠ some 'i'

/-- An assignment with a target is read as its value is. -/
theorem ofAssignment_trim {m : Text} {op : Option Char} (hm : m ≠ []) (v : Text) :
    ofAssignment ⟨m, op, v.trim⟩ =
      (Value.ofText v).map fun value => op.elim (.assign m value) (.update m · value) := by
  have hne : m.isEmpty = false := List.isEmpty_eq_false_iff.2 hm
  rw [ofAssignment, hne, Value.ofText, trim_trim, Value.ofText]
  cases op <;> rfl

theorem passed_nil : Passed [] := ⟨by decide, by decide, by decide⟩

/-- A space behind a sign is as good as nothing behind it. -/
theorem isSign_space (before : Option Char) :
    Assignment.isSign before (some ' ') = Assignment.isSign before none := rfl

section Reading

variable {k : Text} (ht : t.isIdentifier = true)

include ht

/-- A control header goes on with a condition, and `else` with an `if`. -/
theorem not_reads_control (hwords : t ∉ headerWords) (hr : r.head? ≠ some 'i') (c : Control) :
    ¬ Control.Reads (t ++ ' ' :: r) c := by
  have hspace := not_mem_of_isIdentifier ht
  have word {w x : Text} (hw : ' ' ∉ w) (h : t ++ ' ' :: r = w ++ ' ' :: x) : t = w ∧ r = x :=
    append_cons_inj_of_not_mem hspace hw h
  intro h
  generalize hu : t ++ ' ' :: r = u at h
  cases h with
  | orElse =>
    have hmem : ' ' ∈ "else".toList := hu ▸ List.mem_append_right t List.mem_cons_self
    exact absurd hmem (by decide)
  | orElseIf c =>
    obtain ⟨-, rfl⟩ := word (w := "else".toList) (by decide) hu
    exact hr rfl
  | ifThen c =>
    obtain ⟨rfl, -⟩ := word (w := "if".toList) (by decide) hu
    exact hwords (by decide)
  | whileLoop c =>
    obtain ⟨rfl, -⟩ := word (w := "while".toList) (by decide) hu
    exact hwords (by decide)
  | forLoop c =>
    obtain ⟨rfl, -⟩ := word (w := "for".toList) (by decide) hu
    exact hwords (by decide)

theorem isSimple_assignment (hwords : t ∉ headerWords) (hhead : r.head? ≠ some 'i') (hsign : '=' ∈ r)
    (hcolon : r.getLast? ≠ some ':') : isSimple (t ++ ' ' :: r) = true := by
  have hmem : '=' ∈ t ++ ' ' :: r := List.mem_append_right t (List.mem_cons_of_mem _ hsign)
  have hclosers : ∀ u ∈ blockClosers ++ controlClosers, '=' ∉ u := by decide
  refine isSimple_iff.2 ⟨?_, ?_, ?_, ?_⟩
  · have hne : r ≠ [] := List.ne_nil_of_mem hsign
    rw [isOpener, beq_eq_false_iff_ne, List.append_cons, List.getLast?_append_of_ne_nil _ hne]
    exact hcolon
  · rw [isBlockCloser, Bool.eq_false_iff, ne_eq, List.contains_iff_mem]
    exact fun h => hclosers _ (List.mem_append_left _ h) hmem
  · rw [isControlCloser, Bool.eq_false_iff, ne_eq, List.contains_iff_mem]
    exact fun h => hclosers _ (List.mem_append_right _ h) hmem
  · rw [Option.eq_none_iff_forall_ne_some]
    exact fun c h => not_reads_control ht hwords hhead c (Control.ofText?_eq_some_iff.1 h)

/-- Trimming such a statement removes blanks behind the value only. -/
theorem trim_assignment (k v : Text) : Text.trim (t ++ ' ' :: k ++ "= ".toList ++ v) =
    t ++ ' ' :: (k ++ '=' :: trimEnd (' ' :: v)) := by
  have hsolid : Solid (t ++ (' ' :: k ++ ['='])) :=
    (solid_of_isIdentifier ht).append (b := ['=']) (by decide) (' ' :: k)
  have htrim := hsolid.trim_append (' ' :: v)
  simpa using htrim

/-- Such a statement is simple if the value does not make it a header. -/
theorem isSimple_trim_assignment (hwords : t ∉ headerWords) (hk : Passed k)
    (hcolon : v.trim.getLast? ≠ some ':') :
    isSimple (Text.trim (t ++ ' ' :: k ++ "= ".toList ++ v)) = true := by
  have htrim : Text.trim (' ' :: v) = v.trim := trim_append_left (b := [' ']) (by decide) v
  have hhead : (k ++ '=' :: trimEnd (' ' :: v)).head? ≠ some 'i' := by
    have h := hk.head
    cases k with
    | nil => simp
    | cons c k => exact h
  have hlast : (k ++ '=' :: trimEnd (' ' :: v)).getLast? ≠ some ':' := by
    have hend : (trimEnd (' ' :: v)).getLast? ≠ some ':' := by rwa [getLast?_trimEnd, htrim]
    rw [List.getLast?_append_of_ne_nil k (List.cons_ne_nil _ _), List.getLast?_cons]
    cases hr : (trimEnd (' ' :: v)).getLast? with
    | none => decide
    | some c => rwa [Option.getD_some, ← hr]
  rw [trim_assignment ht]
  exact isSimple_assignment ht hwords hhead (by simp) hlast

/-- The scan of what stands in front of the sign. -/
theorem past_passed (hk : Passed k) : Scan.start.past (t ++ ' ' :: k) = .start := by
  have hspace : Inert (' ' :: k) := List.forall_mem_cons.2 ⟨by decide, hk.inert⟩
  rw [Scan.past_append, Scan.past_start_inert (inert_of_isIdentifier ht),
    Scan.past_start_inert hspace]

theorem not_mem_passed (hk : Passed k) : '=' ∉ t ++ ' ' :: k := by
  rw [List.mem_append, List.mem_cons, not_or, not_or]
  exact ⟨fun h => absurd (isIdentifierRest_of_mem ht h) (by decide), by decide, hk.unsigned⟩

/-- The sign behind the identifier is the one at which the statement is split. -/
theorem ofText_of_isSign (hwords : t ∉ headerWords) (hcolon : v.trim.getLast? ≠ some ':')
    (hk : Passed k) (hsign : Assignment.isSign (t ++ ' ' :: k).getLast? none = true) :
    ofText (t ++ ' ' :: k ++ "= ".toList ++ v) =
      ofAssignment (Assignment.ofSides (t ++ ' ' :: k) v) := by
  have hhead : Assignment.isSign (t ++ ' ' :: k).getLast? (trimEnd (' ' :: v)).head? = true := by
    have hprefix := trimEnd_isPrefix (' ' :: v)
    cases hend : trimEnd (' ' :: v) with
    | nil => exact hsign
    | cons c r =>
      rw [hend] at hprefix
      obtain ⟨rfl, -⟩ := List.cons_prefix_cons.1 hprefix
      exact (isSign_space _).trans hsign
  have hsides : Assignment.ofSides (t ++ ' ' :: k) (trimEnd (' ' :: v)) =
      Assignment.ofSides (t ++ ' ' :: k) v := by
    have htrim : (trimEnd (' ' :: v)).trim = v.trim :=
      (trim_trimEnd _).trans (trim_append_left (b := [' ']) (by decide) v)
    rw [Assignment.ofSides, Assignment.ofSides, htrim]
  have hsplit := Assignment.ofText?_of_not_mem (not_mem_passed ht hk) (past_passed ht hk) hhead
  have hsimple := isSimple_trim_assignment ht hwords hk hcolon
  rw [List.append_assoc, List.cons_append] at hsplit
  rw [trim_assignment ht] at hsimple
  rw [ofText, trim_assignment ht, (Reads.assignment _ hsimple hsplit).ofTrimmed_eq, hsides]

/-- An assignment to an identifier is read as one. -/
theorem ofText_assignment (hwords : t ∉ headerWords) (hcolon : v.trim.getLast? ≠ some ':') :
    ofText (t ++ " = ".toList ++ v) = (Value.ofText v).map (.assign t) := by
  have hsplit : t ++ " = ".toList ++ v = t ++ [' '] ++ "= ".toList ++ v := by simp
  have hsign : Assignment.isSign (t ++ [' ']).getLast? none = true := by
    rw [List.getLast?_concat]
    rfl
  have htarget : Text.trim (t ++ [' ']) = t := by
    rw [trim_append_right (by decide), (solid_of_isIdentifier ht).trim_eq]
  have hsides : Assignment.ofSides (t ++ [' ']) v = ⟨t, none, v.trim⟩ := by
    rw [Assignment.ofSides, List.getLast?_concat, htarget]
    rfl
  rw [hsplit, ofText_of_isSign ht hwords hcolon passed_nil hsign, hsides,
    ofAssignment_trim (ne_nil_of_isIdentifier ht)]
  rfl

end Reading

end Statement

namespace Scope

variable {t u v : Text}

/-- A statement that is read as its value is, and whose code is that of the value in some context, has
code exactly if the value has. -/
theorem transform_eq_map {st : Value → Statement} {code : Text → Text} {s s' : Scope} {keywords : Names}
    (hread : Statement.ofText u = (Value.ofText v).map st)
    (hcode : ∀ value, (st value).render keywords s = code (value.render (s.knows keywords)))
    (hafter : ∀ value, (st value).after s = s') :
    s.transform keywords u = (s.reduce keywords v).map fun w => (code w, s') := by
  rw [transform, reduce, hread]
  cases Value.ofText v with
  | error f => rfl
  | ok value =>
    rw [← hafter value]
    exact congrArg (fun c => Except.ok (c, (st value).after s)) (hcode value)

/-- The code of an assignment is that of its value behind a declarator and the identifier, which is then
bound. -/
theorem transform_eq_map_reduce (s : Scope) (keywords : Names) (ht : t.isIdentifier = true)
    (hwords : t ∉ Statement.headerWords) (hcolon : v.trim.getLast? ≠ some ':') :
    s.transform keywords (t ++ " = ".toList ++ v) = (s.reduce keywords v).map fun w =>
      (Statement.declarator s t ++ t ++ " = ".toList ++ w ++ [';'], s.bindAll [t]) := by
  have hbinds : [t].filter Text.isIdentifier = [t] := by
    rw [List.filter_cons_of_pos ht, List.filter_nil]
  exact transform_eq_map (Statement.ofText_assignment ht hwords hcolon) (fun _ => rfl)
    fun _ => congrArg s.bindAll hbinds

end Scope

namespace Session

/-- **Assignments to an identifier.**  Whatever its value holds, an assignment fails exactly as the value
does and leaves the session as it was.  If the value has host code, this is assigned to the identifier:
with `var` outside of blocks, with `let` in a block if the name is not bound, and without a declarator in
a block if it is.  Then the name is bound, and nothing else in the session has changed. -/
theorem transform_assignment {t v : Text} (s : Session) (ht : t.isIdentifier = true)
    (hwords : t ∉ Statement.headerWords) (hcolon : v.trim.getLast? ≠ some ':') :
    let statement := t ++ " = ".toList ++ v
    let bound := { s with scope := { s.scope with names := s.scope.names.addAll [t] } }
    (∀ e, s.reduce v = .error e → s.transform statement = (.error e, s)) ∧
      ∀ w, s.reduce v = .ok w →
        let code := t ++ " = ".toList ++ w ++ [';']
        (s.scope.inBlock = false → s.transform statement = (.ok ("var ".toList ++ code), bound)) ∧
          (s.scope.inBlock = true → s.scope.binds t = false →
            s.transform statement = (.ok ("let ".toList ++ code), bound)) ∧
          (s.scope.inBlock = true → s.scope.binds t = true →
            s.transform statement = (.ok code, bound)) := by
  intro statement bound
  have htransform := Scope.transform_eq_map_reduce s.scope s.keywords ht hwords hcolon
  constructor
  · intro e he
    rw [reduce] at he
    rw [he] at htransform
    rw [transform, htransform]
    rfl
  · intro w hw code
    rw [reduce] at hw
    rw [hw] at htransform
    have hcode : s.transform statement = (.ok (Statement.declarator s.scope t ++ code), bound) := by
      rw [transform, htransform]
      simp [Except.map, code, bound, Scope.bindAll]
    refine ⟨?_, ?_, ?_⟩
    · intro hb
      rw [hcode, Statement.declarator_outside ht hb]
    · intro hb hn
      rw [hcode, Statement.declarator_first ht hb hn]
    · intro hb hn
      rw [hcode, Statement.declarator_again ht hb hn, List.nil_append]

/-- A name with a letter outside ASCII, assigned in a block before and after it is bound: a value with more
equals signs, outside and inside of a literal, and a value that leaves a literal open. -/
theorem transform_assignment_again :
    let t : Text := "größe".toList
    let v : Text := "x == \"a = b\"".toList
    let v' : Text := "say \"x = 1".toList
    let s : Session := { start ∅ with scope := Scope.empty.inside }
    let s' : Session := { s with scope := { s.scope with names := s.scope.names.addAll [t] } }
    t.isIdentifier = true ∧ t ∉ Statement.headerWords ∧ v.trim.getLast? ≠ some ':' ∧
      v'.trim.getLast? ≠ some ':' ∧ s.reduce v = .ok v ∧ s'.reduce v = .ok v ∧
      s.transform (t ++ " = ".toList ++ v) = (.ok "let größe = x == \"a = b\";".toList, s') ∧
      (s'.transform (t ++ " = ".toList ++ v)).1 = .ok "größe = x == \"a = b\";".toList ∧
      ∃ e, s'.reduce v' = .error e ∧ s'.transform (t ++ " = ".toList ++ v') = (.error e, s') := by
  intro t v v' s s'
  have ht : t.isIdentifier = true := by decide
  have hwords : t ∉ Statement.headerWords := by decide
  have hcolon : v.trim.getLast? ≠ some ':' := by decide
  have hcolon' : v'.trim.getLast? ≠ some ':' := by decide
  have hv : s.reduce v = .ok v := rfl
  have hv' : s'.reduce v = .ok v := rfl
  have hcode : t ++ " = ".toList ++ v ++ [';'] = "größe = x == \"a = b\";".toList := by decide
  have hbinds : s'.scope.binds t = true := by simp [s', Scope.binds]
  obtain ⟨-, hfirst⟩ := transform_assignment s ht hwords hcolon
  obtain ⟨-, hagain⟩ := transform_assignment s' ht hwords hcolon
  obtain ⟨hfails, -⟩ := transform_assignment s' ht hwords hcolon'
  refine ⟨ht, hwords, hcolon, hcolon', hv, hv', ?_, ?_, ?_⟩
  · rw [(hfirst v hv).2.1 rfl rfl, hcode]
    rfl
  · rw [(hagain v hv').2.2 rfl hbinds, hcode]
  · have he : s'.reduce v' = .error ⟨.split, 0, (Fault.unterminatedLiteral v').message⟩ := rfl
    exact ⟨_, he, hfails _ he⟩

end Session

end KScript
