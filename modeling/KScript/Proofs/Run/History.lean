import KScript.Sketch
import KScript.Proofs.Run.Items
import KScript.Proofs.Statement.Binding

/-!
# The scope as a function of the statements before

Names and flag depend on nothing but the statements that were transformed: `Scope.follow` is their
closed form.  A run is the replay of a schedule, in which the two loops of lines and of items are
one, and every item meets the scope that the statements before it determine.
-/

namespace KScript

/-! ## Following statements -/

namespace Statement

/-- Whether a statement decides if those after it are inside a block. -/
def isBoundary (t : Text) : Bool := isOpener t || isBlockCloser t

/-- The last opener or block closer. -/
def lastBoundary? (ts : List Text) : Option Text := (ts.filter isBoundary).getLast?

theorem lastBoundary?_append (ts us : List Text) :
    lastBoundary? (ts ++ us) = (lastBoundary? us).or (lastBoundary? ts) := by
  rw [lastBoundary?, List.filter_append, List.getLast?_append]
  rfl

/-- Whether the statements leave what follows them inside a block. -/
def insideAfter (ts : List Text) : Bool := (lastBoundary? ts).any isOpener

variable {ts us : List Text} {t : Text}

/-- Statements that are no boundaries do not matter. -/
theorem insideAfter_append (h : ∀ u ∈ us, isBoundary u = false) :
    insideAfter (ts ++ us) = insideAfter ts := by
  have hus : lastBoundary? us = none := by
    rw [lastBoundary?, List.filter_eq_nil_iff.2 fun u hu => by simp [h u hu]]
    rfl
  rw [insideAfter, lastBoundary?_append, hus]
  rfl

/-- After a boundary nothing before it matters. -/
theorem insideAfter_concat (h : isBoundary t = true) : insideAfter (ts ++ [t]) = isOpener t := by
  have ht : lastBoundary? [t] = some t := by simp [lastBoundary?, h]
  rw [insideAfter, lastBoundary?_append, ht]
  rfl

end Statement

namespace Names

theorem addAll_nil (s : Names) : s.addAll [] = s := Std.ExtTreeSet.ext_mem fun n => by simp

theorem addAll_addAll (s : Names) (ns ms : List Text) :
    (s.addAll ns).addAll ms = s.addAll (ns ++ ms) :=
  Std.ExtTreeSet.ext_mem fun n => by simp [or_assoc]

end Names

namespace Scope

/-- The scope after several statements. -/
def follow (s : Scope) (ts : List Text) : Scope where
  names := s.names.addAll (ts.flatMap Statement.boundNames)
  inBlock := (Statement.lastBoundary? ts).elim s.inBlock Statement.isOpener
  line := s.line
  debug := s.debug

/-- The scope on a given line. -/
def onLine (s : Scope) (k : Nat) : Scope := { s with line := k }

variable (s : Scope)

@[simp] theorem follow_line (ts : List Text) : (s.follow ts).line = s.line := rfl

@[simp] theorem follow_debug (ts : List Text) : (s.follow ts).debug = s.debug := rfl

@[simp] theorem onLine_line (k : Nat) : (s.onLine k).line = k := rfl

@[simp] theorem onLine_debug (k : Nat) : (s.onLine k).debug = s.debug := rfl

@[simp] theorem onLine_self : s.onLine s.line = s := rfl

@[simp] theorem onLine_onLine (j k : Nat) : (s.onLine j).onLine k = s.onLine k := rfl

@[simp] theorem onLine_follow (k : Nat) (ts : List Text) :
    (s.onLine k).follow ts = (s.follow ts).onLine k := rfl

@[simp] theorem follow_nil : s.follow [] = s := by
  unfold follow
  rw [List.flatMap_nil, Names.addAll_nil]
  rfl

theorem follow_follow (ts us : List Text) : (s.follow ts).follow us = s.follow (ts ++ us) := by
  unfold follow
  rw [List.flatMap_append, ← Names.addAll_addAll, Statement.lastBoundary?_append]
  cases Statement.lastBoundary? us <;> rfl

/-- In a run that begins outside of blocks, the last boundary tells whether a block is open. -/
theorem inBlock_follow {s : Scope} (h : s.inBlock = false) (ts : List Text) :
    (s.follow ts).inBlock = Statement.insideAfter ts := by
  change (Statement.lastBoundary? ts).elim s.inBlock Statement.isOpener = _
  unfold Statement.insideAfter
  cases Statement.lastBoundary? ts with
  | none => exact h
  | some t => rfl

/-- A name is bound after statements if it was before or if one of them binds it. -/
theorem binds_follow {ts : List Text} {n : Text} :
    (s.follow ts).binds n = true ↔ s.binds n = true ∨ ∃ t ∈ ts, n ∈ Statement.boundNames t := by
  simp [binds, follow]

/-- A statement that is no boundary leaves the flag as it is. -/
theorem follow_of_not_isBoundary {t : Text} (h : Statement.isBoundary t = false) :
    s.follow [t] = s.bindAll (Statement.boundNames t) := by
  simp [follow, bindAll, Statement.lastBoundary?, h]

/-- A boundary sets the flag. -/
theorem follow_of_isBoundary {t : Text} (h : Statement.isBoundary t = true) :
    s.follow [t] = { s.bindAll (Statement.boundNames t) with inBlock := Statement.isOpener t } := by
  simp [follow, bindAll, Statement.lastBoundary?, h]

theorem bindAll_nil : s.bindAll [] = s := by
  rw [bindAll, Names.addAll_nil]

end Scope

namespace Statement

variable {t : Text}

theorem isBoundary_of_isSimple (h : isSimple t = true) : isBoundary t = false := by
  cases ho : isOpener t <;> cases hb : isBlockCloser t <;> simp_all [isSimple, isBoundary]

/-- The scope after a statement is the scope that follows it, in every form. -/
theorem Form.after_eq_follow {st : Statement} (h : Form t st) (s : Scope)
    (hn : boundNames t = st.binds) : st.after s = s.follow [t] := by
  cases h with
  | opener h ht =>
    rw [s.follow_of_isBoundary (by simp [isBoundary, ht]), hn]
    subst ht
    simp [after, binds, Scope.inside]
  | blockEnd hop h =>
    rw [s.follow_of_isBoundary (by simp [isBoundary, h]), hn, hop]
    simp [after, binds, Scope.outside, Scope.bindAll_nil]
  | controlEnd hop hb h =>
    rw [s.follow_of_not_isBoundary (by simp [isBoundary, hop, hb]), hn]
    rfl
  | control c hop hb h =>
    rw [s.follow_of_not_isBoundary (by simp [isBoundary, hop, hb]), hn]
    rfl
  | assign _ _ _ hs | update _ _ _ _ hs | expression _ hs =>
    rw [s.follow_of_not_isBoundary (isBoundary_of_isSimple hs), hn]
    rfl

end Statement

namespace Emission

/-- The statement that an emission answers. -/
def statement? : Emission → Option Text
  | verbatim _ => none
  | done _ t _ => some t
  | failed _ t _ => some t

variable (keywords : Names) (s : Scope)

variable {t : Text}

/-- A statement that can be read is done. -/
theorem ofItem_of_ok {st : Statement} (h : Statement.ofText t = .ok st) :
    ofItem keywords s (.statement t) = (done s.line t (st.render keywords s), st.after s) := by
  simp [ofItem, Scope.attempt, Scope.transform, h, Except.map, Except.mapError, located]

/-- A statement that cannot be read fails on its line and leaves the scope as it is. -/
theorem ofItem_of_error {f : Fault} (h : Statement.ofText t = .error f) :
    ofItem keywords s (.statement t) = (failed s.line t (.statement (f.on s.line)), s) := by
  simp [ofItem, Scope.attempt, Scope.transform, h, Except.map, Except.mapError, located]

theorem comment_eq (k : Nat) (t : Text) : comment k t =
    "// KScript parse error on line ".toList ++ Nat.toDigits 10 k ++ ": ".toList ++ t := by
  have hmark : Item.commentMark ++ " KScript parse error on line ".toList =
      "// KScript parse error on line ".toList := by
    rw [Item.commentMark, ← String.toList_append]
    rfl
  rw [comment, hmark]

theorem statement?_ofItem (i : Item) : (ofItem keywords s i).1.statement? = i.statement? := by
  cases i with
  | verbatim c => rfl
  | statement t =>
    cases h : Statement.ofText t with
    | ok st => rw [ofItem_of_ok keywords s h]; rfl
    | error f => rw [ofItem_of_error keywords s h]; rfl

/-- The scope after an item is the scope that follows its statement. -/
theorem scope_ofItem {i : Item} (hi : ∀ t, i.statement? = some t → t.trim = t) :
    (ofItem keywords s i).2 = s.follow i.statement?.toList := by
  cases i with
  | verbatim c => simp [ofItem]
  | statement t =>
    have ht : t.trim = t := hi t rfl
    cases h : Statement.ofText t with
    | ok st =>
      rw [ofItem_of_ok keywords s h]
      exact (Statement.form_of_ofText ht h).after_eq_follow s (by rw [Statement.boundNames, h])
    | error f =>
      have hr := Statement.reads_ofText ht
      rw [h] at hr
      have hn : Statement.boundNames t = [] := by rw [Statement.boundNames, h]
      have hb := Statement.isBoundary_of_isSimple hr.isSimple_of_error
      rw [ofItem_of_error keywords s h]
      change s = s.follow [t]
      rw [s.follow_of_not_isBoundary hb, hn, Scope.bindAll_nil]

end Emission

end KScript
