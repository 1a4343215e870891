import KScript.Statement.Reading
import KScript.Proofs.Outcome
import KScript.Proofs.Text.Cut
import KScript.Proofs.Text.Trim

/-!
# How statements are read

The tests of the reader overlap, and their order decides.  `Statement.Reads` says for each form
which statements have it; every proof about the reader goes by cases on it.
-/

namespace KScript

open Text

/-! ## Control headers -/

namespace Control

/-- The control headers, with the words they begin with. -/
inductive Reads : Text → Control → Prop
  | orElse : Reads "else".toList .orElse
  | orElseIf (c : Text) : Reads ("else if ".toList ++ c) (.orElseIf c.trim)
  | ifThen (c : Text) : Reads ("if ".toList ++ c) (.ifThen c.trim)
  | whileLoop (c : Text) : Reads ("while ".toList ++ c) (.whileLoop c.trim)
  | forLoop (c : Text) : Reads ("for ".toList ++ c) (.forLoop c.trim)

variable {t : Text} {c : Control}

/-- No two control headers begin alike, so the order of the tests does not matter. -/
theorem Reads.ofText?_eq (h : Reads t c) : Control.ofText? t = some c := by
  cases h <;> rfl

theorem reads_of_ofText? (h : Control.ofText? t = some c) : Reads t c := by
  unfold Control.ofText? at h
  split at h
  · next he =>
    subst he
    cases h
    exact .orElse
  · split at h
    · next r hr =>
      cases h
      exact dropPrefix?_eq_some_iff.1 hr ▸ .orElseIf r
    · split at h
      · next r hr =>
        cases h
        exact dropPrefix?_eq_some_iff.1 hr ▸ .ifThen r
      · split at h
        · next r hr =>
          cases h
          exact dropPrefix?_eq_some_iff.1 hr ▸ .whileLoop r
        · obtain ⟨r, hr, rfl⟩ := Option.map_eq_some_iff.1 h
          exact dropPrefix?_eq_some_iff.1 hr ▸ .forLoop r

theorem ofText?_eq_some_iff : Control.ofText? t = some c ↔ Reads t c :=
  ⟨reads_of_ofText?, Reads.ofText?_eq⟩

end Control

/-! ## Statements -/

namespace Statement

/-- Whether a statement opens a block. -/
def isOpener (t : Text) : Bool := t.getLast? == some ':'

/-- Whether a statement closes a block. -/
def isBlockCloser (t : Text) : Bool := blockClosers.contains t

/-- Whether a statement closes a branch or a loop. -/
def isControlCloser (t : Text) : Bool := controlClosers.contains t

/-- Whether a statement is the header of a branch or of a loop. -/
def isHeader (t : Text) : Bool := (Control.ofText? t).isSome

/-- Whether a statement takes no part in the nesting of blocks, branches and loops. -/
def isSimple (t : Text) : Bool :=
  !isOpener t && !isBlockCloser t && !isControlCloser t && !isHeader t

variable {t : Text}

theorem isOpener_iff : isOpener t = true ↔ ∃ h, t = h ++ [':'] := by
  rw [isOpener, beq_iff_eq, List.getLast?_eq_some_iff]

@[simp] theorem isOpener_append (h : Text) : isOpener (h ++ [':']) = true :=
  isOpener_iff.2 ⟨h, rfl⟩

theorem not_isOpener_of_closer (h : t ∈ blockClosers ++ controlClosers) : isOpener t = false := by
  have hall : ∀ u ∈ blockClosers ++ controlClosers, isOpener u = false := by decide
  exact hall t h

theorem not_isOpener_of_isBlockCloser (h : isBlockCloser t = true) : isOpener t = false :=
  not_isOpener_of_closer (List.mem_append_left _ (List.contains_iff_mem.1 h))

theorem not_isOpener_of_isControlCloser (h : isControlCloser t = true) : isOpener t = false :=
  not_isOpener_of_closer (List.mem_append_right _ (List.contains_iff_mem.1 h))

theorem not_isBlockCloser_of_isControlCloser (h : isControlCloser t = true) :
    isBlockCloser t = false := by
  have hall : ∀ u ∈ controlClosers, isBlockCloser u = false := by decide
  exact hall t (List.contains_iff_mem.1 h)

theorem isSimple_iff : isSimple t = true ↔ isOpener t = false ∧ isBlockCloser t = false ∧
    isControlCloser t = false ∧ Control.ofText? t = none := by
  simp [isSimple, isHeader, and_assoc]

theorem not_isOpener_of_isSimple (h : isSimple t = true) : isOpener t = false :=
  (isSimple_iff.1 h).1

/-- No closer is a control header. -/
theorem not_mem_closers {c : Control} (h : Control.Reads t c) :
    t ∉ blockClosers ++ controlClosers := by
  have hall : ∀ u ∈ blockClosers ++ controlClosers, Control.ofText? u = none := by decide
  intro hmem
  have hnone := hall t hmem
  rw [h.ofText?_eq] at hnone
  cases hnone

theorem not_isBlockCloser_of_reads {c : Control} (h : Control.Reads t c) :
    isBlockCloser t = false := by
  rw [isBlockCloser, Bool.eq_false_iff, ne_eq, List.contains_iff_mem]
  intro hmem
  exact not_mem_closers h (List.mem_append_left _ hmem)

theorem not_isControlCloser_of_reads {c : Control} (h : Control.Reads t c) :
    isControlCloser t = false := by
  rw [isControlCloser, Bool.eq_false_iff, ne_eq, List.contains_iff_mem]
  intro hmem
  exact not_mem_closers h (List.mem_append_right _ hmem)

/-- The outcome of reading a trimmed statement, form by form. -/
inductive Reads (t : Text) : Except Fault Statement → Prop
  | opener (h : Text) (ht : t = h ++ [':']) : Reads t (.ok (.opener (.ofHeader h.trim)))
  | blockEnd (ho : isOpener t = false) (h : isBlockCloser t = true) : Reads t (.ok .blockEnd)
  | controlEnd (ho : isOpener t = false) (hb : isBlockCloser t = false)
      (h : isControlCloser t = true) : Reads t (.ok .controlEnd)
  | control (c : Control) (ho : isOpener t = false) (hb : isBlockCloser t = false)
      (h : Control.Reads t c) : Reads t (.ok (.control c))
  | assignment (a : Assignment) (hs : isSimple t = true) (h : Assignment.ofText? t = some a) :
      Reads t (ofAssignment a)
  | expression (hs : isSimple t = true) (h : Assignment.ofText? t = none) :
      Reads t ((Value.ofText t).map .expression)

theorem dropSuffix?_of_not_isOpener (h : isOpener t = false) : t.dropSuffix? [':'] = none := by
  by_contra hn
  obtain ⟨r, hr⟩ := Option.ne_none_iff_exists'.1 hn
  rw [isOpener_iff.2 ⟨r, dropSuffix?_eq_some_iff.1 hr⟩] at h
  cases h

/-- Every statement is read in one of these ways. -/
theorem reads_ofTrimmed (t : Text) : Reads t (ofTrimmed t) := by
  unfold ofTrimmed
  split
  · next h hh => exact .opener h (dropSuffix?_eq_some_iff.1 hh)
  · next hn =>
    have ho : isOpener t = false := by
      rw [Bool.eq_false_iff, ne_eq, isOpener_iff]
      rintro ⟨h, hh⟩
      rw [dropSuffix?_eq_some_iff.2 hh] at hn
      cases hn
    split
    · next hb => exact .blockEnd ho hb
    · next hb =>
      rw [Bool.not_eq_true] at hb
      split
      · next hc => exact .controlEnd ho hb hc
      · next hc =>
        rw [Bool.not_eq_true] at hc
        split
        · next c h => exact .control c ho hb (Control.reads_of_ofText? h)
        · next h =>
          have hs : isSimple t = true := isSimple_iff.2 ⟨ho, hb, hc, h⟩
          split
          · next a ha => exact .assignment a hs ha
          · next ha => exact .expression hs ha

/-- A statement is read in one way only. -/
theorem Reads.ofTrimmed_eq {o : Except Fault Statement} (h : Reads t o) : ofTrimmed t = o := by
  unfold ofTrimmed
  cases h with
  | opener r ht => rw [dropSuffix?_eq_some_iff.2 ht]
  | blockEnd ho h =>
    rw [dropSuffix?_of_not_isOpener ho]
    exact if_pos h
  | controlEnd ho hb h =>
    rw [dropSuffix?_of_not_isOpener ho]
    exact (if_neg (Bool.eq_false_iff.1 hb)).trans (if_pos h)
  | control c ho hb h =>
    rw [dropSuffix?_of_not_isOpener ho, h.ofText?_eq]
    exact (if_neg (Bool.eq_false_iff.1 hb)).trans
      (if_neg (Bool.eq_false_iff.1 (not_isControlCloser_of_reads h)))
  | assignment a hs ha =>
    obtain ⟨ho, hb, hc, h⟩ := isSimple_iff.1 hs
    rw [dropSuffix?_of_not_isOpener ho, h, ha]
    exact (if_neg (Bool.eq_false_iff.1 hb)).trans (if_neg (Bool.eq_false_iff.1 hc))
  | expression hs ha =>
    obtain ⟨ho, hb, hc, h⟩ := isSimple_iff.1 hs
    rw [dropSuffix?_of_not_isOpener ho, h, ha]
    exact (if_neg (Bool.eq_false_iff.1 hb)).trans (if_neg (Bool.eq_false_iff.1 hc))

/-- Trimmed statements are read as they stand. -/
theorem reads_ofText (ht : t.trim = t) : Reads t (ofText t) := by
  rw [ofText, ht]
  exact reads_ofTrimmed t

theorem Reads.ofText_eq {o : Except Fault Statement} (h : Reads t o) (ht : t.trim = t) :
    ofText t = o := by
  rw [ofText, ht]
  exact h.ofTrimmed_eq

/-- A statement that cannot be read is simple. -/
theorem Reads.isSimple_of_error {f : Fault} (h : Reads t (.error f)) : isSimple t = true := by
  generalize ho : Except.error f = o at h
  cases h with
  | opener | blockEnd | controlEnd | control => cases ho
  | assignment _ hs => exact hs
  | expression hs => exact hs

/-! ## Statements that can be read -/

/-- What a successful reading of an assignment is. -/
theorem ofAssignment_eq_ok {a : Assignment} {st : Statement} (h : ofAssignment a = .ok st) :
    ∃ value, Value.ofText a.value = .ok value ∧
      (a.operator = none ∧ st = .assign a.target value ∨
        ∃ op, a.operator = some op ∧ st = .update a.target op value) := by
  unfold ofAssignment at h
  split at h
  · cases h
  · obtain ⟨value, hv, rfl⟩ := map_eq_ok_iff.1 h
    refine ⟨value, hv, ?_⟩
    cases a.operator with
    | none => exact .inl ⟨rfl, rfl⟩
    | some op => exact .inr ⟨op, rfl, rfl⟩

/-- An assignment with a target and a value that can be read is read. -/
theorem ofAssignment_of_ne_nil {m v : Text} {op : Option Char} {value : Value} (hm : m ≠ [])
    (hv : Value.ofText v = .ok value) :
    ofAssignment ⟨m, op, v⟩ = .ok (op.elim (.assign m value) (.update m · value)) := by
  cases op <;> simp [ofAssignment, hm, hv, Except.map]

/-- A statement that can be read, form by form. -/
inductive Form (t : Text) : Statement → Prop
  | opener (h : Text) (ht : t = h ++ [':']) : Form t (.opener (.ofHeader h.trim))
  | blockEnd (ho : isOpener t = false) (h : isBlockCloser t = true) : Form t .blockEnd
  | controlEnd (ho : isOpener t = false) (hb : isBlockCloser t = false)
      (h : isControlCloser t = true) : Form t .controlEnd
  | control (c : Control) (ho : isOpener t = false) (hb : isBlockCloser t = false)
      (h : Control.Reads t c) : Form t (.control c)
  | assign (target v : Text) (value : Value) (hs : isSimple t = true)
      (h : Assignment.ofText? t = some ⟨target, none, v⟩) (hv : Value.ofText v = .ok value) :
      Form t (.assign target value)
  | update (target v : Text) (op : Char) (value : Value) (hs : isSimple t = true)
      (h : Assignment.ofText? t = some ⟨target, some op, v⟩) (hv : Value.ofText v = .ok value) :
      Form t (.update target op value)
  | expression (value : Value) (hs : isSimple t = true) (h : Assignment.ofText? t = none)
      (hv : Value.ofText t = .ok value) : Form t (.expression value)

theorem Reads.form {st : Statement} (h : Reads t (.ok st)) : Form t st := by
  generalize ho : Except.ok st = o at h
  cases h with
  | opener h ht =>
    cases ho
    exact .opener h ht
  | blockEnd hop h =>
    cases ho
    exact .blockEnd hop h
  | controlEnd hop hb h =>
    cases ho
    exact .controlEnd hop hb h
  | control c hop hb h =>
    cases ho
    exact .control c hop hb h
  | assignment a hs h =>
    obtain ⟨target, op?, v⟩ := a
    obtain ⟨value, hv, ⟨rfl, rfl⟩ | ⟨op, rfl, rfl⟩⟩ := ofAssignment_eq_ok ho.symm
    · exact .assign target v value hs h hv
    · exact .update target v op value hs h hv
  | expression hs h =>
    cases hv : Value.ofText t with
    | error f =>
      rw [hv] at ho
      cases ho
    | ok value =>
      rw [hv] at ho
      cases ho
      exact .expression value hs h hv

theorem form_of_ofText {st : Statement} (ht : t.trim = t) (h : ofText t = .ok st) : Form t st := by
  have hr := reads_ofText ht
  rw [h] at hr
  exact hr.form

end Statement

end KScript
