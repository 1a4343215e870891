import KScript.Proofs.Identifier
import KScript.Proofs.Statement.Reading

/-!
# Which names a statement binds

`Statement.Binds` says it in terms of the text of the statement: the block that draws binds the
time, a block with parameters binds those of them that are identifiers, and a plain assignment of a
value that can be read binds its target.  Nothing else binds a name.
-/

namespace KScript

open Text

/-! ## Parameters -/

namespace Opener

/-- The part of a trimmed header that holds the name and the parameters. -/
inductive Signature (header : Text) : Text → Prop
  | block (s : Text) (h : header = "block ".toList ++ s) : Signature header s.trim
  | bare (h₁ : ¬ "block ".toList <+: header) (h₂ : ¬ "block:".toList <+: header) :
      Signature header header

/-- A parameter of a signature: a piece between commas, behind the first of them, up to its first
equals sign. -/
def Parameter (signature n : Text) : Prop :=
  ∃ name parameters : Text, signature = name ++ ',' :: parameters ∧ ',' ∉ name ∧
    ∃ piece ∈ parameters.trim.splitOn ',', n = Text.trim (piece.takeWhile (· != '='))

variable {header signature n : Text}

theorem mem_parameterNames {parameters : Text} :
    n ∈ parameterNames parameters ↔
      (∃ piece ∈ parameters.splitOn ',', n = Text.trim (piece.takeWhile (· != '='))) ∧
        n.isIdentifier = true := by
  simp only [parameterNames, List.mem_filter, List.mem_map, eq_comm]

theorem not_parameter_of_not_mem (h : ',' ∉ signature) : ¬ Parameter signature n := by
  rintro ⟨name, parameters, rfl, -⟩
  exact h (List.mem_append_right name List.mem_cons_self)

theorem mem_binds_ofSignature :
    n ∈ (ofSignature signature).binds ↔ Parameter signature n ∧ n.isIdentifier = true := by
  unfold ofSignature
  split
  · next hn =>
    have hc : ',' ∉ signature := by
      intro h
      simpa using cutAt?_eq_none_iff.1 hn ',' h
    simp [binds, not_parameter_of_not_mem hc]
  · next name parameters hs =>
    obtain ⟨c, rfl, hc, hname⟩ := cutAt?_eq_some_iff.1 hs
    obtain rfl : c = ',' := by simpa using hc
    have hn : ',' ∉ name := by
      intro h
      simpa using hname ',' h
    rw [binds, mem_parameterNames]
    constructor
    · rintro ⟨hp, hi⟩
      exact ⟨⟨name, parameters, rfl, hn, hp⟩, hi⟩
    · rintro ⟨⟨name', parameters', heq, hn', hp⟩, hi⟩
      have hne : ∀ d ∈ name', (d == ',') = false := by
        intro d hd
        rw [beq_eq_false_iff_ne]
        rintro rfl
        exact hn' hd
      have hcut : Text.cutAt? (· == ',') (name ++ ',' :: parameters) = some (name', parameters') :=
        cutAt?_eq_some_iff.2 ⟨',', heq, rfl, hne⟩
      rw [hs] at hcut
      cases hcut
      exact ⟨hp, hi⟩

/-- The names of a header: the time, or the parameters that are identifiers. -/
theorem mem_binds_ofHeader :
    n ∈ (ofHeader header).binds ↔
      header = "draw".toList ∧ n = "time".toList ∨
        (∃ signature, Signature header signature ∧ Parameter signature n) ∧
          n.isIdentifier = true := by
  unfold ofHeader
  split
  · next h =>
    subst h
    simp only [binds, List.mem_singleton, true_and]
    refine ⟨.inl, ?_⟩
    rintro (h | ⟨⟨signature, hs, hp⟩, -⟩)
    · exact h
    · cases hs with
      | block s h => exact absurd h (by simp)
      | bare => exact absurd hp (not_parameter_of_not_mem (by decide))
  · next hd =>
    simp only [hd, false_and, false_or]
    split
    · next s hs =>
      have hpre := dropPrefix?_eq_some_iff.1 hs
      rw [mem_binds_ofSignature]
      refine and_congr_left fun _ => ⟨fun h => ⟨_, .block s hpre, h⟩, ?_⟩
      rintro ⟨signature, h, hp⟩
      cases h with
      | block s' h =>
        obtain rfl : s = s' := List.append_cancel_left (hpre.symm.trans h)
        exact hp
      | bare h₁ => exact absurd ⟨s, hpre.symm⟩ h₁
    · next name hn hs =>
      have hpre := dropPrefix?_eq_some_iff.1 hs
      simp only [binds, List.not_mem_nil, false_iff, not_and]
      rintro ⟨signature, h, -⟩
      cases h with
      | block s h => exact absurd ⟨s, h.symm⟩ (dropPrefix?_eq_none_iff.1 hn)
      | bare _ h₂ => exact absurd ⟨name, hpre.symm⟩ h₂
    · next hn hn' =>
      rw [mem_binds_ofSignature]
      refine and_congr_left fun _ => ⟨fun h => ⟨_, .bare (dropPrefix?_eq_none_iff.1 hn)
        (dropPrefix?_eq_none_iff.1 hn'), h⟩, ?_⟩
      rintro ⟨signature, h, hp⟩
      cases h with
      | block s h => exact absurd ⟨s, h.symm⟩ (dropPrefix?_eq_none_iff.1 hn)
      | bare => exact hp

end Opener

/-! ## Statements -/

namespace Statement

/-- A statement that assigns a value to a target and is nothing else. -/
def IsAssignment (t target value : Text) : Prop :=
  isSimple t = true ∧ Assignment.ofText? t = some ⟨target, none, value⟩

/-- A trimmed statement that binds a name. -/
inductive Binds (t n : Text) : Prop
  | draw (header : Text) (ht : t = header ++ [':']) (hd : header.trim = "draw".toList)
      (hn : n = "time".toList)
  | parameter (header signature : Text) (ht : t = header ++ [':'])
      (hs : Opener.Signature header.trim signature) (hp : Opener.Parameter signature n)
      (hi : n.isIdentifier = true)
  | assignment (v : Text) (value : Value) (ha : IsAssignment t n v)
      (hv : Value.ofText v = .ok value) (hi : n.isIdentifier = true)

/-- The names that reading a statement finds. -/
def boundNames (t : Text) : List Text :=
  match ofText t with
  | .ok st => st.binds
  | .error _ => []

variable {t n : Text}

theorem binds_opener_iff {h : Text} :
    Binds (h ++ [':']) n ↔ n ∈ (Opener.ofHeader h.trim).binds := by
  rw [Opener.mem_binds_ofHeader]
  constructor
  · rintro (⟨h', ht, hd, hn⟩ | ⟨h', s, ht, hs, hp, hi⟩ | ⟨v, value, ha, -, -⟩)
    · obtain rfl := List.append_cancel_right ht
      exact .inl ⟨hd, hn⟩
    · obtain rfl := List.append_cancel_right ht
      exact .inr ⟨⟨s, hs, hp⟩, hi⟩
    · simp [IsAssignment, isSimple] at ha
  · rintro (⟨hd, hn⟩ | ⟨⟨s, hs, hp⟩, hi⟩)
    · exact .draw h rfl hd hn
    · exact .parameter h s rfl hs hp hi

/-- A statement that is no opener binds at most the target of an assignment. -/
theorem binds_iff_of_not_isOpener (ho : isOpener t = false) :
    Binds t n ↔ ∃ v value, IsAssignment t n v ∧ Value.ofText v = .ok value ∧
      n.isIdentifier = true := by
  constructor
  · rintro (⟨h, ht, -, -⟩ | ⟨h, s, ht, -, -, -⟩ | ⟨v, value, ha, hv, hi⟩)
    · simp [ht] at ho
    · simp [ht] at ho
    · exact ⟨v, value, ha, hv, hi⟩
  · rintro ⟨v, value, ha, hv, hi⟩
    exact .assignment v value ha hv hi

theorem Reads.binds_iff {o : Except Fault Statement} (h : Reads t o) :
    (∃ st, o = .ok st ∧ n ∈ st.binds) ↔ Binds t n := by
  cases h with
  | opener h ht =>
    subst ht
    simp [binds_opener_iff, binds]
  | blockEnd ho h =>
    have hs : isSimple t = false := by simp [isSimple, h]
    simp [binds_iff_of_not_isOpener ho, binds, IsAssignment, hs]
  | controlEnd ho hb h =>
    have hs : isSimple t = false := by simp [isSimple, h]
    simp [binds_iff_of_not_isOpener ho, binds, IsAssignment, hs]
  | control c ho hb h =>
    have hs : isSimple t = false := by simp [isSimple, isHeader, h.ofText?_eq]
    simp [binds_iff_of_not_isOpener ho, binds, IsAssignment, hs]
  | assignment a hs h =>
    have ho := not_isOpener_of_isSimple hs
    rw [binds_iff_of_not_isOpener ho]
    constructor
    · rintro ⟨st, hst, hn⟩
      obtain ⟨value, hv, ⟨hop, rfl⟩ | ⟨op, -, rfl⟩⟩ := ofAssignment_eq_ok hst
      · obtain ⟨hi, rfl⟩ : a.target.isIdentifier = true ∧ n = a.target := by
          simpa [binds, List.filter_cons] using hn
        exact ⟨a.value, value, ⟨hs, by rw [h, ← hop]⟩, hv, hi⟩
      · cases hn
    · rintro ⟨v, value, ⟨-, ha⟩, hv, hi⟩
      rw [h] at ha
      cases ha
      exact ⟨_, ofAssignment_of_ne_nil (ne_nil_of_isIdentifier hi) hv, by simp [binds, hi]⟩
  | expression hs h =>
    have ho := not_isOpener_of_isSimple hs
    simp only [binds_iff_of_not_isOpener ho, IsAssignment, h]
    cases hv : Value.ofText t <;> simp [Except.map, binds]

/-- The names that reading finds are the names that a trimmed statement binds. -/
theorem mem_boundNames_iff (ht : t.trim = t) : n ∈ boundNames t ↔ Binds t n := by
  rw [← (reads_ofText ht).binds_iff, boundNames]
  cases ofText t <;> simp

end Statement

end KScript
