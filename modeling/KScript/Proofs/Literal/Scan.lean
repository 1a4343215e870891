import KScript.Literal.Scan
import KScript.Proofs.Text.Trim

/-!
# Where a scan stands

Quotes and backslashes are the only characters that a scan acts on.  A character is structural if it
is none of them and the scan stands where it stood at the start, so what follows a structural
character is scanned afresh.  Blanks around a text change nothing about its literals.
-/

namespace KScript

namespace Scan

/-- The characters that a scan acts on. -/
def reacts (c : Char) : Bool := c == '\\' || (Quote.ofChar? c).isSome

variable {s : Scan} {c : Char}

theorem reacts_iff : reacts c = true ↔ c = '\\' ∨ c = '"' ∨ c = '\'' := by
  unfold reacts Quote.ofChar?
  split
  · next h => simp [h]
  · next h =>
    split
    · next h' => simp [h']
    · next h' => simp [h, h']

theorem not_reacts_iff : reacts c = false ↔ c ≠ '\\' ∧ Quote.ofChar? c = none := by
  simp [reacts]

/-- Any other character ends an escape at most. -/
theorem step_of_not_reacts (h : reacts c = false) : s.step c = ⟨s.literal, false⟩ := by
  obtain ⟨hc, hq⟩ := not_reacts_iff.1 h
  obtain ⟨literal, escaped⟩ := s
  cases escaped <;> simp [step, hc, hq]

theorem structural_iff : s.structural c = true ↔ s = start ∧ reacts c = false := by
  obtain ⟨literal, escaped⟩ := s
  cases literal <;> cases escaped <;> simp [structural, start, not_reacts_iff]

/-- What follows a structural character is scanned afresh. -/
theorem step_of_structural (h : s.structural c = true) : s.step c = start := by
  obtain ⟨rfl, hc⟩ := structural_iff.1 h
  exact step_of_not_reacts hc

theorem not_reacts_of_isBlank (h : isBlank c = true) : reacts c = false := by
  rw [Bool.eq_false_iff, ne_eq, reacts_iff]
  rintro (rfl | rfl | rfl) <;> exact absurd h (by decide)

end Scan

/-- A text without quotes and backslashes. -/
def Text.Inert (t : Text) : Prop := ∀ c ∈ t, Scan.reacts c = false

instance (t : Text) : Decidable t.Inert :=
  decidable_of_iff (t.all (fun c => !Scan.reacts c) = true) (by simp [Text.Inert])

theorem Text.Blank.inert {b : Text} (h : b.Blank) : b.Inert :=
  fun c hc => Scan.not_reacts_of_isBlank (h c hc)

namespace Scan

variable {s : Scan} {c : Char} {w : Text}

/-- Inert text ends an escape at most. -/
theorem past_inert (hw : w.Inert) (hne : w ≠ []) : s.past w = ⟨s.literal, false⟩ := by
  induction w generalizing s with
  | nil => exact absurd rfl hne
  | cons c w ih =>
    obtain ⟨hc, hw⟩ := List.forall_mem_cons.1 hw
    rw [past_cons, step_of_not_reacts hc]
    cases w with
    | nil => rfl
    | cons d w => rw [ih hw (List.cons_ne_nil d w)]

/-- Inert text opens and closes no literal. -/
theorem literal_past_inert (hw : w.Inert) : (s.past w).literal = s.literal := by
  by_cases hne : w = []
  · rw [hne, past_nil]
  · rw [past_inert hw hne]

/-- Inert text leaves a scan at its start. -/
theorem past_start_inert (hw : w.Inert) : start.past w = start := by
  by_cases hne : w = []
  · rw [hne, past_nil]
  · exact past_inert hw hne

/-- A scanned text falls apart as its marks do. -/
theorem exists_of_marks_eq {t : Text} {as bs : List Mark} {m : Mark}
    (h : s.marks t = as ++ m :: bs) :
    ∃ a b, t = a ++ m.char :: b ∧ s.marks a = as ∧ (s.past a).structural m.char = m.structural := by
  induction as generalizing s t with
  | nil =>
    cases t with
    | nil => cases h
    | cons c t =>
      obtain ⟨rfl, -⟩ := List.cons.inj h
      exact ⟨[], t, rfl, rfl, rfl⟩
  | cons n as ih =>
    cases t with
    | nil => cases h
    | cons c t =>
      obtain ⟨rfl, ht⟩ := List.cons.inj h
      obtain ⟨a, b, rfl, rfl, hm⟩ := ih ht
      exact ⟨c :: a, b, rfl, rfl, hm⟩

end Scan

namespace Text

variable {a b e : Text}

/-! ## Closed texts -/

theorem closed_append_left (hb : b.Inert) (t : Text) : (b ++ t).closed = t.closed := by
  rw [closed, Scan.past_append, Scan.past_start_inert hb, closed]

theorem closed_append_right (he : e.Inert) (t : Text) : (t ++ e).closed = t.closed := by
  rw [closed, Scan.past_append, Scan.literal_past_inert he, closed]

/-- Trimming closes no literal and opens none. -/
@[simp] theorem closed_trim (t : Text) : t.trim.closed = t.closed := by
  obtain ⟨b, e, hb, he, ht⟩ := exists_blank_append_trim_append_blank t
  calc t.trim.closed
    _ = (t.trim ++ e).closed := (closed_append_right he.inert _).symm
    _ = (b ++ (t.trim ++ e)).closed := (closed_append_left hb.inert _).symm
    _ = t.closed := by rw [← ht]

/-! ## Structural characters -/

theorem mem_skeleton_append {c : Char} (h : c ∈ (a ++ b).skeleton) : c ∈ a.skeleton ∨ c ∈ b := by
  rw [skeleton, marks, Scan.marks_append, List.filter_append, List.map_append] at h
  refine (List.mem_append.1 h).imp_right fun h => ?_
  obtain ⟨m, hm, rfl⟩ := List.mem_map.1 h
  rw [← Scan.map_char_marks (Scan.start.past a) b]
  exact List.mem_map_of_mem (List.mem_filter.1 hm).1

theorem mem_of_mem_skeleton {c : Char} {t : Text} (h : c ∈ t.skeleton) : c ∈ t :=
  (mem_skeleton_append (a := []) h).resolve_left List.not_mem_nil

/-- Behind a text that leaves the scan at its start, the structural characters are those of a text
of its own. -/
theorem skeleton_append (ha : Scan.start.past a = .start) (b : Text) :
    (a ++ b).skeleton = a.skeleton ++ b.skeleton := by
  rw [skeleton, marks, Scan.marks_append, ha, List.filter_append, List.map_append]
  rfl

theorem skeleton_isPrefix (a b : Text) : a.skeleton <+: (a ++ b).skeleton := by
  rw [skeleton, skeleton, marks, marks, Scan.marks_append, List.filter_append, List.map_append]
  exact List.prefix_append _ _

/-- Trimming adds no structural character. -/
theorem skeleton_trim_subset (t : Text) : t.trim.skeleton ⊆ t.skeleton := by
  obtain ⟨b, e, hb, -, ht⟩ := exists_blank_append_trim_append_blank t
  intro c hc
  rw [ht, skeleton_append (Scan.past_start_inert hb.inert)]
  exact List.mem_append_right _ ((skeleton_isPrefix _ e).subset hc)

end Text

end KScript
