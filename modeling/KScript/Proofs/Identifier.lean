import KScript.Identifier
import KScript.Proofs.Text.Trim

/-!
# Identifiers

An identifier is not empty and holds no blank.
-/

namespace KScript

/-- What holds at every code point of some ranges holds of the characters in them. -/
theorem of_inRanges {P : Char → Prop} {ranges : List CodeRange} {c : Char}
    (h : ∀ r ∈ ranges, ∀ n ∈ List.range' r.1 (r.2 + 1 - r.1), P (Char.ofNat n))
    (hc : inRanges ranges c = true) : P c := by
  obtain ⟨r, hr, hrange⟩ := List.any_eq_true.1 hc
  obtain ⟨hfirst, hlast⟩ : r.1 ≤ c.toNat ∧ c.toNat ≤ r.2 := by simpa using hrange
  have hmem : c.toNat ∈ List.range' r.1 (r.2 + 1 - r.1) := by
    rw [List.mem_range'_1]
    omega
  rw [← Char.ofNat_toNat c]
  exact h r hr _ hmem

theorem not_isIdentifierRest_of_isBlank {c : Char} (h : isBlank c = true) :
    isIdentifierRest c = false :=
  of_inRanges (P := fun c => isIdentifierRest c = false) (by decide +kernel) h

namespace Text

variable {n : Text}

theorem exists_cons_of_isIdentifier (h : n.isIdentifier = true) :
    ∃ c r, n = c :: r ∧ isIdentifierStart c = true := by
  cases n with
  | nil => cases h
  | cons c r => exact ⟨c, r, rfl, (Bool.and_eq_true_iff.1 h).1⟩

theorem ne_nil_of_isIdentifier (h : n.isIdentifier = true) : n ≠ [] := by
  rintro rfl
  cases h

theorem isIdentifierRest_of_mem (h : n.isIdentifier = true) {c : Char} (hc : c ∈ n) :
    isIdentifierRest c = true := by
  cases n with
  | nil => cases h
  | cons d r =>
    obtain ⟨hd, hr⟩ := Bool.and_eq_true_iff.1 h
    rcases List.mem_cons.1 hc with rfl | hc
    · simp [isIdentifierRest, hd]
    · exact List.all_eq_true.1 hr c hc

theorem not_isBlank_of_mem (h : n.isIdentifier = true) {c : Char} (hc : c ∈ n) :
    isBlank c = false := by
  by_contra hblank
  have hrest := not_isIdentifierRest_of_isBlank (Bool.not_eq_false _ ▸ hblank)
  exact Bool.noConfusion (hrest.symm.trans (isIdentifierRest_of_mem h hc))

theorem solid_of_isIdentifier (h : n.isIdentifier = true) : n.Solid :=
  solid_of_forall (ne_nil_of_isIdentifier h) fun _ hc => not_isBlank_of_mem h hc

theorem not_mem_of_isIdentifier (h : n.isIdentifier = true) : ' ' ∉ n := by
  intro hc
  exact absurd (isIdentifierRest_of_mem h hc) (by decide)

end Text

end KScript
