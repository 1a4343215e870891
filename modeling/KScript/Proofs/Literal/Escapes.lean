import KScript.Proofs.Literal.Joining

/-!
# Texts without escapes outside literals

A backslash outside literals takes the next character out of the structure, and trimming may remove that
character.  Where every backslash stands in a literal, closed texts end where a scan could start, and so
do their pieces.
-/

namespace KScript

namespace Scan

variable {s : Scan} {c : Char}

/-- Only a backslash escapes what follows it, and it changes no literal. -/
theorem step_of_escaped (h : (s.step c).escaped = true) :
    c = '\\' ∧ (s.step c).literal = s.literal := by
  obtain ⟨literal, escaped⟩ := s
  cases escaped with
  | true => cases h
  | false =>
    by_cases hc : c = '\\'
    · subst hc
      exact ⟨rfl, rfl⟩
    · exfalso
      cases hq : Quote.ofChar? c <;> cases literal <;> simp [step, hc, hq] at h
      split at h <;> cases h

end Scan

namespace Text

/-- Where a scan could start, a text without blanks outside literals goes on with another character. -/
theorem not_isBlank_of_past_eq_start {a b : Text} {c : Char} (ha : Scan.start.past a = .start)
    (hfree : ∀ d ∈ (a ++ c :: b).skeleton, isBlank d = false) : isBlank c = false := by
  by_contra hblank
  rw [Bool.not_eq_false] at hblank
  have hc : (Scan.start.past a).structural c = true :=
    Scan.structural_iff.2 ⟨ha, Scan.not_reacts_of_isBlank hblank⟩
  exact Bool.noConfusion ((hfree c (mem_skeleton_of_structural hc b)).symm.trans hblank)

/-- Every backslash of the text stands in a literal. -/
def NoBareEscape (t : Text) : Prop :=
  ∀ a b : Text, t = a ++ '\\' :: b → (Scan.start.past a).literal.isSome = true

theorem noBareEscape_iff {t : Text} : t.NoBareEscape ↔
    ∀ i < t.length, t[i]? = some '\\' → (Scan.start.past (t.take i)).literal.isSome = true := by
  constructor
  · intro h i hi hc
    refine h (t.take i) (t.drop (i + 1)) ?_
    rw [← (List.getElem?_eq_some_iff.1 hc).2, List.getElem_cons_drop, List.take_append_drop]
  · rintro h a b rfl
    simpa using h a.length (by simp) (by simp)

instance : DecidablePred NoBareEscape := fun _ => decidable_of_iff _ noBareEscape_iff.symm

variable {sep : Char → Bool} {a b p t : Text} {ps : List Text}

namespace NoBareEscape

/-- What begins where a scan could start has its backslashes in literals of its own. -/
theorem of_append {e : Text} (h : NoBareEscape (a ++ (b ++ e))) (ha : Scan.start.past a = .start) :
    b.NoBareEscape := by
  rintro x y rfl
  have hpast := h (a ++ x) (y ++ e) (by simp)
  rwa [Scan.past_append, ha] at hpast

theorem trim (h : t.NoBareEscape) : t.trim.NoBareEscape := by
  obtain ⟨b, e, hb, -, ht⟩ := exists_blank_append_trim_append_blank t
  rw [ht] at h
  exact h.of_append (Scan.past_start_inert hb.inert)

/-- Closed texts end where a scan could start. -/
theorem past_eq_start (h : t.NoBareEscape) (hclosed : t.closed = true) :
    Scan.start.past t = .start := by
  refine past_eq_start_iff.2 ⟨hclosed, ?_⟩
  by_contra hescaped
  rw [Bool.not_eq_false] at hescaped
  rcases List.eq_nil_or_concat' t with rfl | ⟨k, c, rfl⟩
  · cases hescaped
  · rw [Scan.past_append] at hescaped
    obtain ⟨rfl, hliteral⟩ := Scan.step_of_escaped hescaped
    have hopen : ((Scan.start.past k).step '\\').literal.isSome = true := by
      rw [hliteral]
      exact h k [] rfl
    rw [closed, Scan.past_append, Scan.past_cons, Scan.past_nil, ← Option.not_isSome, hopen] at hclosed
    cases hclosed

/-- The pieces of a text have their backslashes in literals if the text does. -/
theorem of_cutsInto (h : t.NoBareEscape) (hcuts : CutsInto sep t ps) (hp : p ∈ ps) :
    p.NoBareEscape := by
  induction hcuts with
  | whole t => rwa [List.mem_singleton.1 hp]
  | @cut a c b ps ha hc hsep hb ih =>
    rcases List.mem_cons.1 hp with rfl | hp
    · exact h.of_append (a := []) rfl
    · refine ih ?_ hp
      have hpast : Scan.start.past (a ++ [c]) = .start := by
        rw [Scan.past_append]
        exact Scan.step_of_structural hc
      refine of_append (a := a ++ [c]) (e := []) ?_ hpast
      simpa using h

/-- A closed text without blanks outside literals begins and ends with other characters. -/
theorem solid (h : t.NoBareEscape) (hclosed : t.closed = true) (hne : t ≠ [])
    (hfree : ∀ c ∈ t.skeleton, isBlank c = false) : t.Solid := by
  refine ⟨?_, ?_⟩
  · obtain ⟨c, r, rfl⟩ := List.exists_cons_of_ne_nil hne
    rw [List.head?_cons, Option.map_some, not_isBlank_of_past_eq_start (a := []) rfl hfree]
  · rcases List.eq_nil_or_concat' t with rfl | ⟨k, c, rfl⟩
    · exact absurd rfl hne
    · have hlast : isBlank c = false := by
        -- A blank at the end leaves the scan where it is, so it stands where a scan could start.
        by_contra hblank
        rw [Bool.not_eq_false] at hblank
        have hinert : Inert [c] := List.forall_mem_singleton.2 (Scan.not_reacts_of_isBlank hblank)
        have hk : NoBareEscape k := h.of_append (a := []) rfl
        rw [closed_append_right hinert] at hclosed
        have hnot := not_isBlank_of_past_eq_start (hk.past_eq_start hclosed) hfree
        exact Bool.noConfusion (hnot.symm.trans hblank)
      rw [List.getLast?_concat, Option.map_some, hlast]

end NoBareEscape

end Text

end KScript
