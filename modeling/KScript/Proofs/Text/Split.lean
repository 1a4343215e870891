import Mathlib.Data.List.Infix

/-!
# The pieces of a split list

Every piece is a contiguous part of the list and holds no separator.  The first piece is a prefix.  A
joined list holds nothing but its separator and its pieces.
-/

namespace KScript

variable {α : Type} {p : α → Bool} {l w : List α}

/-- A list that does not begin with a separator has its head in the first piece. -/
theorem splitOnP_cons_of_neg {a : α} (ha : p a = false) (l : List α) :
    ∃ w ws, l.splitOnP p = w :: ws ∧ (a :: l).splitOnP p = (a :: w) :: ws := by
  obtain ⟨w, ws, h⟩ := List.exists_cons_of_ne_nil (List.splitOnP_ne_nil p l)
  refine ⟨w, ws, h, ?_⟩
  rw [List.splitOnP_cons_eq_if_modifyHead, h]
  simp [ha]

/-- The first piece is a prefix. -/
theorem splitOnP_head_isPrefix {ws : List (List α)} (h : l.splitOnP p = w :: ws) : w <+: l := by
  induction l generalizing w ws with
  | nil =>
    rw [List.splitOnP_nil] at h
    cases h
    exact List.prefix_rfl
  | cons a l ih =>
    cases ha : p a with
    | true =>
      rw [List.splitOnP_cons_eq_if_modifyHead, if_pos ha] at h
      cases h
      exact List.nil_prefix
    | false =>
      obtain ⟨v, vs, hl, hal⟩ := splitOnP_cons_of_neg ha l
      rw [hal] at h
      cases h
      exact List.cons_prefix_cons.2 ⟨rfl, ih hl⟩

/-- Every piece is a contiguous part of the list. -/
theorem infix_of_mem_splitOnP (h : w ∈ l.splitOnP p) : w <:+: l := by
  induction l with
  | nil =>
    rw [List.splitOnP_nil, List.mem_singleton] at h
    rw [h]
  | cons a l ih =>
    cases ha : p a with
    | true =>
      rw [List.splitOnP_cons_eq_if_modifyHead, if_pos ha] at h
      rcases List.mem_cons.1 h with rfl | h
      · exact List.nil_infix
      · exact (ih h).trans (List.suffix_cons a l).isInfix
    | false =>
      obtain ⟨v, vs, hl, hal⟩ := splitOnP_cons_of_neg ha l
      have hp : a :: v <+: a :: l := splitOnP_head_isPrefix hal
      rw [hal] at h
      rcases List.mem_cons.1 h with rfl | h
      · exact hp.isInfix
      · exact (ih (hl ▸ List.mem_cons_of_mem v h)).trans (List.suffix_cons a l).isInfix

/-- No piece holds a separator. -/
theorem not_of_mem_splitOnP (h : w ∈ l.splitOnP p) : ∀ a ∈ w, p a = false := by
  induction l generalizing w with
  | nil =>
    rw [List.splitOnP_nil, List.mem_singleton] at h
    simp [h]
  | cons a l ih =>
    cases ha : p a with
    | true =>
      rw [List.splitOnP_cons_eq_if_modifyHead, if_pos ha] at h
      rcases List.mem_cons.1 h with rfl | h
      · simp
      · exact ih h
    | false =>
      obtain ⟨v, vs, hl, hal⟩ := splitOnP_cons_of_neg ha l
      rw [hal] at h
      rcases List.mem_cons.1 h with rfl | h
      · rintro b hb
        rcases List.mem_cons.1 hb with rfl | hb
        · exact ha
        · exact ih (hl ▸ List.mem_cons_self) b hb
      · exact ih (hl ▸ List.mem_cons_of_mem v h)

theorem mem_of_mem_intercalate {ls : List (List α)} {a : α} (h : a ∈ w.intercalate ls) :
    a ∈ w ∨ ∃ l ∈ ls, a ∈ l := by
  induction ls with
  | nil => cases h
  | cons l ls ih =>
    cases ls with
    | nil => exact .inr ⟨l, List.mem_singleton_self l, by rwa [List.intercalate_singleton] at h⟩
    | cons m ls =>
      rw [List.intercalate_cons_cons, List.mem_append, List.mem_append] at h
      rcases h with (h | h) | h
      · exact .inr ⟨l, List.mem_cons_self, h⟩
      · exact .inl h
      · exact (ih h).imp_right fun ⟨k, hk, ha⟩ => ⟨k, List.mem_cons_of_mem l hk, ha⟩

end KScript
