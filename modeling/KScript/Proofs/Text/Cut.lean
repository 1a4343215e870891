import KScript.Text.Basic
import Mathlib.Data.List.Basic
import Mathlib.Data.List.TakeWhile

/-!
# Cutting at a start, at an end and at a character
-/

namespace KScript

namespace Text

variable {t p r : Text}

theorem dropPrefix?_eq_some_iff : t.dropPrefix? p = some r ↔ t = p ++ r := by
  rw [dropPrefix?, List.isPrefixOf?_eq_some_iff_append_eq]
  exact eq_comm

@[simp] theorem dropPrefix?_append (p r : Text) : dropPrefix? (p ++ r) p = some r :=
  dropPrefix?_eq_some_iff.2 rfl

theorem dropPrefix?_eq_none_iff : t.dropPrefix? p = none ↔ ¬ p <+: t := by
  constructor
  · rintro h ⟨r, hr⟩
    rw [dropPrefix?_eq_some_iff.2 hr.symm] at h
    cases h
  · intro h
    by_contra hn
    obtain ⟨r, hr⟩ := Option.ne_none_iff_exists'.1 hn
    exact h ⟨r, (dropPrefix?_eq_some_iff.1 hr).symm⟩

theorem dropSuffix?_eq_some_iff : t.dropSuffix? p = some r ↔ t = r ++ p := by
  rw [dropSuffix?, List.isSuffixOf?_eq_some_iff_append_eq]
  exact eq_comm

/-- A text is cut at the first character with a property. -/
theorem cutAt?_eq_some_iff {f : Char → Bool} {a b : Text} :
    t.cutAt? f = some (a, b) ↔ ∃ c, t = a ++ c :: b ∧ f c = true ∧ ∀ d ∈ a, f d = false := by
  have hsplit : t.takeWhile (fun c => !f c) ++ t.dropWhile (fun c => !f c) = t :=
    List.takeWhile_append_dropWhile
  constructor
  · intro h
    cases hd : t.dropWhile (fun c => !f c) with
    | nil => simp [cutAt?, hd] at h
    | cons c r =>
      simp only [cutAt?, hd, Option.some.injEq, Prod.mk.injEq] at h
      obtain ⟨rfl, rfl⟩ := h
      refine ⟨c, by rw [← hd, hsplit], ?_, fun d hmem => by simpa using List.mem_takeWhile_imp hmem⟩
      have hc := List.head_dropWhile_not (fun c => !f c) (l := t) (by rw [hd]; simp)
      simpa [hd] using hc
  · rintro ⟨c, rfl, hc, ha⟩
    have hn : ∀ d ∈ a, (fun c => !f c) d = true := by
      intro d hd
      simp [ha d hd]
    simp [cutAt?, List.dropWhile_append_of_pos hn, List.takeWhile_append_of_pos hn, hc]

theorem cutAt?_eq_none_iff {f : Char → Bool} : t.cutAt? f = none ↔ ∀ c ∈ t, f c = false := by
  cases hd : t.dropWhile (fun c => !f c) with
  | nil => simpa [cutAt?, hd] using List.dropWhile_eq_nil_iff.1 hd
  | cons c r =>
    have hne : ¬ ∀ c ∈ t, f c = false := by
      intro h
      rw [List.dropWhile_eq_nil_iff.2 fun c hc => by simp [h c hc]] at hd
      exact absurd hd.symm (List.cons_ne_nil c r)
    simp [cutAt?, hd] at hne ⊢
    exact hne

/-! ## Up to a character -/

variable {c : Char} {a : Text}

theorem takeWhile_append_of_not_mem (h : c ∉ a) (b : Text) :
    (a ++ b).takeWhile (· != c) = a ++ b.takeWhile (· != c) :=
  List.takeWhile_append_of_pos fun _ hd => bne_iff_ne.2 fun heq => h (heq ▸ hd)

theorem takeWhile_of_not_mem (h : c ∉ a) : a.takeWhile (· != c) = a := by
  simpa using takeWhile_append_of_not_mem h []

theorem takeWhile_append_cons (h : c ∉ a) (b : Text) : (a ++ c :: b).takeWhile (· != c) = a := by
  rw [takeWhile_append_of_not_mem h, List.takeWhile_cons_of_neg (by simp), List.append_nil]

theorem takeWhile_append_of_mem (h : c ∈ a) (b : Text) :
    (a ++ b).takeWhile (· != c) = a.takeWhile (· != c) := by
  obtain ⟨x, y, rfl, hx⟩ := List.eq_append_cons_of_mem h
  rw [List.append_assoc, List.cons_append, takeWhile_append_cons hx, takeWhile_append_cons hx]

/-! ## First occurrences -/

/-- What stands around the first element without a property is determined. -/
theorem append_cons_inj_of_forall {α : Type} {p : α → Prop} {a b c d : List α} {x y : α}
    (ha : ∀ z ∈ a, p z) (hb : ∀ z ∈ b, p z) (hx : ¬ p x) (hy : ¬ p y)
    (h : a ++ x :: c = b ++ y :: d) : a = b ∧ x = y ∧ c = d := by
  -- If one front is longer than the other, it goes on with the element that lacks the property.
  rcases List.append_eq_append_iff.1 h with ⟨e, rfl, he⟩ | ⟨e, rfl, he⟩
  · cases e with
    | nil => simpa using he
    | cons z e =>
      obtain ⟨rfl, -⟩ := List.cons.inj he
      exact absurd (hb x (List.mem_append_right a List.mem_cons_self)) hx
  · cases e with
    | nil => simpa [eq_comm] using he
    | cons z e =>
      obtain ⟨rfl, -⟩ := List.cons.inj he
      exact absurd (ha y (List.mem_append_right b List.mem_cons_self)) hy

/-- What begins a text before a character that it does not hold ends before the character. -/
theorem isPrefix_of_isPrefix_append_cons {w u v : Text} {c : Char} (hc : c ∉ w)
    (h : w <+: u ++ c :: v) : w <+: u := by
  obtain ⟨x, hx⟩ := h
  rcases List.append_eq_append_iff.1 hx with ⟨y, rfl, -⟩ | ⟨y, rfl, hy⟩
  · exact List.prefix_append w y
  · cases y with
    | nil => simp
    | cons d y =>
      obtain ⟨rfl, -⟩ := List.cons.inj hy
      exact absurd (List.mem_append_right u List.mem_cons_self) hc

/-- What occurs in a text without a character that the text holds occurs on one side of it. -/
theorem isInfix_of_isInfix_append_cons {w u v : Text} {c : Char} (hc : c ∉ w)
    (h : w <:+: u ++ c :: v) : w <:+: u ∨ w <:+: v := by
  induction u with
  | nil =>
    rcases List.infix_cons_iff.1 h with h | h
    · exact .inl (isPrefix_of_isPrefix_append_cons hc (u := []) h).isInfix
    · exact .inr h
  | cons d u ih =>
    rcases List.infix_cons_iff.1 h with h | h
    · exact .inl (isPrefix_of_isPrefix_append_cons hc (u := d :: u) h).isInfix
    · exact (ih h).imp_left fun h => List.infix_cons h

/-- Texts that are followed by their first occurrence of a character are determined. -/
theorem append_cons_inj_of_not_mem {c : Char} {a b x y : Text} (ha : c ∉ a) (hb : c ∉ b)
    (h : a ++ c :: x = b ++ c :: y) : a = b ∧ x = y := by
  have other {d : Text} (hd : c ∉ d) : ∀ z ∈ d, z ≠ c := fun z hz hzc => hd (hzc ▸ hz)
  obtain ⟨hab, -, hxy⟩ := append_cons_inj_of_forall (other ha) (other hb) (not_not_intro rfl)
    (not_not_intro rfl) h
  exact ⟨hab, hxy⟩

end Text

end KScript
