import KScript.Text.Basic
import Mathlib.Data.List.DropRight
import Mathlib.Tactic.MkIffOfInductiveProp

/-!
# Trimming

A text is blanks, its trimmed form and blanks again.  The trimmed form neither begins nor ends with
a blank, so trimming twice changes nothing, and blanks around a text do not matter.
-/

namespace KScript

namespace Text

variable {t v b e : Text}

/-- A text of blanks only. -/
def Blank (t : Text) : Prop := ∀ c ∈ t, isBlank c = true

instance (t : Text) : Decidable t.Blank :=
  decidable_of_iff (t.all isBlank = true) List.all_eq_true

theorem trimStart_suffix (t : Text) : t.trimStart <:+ t := List.dropWhile_suffix _

theorem trimEnd_isPrefix (t : Text) : t.trimEnd <+: t := List.rdropWhile_prefix _ _

theorem trim_isInfix (t : Text) : t.trim <:+: t :=
  (trimEnd_isPrefix _).isInfix.trans (trimStart_suffix t).isInfix

theorem mem_of_mem_trim {c : Char} (h : c ∈ t.trim) : c ∈ t := (trim_isInfix t).subset h

theorem trimStart_eq_nil_iff : t.trimStart = [] ↔ t.Blank := List.dropWhile_eq_nil_iff

theorem trimEnd_eq_nil_iff : t.trimEnd = [] ↔ t.Blank := List.rdropWhile_eq_nil_iff

/-- Leading blanks are removed first. -/
theorem trimStart_append_left (hb : b.Blank) (t : Text) : (b ++ t).trimStart = t.trimStart :=
  List.dropWhile_append_of_pos hb

/-- Blanks in front of a text do not matter. -/
theorem trim_append_left (hb : b.Blank) (t : Text) : (b ++ t).trim = t.trim := by
  rw [trim, trimStart_append_left hb, trim]

/-- A text that is not blank stops the removal of leading blanks. -/
theorem trimStart_append (h : ¬ t.Blank) (u : Text) : (t ++ u).trimStart = t.trimStart ++ u := by
  rw [trimStart, List.dropWhile_append, if_neg]
  · rfl
  · rw [List.isEmpty_iff]
    exact fun hn => h (trimStart_eq_nil_iff.1 hn)

/-- A text that is not blank stops the removal of trailing blanks. -/
theorem trimEnd_append (h : ¬ t.Blank) (u : Text) : (u ++ t).trimEnd = u ++ t.trimEnd := by
  have hr : ¬ Blank t.reverse := by
    intro hb
    apply h
    intro c hc
    exact hb c (List.mem_reverse.2 hc)
  have key : Text.trimStart (t.reverse ++ u.reverse) = t.reverse.dropWhile isBlank ++ u.reverse :=
    trimStart_append hr u.reverse
  rw [trimEnd, List.reverse_append, ← trimStart, key, List.reverse_append, List.reverse_reverse]
  rfl

/-- Trailing blanks are removed first. -/
theorem trimEnd_append_blank (he : e.Blank) (t : Text) : (t ++ e).trimEnd = t.trimEnd := by
  have hr : ∀ c ∈ e.reverse, isBlank c = true := by
    intro c hc
    exact he c (List.mem_reverse.1 hc)
  rw [trimEnd, List.reverse_append, List.dropWhile_append_of_pos hr]
  rfl

/-- Blanks behind a text do not matter. -/
theorem trim_append_right (he : e.Blank) (t : Text) : (t ++ e).trim = t.trim := by
  by_cases h : t.Blank
  · have hte : (t ++ e).Blank := fun c hc => (List.mem_append.1 hc).elim (h c) (he c)
    rw [trim, trim, trimStart_eq_nil_iff.2 h, trimStart_eq_nil_iff.2 hte]
  · rw [trim, trimStart_append h, trimEnd_append_blank he]
    rfl

theorem trim_eq_nil_iff : t.trim = [] ↔ t.Blank := by
  constructor
  · intro h
    have hs : t.trimStart.Blank := trimEnd_eq_nil_iff.1 h
    by_contra hne
    have h0 : t.trimStart ≠ [] := by
      intro hn
      exact hne (trimStart_eq_nil_iff.1 hn)
    have hhead : isBlank (t.trimStart.head h0) = false := List.head_dropWhile_not isBlank h0
    exact Bool.noConfusion ((hs _ (List.head_mem h0)).symm.trans hhead)
  · intro h
    rw [trim, trimStart_eq_nil_iff.2 h]
    rfl

/-- A text is blanks and what trimming its start leaves. -/
theorem exists_blank_append_trimStart (t : Text) : ∃ b : Text, b.Blank ∧ t = b ++ t.trimStart :=
  ⟨t.takeWhile isBlank, fun _ hc => List.mem_takeWhile_imp hc,
    List.takeWhile_append_dropWhile.symm⟩

/-- A text is what trimming its end leaves, and blanks. -/
theorem exists_trimEnd_append_blank (t : Text) : ∃ e : Text, e.Blank ∧ t = t.trimEnd ++ e :=
  ⟨t.rtakeWhile isBlank, fun _ hc => List.mem_rtakeWhile_imp hc,
    List.rdropWhile_append_rtakeWhile.symm⟩

/-- A text is its trimmed form between blanks. -/
theorem exists_blank_append_trim_append_blank (t : Text) :
    ∃ b e : Text, b.Blank ∧ e.Blank ∧ t = b ++ (t.trim ++ e) := by
  obtain ⟨b, hb, ht⟩ := exists_blank_append_trimStart t
  obtain ⟨e, he, hs⟩ := exists_trimEnd_append_blank t.trimStart
  exact ⟨b, e, hb, he, by rw [trim, ← hs, ← ht]⟩

@[simp] theorem trim_trimStart (t : Text) : t.trimStart.trim = t.trim := by
  obtain ⟨b, hb, ht⟩ := exists_blank_append_trimStart t
  rw [← trim_append_left hb, ← ht]

@[simp] theorem trim_trimEnd (t : Text) : t.trimEnd.trim = t.trim := by
  obtain ⟨e, he, ht⟩ := exists_trimEnd_append_blank t
  rw [← trim_append_right he, ← ht]

@[simp] theorem trimEnd_trim (t : Text) : t.trim.trimEnd = t.trim :=
  List.rdropWhile_idempotent _ _

/-- Trimming twice is trimming once. -/
@[simp] theorem trim_trim (t : Text) : t.trim.trim = t.trim :=
  calc t.trimStart.trimEnd.trim
    _ = t.trimStart.trim := trim_trimEnd _
    _ = t.trim := trim_trimStart t

/-- Removing trailing blanks keeps the prefixes that do not end in a blank. -/
theorem isPrefix_trim_of_isPrefix_trimStart {w : Text} (hw : w.trimEnd = w)
    (h : w <+: t.trimStart) : w <+: t.trim := by
  obtain ⟨e, he, ht⟩ := exists_trimEnd_append_blank t.trimStart
  obtain ⟨x, hx⟩ := h
  rw [ht] at hx
  rcases List.append_eq_append_iff.1 hx with ⟨y, hy, -⟩ | ⟨y, rfl, hy⟩
  · exact ⟨y, hy.symm⟩
  · have hb : Blank y := fun c hc => he c (hy ▸ List.mem_append_left x hc)
    rw [trimEnd_append_blank hb] at hw
    have htrim : t.trimStart.trimEnd.trimEnd = t.trim := trimEnd_trim t
    exact ⟨[], by rw [List.append_nil, ← hw, htrim]⟩

/-- Trimmed text does not begin with a blank. -/
theorem isBlank_head_of_trim_eq {c : Char} {r : Text} (h : Text.trim (c :: r) = c :: r) :
    isBlank c = false := by
  by_contra hc
  have hb : Blank [c] := by simpa [Blank] using hc
  have hr : Text.trim (c :: r) = Text.trim r := trim_append_left hb r
  have hl := (trim_isInfix r).length_le
  rw [← hr, h] at hl
  exact absurd hl (by simp)

/-- Removing leading blanks as well does not change what a text ends with. -/
theorem getLast?_trimEnd (t : Text) : t.trimEnd.getLast? = t.trim.getLast? := by
  by_cases hblank : t.Blank
  · rw [trimEnd_eq_nil_iff.2 hblank, trim_eq_nil_iff.2 hblank]
  · obtain ⟨b, -, ht⟩ := exists_blank_append_trimStart t
    have hne : t.trim ≠ [] := mt trim_eq_nil_iff.1 hblank
    have hstart : ¬ t.trimStart.Blank := by
      rwa [← trim_eq_nil_iff, trim_trimStart]
    have hend : t.trimEnd = b ++ t.trim := by
      conv_lhs => rw [ht, trimEnd_append hstart]
      rfl
    rw [hend, List.getLast?_append_of_ne_nil b hne]

/-! ## Texts whose ends are not blank -/

/-- A text that begins and ends with characters that are not blank. -/
@[mk_iff]
structure Solid (t : Text) : Prop where
  head : t.head?.map isBlank = some false
  last : t.getLast?.map isBlank = some false

instance : DecidablePred Solid := fun t => decidable_of_iff _ (solid_iff t).symm

theorem Solid.ne_nil (h : t.Solid) : t ≠ [] := by
  rintro rfl
  cases h.head

theorem Solid.trimStart_eq (h : t.Solid) : t.trimStart = t := by
  obtain ⟨c, hc, hblank⟩ := Option.map_eq_some_iff.1 h.head
  obtain ⟨r, rfl⟩ := List.head?_eq_some_iff.1 hc
  exact List.dropWhile_cons_of_neg (by simp [hblank])

/-- Solid text stops the removal of blanks at both ends. -/
theorem Solid.trim_eq (h : t.Solid) : t.trim = t := by
  obtain ⟨d, hd, hblank⟩ := Option.map_eq_some_iff.1 h.last
  obtain ⟨k, rfl⟩ := List.getLast?_eq_some_iff.1 hd
  rw [trim, h.trimStart_eq]
  exact List.rdropWhile_concat_neg isBlank k d (by simp [hblank])

theorem Solid.not_blank (h : t.Solid) : ¬ t.Blank := by
  rw [← trim_eq_nil_iff, h.trim_eq]
  exact h.ne_nil

/-- The ends of a joined text are those of its outer parts. -/
theorem Solid.append {a : Text} (ha : a.Solid) (hb : b.Solid) (w : Text) : (a ++ (w ++ b)).Solid := by
  have hne : w ++ b ≠ [] := List.append_ne_nil_of_right_ne_nil w hb.ne_nil
  refine ⟨?_, ?_⟩
  · rw [List.head?_append_of_ne_nil a ha.ne_nil, ha.head]
  · rw [List.getLast?_append_of_ne_nil a hne, List.getLast?_append_of_ne_nil w hb.ne_nil, hb.last]

theorem solid_of_forall (hne : t ≠ []) (h : ∀ c ∈ t, isBlank c = false) : t.Solid := by
  refine ⟨?_, ?_⟩
  · rw [List.head?_eq_some_head hne, Option.map_some, h _ (List.head_mem hne)]
  · rw [List.getLast?_eq_some_getLast hne, Option.map_some, h _ (List.getLast_mem hne)]

/-- Solid texts with solid texts behind them. -/
theorem solid_intercalate {w : Text} {ps : List Text} (hne : ps ≠ []) (h : ∀ p ∈ ps, p.Solid) :
    Solid (w.intercalate ps) := by
  induction ps with
  | nil => exact absurd rfl hne
  | cons p ps ih =>
    obtain ⟨hp, hps⟩ := List.forall_mem_cons.1 h
    cases ps with
    | nil => rwa [List.intercalate_singleton]
    | cons q ps =>
      rw [List.intercalate_cons_cons, List.append_assoc]
      exact hp.append (ih (List.cons_ne_nil q ps) hps) w

/-- No leading blanks are removed in front of a solid text. -/
theorem Solid.trimStart_append (h : t.Solid) (u : Text) : (t ++ u).trimStart = t ++ u := by
  rw [Text.trimStart_append h.not_blank, h.trimStart_eq]

/-- Behind a solid text only trailing blanks are removed. -/
theorem Solid.trim_append (h : t.Solid) (u : Text) : (t ++ u).trim = t ++ u.trimEnd := by
  by_cases hu : u.Blank
  · rw [trim_append_right hu, h.trim_eq, trimEnd_eq_nil_iff.2 hu, List.append_nil]
  · rw [trim, h.trimStart_append, trimEnd_append hu]

/-- A text that neither begins nor ends with a blank is trimmed. -/
theorem trim_cons_concat {c d : Char} (hc : isBlank c = false) (hd : isBlank d = false) (t : Text) :
    Text.trim (c :: (t ++ [d])) = c :: (t ++ [d]) := by
  refine Solid.trim_eq ⟨by rw [List.head?_cons, Option.map_some, hc], ?_⟩
  rw [← List.cons_append, List.getLast?_concat, Option.map_some, hd]

/-- A prefix of a trimmed text has no blanks in front. -/
theorem trim_isPrefix_of_isPrefix (hv : v.trim = v) (h : t <+: v) : t.trim <+: v := by
  have hs : t.trimStart = t := by
    cases t with
    | nil => rfl
    | cons c r =>
      obtain ⟨u, rfl⟩ := h
      exact List.dropWhile_cons_of_neg (by simp [isBlank_head_of_trim_eq hv])
  rw [trim, hs]
  exact (trimEnd_isPrefix t).trans h

end Text

end KScript
