import KScript.Proofs.Literal.Pieces
import KScript.Proofs.Literal.Quoted
import Mathlib.Data.List.Forall2

/-!
# Texts that differ in what their literals say

Two texts are alike if they differ at ordinary characters of their literals only.  A scan passes them
alike, so they have their separators at the same places, and their pieces are alike again.
-/

namespace KScript

namespace Scan

/-- Whether `c` is an ordinary character of a literal at the position: neither a quote nor a
backslash, and not escaped. -/
def ordinary (s : Scan) (c : Char) : Bool := s.literal.isSome && !s.escaped && !reacts c

/-- Texts that differ, in a scan from `s`, at ordinary characters of literals only, and have characters
with the property `free` there. -/
inductive Alike (free : Char → Bool) : Scan → Text → Text → Prop
  | nil {s : Scan} : Alike free s [] []
  | keep {s : Scan} {t t' : Text} (c : Char) (h : Alike free (s.step c) t t') :
      Alike free s (c :: t) (c :: t')
  | vary {s : Scan} {c c' : Char} {t t' : Text} (hc : s.ordinary c = true) (hf : free c = true)
      (hc' : s.ordinary c' = true) (hf' : free c' = true) (h : Alike free s t t') :
      Alike free s (c :: t) (c' :: t')

variable {free free' : Char → Bool} {s : Scan} {c d : Char} {t t' u u' : Text}

theorem not_reacts_of_ordinary (h : s.ordinary c = true) : reacts c = false := by
  simp only [ordinary, Bool.and_eq_true, Bool.not_eq_true'] at h
  exact h.2

theorem not_ordinary_of_literal (h : s.literal = none) (c : Char) : s.ordinary c = false := by
  simp [ordinary, h]

theorem not_structural_of_ordinary (h : s.ordinary c = true) : s.structural c = false := by
  simp only [ordinary, Bool.and_eq_true] at h
  exact not_structural_of_isSome h.1.1 c

/-- Ordinary characters leave a scan where it is. -/
theorem step_of_ordinary (h : s.ordinary c = true) : s.step c = s := by
  rw [step_of_not_reacts (not_reacts_of_ordinary h)]
  obtain ⟨literal, escaped⟩ := s
  simp only [ordinary, Bool.and_eq_true, Bool.not_eq_true'] at h
  rw [h.1.2]

/-! ## Differences -/

namespace Alike

theorem refl (s : Scan) (t : Text) : Alike free s t t := by
  induction t generalizing s with
  | nil => exact .nil
  | cons c t ih => exact .keep c (ih _)

theorem symm (h : Alike free s t t') : Alike free s t' t := by
  induction h with
  | nil => exact .nil
  | keep c _ ih => exact .keep c ih
  | vary hc hf hc' hf' _ ih => exact .vary hc' hf' hc hf ih

theorem mono (hfree : ∀ c, free c = true → free' c = true) (h : Alike free s t t') :
    Alike free' s t t' := by
  induction h with
  | nil => exact .nil
  | keep c _ ih => exact .keep c ih
  | vary hc hf hc' hf' _ ih => exact .vary hc (hfree _ hf) hc' (hfree _ hf') ih

theorem cons_cons_iff : Alike free s (c :: t) (d :: t') ↔
    c = d ∧ Alike free (s.step c) t t' ∨
      (s.ordinary c = true ∧ free c = true ∧ s.ordinary d = true ∧ free d = true) ∧
        Alike free s t t' := by
  constructor
  · intro h
    cases h with
    | keep _ h => exact .inl ⟨rfl, h⟩
    | vary hc hf hd hf' h => exact .inr ⟨⟨hc, hf, hd, hf'⟩, h⟩
  · rintro (⟨rfl, h⟩ | ⟨⟨hc, hf, hd, hf'⟩, h⟩)
    · exact .keep c h
    · exact .vary hc hf hd hf' h

instance decidable (free : Char → Bool) : (s : Scan) → (t t' : Text) → Decidable (Alike free s t t')
  | _, [], [] => .isTrue .nil
  | _, [], _ :: _ => .isFalse fun h => nomatch h
  | _, _ :: _, [] => .isFalse fun h => nomatch h
  | s, c :: t, _ :: t' =>
    have := decidable free (s.step c) t t'
    have := decidable free s t t'
    decidable_of_iff _ cons_cons_iff.symm

theorem length_eq (h : Alike free s t t') : t.length = t'.length := by
  induction h with
  | nil => rfl
  | keep c _ ih => rw [List.length_cons, List.length_cons, ih]
  | vary _ _ _ _ _ ih => rw [List.length_cons, List.length_cons, ih]

/-- Both texts leave the scan at the same place. -/
theorem past_eq (h : Alike free s t t') : s.past t = s.past t' := by
  induction h with
  | nil => rfl
  | keep c _ ih => exact ih
  | vary hc _ hc' _ _ ih => rw [past_cons, past_cons, step_of_ordinary hc, step_of_ordinary hc', ih]

theorem append (h : Alike free s t t') (hu : Alike free (s.past t) u u') :
    Alike free s (t ++ u) (t' ++ u') := by
  induction h with
  | nil => exact hu
  | keep c _ ih => exact .keep c (ih hu)
  | vary hc hf hc' hf' _ ih =>
    rw [past_cons, step_of_ordinary hc] at hu
    exact .vary hc hf hc' hf' (ih hu)

/-- What is alike a joined text falls apart like it. -/
theorem append_inv {w : Text} (h : Alike free s (t ++ u) w) :
    ∃ t' u', w = t' ++ u' ∧ Alike free s t t' ∧ Alike free (s.past t) u u' := by
  induction t generalizing s w with
  | nil => exact ⟨[], w, rfl, .nil, h⟩
  | cons c t ih =>
    rw [List.cons_append] at h
    cases h with
    | keep _ h =>
      obtain ⟨t', u', rfl, ht, hu⟩ := ih h
      exact ⟨c :: t', u', rfl, .keep c ht, hu⟩
    | @vary _ _ c' _ _ hc hf hc' hf' h =>
      obtain ⟨t', u', rfl, ht, hu⟩ := ih h
      refine ⟨c' :: t', u', rfl, .vary hc hf hc' hf' ht, ?_⟩
      rwa [past_cons, step_of_ordinary hc]

/-- A character that is not ordinary is kept. -/
theorem cons_inv {w : Text} (h : Alike free s (c :: t) w) (hc : s.ordinary c = false) :
    ∃ t', w = c :: t' ∧ Alike free (s.step c) t t' := by
  cases h with
  | keep _ h => exact ⟨_, rfl, h⟩
  | vary hc' => exact Bool.noConfusion (hc.symm.trans hc')

/-- Inert text outside literals is kept. -/
theorem eq_of_inert (h : Alike free s t t') (hs : s.literal = none) (ht : t.Inert) : t' = t := by
  induction h with
  | nil => rfl
  | keep c _ ih =>
    obtain ⟨hc, ht⟩ := List.forall_mem_cons.1 ht
    rw [ih (by rw [step_of_not_reacts hc, hs]) ht]
  | @vary s c _ _ _ hc =>
    rw [not_ordinary_of_literal hs] at hc
    cases hc

/-- A character that is not free occurs in both texts or in none of them. -/
theorem mem_iff (h : Alike free s t t') (hd : free d = false) : d ∈ t ↔ d ∈ t' := by
  induction h with
  | nil => rfl
  | keep c _ ih => rw [List.mem_cons, List.mem_cons, ih]
  | @vary _ c c' _ _ _ hf _ hf' _ ih =>
    have hne {e : Char} (he : free e = true) : d ≠ e := fun h =>
      Bool.noConfusion ((h ▸ hd).symm.trans he)
    rw [List.mem_cons, List.mem_cons, ih, or_iff_right (hne hf), or_iff_right (hne hf')]

/-- The structural characters are kept. -/
theorem filter_structural_marks (h : Alike free s t t') :
    (s.marks t).filter (·.structural) = (s.marks t').filter (·.structural) := by
  induction h with
  | nil => rfl
  | keep c _ ih => rw [marks_cons, marks_cons, List.filter_cons, List.filter_cons, ih]
  | @vary s c c' _ _ hc _ hc' _ _ ih =>
    rw [marks_cons, marks_cons, not_structural_of_ordinary hc, not_structural_of_ordinary hc',
      step_of_ordinary hc, step_of_ordinary hc', List.filter_cons_of_neg Bool.false_ne_true,
      List.filter_cons_of_neg Bool.false_ne_true, ih]

end Alike

/-- A text with `p` in place of every ordinary character of its literals. -/
def masked (p : Char) (s : Scan) : Text → Text
  | [] => []
  | c :: r => (if s.ordinary c then p else c) :: masked p (s.step c) r

/-- Texts that are alike are the same once the ordinary characters of their literals are replaced. -/
theorem Alike.masked_eq (h : Alike free s t t') (p : Char) : s.masked p t = s.masked p t' := by
  induction h with
  | nil => rfl
  | keep c _ ih => rw [masked, masked, ih]
  | vary hc _ hc' _ _ ih =>
    rw [masked, masked, if_pos hc, if_pos hc', step_of_ordinary hc, step_of_ordinary hc', ih]

end Scan

namespace Text

/-- Closed texts that differ at ordinary characters of their literals only. -/
structure Alike (free : Char → Bool) (t t' : Text) : Prop where
  scan : Scan.start.Alike free t t'
  closed : t.closed = true

namespace Alike

variable {free free' : Char → Bool} {a b t t' u u' w r : Text} {c d : Char}

theorem refl (h : t.closed = true) : Alike free t t := ⟨.refl _ t, h⟩

theorem symm (h : Alike free t t') : Alike free t' t :=
  ⟨h.scan.symm, by rw [Text.closed, ← h.scan.past_eq]; exact h.closed⟩

theorem mono (hfree : ∀ c, free c = true → free' c = true) (h : Alike free t t') :
    Alike free' t t' := ⟨h.scan.mono hfree, h.closed⟩

/-- A scan leaves a closed text outside literals. -/
theorem literal_past (h : Alike free t t') : (Scan.start.past t).literal = none := by
  simpa [Text.closed] using h.closed

theorem eq_of_inert (h : Alike free t t') (ht : t.Inert) : t' = t := h.scan.eq_of_inert rfl ht

theorem isEmpty_eq (h : Alike free t t') : t.isEmpty = t'.isEmpty := by
  rw [Bool.eq_iff_iff, List.isEmpty_iff_length_eq_zero, List.isEmpty_iff_length_eq_zero,
    h.scan.length_eq]

theorem skeleton_eq (h : Alike free t t') : t.skeleton = t'.skeleton := by
  rw [skeleton, skeleton, marks, marks, h.scan.filter_structural_marks]

/-- A property that no free character has holds of a character of both texts or of none. -/
theorem any_eq {f : Char → Bool} (h : Alike free t t') (hf : ∀ c, f c = true → free c = false) :
    t.any f = t'.any f := by
  rw [Bool.eq_iff_iff, List.any_eq_true, List.any_eq_true]
  exact exists_congr fun c => and_congr_left fun hc => h.scan.mem_iff (hf c hc)

theorem contains_eq (h : Alike free t t') (hd : free d = false) : t.contains d = t'.contains d := by
  rw [Bool.eq_iff_iff, List.contains_iff_mem, List.contains_iff_mem, h.scan.mem_iff hd]

/-! ## Joined texts -/

/-- Inert text between two texts separates their literals. -/
theorem append_word (h : Alike free t t') (hw : w.Inert) (hne : w ≠ []) (hu : Alike free u u') :
    Alike free (t ++ (w ++ u)) (t' ++ (w ++ u')) := by
  have hpast : (Scan.start.past t).past w = .start := by
    rw [Scan.past_inert hw hne, h.literal_past]
    rfl
  refine ⟨h.scan.append (Scan.Alike.append (.refl _ w) ?_), ?_⟩
  · rw [hpast]
    exact hu.scan
  · rw [Text.closed, Scan.past_append, Scan.past_append, hpast]
    exact hu.closed

theorem append_cons (h : Alike free t t') (hc : Scan.reacts c = false) (hu : Alike free u u') :
    Alike free (t ++ c :: u) (t' ++ c :: u') :=
  h.append_word (List.forall_mem_singleton.2 hc) (List.cons_ne_nil c []) hu

/-- Inert text in front of two texts changes nothing about their literals. -/
theorem word_append (hw : w.Inert) (h : Alike free t t') : Alike free (w ++ t) (w ++ t') := by
  refine ⟨Scan.Alike.append (.refl _ w) ?_, ?_⟩
  · rw [Scan.past_start_inert hw]
    exact h.scan
  · rw [closed_append_left hw, h.closed]

/-- Inert text at the start is kept. -/
theorem word_append_inv (h : Alike free (w ++ t) u) (hw : w.Inert) :
    ∃ t', u = w ++ t' ∧ Alike free t t' := by
  obtain ⟨v, t', rfl, hv, ht⟩ := h.scan.append_inv
  rw [Scan.past_start_inert hw] at ht
  exact ⟨t', by rw [hv.eq_of_inert rfl hw], ht, by rw [← closed_append_left hw, h.closed]⟩

/-- A character outside literals that no scan acts on is kept, and both sides of it are alike. -/
theorem append_cons_inv (h : Alike free (a ++ c :: b) u) (ha : a.closed = true)
    (hc : Scan.reacts c = false) :
    ∃ a' b', u = a' ++ c :: b' ∧ Alike free a a' ∧ Alike free b b' := by
  obtain ⟨a', v, rfl, ha', hv⟩ := h.scan.append_inv
  have hlit : (Scan.start.past a).literal = none := by simpa [Text.closed] using ha
  have hstep : (Scan.start.past a).step c = .start := by
    rw [Scan.step_of_not_reacts hc, hlit]
    rfl
  obtain ⟨b', rfl, hb⟩ := hv.cons_inv (Scan.not_ordinary_of_literal hlit c)
  rw [hstep] at hb
  refine ⟨a', b', rfl, ⟨ha', ha⟩, hb, ?_⟩
  have hclosed := h.closed
  rwa [Text.closed, Scan.past_append, Scan.past_cons, hstep] at hclosed

/-- The last character is kept, and what stands before it is alike if no scan acts on it. -/
theorem concat_inv (h : Alike free (a ++ [c]) u) (hc : Scan.reacts c = false) :
    ∃ a', u = a' ++ [c] ∧ Alike free a a' := by
  have ha : a.closed = true := by
    rw [← closed_append_right (List.forall_mem_singleton.2 hc), h.closed]
  obtain ⟨a', b', rfl, ha', hb⟩ := h.append_cons_inv ha hc
  obtain rfl := hb.eq_of_inert (List.forall_mem_nil _)
  exact ⟨a', rfl, ha'⟩

theorem head?_eq (h : Alike free t t') : t.head? = t'.head? := by
  cases t with
  | nil => rw [h.eq_of_inert (List.forall_mem_nil _)]
  | cons c t =>
    obtain ⟨t', rfl, -⟩ := h.scan.cons_inv (Scan.not_ordinary_of_literal rfl c)
    rfl

theorem getLast?_eq (h : Alike free t t') : t.getLast? = t'.getLast? := by
  cases ht : t.getLast? with
  | none =>
    rw [List.getLast?_eq_none_iff.1 ht] at h
    rw [h.eq_of_inert (List.forall_mem_nil _)]
    rfl
  | some c =>
    obtain ⟨k, rfl⟩ := List.getLast?_eq_some_iff.1 ht
    obtain ⟨k', w, rfl, -, hw⟩ := h.scan.append_inv
    -- An ordinary character would leave the scan inside its literal.
    have hc : (Scan.start.past k).ordinary c = false := by
      rw [Bool.eq_false_iff]
      intro ho
      have hclosed := h.literal_past
      rw [Scan.past_append, Scan.past_cons, Scan.past_nil, Scan.step_of_ordinary ho] at hclosed
      rw [Scan.not_ordinary_of_literal hclosed] at ho
      cases ho
    obtain ⟨v, rfl, hv⟩ := hw.cons_inv hc
    cases hv
    simp

/-! ## Trimmed texts -/

theorem exists_trim_eq (h : Alike free t t') : ∃ m, Alike free t.trim m ∧ t'.trim = m.trim := by
  obtain ⟨b, e, hb, he, ht⟩ := exists_blank_append_trim_append_blank t
  have hclosed : t.trim.closed = true := by rw [closed_trim, h.closed]
  rw [ht] at h
  obtain ⟨v, rfl, hv⟩ := h.word_append_inv hb.inert
  obtain ⟨m, e', rfl, hm, he'⟩ := hv.scan.append_inv
  have hm' : Alike free t.trim m := ⟨hm, hclosed⟩
  rw [he'.eq_of_inert hm'.literal_past he.inert]
  exact ⟨m, hm', by rw [trim_append_left hb, trim_append_right he]⟩

/-- Trimming removes the same blanks from both texts. -/
theorem trim (h : Alike free t t') : Alike free t.trim t'.trim := by
  obtain ⟨m, hm, ht'⟩ := h.exists_trim_eq
  obtain ⟨n, hn, ht⟩ := h.symm.exists_trim_eq
  -- Neither trimmed text is longer than the other.
  have hle : m.length ≤ m.trim.length := calc
    m.length = t.trim.length := hm.scan.length_eq.symm
    _ = n.trim.length := by rw [ht]
    _ ≤ n.length := (trim_isInfix n).length_le
    _ = m.trim.length := by rw [← hn.scan.length_eq, ht']
  have hmtrim : m.trim = m :=
    (trim_isInfix m).eq_of_length (Nat.le_antisymm (trim_isInfix m).length_le hle)
  rwa [ht', hmtrim]

end Alike

/-! ## Pieces -/

variable {free : Char → Bool} {sep : Char → Bool} {t t' : Text} {ps : List Text}

/-- Texts that are alike are cut at the same places. -/
theorem CutsInto.alike (h : CutsInto sep t ps) (ht : Alike free t t') :
    ∃ ps', CutsInto sep t' ps' ∧ List.Forall₂ (Alike free) ps ps' := by
  induction h generalizing t' with
  | whole t h => exact ⟨[t'], .whole t' (ht.skeleton_eq ▸ h), .cons ht .nil⟩
  | cut a c ha hc hsep hb ih =>
    obtain ⟨hpast, hreacts⟩ := Scan.structural_iff.1 hc
    have hclosed : a.closed = true := by
      rw [closed, hpast]
      rfl
    obtain ⟨a', b', rfl, ha', hb'⟩ := ht.append_cons_inv hclosed hreacts
    obtain ⟨ps', hps, hall⟩ := ih hb'
    refine ⟨a' :: ps', .cut a' c (ha'.skeleton_eq ▸ ha) ?_ hsep hps, .cons ha' hall⟩
    rwa [← ha'.scan.past_eq]

namespace Alike

theorem pieces (h : Alike free t t') (sep : Char → Bool) :
    List.Forall₂ (Alike free) (t.pieces sep) (t'.pieces sep) := by
  obtain ⟨ps', hps, hall⟩ := (cutsInto_pieces sep t).alike h
  rwa [hps.pieces_eq]

end Alike

/-! ## Quoted texts -/

end Text

namespace Scan

variable {free : Char → Bool} {s : Scan} {c : Char} {t t' : Text}

/-- All that is ordinary in a literal of a text is ordinary in the literal that quotes the text. -/
theorem Alike.escape (h : Alike free s t t') :
    Alike free inDouble (Text.escape t) (Text.escape t') := by
  induction h with
  | nil => exact .nil
  | keep c _ ih =>
    unfold Text.escape
    split
    · exact .keep '\\' (.keep c ih)
    · next hc => exact .keep c (by rwa [step_inDouble hc])
  | @vary s c c' _ _ hc hf hc' hf' _ ih =>
    have hne {e : Char} (he : s.ordinary e = true) : ¬ (e = '"' ∨ e = '\\') := by
      rintro (rfl | rfl) <;> exact absurd (not_reacts_of_ordinary he) (by decide)
    have hord {e : Char} (he : s.ordinary e = true) : inDouble.ordinary e = true := by
      rw [ordinary, not_reacts_of_ordinary he]
      rfl
    unfold Text.escape
    rw [if_neg (hne hc), if_neg (hne hc')]
    exact .vary (hord hc) hf (hord hc') hf' ih

end Scan

namespace Text

theorem Alike.quote {free : Char → Bool} {t t' : Text} (h : Alike free t t') :
    Alike free t.quote t'.quote :=
  ⟨.keep '"' (h.scan.escape.append (.refl _ ['"'])), closed_quote t⟩

/-! ## Characters inside literals -/

/-- Whether `d` stands inside a literal. -/
def hides (d : Char) (s : Scan) : Text → Bool
  | [] => false
  | c :: r => s.literal.isSome && c == d || hides d (s.step c) r

variable {d : Char} {s : Scan} {a b t t' : Text}

theorem hides_append (d : Char) (s : Scan) (a b : Text) :
    hides d s (a ++ b) = (hides d s a || hides d (s.past a) b) := by
  induction a generalizing s with
  | nil => rfl
  | cons c a ih => rw [List.cons_append, hides, hides, ih, Bool.or_assoc, Scan.past_cons]

/-- What stands before a character that no literal hides is closed. -/
theorem closed_of_not_hides (h : hides d .start (a ++ d :: b) = false) : a.closed = true := by
  rw [hides_append, hides, Bool.or_eq_false_iff, Bool.or_eq_false_iff] at h
  simpa [closed] using h.2.1

/-- Texts in which no literal hides `d` do not differ at `d`. -/
theorem alike_of_not_hides (h : s.Alike (fun _ => true) t t') (ht : hides d s t = false)
    (ht' : hides d s t' = false) : s.Alike (· != d) t t' := by
  induction h with
  | nil => exact .nil
  | keep c _ ih =>
    rw [hides, Bool.or_eq_false_iff] at ht ht'
    exact .keep c (ih ht.2 ht'.2)
  | @vary s c c' _ _ hc _ hc' _ _ ih =>
    rw [hides, Bool.or_eq_false_iff] at ht ht'
    have hne {e : Char} (he : s.ordinary e = true) (h : (s.literal.isSome && e == d) = false) :
        (e != d) = true := by
      simp only [Scan.ordinary, Bool.and_eq_true] at he
      rw [he.1.1, Bool.true_and] at h
      rw [bne, h]
      rfl
    rw [Scan.step_of_ordinary hc] at ht
    rw [Scan.step_of_ordinary hc'] at ht'
    exact .vary hc (hne hc ht.1) hc' (hne hc' ht'.1) (ih ht.2 ht'.2)

/-- Trimming brings no character into a literal. -/
theorem not_hides_trim (h : hides d .start t = false) : hides d .start t.trim = false := by
  obtain ⟨b, e, hb, -, ht⟩ := exists_blank_append_trim_append_blank t
  rw [ht, hides_append, Scan.past_start_inert hb.inert, hides_append, Bool.or_eq_false_iff,
    Bool.or_eq_false_iff] at h
  exact h.2.1

end Text

end KScript
