import KScript.Literal.Pieces
import KScript.Proofs.Literal.Scan
import KScript.Proofs.Text.Split

/-!
# Pieces outside literals

Pieces are contiguous parts of the text, the first one a prefix, and cutting succeeds exactly when
every literal is closed.  `Text.CutsInto` says what the pieces of a text are by its first separator.
-/

namespace KScript

namespace Text

variable {sep : Char → Bool} {t p : Text} {ps : List Text}

@[simp] theorem map_char_marks (t : Text) : t.marks.map Mark.char = t :=
  Scan.map_char_marks Scan.start t

theorem pieces_ne_nil (sep : Char → Bool) (t : Text) : t.pieces sep ≠ [] := by
  rw [pieces, ne_eq, List.map_eq_nil_iff]
  exact List.splitOnP_ne_nil _ _

/-- Every piece is a contiguous part of the text. -/
theorem infix_of_mem_pieces (h : p ∈ t.pieces sep) : p <:+: t := by
  obtain ⟨ms, hms, rfl⟩ := List.mem_map.1 h
  have hi := (infix_of_mem_splitOnP hms).map Mark.char
  rwa [map_char_marks] at hi

/-- The first piece is a prefix. -/
theorem pieces_head_isPrefix (h : t.pieces sep = p :: ps) : p <+: t := by
  obtain ⟨ms, mss, hms, rfl, -⟩ := List.map_eq_cons_iff.1 h
  have hp := (splitOnP_head_isPrefix hms).map Mark.char
  rwa [map_char_marks] at hp

theorem cut_eq_ok_iff : t.cut sep = .ok ps ↔ t.closed = true ∧ ps = t.pieces sep := by
  unfold cut
  split
  · next h => simp [h, eq_comm]
  · next h => simp [h]

theorem infix_of_mem_cut (h : t.cut sep = .ok ps) (hp : p ∈ ps) : p <:+: t := by
  rw [(cut_eq_ok_iff.1 h).2] at hp
  exact infix_of_mem_pieces hp

/-! ## Pieces by the first separator -/

/-- A text is cut at its first structural separator, and what follows is scanned afresh. -/
inductive CutsInto (sep : Char → Bool) : Text → List Text → Prop
  | whole (t : Text) (h : ∀ c ∈ t.skeleton, sep c = false) : CutsInto sep t [t]
  | cut (a : Text) (c : Char) {b : Text} {ps : List Text} (ha : ∀ d ∈ a.skeleton, sep d = false)
      (hc : (Scan.start.past a).structural c = true) (hsep : sep c = true)
      (hb : CutsInto sep b ps) : CutsInto sep (a ++ c :: b) (a :: ps)

/-- The scan of what follows a structural character is the scan of a text of its own. -/
theorem marks_append_cons {a : Text} {c : Char} (hc : (Scan.start.past a).structural c = true)
    (b : Text) : (a ++ c :: b).marks = a.marks ++ ⟨c, true⟩ :: b.marks := by
  rw [marks, Scan.marks_append, Scan.marks_cons, hc, Scan.step_of_structural hc]
  rfl

theorem forall_mem_skeleton {f : Char → Prop} :
    (∀ c ∈ t.skeleton, f c) ↔ ∀ m ∈ t.marks, m.structural = true → f m.char := by
  simp only [skeleton, List.forall_mem_map, List.mem_filter, and_imp]

theorem CutsInto.pieces_eq (h : CutsInto sep t ps) : t.pieces sep = ps := by
  have free {a : Text} (ha : ∀ d ∈ a.skeleton, sep d = false) :
      ∀ m ∈ a.marks, (m.structural && sep m.char) = false := by
    intro m hm
    cases hs : m.structural with
    | false => rfl
    | true => exact forall_mem_skeleton.1 ha m hm hs
  induction h with
  | whole t h => rw [pieces, List.splitOnP_eq_singleton (free h), List.map_singleton, map_char_marks]
  | @cut a c b ps ha hc hsep hb ih =>
    rw [pieces, marks_append_cons hc, List.splitOnP_append_cons _ _ (by simpa using hsep),
      List.splitOnP_eq_singleton (free ha), List.map_append, List.map_singleton, map_char_marks,
      List.singleton_append, ← ih, pieces]

/-- Every text is cut in this way. -/
theorem cutsInto_pieces (sep : Char → Bool) (t : Text) : CutsInto sep t (t.pieces sep) := by
  suffices ∃ ps, CutsInto sep t ps by
    obtain ⟨ps, h⟩ := this
    exact h.pieces_eq.symm ▸ h
  -- The separators become fewer with every cut, and so does the text.
  induction hn : t.length using Nat.strong_induction_on generalizing t with
  | _ n ih =>
    cases hfind : t.marks.find? fun m => m.structural && sep m.char with
    | none =>
      refine ⟨[t], .whole t (forall_mem_skeleton.2 fun m hm hs => ?_)⟩
      simpa [hs] using List.find?_eq_none.1 hfind m hm
    | some m =>
      obtain ⟨hm, as, bs, hms, has⟩ := List.find?_eq_some_iff_append.1 hfind
      obtain ⟨a, b, rfl, rfl, hstruct⟩ := Scan.exists_of_marks_eq hms
      obtain ⟨hs, hsep⟩ := Bool.and_eq_true_iff.1 hm
      obtain ⟨ps, hb⟩ := ih b.length (by simp at hn; omega) b rfl
      refine ⟨a :: ps, .cut a m.char (forall_mem_skeleton.2 fun d hd hds => ?_)
        (hstruct.trans hs) hsep hb⟩
      simpa [hds] using has d hd

/-! ## Blanks around pieces -/

variable {b e : Text}

/-- Blanks in front of a text stand in front of its first piece. -/
theorem CutsInto.blank_append (hb : b.Blank) (hsep : ∀ c, isBlank c = true → sep c = false)
    (h : CutsInto sep t ps) : ∃ qs, CutsInto sep (b ++ t) qs ∧ qs.map trim = ps.map trim := by
  have free {a : Text} (ha : ∀ d ∈ a.skeleton, sep d = false) :
      ∀ d ∈ (b ++ a).skeleton, sep d = false := by
    intro d hd
    rw [skeleton_append (Scan.past_start_inert hb.inert)] at hd
    exact (List.mem_append.1 hd).elim (fun hd => hsep d (hb d (mem_of_mem_skeleton hd))) (ha d)
  cases h with
  | whole t h => exact ⟨_, .whole _ (free h), by simp [trim_append_left hb]⟩
  | @cut a c r ps ha hc hs hr =>
    have hc' : (Scan.start.past (b ++ a)).structural c = true := by
      rwa [Scan.past_append, Scan.past_start_inert hb.inert]
    refine ⟨(b ++ a) :: ps, ?_, by simp [trim_append_left hb]⟩
    rw [← List.append_assoc]
    exact .cut _ c (free ha) hc' hs hr

/-- Blanks behind a text stand behind its last piece. -/
theorem CutsInto.append_blank (he : e.Blank) (hsep : ∀ c, isBlank c = true → sep c = false)
    (h : CutsInto sep t ps) : ∃ qs, CutsInto sep (t ++ e) qs ∧ qs.map trim = ps.map trim := by
  induction h with
  | whole t h =>
    refine ⟨[t ++ e], .whole _ fun d hd => ?_, by simp [trim_append_right he]⟩
    exact (mem_skeleton_append hd).elim (h d) fun hd => hsep d (he d hd)
  | cut a c ha hc hs hr ih =>
    obtain ⟨qs, hqs, hmap⟩ := ih
    refine ⟨a :: qs, ?_, by rw [List.map_cons, List.map_cons, hmap]⟩
    rw [List.append_assoc, List.cons_append]
    exact .cut a c ha hc hs hqs

/-- Trimming a text trims its first and its last piece. -/
theorem map_trim_pieces_trim (hsep : ∀ c, isBlank c = true → sep c = false) (t : Text) :
    (t.trim.pieces sep).map trim = (t.pieces sep).map trim := by
  obtain ⟨b, e, hb, he, ht⟩ := exists_blank_append_trim_append_blank t
  obtain ⟨qs, hqs, hq⟩ := (cutsInto_pieces sep t.trim).append_blank he hsep
  obtain ⟨rs, hrs, hr⟩ := hqs.blank_append hb hsep
  rw [← ht] at hrs
  rw [hrs.pieces_eq, hr, hq]

end Text

end KScript
