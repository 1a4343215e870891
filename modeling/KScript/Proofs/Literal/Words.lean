import KScript.Proofs.Value.Failures

/-!
# Words and the gaps between them

A text is blanks, and then words with a gap behind each of them.  Cutting it at blanks gives the words
back, since only a blank outside literals ends a word; an escaped blank and one in a literal belong to
the word that they stand in.  A cut at blanks, at commas or at semicolons fails for the same reason, a
literal that is left open, in which no separator has a part.
-/

namespace KScript

namespace Text

variable {b t w : Text} {ws qs : List Text} {ps : List (Text × Text)}

/-! ## Gaps -/

/-- Words with the gap behind each of them, joined. -/
def spaced (ps : List (Text × Text)) : Text := ps.flatMap fun p => p.1 ++ p.2

@[simp] theorem spaced_nil : spaced [] = [] := rfl

@[simp] theorem spaced_cons (w g : Text) (ps : List (Text × Text)) :
    spaced ((w, g) :: ps) = w ++ (g ++ spaced ps) := by
  rw [spaced, List.flatMap_cons, List.append_assoc]
  rfl

/-- A text that a cut at blanks leaves as it is: not empty, without blanks outside literals, and with no
literal left open.  It may end with an escape. -/
@[mk_iff]
structure Unspaced (t : Text) : Prop where
  ne_nil : t ≠ []
  no_blank : ∀ c ∈ t.skeleton, isBlank c = false
  closed : t.closed = true

instance : DecidablePred Unspaced := fun t =>
  decidable_of_iff (t ≠ [] ∧ t.skeleton.all (fun c => !isBlank c) = true ∧ t.closed = true)
    (by simp [unspaced_iff])

/-- Words of which all but the last have a gap behind them.  An escape at the end of a word would take a
part of the gap in. -/
structure Gaps (ps : List (Text × Text)) : Prop where
  unspaced : ∀ p ∈ ps, p.1.Unspaced
  blank : ∀ p ∈ ps, p.2.Blank
  ne_nil : ∀ p ∈ ps.dropLast, p.2 ≠ []
  unescaped : ∀ p ∈ ps, p.2 ≠ [] → (Scan.start.past p.1).escaped = false

namespace Gaps

variable {g : Text} {c : Char}

theorem nil : Gaps [] where
  unspaced := List.forall_mem_nil _
  blank := List.forall_mem_nil _
  ne_nil := List.forall_mem_nil _
  unescaped := List.forall_mem_nil _

theorem last (hw : w.Unspaced) : Gaps [(w, [])] where
  unspaced := List.forall_mem_singleton.2 hw
  blank := List.forall_mem_singleton.2 (List.forall_mem_nil _)
  ne_nil := List.forall_mem_nil _
  unescaped := List.forall_mem_singleton.2 fun h => absurd rfl h

theorem cons (hw : w.Unspaced) (hpast : Scan.start.past w = .start) (hg : Blank (c :: g))
    (h : Gaps ps) : Gaps ((w, c :: g) :: ps) where
  unspaced := List.forall_mem_cons.2 ⟨hw, h.unspaced⟩
  blank := List.forall_mem_cons.2 ⟨hg, h.blank⟩
  ne_nil := by
    cases ps with
    | nil => exact List.forall_mem_nil _
    | cons p ps => exact List.forall_mem_cons.2 ⟨List.cons_ne_nil c g, h.ne_nil⟩
  unescaped := List.forall_mem_cons.2 ⟨fun _ => (past_eq_start_iff.1 hpast).2, h.unescaped⟩

theorem tail {p : Text × Text} (h : Gaps (p :: ps)) : Gaps ps where
  unspaced := (List.forall_mem_cons.1 h.unspaced).2
  blank := (List.forall_mem_cons.1 h.blank).2
  ne_nil := by
    cases ps with
    | nil => exact List.forall_mem_nil _
    | cons q ps => exact (List.forall_mem_cons.1 h.ne_nil).2
  unescaped := (List.forall_mem_cons.1 h.unescaped).2

/-- Only the last word has no gap behind it. -/
theorem eq_nil (h : Gaps ((w, []) :: ps)) : ps = [] := by
  cases ps with
  | nil => rfl
  | cons q ps => exact absurd rfl (h.ne_nil (w, []) List.mem_cons_self)

/-- A scan could start behind a word with a gap behind it. -/
theorem past_eq_start (h : Gaps ((w, c :: g) :: ps)) : Scan.start.past w = .start :=
  past_eq_start_iff.2 ⟨(h.unspaced _ List.mem_cons_self).closed,
    h.unescaped _ List.mem_cons_self (List.cons_ne_nil c g)⟩

end Gaps

/-! ## Words of a text -/

/-- A text and its words, from the front.  A blank in front is dropped, and a word ends at a blank or with
the text. -/
inductive HasWords : Text → List Text → Prop
  | nil : HasWords [] []
  | blank (c : Char) (hc : isBlank c = true) {t : Text} {ws : List Text} (h : HasWords t ws) :
      HasWords (c :: t) ws
  | last (w : Text) (hw : w.Unspaced) : HasWords w [w]
  | word (w : Text) (hw : w.Unspaced) (hpast : Scan.start.past w = .start) (c : Char)
      (hc : isBlank c = true) {t : Text} {ws : List Text} (h : HasWords t ws) :
      HasWords (w ++ c :: t) (w :: ws)

/-- A blank is structural where a scan could start. -/
theorem structural_of_isBlank {c : Char} (hpast : Scan.start.past w = .start) (hc : isBlank c = true) :
    (Scan.start.past w).structural c = true :=
  Scan.structural_iff.2 ⟨hpast, Scan.not_reacts_of_isBlank hc⟩

/-- What is cut at blanks has its pieces for words, the empty ones aside. -/
theorem CutsInto.hasWords (h : CutsInto isBlank t qs) (hclosed : t.closed = true) :
    HasWords t (qs.filter fun q => !q.isEmpty) := by
  induction h with
  | whole t hfree =>
    cases t with
    | nil => exact .nil
    | cons c r => exact .last _ ⟨List.cons_ne_nil c r, hfree, hclosed⟩
  | cut a c hfree hstructural hc hb ih =>
    have hrest := ih ((closed_append_cons hstructural _).symm.trans hclosed)
    cases a with
    | nil => exact .blank c hc hrest
    | cons d r =>
      have hword : Unspaced (d :: r) :=
        ⟨List.cons_ne_nil d r, hfree, closed_of_structural hstructural⟩
      exact .word _ hword (Scan.structural_iff.1 hstructural).1 c hc hrest

namespace HasWords

theorem closed (h : HasWords t ws) : t.closed = true := by
  induction h with
  | nil => rfl
  | blank c hc _ ih =>
    have hstructural := structural_of_isBlank (w := []) rfl hc
    exact (closed_append_cons hstructural _).trans ih
  | last w hw => exact hw.closed
  | word w _ hpast c hc _ ih =>
    rw [closed_append_cons (structural_of_isBlank hpast hc), ih]

theorem exists_cutsInto (h : HasWords t ws) :
    ∃ qs, CutsInto isBlank t qs ∧ (qs.filter fun q => !q.isEmpty) = ws := by
  induction h with
  | nil => exact ⟨[[]], .whole [] (List.forall_mem_nil _), rfl⟩
  | blank c hc _ ih =>
    obtain ⟨qs, hqs, rfl⟩ := ih
    have hstructural := structural_of_isBlank (w := []) rfl hc
    exact ⟨[] :: qs, .cut [] c (List.forall_mem_nil _) hstructural hc hqs, rfl⟩
  | last w hw =>
    exact ⟨[w], .whole w hw.no_blank, List.filter_eq_self.2 (by simpa using hw.ne_nil)⟩
  | word w hw hpast c hc _ ih =>
    obtain ⟨qs, hqs, rfl⟩ := ih
    exact ⟨w :: qs, .cut w c hw.no_blank (structural_of_isBlank hpast hc) hc hqs,
      List.filter_cons_of_pos (by simpa using hw.ne_nil)⟩

/-- Every word is cut into itself. -/
theorem unspaced (h : HasWords t ws) : ∀ w ∈ ws, w.Unspaced := by
  induction h with
  | nil => exact List.forall_mem_nil _
  | blank _ _ _ ih => exact ih
  | last w hw => exact List.forall_mem_singleton.2 hw
  | word w hw _ _ _ _ ih => exact List.forall_mem_cons.2 ⟨hw, ih⟩

/-- Nothing but gaps is lost between the words. -/
theorem exists_gaps (h : HasWords t ws) :
    ∃ b ps, b.Blank ∧ Gaps ps ∧ ps.map Prod.fst = ws ∧ t = b ++ spaced ps := by
  induction h with
  | nil => exact ⟨[], [], List.forall_mem_nil _, .nil, rfl, rfl⟩
  | blank c hc _ ih =>
    obtain ⟨b, ps, hb, hps, rfl, rfl⟩ := ih
    exact ⟨c :: b, ps, List.forall_mem_cons.2 ⟨hc, hb⟩, hps, rfl, rfl⟩
  | last w hw => exact ⟨[], [(w, [])], List.forall_mem_nil _, .last hw, rfl, by simp⟩
  | word w hw hpast c hc _ ih =>
    -- The blanks in front of the rest belong to the gap behind the word.
    obtain ⟨b, ps, hb, hps, rfl, rfl⟩ := ih
    exact ⟨[], (w, c :: b) :: ps, List.forall_mem_nil _,
      .cons hw hpast (List.forall_mem_cons.2 ⟨hc, hb⟩) hps, rfl, by simp⟩

theorem blank_append (hb : b.Blank) (h : HasWords t ws) : HasWords (b ++ t) ws := by
  induction b with
  | nil => exact h
  | cons c b ih =>
    obtain ⟨hc, hb⟩ := List.forall_mem_cons.1 hb
    exact .blank c hc (ih hb)

end HasWords

/-- Words with gaps between them are the words of what they are joined to. -/
theorem Gaps.hasWords (h : Gaps ps) : HasWords (spaced ps) (ps.map Prod.fst) := by
  induction ps with
  | nil => exact .nil
  | cons p ps ih =>
    obtain ⟨w, g⟩ := p
    have hw : w.Unspaced := h.unspaced _ List.mem_cons_self
    rw [spaced_cons, List.map_cons]
    cases g with
    | nil =>
      obtain rfl := h.eq_nil
      simpa using HasWords.last w hw
    | cons c g =>
      obtain ⟨hc, hg⟩ := List.forall_mem_cons.1 (h.blank _ List.mem_cons_self)
      exact .word w hw h.past_eq_start c hc ((ih h.tail).blank_append hg)

/-- Cutting a text at blanks gives its words. -/
theorem words_eq_ok_iff : t.words = .ok ws ↔ HasWords t ws := by
  constructor
  · intro h
    obtain ⟨qs, hcut, rfl⟩ := map_eq_ok_iff.1 h
    obtain ⟨hclosed, rfl⟩ := cut_eq_ok_iff.1 hcut
    exact (cutsInto_pieces isBlank t).hasWords hclosed
  · intro h
    obtain ⟨qs, hcuts, rfl⟩ := h.exists_cutsInto
    rw [words_of_closed h.closed, hcuts.pieces_eq]

theorem located_words_eq_ok_iff {line : Nat} : located line t.words = .ok ws ↔ HasWords t ws := by
  rw [located_eq_ok_iff, words_eq_ok_iff]

/-- **Cutting at blanks loses nothing, and the three cuts fail together.**  If a literal is left open, the
cuts at blanks, at commas and at semicolons fail with the same error, and otherwise all three succeed.
The words of a text are not empty, have no blanks outside literals and are cut into themselves; with the
gaps behind them and the blanks in front they are the text, and only the last gap can be empty.  Such
words are conversely what the text with any gaps behind them is cut into, if no word with a gap behind it
ends with an escape. -/
theorem words_gaps (line : Nat) :
    (∀ t : Text,
      (t.closed = false → ∃ e, e = ⟨.split, line, (Fault.unterminatedLiteral t).message⟩ ∧
        located line t.words = .error e ∧ located line t.commaPieces = .error e ∧
          located line t.statements = .error e) ∧
      (t.closed = true → (∃ ws, located line t.words = .ok ws) ∧
        (∃ ps, located line t.commaPieces = .ok ps) ∧ ∃ ps, located line t.statements = .ok ps)) ∧
    (∀ (t : Text) (ws : List Text), located line t.words = .ok ws →
      (∀ w ∈ ws, w.Unspaced ∧ located line w.words = .ok [w]) ∧
        ∃ b ps, b.Blank ∧ Gaps ps ∧ ps.map Prod.fst = ws ∧ t = b ++ spaced ps) ∧
    ∀ (b : Text) (ps : List (Text × Text)), b.Blank → Gaps ps →
      located line (words (b ++ spaced ps)) = .ok (ps.map Prod.fst) := by
  refine ⟨fun t => ⟨?_, ?_⟩, ?_, ?_⟩
  · intro hopen
    refine ⟨_, rfl, ?_⟩
    rw [words, commaPieces, statements, Value.cut_of_open hopen, Value.cut_of_open hopen,
      Value.cut_of_open hopen]
    exact ⟨rfl, rfl, rfl⟩
  · intro hclosed
    refine ⟨⟨_, located_words_eq_ok_iff.2 ((cutsInto_pieces isBlank t).hasWords hclosed)⟩, ?_,
      ⟨_, located_cut_of_closed line hclosed⟩⟩
    rw [commaPieces_of_closed hclosed]
    exact ⟨_, rfl⟩
  · intro t ws h
    have hwords : HasWords t ws := located_words_eq_ok_iff.1 h
    refine ⟨fun w hw => ?_, hwords.exists_gaps⟩
    have hunspaced := hwords.unspaced w hw
    exact ⟨hunspaced, located_words_eq_ok_iff.2 (.last w hunspaced)⟩
  · intro b ps hb hps
    exact located_words_eq_ok_iff.2 (hps.hasWords.blank_append hb)

/-- A literal that is left open; blanks of several kinds between words, of which one holds a literal with
a blank and another an escaped blank; and a last word that ends with an escape. -/
theorem words_gaps_mixed :
    let t : Text := "log \"a b".toList
    let u : Text := "\t say 'it is' \u3000 a\\ b\\".toList
    let ps : List (Text × Text) := [("say".toList, "\t ".toList), ("'it is'".toList, ['\u3000']),
      ("a\\ b\\".toList, [])]
    t.closed = false ∧
      (∃ e, e = ⟨.split, 3, (Fault.unterminatedLiteral t).message⟩ ∧
        located 3 t.words = .error e ∧ located 3 t.commaPieces = .error e ∧
          located 3 t.statements = .error e) ∧
      (∃ ws, located 3 u.words = .ok ws ∧ (∀ w ∈ ws, w.Unspaced ∧ located 3 w.words = .ok [w]) ∧
        ∃ b ps, b.Blank ∧ Gaps ps ∧ ps.map Prod.fst = ws ∧ u = b ++ spaced ps) ∧
      Blank [' '] ∧ Gaps ps ∧
      located 3 (words (' ' :: spaced ps)) =
        .ok ["say".toList, "'it is'".toList, "a\\ b\\".toList] := by
  intro t u ps
  have hopen : t.closed = false := by decide
  have hb : Blank [' '] := by decide
  have hps : Gaps ps := ⟨by decide, by decide, by decide, by decide⟩
  obtain ⟨hcut, hsplit, hjoin⟩ := words_gaps 3
  obtain ⟨⟨ws, hws⟩, -⟩ := (hcut u).2 (by decide)
  exact ⟨hopen, (hcut t).1 hopen, ⟨ws, hws, hsplit u ws hws⟩, hb, hps, hjoin [' '] ps hb hps⟩

end Text

end KScript
