import KScript.Proofs.Literal.Pieces
import KScript.Proofs.Outcome

/-!
# Cutting and joining

A text that is cut at a structural character is its pieces joined with that character.  A piece holds
no separator outside literals, so it is cut into itself.  Conversely such pieces, joined, are cut into
what they were, if each but the last leaves the scan where a text begins.
-/

namespace KScript

namespace Text

variable {sep : Char → Bool} {c : Char} {a b t p : Text} {ps : List Text}

/-! ## Pieces of a text -/

/-- What stands in front of a structural character leaves no literal open. -/
theorem closed_of_structural (h : (Scan.start.past a).structural c = true) : a.closed = true := by
  rw [closed, (Scan.structural_iff.1 h).1]
  rfl

theorem closed_append_cons (h : (Scan.start.past a).structural c = true) (b : Text) :
    (a ++ c :: b).closed = b.closed := by
  rw [closed, Scan.past_append, Scan.past_cons, Scan.step_of_structural h, closed]

theorem skeleton_append_cons (h : (Scan.start.past a).structural c = true) (b : Text) :
    (a ++ c :: b).skeleton = a.skeleton ++ c :: b.skeleton := by
  rw [skeleton, marks_append_cons h, List.filter_append, List.filter_cons_of_pos rfl,
    List.map_append, List.map_cons, skeleton, skeleton]

/-- What the scan finds structural is among the structural characters. -/
theorem mem_skeleton_of_structural (h : (Scan.start.past a).structural c = true) (b : Text) :
    c ∈ (a ++ c :: b).skeleton := by
  rw [skeleton_append_cons h]
  exact List.mem_append_right _ List.mem_cons_self

namespace CutsInto

/-- The separators of a text are the gaps between its pieces. -/
theorem length_eq (h : CutsInto sep t ps) : ps.length = t.skeleton.countP sep + 1 := by
  induction h with
  | whole t h =>
    have hcount : t.skeleton.countP sep = 0 := List.countP_eq_zero.2 fun d hd => by simp [h d hd]
    rw [hcount, List.length_singleton]
  | cut a c ha hc hsep hb ih =>
    have hcount : a.skeleton.countP sep = 0 := List.countP_eq_zero.2 fun d hd => by simp [ha d hd]
    rw [skeleton_append_cons hc, List.countP_append, hcount, List.countP_cons_of_pos hsep,
      List.length_cons, ih, Nat.zero_add]

/-- A text is its pieces, joined with the character at which it is cut. -/
theorem intercalate_eq (h : CutsInto (· == c) t ps) : [c].intercalate ps = t := by
  induction h with
  | whole t => exact List.intercalate_singleton
  | @cut a d b ps ha hd hsep hb ih =>
    obtain rfl : d = c := beq_iff_eq.1 hsep
    obtain ⟨q, qs, rfl⟩ := List.exists_cons_of_ne_nil (hb.pieces_eq ▸ pieces_ne_nil _ b)
    rw [List.intercalate_cons_cons, ih, List.append_assoc, List.singleton_append]

/-- The pieces of a text hold no separator outside literals. -/
theorem forall_mem_skeleton_of_mem (h : CutsInto sep t ps) (hp : p ∈ ps) :
    ∀ d ∈ p.skeleton, sep d = false := by
  induction h with
  | whole t h =>
    rw [List.mem_singleton.1 hp]
    exact h
  | cut a c ha hc hsep hb ih =>
    rcases List.mem_cons.1 hp with rfl | hp
    · exact ha
    · exact ih hp

/-- What is structural in a piece is structural in the text. -/
theorem skeleton_subset (h : CutsInto sep t ps) (hp : p ∈ ps) : p.skeleton ⊆ t.skeleton := by
  induction h with
  | whole t =>
    rw [List.mem_singleton.1 hp]
    exact List.Subset.refl _
  | cut a c ha hc hsep hb ih =>
    rw [skeleton_append_cons hc]
    rcases List.mem_cons.1 hp with rfl | hp
    · exact List.subset_append_left _ _
    · intro d hd
      exact List.mem_append_right _ (List.mem_cons_of_mem c (ih hp hd))

/-- What is structural separates two pieces or is structural in one. -/
theorem mem_skeleton (h : CutsInto sep t ps) {d : Char} (hd : d ∈ t.skeleton) :
    sep d = true ∨ ∃ p ∈ ps, d ∈ p.skeleton := by
  induction h with
  | whole t => exact .inr ⟨t, List.mem_singleton_self t, hd⟩
  | @cut a c b ps ha hc hsep hb ih =>
    rw [skeleton_append_cons hc, List.mem_append, List.mem_cons] at hd
    rcases hd with hd | rfl | hd
    · exact .inr ⟨a, List.mem_cons_self, hd⟩
    · exact .inl hsep
    · exact (ih hd).imp_right fun ⟨p, hp, hd⟩ => ⟨p, List.mem_cons_of_mem a hp, hd⟩

/-- A text leaves no literal open if none of its pieces does. -/
theorem closed_iff (h : CutsInto sep t ps) : t.closed = true ↔ ∀ p ∈ ps, p.closed = true := by
  induction h with
  | whole t => rw [List.forall_mem_singleton]
  | cut a c ha hc hsep hb ih =>
    rw [closed_append_cons hc, ih, List.forall_mem_cons]
    exact (and_iff_right (closed_of_structural hc)).symm

end CutsInto

/-- A text is cut into itself if it holds no separator outside literals. -/
theorem pieces_eq_singleton_iff : p.pieces sep = [p] ↔ ∀ d ∈ p.skeleton, sep d = false := by
  constructor
  · intro h
    have hcuts := cutsInto_pieces sep p
    rw [h] at hcuts
    exact hcuts.forall_mem_skeleton_of_mem List.mem_cons_self
  · intro h
    exact (CutsInto.whole p h).pieces_eq

theorem cut_eq_singleton_iff :
    p.cut sep = .ok [p] ↔ p.closed = true ∧ ∀ d ∈ p.skeleton, sep d = false := by
  rw [cut_eq_ok_iff, eq_comm (a := [p]), pieces_eq_singleton_iff]

/-! ## Joined pieces -/

/-- A scan that ends outside literals without an escape stands at its start. -/
theorem past_eq_start_iff :
    Scan.start.past t = .start ↔ t.closed = true ∧ (Scan.start.past t).escaped = false := by
  rw [closed, Option.isNone_iff_eq_none]
  generalize Scan.start.past t = s
  obtain ⟨literal, escaped⟩ := s
  exact Scan.mk.injEq _ _ _ _ ▸ Iff.rfl

/-- Joined pieces are cut into what they were, also by a test that other characters pass. -/
theorem CutsInto.join (hsep : sep c = true) (hc : Scan.reacts c = false) (hne : ps ≠ [])
    (hfree : ∀ p ∈ ps, ∀ d ∈ p.skeleton, sep d = false)
    (hpast : ∀ p ∈ ps.dropLast, Scan.start.past p = .start) :
    CutsInto sep ([c].intercalate ps) ps := by
  induction ps with
  | nil => exact absurd rfl hne
  | cons p ps ih =>
    obtain ⟨hp, hps⟩ := List.forall_mem_cons.1 hfree
    cases ps with
    | nil =>
      rw [List.intercalate_singleton]
      exact .whole p hp
    | cons q qs =>
      rw [List.dropLast_cons_cons, List.forall_mem_cons] at hpast
      have hstructural : (Scan.start.past p).structural c = true :=
        Scan.structural_iff.2 ⟨hpast.1, hc⟩
      rw [List.intercalate_cons_cons, List.append_assoc, List.singleton_append]
      exact .cut p c hp hstructural hsep (ih (List.cons_ne_nil q qs) hps hpast.2)

/-- Joined pieces are cut into what they were. -/
theorem cutsInto_intercalate (hc : Scan.reacts c = false) (hne : ps ≠ [])
    (hfree : ∀ p ∈ ps, ∀ d ∈ p.skeleton, (d == c) = false)
    (hpast : ∀ p ∈ ps.dropLast, Scan.start.past p = .start) :
    CutsInto (· == c) ([c].intercalate ps) ps := .join (beq_self_eq_true c) hc hne hfree hpast

/-- Joined texts end where a scan could start if each of them does. -/
theorem past_intercalate (hb : b.Inert) (hpast : ∀ p ∈ ps, Scan.start.past p = .start) :
    Scan.start.past (b.intercalate ps) = .start := by
  induction ps with
  | nil => rfl
  | cons p ps ih =>
    obtain ⟨hp, hps⟩ := List.forall_mem_cons.1 hpast
    cases ps with
    | nil => rw [List.intercalate_singleton, hp]
    | cons q ps =>
      rw [List.intercalate_cons_cons, Scan.past_append, Scan.past_append, hp,
        Scan.past_start_inert hb, ih hps]

/-- What stands behind every separator can be counted to the next piece. -/
theorem intercalate_cons_eq_map (c : Char) (b p : Text) (ps : List Text) :
    (c :: b).intercalate (p :: ps) = [c].intercalate (p :: ps.map (b ++ ·)) := by
  induction ps generalizing p with
  | nil => rw [List.map_nil, List.intercalate_singleton, List.intercalate_singleton]
  | cons q ps ih =>
    -- The blanks are taken from the separator to the second piece, and then the rest is shorter.
    have hfirst : b ++ (c :: b).intercalate (q :: ps) =
        [c].intercalate ((b ++ q) :: ps.map (b ++ ·)) := by
      rw [ih]
      cases ps with
      | nil => simp
      | cons r ps => simp [List.intercalate_cons_cons]
    rw [List.intercalate_cons_cons, List.map_cons, List.intercalate_cons_cons, ← hfirst]
    simp

/-- Texts that are joined with a separator and blanks behind it are cut into what they were, with the
blanks in front of all but the first. -/
theorem cutsInto_intercalate_blank (hc : Scan.reacts c = false) (hblank : isBlank c = false)
    (hb : b.Blank) (hfree : ∀ q ∈ p :: ps, c ∉ q.skeleton)
    (hpast : ∀ q ∈ p :: ps, Scan.start.past q = .start) :
    CutsInto (· == c) ((c :: b).intercalate (p :: ps)) (p :: ps.map (b ++ ·)) := by
  have hstart : Scan.start.past b = .start := Scan.past_start_inert hb.inert
  have hbehind {q : Text} (hq : c ∉ q.skeleton) : c ∉ (b ++ q).skeleton := by
    rw [skeleton_append hstart, List.mem_append]
    rintro (hmem | hmem)
    · exact Bool.noConfusion (hblank.symm.trans (hb c (mem_of_mem_skeleton hmem)))
    · exact hq hmem
  obtain ⟨hp, hps⟩ := List.forall_mem_cons.1 hfree
  obtain ⟨hp', hps'⟩ := List.forall_mem_cons.1 hpast
  have hnone : ∀ q ∈ p :: ps.map (b ++ ·), c ∉ q.skeleton :=
    List.forall_mem_cons.2 ⟨hp, List.forall_mem_map.2 fun q hq => hbehind (hps q hq)⟩
  have hall : ∀ q ∈ p :: ps.map (b ++ ·), Scan.start.past q = .start :=
    List.forall_mem_cons.2 ⟨hp', List.forall_mem_map.2 fun q hq => by
      rw [Scan.past_append, hstart, hps' q hq]⟩
  rw [intercalate_cons_eq_map]
  exact cutsInto_intercalate hc (List.cons_ne_nil _ _)
    (fun q hq d hd => beq_eq_false_iff_ne.2 fun h => hnone q hq (h ▸ hd))
    fun q hq => hall q (List.mem_of_mem_dropLast hq)

/-- Texts that are joined with a separator and blanks are cut into what they were, blanks aside. -/
theorem map_trim_pieces_intercalate (hc : Scan.reacts c = false) (hblank : isBlank c = false)
    (hb : b.Blank) (hne : ps ≠ []) (hfree : ∀ q ∈ ps, c ∉ q.skeleton)
    (hpast : ∀ q ∈ ps, Scan.start.past q = .start) :
    (pieces (· == c) ((c :: b).intercalate ps)).map trim = ps.map trim := by
  obtain ⟨p, ps, rfl⟩ := List.exists_cons_of_ne_nil hne
  rw [(cutsInto_intercalate_blank hc hblank hb hfree hpast).pieces_eq, List.map_cons, List.map_cons,
    List.map_map]
  exact congrArg _ (List.map_congr_left fun q _ => trim_append_left hb q)

/-! ## Statements -/

theorem located_cut_of_closed (line : Nat) (h : t.closed = true) :
    located line (t.cut sep) = .ok (t.pieces sep) := by
  rw [cut_eq_ok_iff.2 ⟨h, rfl⟩]
  rfl

theorem located_cut_eq_singleton_iff {line : Nat} :
    located line (p.cut sep) = .ok [p] ↔ p.closed = true ∧ ∀ d ∈ p.skeleton, sep d = false := by
  rw [located_eq_ok_iff, cut_eq_singleton_iff]

/-- **Cutting into statements and joining with semicolons are inverse to each other.**  Cutting fails
on the line exactly if the scan ends inside a literal.  Otherwise the statements, joined, are the text;
there is one more than there are structural semicolons; and each is cut into itself.  Statements that
are cut into themselves and of which all but the last leave no escape open are what their joined text
is cut into. -/
theorem statements_join (line : Nat) :
    (∀ t : Text,
      ((Scan.start.past t).literal.isSome = true → located line t.statements =
        .error ⟨.split, line, (Fault.unterminatedLiteral t).message⟩) ∧
      ((Scan.start.past t).literal.isSome = false → ∃ ps, located line t.statements = .ok ps ∧
        [';'].intercalate ps = t ∧ ps.length = t.skeleton.count ';' + 1 ∧
          ∀ p ∈ ps, located line p.statements = .ok [p])) ∧
    ∀ ps : List Text, ps ≠ [] → (∀ p ∈ ps, located line p.statements = .ok [p]) →
      (∀ p ∈ ps.dropLast, (Scan.start.past p).escaped = false) →
        located line (statements ([';'].intercalate ps)) = .ok ps := by
  refine ⟨fun t => ⟨?_, ?_⟩, ?_⟩
  · intro h
    have hopen : ¬ t.closed = true := by
      rw [closed, ← Option.not_isSome, h]
      exact Bool.false_ne_true
    rw [statements, cut, if_neg hopen]
    rfl
  · intro h
    have hclosed : t.closed = true := by
      rw [closed, ← Option.not_isSome, h]
      rfl
    have hcuts := cutsInto_pieces (· == ';') t
    refine ⟨_, located_cut_of_closed line hclosed, hcuts.intercalate_eq, hcuts.length_eq, ?_⟩
    intro p hp
    exact located_cut_eq_singleton_iff.2
      ⟨hcuts.closed_iff.1 hclosed p hp, hcuts.forall_mem_skeleton_of_mem hp⟩
  · intro ps hne halone hescaped
    have hparts : ∀ p ∈ ps, p.closed = true ∧ ∀ d ∈ p.skeleton, (d == ';') = false :=
      fun p hp => located_cut_eq_singleton_iff.1 (halone p hp)
    have hpast : ∀ p ∈ ps.dropLast, Scan.start.past p = .start :=
      fun p hp => past_eq_start_iff.2 ⟨(hparts p (List.mem_of_mem_dropLast hp)).1, hescaped p hp⟩
    have hcuts : CutsInto (· == ';') ([';'].intercalate ps) ps :=
      cutsInto_intercalate (by decide) hne (fun p hp => (hparts p hp).2) hpast
    have hclosed : closed ([';'].intercalate ps) = true :=
      hcuts.closed_iff.2 fun p hp => (hparts p hp).1
    rw [statements, located_cut_of_closed line hclosed, hcuts.pieces_eq]

/-- A literal that is left open, semicolons inside and outside of literals, and statements of which one
holds an escaped quote and the last one ends with an escape. -/
theorem statements_join_mixed :
    let t : Text := "x = 1; say \"oops".toList
    let u : Text := "log \"a;b\"; x = 1;".toList
    let ps : List Text := ["say 'a;b'".toList, "it\\'s".toList, "x\\".toList]
    (Scan.start.past t).literal.isSome = true ∧
      located 3 t.statements = .error ⟨.split, 3, (Fault.unterminatedLiteral t).message⟩ ∧
      (Scan.start.past u).literal.isSome = false ∧
      (∃ qs, located 3 u.statements = .ok qs ∧ [';'].intercalate qs = u ∧
        qs.length = u.skeleton.count ';' + 1 ∧ ∀ p ∈ qs, located 3 p.statements = .ok [p]) ∧
      (∀ p ∈ ps, located 3 p.statements = .ok [p]) ∧
      (∀ p ∈ ps.dropLast, (Scan.start.past p).escaped = false) ∧
      located 3 (statements ([';'].intercalate ps)) = .ok ps := by
  intro t u ps
  have ht : (Scan.start.past t).literal.isSome = true := by decide
  have hu : (Scan.start.past u).literal.isSome = false := by decide
  have halone : ∀ p ∈ ps, located 3 p.statements = .ok [p] := by
    intro p hp
    have h : ∀ p ∈ ps, p.closed = true ∧ ';' ∉ p.skeleton := by decide
    obtain ⟨hclosed, hfree⟩ := h p hp
    refine located_cut_eq_singleton_iff.2 ⟨hclosed, fun d hd => ?_⟩
    exact beq_eq_false_iff_ne.2 fun hsep => hfree (hsep ▸ hd)
  have hescaped : ∀ p ∈ ps.dropLast, (Scan.start.past p).escaped = false := by decide
  obtain ⟨hcut, hjoin⟩ := statements_join 3
  exact ⟨ht, (hcut t).1 ht, hu, (hcut u).2 hu, halone, hescaped,
    hjoin ps (by decide) halone hescaped⟩

end Text

end KScript
