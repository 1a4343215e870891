import KScript.Emission
import KScript.Proofs.Literal.Pieces
import KScript.Proofs.Text.Trim

/-!
# The items of a line

Every statement of a line is a trimmed part of the line that is not empty.
-/

namespace KScript

namespace Item

/-- The statement that an item asks to transform. -/
def statement? : Item → Option Text
  | verbatim _ => none
  | statement t => some t

@[simp] theorem statement?_verbatim (c : Text) : (verbatim c).statement? = none := rfl

@[simp] theorem statement?_statement (t : Text) : (statement t).statement? = some t := rfl

/-- The lines of which a cut at semicolons is attempted. -/
def isCut (t : Text) : Bool := !"for ".toList.isPrefixOf t && t.skeleton.contains ';'

/-- The statements of a line that is cut: its pieces between structural semicolons, trimmed, without
the blank ones. -/
def cutStatements (line : Text) : List Text :=
  ((line.trim.pieces (· == ';')).map Text.trim).filter fun p => !p.isEmpty

/-- What a line asks for, by the form of the line. -/
inductive Asks (line : Text) : List Item → Prop
  | blank (h : line.Blank) : Asks line [verbatim []]
  | comment (h : commentMark <+: line.trim) : Asks line [verbatim line]
  | pieces (hb : ¬ line.Blank) (hc : ¬ commentMark <+: line.trim) (hcut : isCut line.trim = true)
      (hclosed : line.trim.closed = true) : Asks line ((cutStatements line).map statement)
  | whole (hb : ¬ line.Blank) (hc : ¬ commentMark <+: line.trim)
      (h : isCut line.trim = true → line.trim.closed = false) : Asks line [statement line.trim]

theorem asks_ofLine (line : Text) : Asks line (ofLine line) := by
  unfold ofLine
  dsimp only
  split
  · next he => exact .blank (Text.trim_eq_nil_iff.1 (List.isEmpty_iff.1 he))
  · next he =>
    have hb : ¬ line.Blank := fun hb => he (List.isEmpty_iff.2 (Text.trim_eq_nil_iff.2 hb))
    split
    · next hm => exact .comment (List.isPrefixOf_iff_prefix.1 hm)
    · next hm =>
      have hc : ¬ commentMark <+: line.trim := mt List.isPrefixOf_iff_prefix.2 hm
      split
      · next hcut =>
        split
        · next ps hps =>
          obtain ⟨hclosed, rfl⟩ := Text.cut_eq_ok_iff.1 hps
          exact .pieces hb hc hcut hclosed
        · next f hf =>
          refine .whole hb hc fun _ => Bool.eq_false_iff.2 fun hclosed => ?_
          rw [Text.statements, Text.cut_eq_ok_iff.2 ⟨hclosed, rfl⟩] at hf
          cases hf
      · next hcut => exact .whole hb hc fun h => absurd h hcut

theorem not_blank_of_comment {line : Text} (h : commentMark <+: line.trim) : ¬ line.Blank := by
  intro hb
  rw [Text.trim_eq_nil_iff.2 hb] at h
  exact absurd (List.prefix_nil.1 h) (by decide)

/-- A line has one form. -/
theorem Asks.ofLine_eq {line : Text} {is : List Item} (h : Asks line is) : ofLine line = is := by
  have hasks := asks_ofLine line
  generalize ofLine line = js at hasks
  cases h with
  | blank h =>
    cases hasks with
    | blank => rfl
    | comment hc => exact absurd h (not_blank_of_comment hc)
    | pieces hb | whole hb => exact absurd h hb
  | comment h =>
    cases hasks with
    | blank hb => exact absurd hb (not_blank_of_comment h)
    | comment => rfl
    | pieces _ hc | whole _ hc => exact absurd h hc
  | pieces hb hc hcut hclosed =>
    cases hasks with
    | blank h => exact absurd h hb
    | comment h => exact absurd h hc
    | pieces => rfl
    | whole _ _ h => exact Bool.noConfusion (hclosed.symm.trans (h hcut))
  | whole hb hc h =>
    cases hasks with
    | blank h => exact absurd h hb
    | comment h => exact absurd h hc
    | pieces _ _ hcut hclosed => exact Bool.noConfusion (hclosed.symm.trans (h hcut))
    | whole => rfl

/-- A line whose first word is no comment and that is not cut is one statement. -/
theorem ofLine_of_not_isCut {line : Text} (hne : line.trim ≠ [])
    (hc : commentMark.isPrefixOf line.trim = false) (h : isCut line.trim = false) :
    ofLine line = [statement line.trim] := by
  refine (Asks.whole (mt Text.trim_eq_nil_iff.2 hne) ?_ fun hcut => ?_).ofLine_eq
  · rw [← List.isPrefixOf_iff_prefix, hc]
    exact Bool.false_ne_true
  · exact Bool.noConfusion (h.symm.trans hcut)

/-- Blanks at the end of a line show only where the line is copied. -/
theorem ofLine_append_blank {line e : Text} (he : e.Blank) :
    ofLine (line ++ e) = ofLine line ∨
      ofLine line = [verbatim line] ∧ ofLine (line ++ e) = [verbatim (line ++ e)] := by
  have htrim : (line ++ e).trim = line.trim := Text.trim_append_right he line
  have hblank : (line ++ e).Blank ↔ line.Blank := by
    rw [← Text.trim_eq_nil_iff, htrim, Text.trim_eq_nil_iff]
  have hasks := asks_ofLine line
  generalize ofLine line = is at hasks
  cases hasks with
  | blank h => exact .inl (Asks.blank (hblank.2 h)).ofLine_eq
  | comment h => exact .inr ⟨rfl, (Asks.comment (htrim ▸ h)).ofLine_eq⟩
  | pieces hb hc hcut hclosed =>
    left
    rw [cutStatements, ← htrim]
    rw [← htrim] at hc hcut hclosed
    exact (Asks.pieces (mt hblank.1 hb) hc hcut hclosed).ofLine_eq
  | whole hb hc h =>
    left
    rw [← htrim] at hc h ⊢
    exact (Asks.whole (mt hblank.1 hb) hc h).ofLine_eq

/-- The statements of a line are trimmed parts of it. -/
theorem statement_of_mem_ofLine {line t : Text} (h : statement t ∈ ofLine line) :
    t ≠ [] ∧ t.trim = t ∧ t <:+: line := by
  have hasks := asks_ofLine line
  generalize ofLine line = is at h hasks
  cases hasks with
  | blank | comment => simp at h
  | pieces hb hc hcut hclosed =>
    obtain ⟨u, hu, hut⟩ := List.mem_map.1 h
    obtain rfl : u = t := by simpa using hut
    obtain ⟨hmap, hne⟩ := List.mem_filter.1 hu
    obtain ⟨p, hp, rfl⟩ := List.mem_map.1 hmap
    refine ⟨fun hn => by simp [hn] at hne, Text.trim_trim p, ?_⟩
    exact (Text.trim_isInfix p).trans
      ((Text.infix_of_mem_pieces hp).trans (Text.trim_isInfix line))
  | whole hb =>
    obtain rfl : t = line.trim := by simpa using h
    exact ⟨mt Text.trim_eq_nil_iff.1 hb, Text.trim_trim line, Text.trim_isInfix line⟩

/-- Nothing but an empty line and a comment is copied. -/
theorem verbatim_of_mem_ofLine {line c : Text} (h : verbatim c ∈ ofLine line) :
    c = [] ∨ c = line ∧ commentMark <+: line.trim := by
  have hasks := asks_ofLine line
  generalize ofLine line = is at h hasks
  cases hasks with
  | blank => exact .inl (by simpa using h)
  | comment hc => exact .inr ⟨by simpa using h, hc⟩
  | pieces | whole => simp at h

/-- A copied line begins with a blank or with a slash, if it is not empty. -/
theorem head_of_verbatim_mem_ofLine {line c r : Text} {d : Char} (h : verbatim c ∈ ofLine line)
    (hc : c = d :: r) : isBlank d = true ∨ d = '/' := by
  rcases verbatim_of_mem_ofLine h with hn | ⟨rfl, hm⟩
  · exact absurd (hn.symm.trans hc) (List.cons_ne_nil d r).symm
  · by_contra hn
    rw [not_or] at hn
    obtain ⟨hb, hd⟩ := hn
    have hs : Text.trimStart c = c := by
      rw [hc]
      exact List.dropWhile_cons_of_neg hb
    have hp : commentMark <+: Text.trimStart c := hm.trans (Text.trimEnd_isPrefix _)
    rw [hs, hc] at hp
    exact hd (List.cons_prefix_cons.1 hp).1.symm

end Item

end KScript
