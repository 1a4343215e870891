import KScript.Session
import KScript.Proofs.Run.Characters
import KScript.Proofs.Run.Reports
import KScript.Proofs.Sketch

/-!
# The chunks of the code

The code of a sketch consists of one chunk of lines for every line of the sketch.  A chunk is one
line, unless the line of the sketch is cut at semicolons; then it has a line for every statement.
No line of code holds a line break, so the chunks can be told apart.
-/

namespace KScript

open Text

/-! ## Chunks -/

namespace Emission

/-- `es` answer the statements `us` of line `k` one by one; these stand behind the statements
`ts`. -/
structure AnswersAll (keywords : Names) (scope : Scope) (k : Nat) (ts us : List Text)
    (es : List Emission) : Prop where
  length_eq : es.length = us.length
  answers : ∀ j t e, us[j]? = some t → es[j]? = some e →
    Answers keywords ((scope.follow (ts ++ us.take j)).onLine k) k t e

/-- A line is cut that has structural semicolons, unless it begins with `for` or leaves a literal
open. -/
structure IsCut (line : Text) : Prop where
  not_for : ¬ "for ".toList <+: line.trim
  semicolon : ';' ∈ line.trim.skeleton
  closed : line.trim.closed = true

/-- What becomes of line `k` of a sketch, whose statements stand behind the statements `ts`. -/
structure Chunk (keywords : Names) (scope : Scope) (k : Nat) (ts : List Text) (line : Text)
    (es : List Emission) : Prop where
  /-- A blank line becomes an empty line. -/
  blank : line.Blank → es.map code = [[]]
  /-- A comment is copied. -/
  comment : "//".toList <+: line.trim → es.map code = [line]
  /-- A line that is cut becomes a line for every piece between its structural semicolons that is
  not blank. -/
  pieces : ¬ line.Blank → ¬ "//".toList <+: line.trim → IsCut line →
    AnswersAll keywords scope k ts
      (((line.trim.pieces (· == ';')).map Text.trim).filter fun p => !p.isEmpty) es
  /-- Any other line becomes one line. -/
  whole : ¬ line.Blank → ¬ "//".toList <+: line.trim → ¬ IsCut line →
    AnswersAll keywords scope k ts [line.trim] es

/-- Chunks of emissions, one for every line of a sketch. -/
structure Layout (keywords : Names) (sketch : Sketch) (chunks : List (List Emission)) : Prop where
  length_eq : chunks.length = sketch.body.length
  chunk : ∀ i line es, sketch.body[i]? = some line → chunks[i]? = some es →
    Chunk keywords sketch.scope (i + 1) ((chunks.take i).flatten.filterMap statement?) line es
  /-- No line of code holds a line break. -/
  unbroken : ∀ es ∈ chunks, ∀ e ∈ es, '\n' ∉ e.code ∧ '\r' ∉ e.code

variable {keywords : Names}

/-- The loop over the statements of a line answers all of them. -/
theorem answersAll_carry (scope : Scope) (k : Nat) (ts : List Text) {us : List Text}
    (ht : ∀ t ∈ us, t.trim = t) :
    AnswersAll keywords scope k ts us
      (carry (ofItem keywords) ((scope.follow ts).onLine k) (us.map Item.statement)).1 where
  length_eq := by rw [length_carry, List.length_map]
  answers j t e hj he := by
    have htrim : ∀ i ∈ (us.take j).map Item.statement, ∀ u, i.statement? = some u →
        u.trim = u := by
      intro i hi u hu
      obtain ⟨v, hv, rfl⟩ := List.mem_map.1 hi
      cases hu
      exact ht _ (List.mem_of_mem_take hv)
    have hst : ((us.take j).map Item.statement).filterMap Item.statement? = us.take j := by
      rw [List.filterMap_map]
      exact List.filterMap_some
    rw [getElem?_carry, List.getElem?_map, hj, ← List.map_take, carry_ofItem _ _ htrim, hst,
      Scope.onLine_follow, Scope.follow_follow] at he
    cases he
    exact answers_ofItem keywords _ k t

theorem isCut_iff {line : Text} :
    IsCut line ↔ Item.isCut line.trim = true ∧ line.trim.closed = true := by
  rw [Item.isCut, Bool.and_eq_true, Bool.not_eq_true', List.contains_iff_mem, ← Bool.not_eq_true,
    List.isPrefixOf_iff_prefix]
  constructor
  · rintro ⟨h₁, h₂, h₃⟩
    exact ⟨⟨h₁, h₂⟩, h₃⟩
  · rintro ⟨⟨h₁, h₂⟩, h₃⟩
    exact ⟨h₁, h₂, h₃⟩

/-- A line becomes its chunk. -/
theorem chunk_carry (scope : Scope) (k : Nat) (ts : List Text) (line : Text) :
    Chunk keywords scope k ts line
      (carry (ofItem keywords) ((scope.follow ts).onLine k) (Item.ofLine line)).1 := by
  have hasks := Item.asks_ofLine line
  generalize Item.ofLine line = is at hasks
  cases hasks with
  | blank h =>
    exact ⟨fun _ => rfl, fun hc => absurd h (Item.not_blank_of_comment hc), fun hb => absurd h hb,
      fun hb => absurd h hb⟩
  | comment h =>
    exact ⟨fun hb => absurd hb (Item.not_blank_of_comment h), fun _ => rfl,
      fun _ hc => absurd h hc, fun _ hc => absurd h hc⟩
  | pieces hb hc hcut hclosed =>
    refine ⟨fun h => absurd h hb, fun h => absurd h hc, fun _ _ _ => answersAll_carry scope k ts ?_,
      fun _ _ h => absurd (isCut_iff.2 ⟨hcut, hclosed⟩) h⟩
    intro t ht
    obtain ⟨p, -, rfl⟩ := List.mem_map.1 (List.mem_filter.1 ht).1
    exact trim_trim p
  | whole hb hc hcut =>
    refine ⟨fun h => absurd h hb, fun h => absurd h hc, fun _ _ h => ?_,
      fun _ _ _ => answersAll_carry scope k ts fun t ht => ?_⟩
    · obtain ⟨h₁, h₂⟩ := isCut_iff.1 h
      exact Bool.noConfusion (h₂.symm.trans (hcut h₁))
    · rw [List.mem_singleton.1 ht]
      exact trim_trim line

end Emission

/-! ## Line breaks -/

namespace Sketch

variable {source l : Text} {ls ks : List Text} {sketch : Sketch}

/-- What follows the marker and the lines behind it are made of the lines of the text. -/
theorem Opens.mem {k : Text} {c : Char} (h : Opens l ls ks) (hk : k ∈ l :: ls) (hc : c ∈ k) :
    ∃ m ∈ ks, c ∈ m := by
  cases h with
  | mk blanks b hblanks hb =>
    rcases List.mem_cons.1 hk with rfl | hk
    · refine ⟨_, List.mem_append_right blanks List.mem_cons_self, ?_⟩
      exact List.mem_append_right b (List.mem_append_right marker hc)
    · exact ⟨k, List.mem_append_right blanks (List.mem_cons_of_mem _ hk), hc⟩

/-- The lines of a sketch hold no line break. -/
theorem not_mem_of_mem_body (h : ofText? source = some sketch) {line : Text}
    (hl : line ∈ sketch.body) : '\n' ∉ line ∧ '\r' ∉ line := by
  obtain ⟨hmarked, -⟩ := Option.ite_none_right_eq_some.1 h
  obtain ⟨l, ls, hopens⟩ := exists_opens hmarked
  obtain rfl : ofRemainder l ls = sketch := Option.some.inj ((ofText?_of_opens hopens).symm.trans h)
  refine ⟨not_mem_of_mem_lines hl, fun hc => ?_⟩
  rcases mem_ofLines (mem_of_mem_trim ((infix_of_mem_lines hl).subset hc)) with hc | ⟨k, hk, hc⟩
  · exact absurd hc (by decide)
  · have hk' : k ∈ l :: ls :=
      (List.mem_cons.1 hk).elim (· ▸ List.mem_cons_self) fun hk =>
        List.mem_cons_of_mem l (List.mem_of_mem_filter hk)
    obtain ⟨m, hm, hc⟩ := hopens.mem hk' hc
    exact not_mem_unifyBreaks source ((infix_of_mem_lines hm).subset hc)

end Sketch

/-! ## Runs -/

namespace Run

open Emission

variable {sketch : Sketch}

/-- The chunk of a line is made in the scope that the lines above it leave. -/
theorem getElem?_chunks (keywords : Names) (sketch : Sketch) (i : Nat) :
    (ofSketch keywords sketch).chunks[i]? = sketch.body[i]?.map fun line =>
      (ofLine keywords (ofLines keywords sketch.scope (sketch.body.take i)).2 line).1 :=
  getElem?_carry _ _ _ i

/-- The scope before a line follows the statements of the lines above it. -/
theorem scope_take (keywords : Names) {i : Nat} (hi : i ≤ sketch.body.length) :
    (ofLines keywords sketch.scope (sketch.body.take i)).2 =
      (sketch.scope.follow (((ofSketch keywords sketch).chunks.take i).flatten.filterMap
        statement?)).onLine i := by
  obtain ⟨hflat, hscope⟩ := ofLines_eq_replay keywords sketch.scope (sketch.body.take i)
  have htake : (ofSketch keywords sketch).chunks.take i =
      (ofLines keywords sketch.scope (sketch.body.take i)).1 := take_carry _ _ _ i
  have hline : sketch.scope.line + (sketch.body.take i).length = i := by
    rw [List.length_take_of_le hi]
    exact Nat.zero_add i
  rw [htake, hflat, filterMap_statement?_replay, hscope, hline]

/-- Every emission is made for an item of a line. -/
theorem exists_item_of_mem_emissions {keywords : Names} {e : Emission}
    (h : e ∈ (ofSketch keywords sketch).emissions) :
    ∃ line ∈ sketch.body, ∃ i ∈ Item.ofLine line, ∃ s, e = (ofItem keywords s i).1 := by
  obtain ⟨p, q, hes⟩ := List.append_of_mem h
  obtain ⟨k, i, hk, he⟩ := emission_eq hes
  obtain ⟨-, -, line, hl, hi⟩ := Sketch.mem_schedule hk
  exact ⟨line, List.mem_of_getElem? hl, i, hi, _, he⟩

/-- No emission of a run holds a line break, if no line does. -/
theorem not_mem_code {keywords : Names} {e : Emission}
    (h : e ∈ (ofSketch keywords sketch).emissions) {d : Char} (hd : isPrintable d = false)
    (hbody : ∀ line ∈ sketch.body, d ∉ line) : d ∉ e.code := by
  obtain ⟨line, hl, i, hi, s, rfl⟩ := exists_item_of_mem_emissions h
  have hline := hbody line hl
  cases i with
  | verbatim c =>
    rcases Item.verbatim_of_mem_ofLine hi with rfl | ⟨rfl, -⟩
    · exact List.not_mem_nil
    · exact hline
  | statement t =>
    obtain ⟨-, htrim, hpart⟩ := Item.statement_of_mem_ofLine hi
    exact not_mem_code_of_not_isPrintable hd htrim fun hc => hline (hpart.subset hc)

/-- The lines of the code are told apart. -/
theorem lines_ofLines_codeLines {source : Text} (keywords : Names)
    (h : Sketch.ofText? source = some sketch) (hne : (ofSketch keywords sketch).emissions ≠ []) :
    (Text.ofLines (ofSketch keywords sketch).codeLines).lines =
      (ofSketch keywords sketch).codeLines := by
  refine lines_ofLines (mt List.map_eq_nil_iff.1 hne) fun c hc => ?_
  obtain ⟨e, he, rfl⟩ := List.mem_map.1 hc
  exact not_mem_code he (by decide) fun line hl => (Sketch.not_mem_of_mem_body h hl).1

/-- The chunks of a run over lines without line breaks. -/
theorem layout_ofSketch (keywords : Names)
    (hbreaks : ∀ line ∈ sketch.body, '\n' ∉ line ∧ '\r' ∉ line) :
    Layout keywords sketch (ofSketch keywords sketch).chunks where
  length_eq := length_carry _ _ _
  chunk i line es hl hes := by
    have hi : i < sketch.body.length := (List.getElem?_eq_some_iff.1 hl).1
    -- The loop over the lines reaches line `i` in the scope that follows the chunks before it.
    have hstate := scope_take keywords hi.le
    rw [getElem?_chunks, hl, hstate] at hes
    cases hes
    exact chunk_carry sketch.scope (i + 1) _ line
  unbroken es hes e he := by
    have hmem : e ∈ (ofSketch keywords sketch).emissions := List.mem_flatten.2 ⟨es, hes, he⟩
    exact ⟨not_mem_code hmem (by decide) fun l hl => (hbreaks l hl).1,
      not_mem_code hmem (by decide) fun l hl => (hbreaks l hl).2⟩

end Run

/-! ## Scripts -/

namespace Session

variable {source : Text} {sketch : Sketch}

/-- **The code has a chunk for every line.**  Joined by line breaks, the chunks of the emissions are
the code, and every chunk has the form that its line asks for.  There is at least one line, and the
scope counts them. -/
theorem code_has_chunks (s : Session) (h : Sketch.ofText? source = some sketch) :
    ∃ chunks, Emission.Layout s.keywords sketch chunks ∧
      (s.submit source).1.code =
        Text.ofLines (chunks.map fun es => es.map Emission.code).flatten ∧
      1 ≤ sketch.body.length ∧ (s.submit source).2.2.scope.line = sketch.body.length := by
  refine ⟨(Run.ofSketch s.keywords sketch).chunks,
    Run.layout_ofSketch s.keywords fun l hl => Sketch.not_mem_of_mem_body h hl, ?_, ?_, ?_⟩
  · rw [s.submit_of_sketch h, ← List.map_flatten]
    rfl
  · obtain ⟨-, hsketch⟩ := Option.ite_none_right_eq_some.1 h
    cases hsketch
    exact List.length_pos_iff.2 (lines_ne_nil _)
  · rw [s.submit_of_sketch h, Run.scope_ofSketch]
    rfl

/-- Two statements and a blank piece on one line, an empty line, a comment, and the header of a loop,
whose semicolons do not cut it. -/
theorem code_has_chunks_mixed :
    let source := "#kscript\nx = 1; ; = 2\n\n// note\nfor i = 0; i < 3; i++".toList
    let sketch : Sketch := ⟨false, ["x = 1; ; = 2".toList, [], "// note".toList,
      "for i = 0; i < 3; i++".toList]⟩
    Sketch.ofText? source = some sketch ∧
      ∃ chunks, Emission.Layout ∅ sketch chunks ∧ chunks.map List.length = [2, 1, 1, 1] ∧
        ((start ∅).submit source).1.code =
          Text.ofLines (chunks.map fun es => es.map Emission.code).flatten := by
  intro source sketch
  have h : Sketch.ofText? source = some sketch := by decide
  obtain ⟨chunks, hlayout, hcode, -⟩ := code_has_chunks (start ∅) h
  refine ⟨h, chunks, hlayout, ?_, hcode⟩
  -- The layout gives the length of each chunk, so only the pieces of the first line are computed.
  match chunks, hlayout.length_eq with
  | [a, b, c, d], _ =>
    have ha := ((hlayout.chunk 0 _ a rfl rfl).pieces (by decide) (by decide)
      ⟨by decide, by decide, by decide⟩).length_eq
    have hb := congrArg List.length ((hlayout.chunk 1 _ b rfl rfl).blank (List.forall_mem_nil _))
    have hc := congrArg List.length ((hlayout.chunk 2 _ c rfl rfl).comment (by decide))
    have hd := ((hlayout.chunk 3 _ d rfl rfl).whole (by decide) (by decide)
      fun hcut => hcut.not_for (by decide)).length_eq
    rw [List.length_map] at hb hc
    simp only [List.map_cons, List.map_nil]
    rw [ha, hb, hc, hd]
    decide

end Session

end KScript
