import KScript.Proofs.Run.Keywords

/-!
# Where comments end

A comment of the code is a copied line or the text of a statement that failed.  It ends with its line,
and a line of host code ends at four characters.  Two of them end the lines of a sketch as well, so no
comment holds these; the other two are blanks like any other to a sketch.
-/

namespace KScript

open Text

/-! ## Lines of host code -/

namespace HostScript

/-- The characters that end a line of host code. -/
def isTerminator (c : Char) : Bool := c == '\n' || c == '\r' || c == '\u2028' || c == '\u2029'

/-- The lines of host code. -/
def hostLines (code : Text) : List Text := code.splitOnP isTerminator

variable {t w : Text} {ls : List Text}

theorem isTerminator_iff {c : Char} :
    isTerminator c = true ↔ c = '\n' ∨ c = '\r' ∨ c = '\u2028' ∨ c = '\u2029' := by
  simp [isTerminator, or_assoc]

theorem not_isTerminator_of_isPrintable {c : Char} (h : isPrintable c = true) :
    isTerminator c = false := by
  rw [Bool.eq_false_iff, ne_eq, isTerminator_iff]
  rintro (rfl | rfl | rfl | rfl) <;> exact absurd h (by decide)

theorem hostLines_eq_singleton_iff : hostLines t = [t] ↔ ∀ c ∈ t, isTerminator c = false := by
  constructor
  · intro h
    have hmem : t ∈ hostLines t := by
      rw [h]
      exact List.mem_singleton_self t
    exact not_of_mem_splitOnP hmem
  · exact List.splitOnP_eq_singleton

/-- Text without terminators joins the first line of what follows. -/
theorem tail_hostLines_append (hw : ∀ c ∈ w, isTerminator c = false) (t : Text) :
    (hostLines (w ++ t)).tail = (hostLines t).tail := by
  induction w with
  | nil => rfl
  | cons c w ih =>
    obtain ⟨hc, hw⟩ := List.forall_mem_cons.1 hw
    obtain ⟨l, ls, hl, hcl⟩ := splitOnP_cons_of_neg hc (w ++ t)
    rw [← ih hw, hostLines, hostLines, List.cons_append, hcl, hl, List.tail_cons, List.tail_cons]

/-- Every line is cut further on its own. -/
theorem hostLines_ofLines (hne : ls ≠ []) : hostLines (Text.ofLines ls) = ls.flatMap hostLines := by
  induction ls with
  | nil => exact absurd rfl hne
  | cons l ls ih =>
    cases ls with
    | nil => rw [ofLines_singleton, List.flatMap_singleton]
    | cons m ls =>
      have hcut : hostLines (l ++ '\n' :: Text.ofLines (m :: ls)) =
          hostLines l ++ hostLines (Text.ofLines (m :: ls)) := List.splitOnP_append_cons _ _ rfl
      rw [ofLines_cons_cons, hcut, List.flatMap_cons, ih (List.cons_ne_nil m ls)]

theorem flatMap_hostLines (h : ∀ l ∈ ls, ∀ c ∈ l, isTerminator c = false) :
    ls.flatMap hostLines = ls := by
  have hall : ls.map hostLines = ls.map fun l => [l] :=
    List.map_congr_left fun l hl => hostLines_eq_singleton_iff.2 (h l hl)
  rw [List.flatMap_def, hall, ← List.flatMap_def, List.flatMap_singleton']

end HostScript

/-! ## Comments -/

namespace Emission

/-- The text that an emission comments out: a line that is copied, or a statement that failed. -/
inductive Comments : Emission → Text → Prop
  | copied {line : Text} (h : Item.commentMark <+: line.trim) : Comments (.verbatim line) line
  | failed (k : Nat) (t : Text) (f : Failure) : Comments (.failed k t f) t

variable {e : Emission} {q : Text}

/-- A comment is the text behind printable characters. -/
theorem Comments.exists_code_eq (h : e.Comments q) :
    ∃ a : Text, (∀ c ∈ a, isPrintable c = true) ∧ e.code = a ++ q := by
  cases h with
  | copied => exact ⟨[], List.forall_mem_nil _, rfl⟩
  | failed k => exact exists_comment_eq k q

/-- What is commented out occurs on a line of the sketch. -/
theorem Comments.exists_isInfix {keywords : Names} {sketch : Sketch} (h : e.Comments q)
    (he : e ∈ (Run.ofSketch keywords sketch).emissions) : ∃ line ∈ sketch.body, q <:+: line := by
  obtain ⟨line, hl, i, hi, s, rfl⟩ := Run.exists_item_of_mem_emissions he
  refine ⟨line, hl, ?_⟩
  cases i with
  | verbatim c =>
    cases h
    rcases Item.verbatim_of_mem_ofLine hi with rfl | ⟨rfl, -⟩
    · exact List.nil_infix
    · exact List.infix_rfl
  | statement t =>
    obtain ⟨-, -, hpart⟩ := Item.statement_of_mem_ofLine hi
    cases hread : Statement.ofText t with
    | ok st =>
      rw [ofItem_of_ok keywords s hread] at h
      cases h
    | error f =>
      rw [ofItem_of_error keywords s hread] at h
      cases h
      exact hpart

end Emission

namespace HostScript

open Emission

variable {source : Text} {sketch : Sketch}

/-- **Comments end with their lines but for two characters.**  A comment is made for text on a line of
the sketch and holds neither LF nor CR.  It is one line of host code exactly if that text holds
neither U+2028 nor U+2029; what follows the first of them stands on lines of its own.  The lines of the
code are those of its emissions, and they are the emissions if the source holds neither character. -/
theorem comments_end_with_lines (keywords : Names) (h : Sketch.ofText? source = some sketch) :
    let run := Run.ofSketch keywords sketch
    (∀ e ∈ run.emissions, ∀ q, e.Comments q →
      (∃ line ∈ sketch.body, q <:+: line) ∧ '\n' ∉ e.code ∧ '\r' ∉ e.code ∧
        (hostLines e.code = [e.code] ↔ '\u2028' ∉ q ∧ '\u2029' ∉ q) ∧
          (hostLines e.code).tail = (hostLines q).tail) ∧
    (run.emissions ≠ [] →
      hostLines (ofText keywords source).code = run.codeLines.flatMap hostLines ∧
        ('\u2028' ∉ source → '\u2029' ∉ source →
          hostLines (ofText keywords source).code = run.codeLines)) := by
  intro run
  have hbreaks (e : Emission) (he : e ∈ run.emissions) : '\n' ∉ e.code ∧ '\r' ∉ e.code :=
    ⟨Run.not_mem_code he (by decide) fun l hl => (Sketch.not_mem_of_mem_body h hl).1,
      Run.not_mem_code he (by decide) fun l hl => (Sketch.not_mem_of_mem_body h hl).2⟩
  refine ⟨fun e he q hq => ?_, fun hne => ?_⟩
  · obtain ⟨hfeed, hreturn⟩ := hbreaks e he
    obtain ⟨a, ha, hcode⟩ := hq.exists_code_eq
    have hfree : ∀ c ∈ a, isTerminator c = false :=
      fun c hc => not_isTerminator_of_isPrintable (ha c hc)
    have hmem {c : Char} (hc : c ∈ q) : c ∈ e.code := hcode ▸ List.mem_append_right a hc
    refine ⟨hq.exists_isInfix he, hfeed, hreturn, ?_, ?_⟩
    · rw [hostLines_eq_singleton_iff]
      constructor
      · intro hnone
        exact ⟨fun hc => absurd (hnone _ (hmem hc)) (by decide),
          fun hc => absurd (hnone _ (hmem hc)) (by decide)⟩
      · rintro ⟨hline, hparagraph⟩ c hc
        rw [hcode] at hc
        rcases List.mem_append.1 hc with hc | hc
        · exact hfree c hc
        · rw [Bool.eq_false_iff, ne_eq, isTerminator_iff]
          rintro (rfl | rfl | rfl | rfl)
          · exact hfeed (hmem hc)
          · exact hreturn (hmem hc)
          · exact hline hc
          · exact hparagraph hc
    · rw [hcode, tail_hostLines_append hfree]
  · have hcut : hostLines (ofText keywords source).code = run.codeLines.flatMap hostLines := by
      rw [ofText_of_sketch keywords h]
      exact hostLines_ofLines (mt List.map_eq_nil_iff.1 hne)
    refine ⟨hcut, fun hline hparagraph => ?_⟩
    rw [hcut]
    refine flatMap_hostLines fun l hl c hc => ?_
    obtain ⟨e, he, rfl⟩ := List.mem_map.1 hl
    have hbody {d : Char} (hd : d ∉ source) : ∀ line ∈ sketch.body, d ∉ line :=
      fun line hl hc => hd ((Sketch.isInfix_of_mem_body h hl).subset hc)
    rw [Bool.eq_false_iff, ne_eq, isTerminator_iff]
    rintro (rfl | rfl | rfl | rfl)
    · exact (hbreaks e he).1 hc
    · exact (hbreaks e he).2 hc
    · exact Run.not_mem_code he (by decide) (hbody hline) hc
    · exact Run.not_mem_code he (by decide) (hbody hparagraph) hc

/-- A comment that is copied and a statement that fails. -/
theorem comments_end_with_lines_failed :
    let source : Text := "#kscript\n// note\n= 1".toList
    let sketch : Sketch := ⟨false, ["// note".toList, "= 1".toList]⟩
    Sketch.ofText? source = some sketch ∧
      hostLines (ofText ∅ source).code =
        ["// note".toList, "// KScript parse error on line 2: = 1".toList] := by
  intro source sketch
  have h : Sketch.ofText? source = some sketch := by decide
  have hlines : (Run.ofSketch ∅ sketch).codeLines =
      ["// note".toList, "// KScript parse error on line 2: = 1".toList] := by decide
  have hne : (Run.ofSketch ∅ sketch).emissions ≠ [] := by decide
  rw [← hlines]
  exact ⟨h, ((comments_end_with_lines ∅ h).2 hne).2 (by decide) (by decide)⟩

/-- Behind U+2028 a statement that failed is code again. -/
theorem comments_end_with_lines_separator :
    let source : Text := "#kscript\n= 1\u2028alert(1)".toList
    let sketch : Sketch := ⟨false, ["= 1\u2028alert(1)".toList]⟩
    Sketch.ofText? source = some sketch ∧
      (∃ e ∈ (Run.ofSketch ∅ sketch).emissions, ∃ q, e.Comments q ∧
        ∃ c ∈ e.code, isTerminator c = true) ∧
      hostLines (ofText ∅ source).code =
        ["// KScript parse error on line 1: = 1".toList, "alert(1)".toList] := by
  intro source sketch
  have h : Sketch.ofText? source = some sketch := by decide
  have hlines : hostLines (ofText ∅ source).code =
      ["// KScript parse error on line 1: = 1".toList, "alert(1)".toList] := by decide
  refine ⟨h, ?_, hlines⟩
  let t : Text := "= 1\u2028alert(1)".toList
  let f : Failure := .statement (Fault.missingTarget.on 1)
  exact ⟨.failed 1 t f, by decide, t, .failed 1 t f, '\u2028', by decide, by decide⟩

end HostScript

end KScript
