import KScript.Proofs.Nesting.Lines
import KScript.Proofs.Run.Replay
import KScript.Proofs.Sketch
import Mathlib.Data.List.Forall2

/-!
# Nesting is preserved

A nested program becomes one line of code for each of its lines.  The code has the form that the
role of the line asks for, and the braces of the code nest as the program does.  Blocks stand at top
level only, so the flag of the scope is down again after each of them.
-/

namespace KScript

/-- If every line is one statement, the items of the lines are these statements. -/
theorem statements_schedule {lines : List Text}
    (h : ∀ line ∈ lines, Item.ofLine line = [.statement line.trim]) (k : Nat) :
    statements (schedule k lines) = lines.map Text.trim := by
  induction lines generalizing k with
  | nil => rfl
  | cons line lines ih =>
    rw [schedule, statements_append, ih (fun l hl => h l (List.mem_cons_of_mem line hl)),
      h line List.mem_cons_self]
    rfl

/-- If every line is one statement, every line becomes one emission. -/
theorem Emission.forall₂_ofLines (keywords : Names) (s : Scope) {lines : List Text}
    (h : ∀ line ∈ lines, Item.ofLine line = [.statement line.trim]) :
    List.Forall₂ (fun t e => ∃ s', e = (ofItem keywords s' (.statement t)).1)
      (lines.map Text.trim) (ofLines keywords s lines).1.flatten := by
  induction lines generalizing s with
  | nil => exact .nil
  | cons line lines ih =>
    have hr := ih (ofLine keywords s line).2 fun l hl => h l (List.mem_cons_of_mem line hl)
    rw [ofLines] at hr ⊢
    rw [carry_cons, List.flatten_cons, ofLine, h line List.mem_cons_self] at *
    exact .cons ⟨s.nextLine, rfl⟩ hr

namespace Nesting

namespace RoleLine

/-- The statement on a line. -/
def statement (l : RoleLine) : Text := l.2.text.trim

theorem trim_statement (l : RoleLine) : l.statement.trim = l.statement := Text.trim_trim _

theorem fits (l : RoleLine) : Fits l.1 l.statement := Role.fits_cases l.trim_statement l.2.fits

end RoleLine

namespace Program

variable (P : Program)

/-- The statements of a program in order. -/
def statements : List Text := P.lines.map RoleLine.statement

variable {P}

/-- The sketch that the text of a program holds: the lines, up to blanks. -/
theorem exists_sketch (hne : P.lines ≠ []) :
    ∃ body, Sketch.ofText? P.source = some ⟨false, body⟩ ∧ body.map Text.trim = P.statements := by
  have hls : P.lines.map (fun l => l.2.text) ≠ [] := by
    intro h
    exact hne (List.map_eq_nil_iff.1 h)
  have hall (p : Text → Prop) (h : ∀ l : RoleLine, p l.2.text) :
      ∀ t ∈ P.lines.map (fun l => l.2.text), p t := by
    rintro t ht
    obtain ⟨l, -, rfl⟩ := List.mem_map.1 ht
    exact h l
  have hfeed := hall ('\n' ∉ ·) fun l => l.2.noFeed
  have hreturn := hall ('\r' ∉ ·) fun l => l.2.noReturn
  have hblank := hall (¬ ·.Blank) fun l => mt Text.trim_eq_nil_iff.2 l.fits.isStatement.ne_nil
  have hdirective := hall (Sketch.isDirective · = false) fun l =>
    beq_eq_false_iff_ne.2 l.fits.isStatement.not_directive
  refine ⟨_, Sketch.ofText?_ofLines hls hfeed hreturn hdirective, ?_⟩
  rw [Text.map_trim_lines_trim_ofLines hls hblank hfeed, List.map_map]
  rfl

theorem ofLine_eq {body : List Text} (h : body.map Text.trim = P.statements) :
    ∀ line ∈ body, Item.ofLine line = [.statement line.trim] := by
  intro line hline
  have hmem : line.trim ∈ P.statements := h ▸ List.mem_map_of_mem hline
  obtain ⟨l, -, hl⟩ := List.mem_map.1 hmem
  exact IsStatement.ofLine_eq (hl ▸ l.fits.isStatement)

/-! ## Blocks -/

end Program

/-- Whether a line with a role begins or ends a block. -/
def Role.isBoundary : Role → Bool
  | opener | blockEnd => true
  | simple | ifThen | orElseIf | orElse | loop | controlEnd => false

theorem not_isBoundary_of_reads {t : Text} {c : Control} (ho : Statement.isOpener t = false)
    (h : Control.Reads t c) : Statement.isBoundary t = false := by
  rw [Statement.isBoundary, ho, Statement.not_isBlockCloser_of_reads h]
  rfl

/-- Only openers and block closers are boundaries. -/
theorem Fits.isBoundary_eq {r : Role} {t : Text} (h : Fits r t) :
    Statement.isBoundary t = r.isBoundary := by
  cases h with
  | simple _ _ _ _ h => exact Statement.isBoundary_of_isSimple h
  | opener header =>
    rw [Statement.isBoundary, Statement.isOpener_append]
    rfl
  | blockEnd h =>
    rw [Statement.isBoundary, h, Bool.or_true]
    rfl
  | controlEnd h =>
    rw [Statement.isBoundary, Statement.not_isOpener_of_isControlCloser h,
      Statement.not_isBlockCloser_of_isControlCloser h]
    rfl
  | orElse => exact not_isBoundary_of_reads rfl .orElse
  | orElseIf c ho => exact not_isBoundary_of_reads ho (.orElseIf c)
  | ifThen c ho => exact not_isBoundary_of_reads ho (.ifThen c)
  | whileLoop c ho => exact not_isBoundary_of_reads ho (.whileLoop c)
  | forLoop c ho => exact not_isBoundary_of_reads ho (.forLoop c)

mutual

/-- No line of items begins or ends a block. -/
theorem Items.not_isBoundary (is : Items) : ∀ l ∈ is.lines, l.1.isBoundary = false := by
  match is with
  | .nil =>
    intro l hl
    exact absurd hl List.not_mem_nil
  | .simple line rest => exact List.forall_mem_cons.2 ⟨rfl, rest.not_isBoundary⟩
  | .branch head body branches rest =>
    refine List.forall_mem_cons.2 ⟨rfl, List.forall_mem_append.2 ⟨body.not_isBoundary, ?_⟩⟩
    exact List.forall_mem_append.2 ⟨branches.not_isBoundary, rest.not_isBoundary⟩
  | .loop head body closer rest =>
    refine List.forall_mem_cons.2 ⟨rfl, List.forall_mem_append.2 ⟨body.not_isBoundary, ?_⟩⟩
    exact List.forall_mem_cons.2 ⟨rfl, rest.not_isBoundary⟩

theorem Branches.not_isBoundary (b : Branches) : ∀ l ∈ b.lines, l.1.isBoundary = false := by
  match b with
  | .close closer => exact List.forall_mem_singleton.2 rfl
  | .orElseIf head body rest | .orElse head body rest =>
    refine List.forall_mem_cons.2 ⟨rfl, ?_⟩
    exact List.forall_mem_append.2 ⟨body.not_isBoundary, rest.not_isBoundary⟩

end

/-- Every part of a program that begins outside of blocks ends outside of blocks. -/
theorem Part.insideAfter_statements (part : Part) {ts : List Text}
    (h : Statement.insideAfter ts = false) :
    Statement.insideAfter (ts ++ part.lines.map RoleLine.statement) = false := by
  cases part with
  | items is =>
    rw [Part.lines, Statement.insideAfter_append, h]
    intro u hu
    obtain ⟨l, hl, rfl⟩ := List.mem_map.1 hu
    exact l.fits.isBoundary_eq.trans (is.not_isBoundary l hl)
  | block opener body closer =>
    rw [Part.lines, List.map_cons, List.map_append, ← List.cons_append, ← List.append_assoc]
    refine (Statement.insideAfter_concat (RoleLine.fits ⟨_, closer⟩).isBoundary_eq).trans ?_
    exact Statement.not_isOpener_of_isBlockCloser closer.fits

namespace Program

variable {P : Program}

/-- A program ends outside of blocks. -/
theorem insideAfter_statements (P : Program) (ts : List Text)
    (h : Statement.insideAfter ts = false) :
    Statement.insideAfter (ts ++ P.statements) = false := by
  induction P generalizing ts with
  | nil => rwa [statements, lines, List.flatMap_nil, List.map_nil, List.append_nil]
  | cons part P ih =>
    have hr := ih _ (part.insideAfter_statements h)
    rw [statements, lines] at hr ⊢
    rwa [List.flatMap_cons, List.map_append, ← List.append_assoc]

/-! ## The theorem -/

/-- What it means that a script has the nesting of a program. -/
structure Preserved (P : Program) (script : HostScript) : Prop where
  /-- There is one line of code for every line. -/
  length_eq : script.code.lines.length = P.lines.length
  /-- The code of a line has the form that the role of the line asks for. -/
  becomes : List.Forall₂ (fun l code => Becomes l.1 l.statement code) P.lines script.code.lines
  /-- The braces of the code are those of the outline of the program, and of no other. -/
  outline : ∀ o : Outline, o.braces = script.code.lines.map Brace.ofCode ↔ o = P.outline

theorem map_ofCode_of_becomes {ls : List RoleLine} {codes : List Text}
    (h : List.Forall₂ (fun l code => Becomes l.1 l.statement code) ls codes) :
    codes.map Brace.ofCode = braces ls := by
  induction h with
  | nil => rfl
  | cons h _ ih => rw [List.map_cons, braces_cons, h.brace_eq, ih]

/-- Every line of a program becomes one line of code of the form that its role asks for. -/
theorem becomes_emissions (keywords : Names) {body : List Text} (s : Scope)
    (h : body.map Text.trim = P.statements) :
    (∀ e ∈ (Emission.ofLines keywords s body).1.flatten, '\n' ∉ e.code) ∧
      List.Forall₂ (fun l e => Becomes l.1 l.statement e.code) P.lines
        (Emission.ofLines keywords s body).1.flatten := by
  have hall := Emission.forall₂_ofLines keywords s (ofLine_eq h)
  rw [h, statements, List.forall₂_map_left_iff] at hall
  have hboth : List.Forall₂ (fun (e : Emission) (l : RoleLine) =>
      '\n' ∉ e.code ∧ Becomes l.1 l.statement e.code)
      (Emission.ofLines keywords s body).1.flatten P.lines := by
    refine hall.flip.imp ?_
    rintro e l ⟨s', rfl⟩
    refine ⟨?_, l.fits.becomes l.trim_statement⟩
    exact Emission.not_mem_code_ofItem l.trim_statement fun hc =>
      l.2.noFeed (Text.mem_of_mem_trim hc)
  obtain ⟨hfeed, hbecomes⟩ := (List.forall₂_and_left _ _).1 hboth
  exact ⟨hfeed, hbecomes.flip⟩

/-- **Nesting is preserved.**  The text of a program is a sketch, its code has the nesting of the
program, and the run ends outside of blocks. -/
theorem nesting_preserved (keywords : Names) (hne : P.lines ≠ []) :
    (HostScript.ofText keywords P.source).fromSketch = true ∧
      Preserved P (HostScript.ofText keywords P.source) ∧
      (Run.ofText? keywords P.source).map (fun r => r.scope.inBlock) = some false := by
  obtain ⟨body, hsketch, hbody⟩ := exists_sketch hne
  have hscript := HostScript.ofText_of_sketch keywords hsketch
  obtain ⟨hfeed, hall⟩ := becomes_emissions keywords { Scope.empty with debug := false } hbody
  have hcodes : (Run.ofSketch keywords ⟨false, body⟩).codeLines ≠ [] := by
    intro hn
    rw [Run.codeLines, List.map_eq_nil_iff] at hn
    exact hne (List.length_eq_zero_iff.1 (hall.length_eq.trans (congrArg List.length hn)))
  have hlines : (HostScript.ofText keywords P.source).code.lines =
      (Run.ofSketch keywords ⟨false, body⟩).codeLines := by
    rw [hscript]
    exact Text.lines_ofLines hcodes (List.forall_mem_map.2 hfeed)
  have hbecomes : List.Forall₂ (fun l code => Becomes l.1 l.statement code) P.lines
      (HostScript.ofText keywords P.source).code.lines := by
    rw [hlines, Run.codeLines, List.forall₂_map_right_iff]
    exact hall
  refine ⟨?_, ⟨hbecomes.length_eq.symm, hbecomes, fun o => ?_⟩, ?_⟩
  · rw [hscript]
    rfl
  · rw [map_ofCode_of_becomes hbecomes, ← P.braces_outline]
    exact Outline.braces_injective.eq_iff
  · rw [Run.ofText?, hsketch, Option.map_some, Option.map_some, Run.scope_ofSketch]
    have hst : Sketch.statements ⟨false, body⟩ = P.statements :=
      (statements_schedule (ofLine_eq hbody) 1).trans hbody
    rw [hst]
    exact congrArg some ((Scope.inBlock_follow rfl _).trans (P.insideAfter_statements [] rfl))

/-- A branch with all its parts in the block that draws, after a statement at top level. -/
theorem nesting_preserved_draw :
    let branch : Items := .branch ⟨"  if x > 1".toList, by decide, by decide, by decide⟩
      (.simple ⟨"    fill red".toList, by decide, by decide, by decide⟩ .nil)
      (.orElseIf ⟨"  else if x".toList, by decide, by decide, by decide⟩ .nil
        (.orElse ⟨"  else".toList, by decide, by decide, by decide⟩
          (.simple ⟨"    = 2".toList, by decide, by decide, by decide⟩ .nil)
          (.close ⟨"  end while".toList, by decide, by decide, by decide⟩))) .nil
    let P : Program := [.items (.simple ⟨"x = 1".toList, by decide, by decide, by decide⟩ .nil),
      .block ⟨"draw:".toList, by decide, by decide, by decide⟩ branch
        ⟨"end".toList, by decide, by decide, by decide⟩]
    P.lines ≠ [] ∧ (HostScript.ofText ∅ P.source).code.lines.length = 9 := by
  intro branch P
  have hne : P.lines ≠ [] := List.cons_ne_nil _ _
  exact ⟨hne, (nesting_preserved ∅ hne).2.1.length_eq⟩

end Program

end Nesting

end KScript
