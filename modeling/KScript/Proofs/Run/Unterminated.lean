import KScript.Proofs.Run.Chunks
import KScript.Proofs.Value.Failures

/-!
# Literals that are left open

Only a value that is cut into pieces is checked for a literal that is left open.  A line with such a
literal is one statement, and it is reported if the value for which the statement asks is cut.
-/

namespace KScript

open Text

/-! ## Statements -/

namespace Statement

variable {t v : Text} {f : Fault}

/-- The value for which a statement asks: the right side of an assignment that has a target, or all
of a statement that is no assignment. -/
inductive AsksValue (t : Text) : Text → Prop
  | assigned (a : Assignment) (hs : isSimple t = true) (h : Assignment.ofText? t = some a)
      (ht : a.target ≠ []) : AsksValue t a.value
  | alone (hs : isSimple t = true) (h : Assignment.ofText? t = none) : AsksValue t t

theorem AsksValue.closed_eq (h : AsksValue t v) : v.closed = t.closed := by
  cases h with
  | assigned a hs h ht => exact Assignment.closed_value h
  | alone hs h => rfl

theorem AsksValue.trim_eq (h : AsksValue t v) (ht : t.trim = t) : v.trim = v := by
  cases h with
  | assigned a hs h htarget =>
    obtain ⟨l, r, -, -, rfl⟩ := Assignment.sides_of_ofText? h
    rw [Assignment.value_ofSides, trim_trim]
  | alone hs h => exact ht

/-- A statement fails where its value does. -/
theorem AsksValue.ofText_eq_error (h : AsksValue t v) (ht : t.trim = t)
    (hv : Value.ofText v = .error f) : ofText t = .error f := by
  cases h with
  | assigned a hs h htarget =>
    rw [(Reads.assignment a hs h).ofText_eq ht, ofAssignment, if_neg (by simpa using htarget), hv]
    rfl
  | alone hs h =>
    rw [(Reads.expression hs h).ofText_eq ht, hv]
    rfl

/-- A statement that fails has no target or a value that fails. -/
theorem exists_asksValue_of_error (ht : t.trim = t) (h : ofText t = .error f) :
    f = .missingTarget ∨ ∃ v, AsksValue t v ∧ Value.ofText v = .error f := by
  have hr := reads_ofText ht
  rw [h] at hr
  generalize ho : Except.error f = o at hr
  cases hr with
  | opener | blockEnd | controlEnd | control => cases ho
  | assignment a hs ha =>
    rw [ofAssignment] at ho
    split at ho
    · cases ho
      exact .inl rfl
    · next htarget =>
      have hasks : AsksValue t a.value := .assigned a hs ha (by simpa using htarget)
      exact .inr ⟨a.value, hasks, map_eq_error_iff.1 ho.symm⟩
  | expression hs ha => exact .inr ⟨t, .alone hs ha, map_eq_error_iff.1 ho.symm⟩

/-- A statement with an open literal whose value is cut fails at the cut. -/
theorem AsksValue.ofText_of_isCut (h : AsksValue t v) (ht : t.trim = t) (hopen : t.closed = false)
    (hcut : Value.isCut v = true) : ofText t = .error (.unterminatedLiteral v) := by
  refine h.ofText_eq_error ht ?_
  rw [Value.ofText, h.trim_eq ht]
  exact Value.ofTrimmed_of_isCut hcut (h.closed_eq.trans hopen)

/-- A statement in which nothing is cut does not fail at a cut. -/
theorem kind_of_forall_not_isCut (ht : t.trim = t) (h : ofText t = .error f)
    (hcut : ∀ v, AsksValue t v → Value.isCut v = false) : f.kind = .value := by
  rcases exists_asksValue_of_error ht h with rfl | ⟨v, hv, hf⟩
  · rfl
  · rw [Value.ofText, hv.trim_eq ht] at hf
    obtain ⟨value, hok⟩ := Value.exists_ofTrimmed_of_not_isCut (hcut v hv)
    rw [hok] at hf
    cases hf

end Statement

/-! ## Lines -/

/-- A line that leaves a literal open is one statement. -/
theorem Item.ofLine_of_open {line : Text} (hb : ¬ line.Blank) (hc : ¬ commentMark <+: line.trim)
    (hopen : line.closed = false) : ofLine line = [statement line.trim] :=
  (Asks.whole hb hc fun _ => (closed_trim line).trans hopen).ofLine_eq

/-- The chunk of a line that leaves a literal open has one emission. -/
theorem Run.chunk_of_open (keywords : Names) {sketch : Sketch} {i : Nat} {line : Text}
    (hline : sketch.body[i]? = some line) (hb : ¬ line.Blank)
    (hc : ¬ Item.commentMark <+: line.trim) (hopen : line.closed = false) :
    ∃ s : Scope, s.line = i + 1 ∧ (ofSketch keywords sketch).chunks[i]? =
      some [(Emission.ofItem keywords s (.statement line.trim)).1] := by
  have hi : i < sketch.body.length := (List.getElem?_eq_some_iff.1 hline).1
  refine ⟨(Emission.ofLines keywords sketch.scope (sketch.body.take i)).2.nextLine, ?_, ?_⟩
  · rw [scope_take keywords hi.le]
    rfl
  · rw [getElem?_chunks, hline, Option.map_some, Emission.ofLine, Item.ofLine_of_open hb hc hopen]
    rfl

/-! ## Scripts -/

namespace HostScript

variable {source line : Text} {sketch : Sketch} {i : Nat}

/-- **A literal that is left open is reported where a value is cut.**  A line with such a literal,
neither blank nor a comment, becomes one line of code.  If the value for which it asks is cut, the
failure of the cut is among the diagnostics and the text of the line stands in a comment only.  If no
value of it is cut, it does not fail at a cut.

The last part asks that the line is none of those that are cut at semicolons, although the proof has no
need of it.  The cut of such a line fails at the open literal and the line goes on as one statement; that
this failure is not reported is neither promised nor denied here. -/
theorem open_literal_reported (keywords : Names) (h : Sketch.ofText? source = some sketch)
    (hline : sketch.body[i]? = some line) (hb : ¬ line.Blank) (hc : ¬ "//".toList <+: line.trim)
    (hopen : line.closed = false) :
    let run := Run.ofSketch keywords sketch
    (ofText keywords source).code = Text.ofLines (run.chunks.flatten.map Emission.code) ∧
    ∃ e, run.chunks[i]? = some [e] ∧ e.statement? = some line.trim ∧
      (∀ v, Statement.AsksValue line.trim v → Value.isCut v = true →
        e.diagnostic? = some ⟨.split, i + 1, (Fault.unterminatedLiteral v).message, line.trim⟩ ∧
        e.code = "// KScript parse error on line ".toList ++ Nat.toDigits 10 (i + 1) ++
          ": ".toList ++ line.trim ∧
        ⟨.split, i + 1, (Fault.unterminatedLiteral v).message, line.trim⟩ ∈
          (ofText keywords source).diagnostics) ∧
      (Item.isCut line.trim = false →
        (∀ v, Statement.AsksValue line.trim v → Value.isCut v = false) →
        ∀ d, e.diagnostic? = some d → d.kind = .value) := by
  intro run
  have ht : line.trim.trim = line.trim := trim_trim line
  have hopen' : line.trim.closed = false := (closed_trim line).trans hopen
  obtain ⟨s, hs, hchunk⟩ := Run.chunk_of_open keywords hline hb hc hopen
  rw [ofText_of_sketch keywords h]
  refine ⟨rfl, _, hchunk, Emission.statement?_ofItem keywords s _, fun v hv hcut => ?_,
    fun _ hcut d hd => ?_⟩
  · have hfail := hv.ofText_of_isCut ht hopen' hcut
    have hmem : (Emission.ofItem keywords s (.statement line.trim)).1 ∈ run.emissions :=
      List.mem_flatten.2 ⟨_, List.mem_of_getElem? hchunk, List.mem_singleton_self _⟩
    rw [Emission.ofItem_of_error keywords s hfail, hs] at hmem ⊢
    exact ⟨rfl, Emission.comment_eq _ _, List.mem_filterMap.2 ⟨_, hmem, rfl⟩⟩
  · cases hr : Statement.ofText line.trim with
    | ok st =>
      rw [Emission.ofItem_of_ok keywords s hr] at hd
      cases hd
    | error f =>
      rw [Emission.ofItem_of_error keywords s hr] at hd
      cases hd
      exact Statement.kind_of_forall_not_isCut ht hr hcut

/-- An assignment whose value is cut at a blank. -/
theorem open_literal_reported_call :
    let source : Text := "#kscript\ndraw:\n  x = say \"hi\nend".toList
    let line : Text := "  x = say \"hi".toList
    let sketch : Sketch := ⟨false, ["draw:".toList, line, "end".toList]⟩
    Sketch.ofText? source = some sketch ∧ line.closed = false ∧
      ⟨.split, 2, (Fault.unterminatedLiteral "say \"hi".toList).message, line.trim⟩ ∈
        (ofText ∅ source).diagnostics := by
  intro source line sketch
  have h : Sketch.ofText? source = some sketch := by decide
  have hline : sketch.body[1]? = some line := rfl
  have hopen : line.closed = false := by decide
  have hvalue : Statement.AsksValue line.trim "say \"hi".toList :=
    .assigned ⟨"x".toList, none, "say \"hi".toList⟩ (by decide) (by decide) (by decide)
  obtain ⟨-, e, -, -, hreported, -⟩ :=
    open_literal_reported ∅ h hline (by decide) (by decide) hopen
  exact ⟨h, hopen, (hreported _ hvalue (by decide)).2.2⟩

/-- A value that is one word is quoted, whatever quotes it holds. -/
theorem open_literal_quoted :
    let source : Text := "#kscript\nx = \"abc".toList
    let line : Text := "x = \"abc".toList
    let sketch : Sketch := ⟨false, [line]⟩
    Sketch.ofText? source = some sketch ∧ ¬ line.Blank ∧ ¬ "//".toList <+: line.trim ∧
      line.closed = false ∧ (ofText ∅ source).diagnostics = [] ∧
      (ofText ∅ source).code = "var x = \"\\\"abc\";".toList := by
  decide

end HostScript

end KScript
