import KScript.Session
import KScript.Proofs.Run.History

/-!
# Sketches worked through in a session

A sketch can be worked through in the session itself, statement by statement: each one is
transformed as if it had been asked for on its own, and if it fails, the diagnostic is kept with those
before it.
If the session is cleared first, this is what submitting the sketch does.
-/

namespace KScript

/-- No statement leaves its line. -/
theorem Statement.line_after (scope : Scope) (st : Statement) :
    (st.after scope).line = scope.line := by
  cases st <;> rfl

namespace Session

variable (s : Session)

/-! ## Working in a session -/

/-- The session without what earlier requests left in it, at the start of a sketch. -/
def cleared (debug : Bool) : Session :=
  { s with
    scope := { s.scope with names := ∅, inBlock := false, line := 0, debug := debug }
    diagnostics := [] }

/-- The session on the next line. -/
def nextLine : Session := { s with scope := s.scope.nextLine }

/-- What an item becomes in a session, and the session after it. -/
def answer (s : Session) : Item → Emission × Session
  | .verbatim c => (.verbatim c, s)
  | .statement t =>
    match s.transform t with
    | (.ok c, s') => (.done s'.scope.line t c, s')
    | (.error e, s') =>
      let f := Failure.statement e
      (.failed s'.scope.line t f,
        match f.diagnose? t with
        | some d => { s' with diagnostics := s'.diagnostics ++ [d] }
        | none => s')

/-- What a line becomes in a session, and the session after it. -/
def answerLine (line : Text) : List Emission × Session :=
  carry answer s.nextLine (Item.ofLine line)

/-- The last report about a sketch, if it is traced. -/
def summary : List Record :=
  if s.scope.debug then
    [⟨.debug, s!"transpiled {s.scope.line} line(s), {s.diagnostics.length} error(s)"⟩]
  else []

/-- The result of a sketch that became `es` in a session, and the session. -/
def finish (es : List Emission) : HostScript × List Record × Session :=
  (⟨Text.ofLines (es.map Emission.code), s.diagnostics, s.scope.names.toList, true⟩,
    es.filterMap (Emission.record? s.scope.debug) ++ s.summary, s)

/-- The script for a text that the session works through, what is reported about it, and the session
after it. -/
def work (source : Text) : HostScript × List Record × Session :=
  match Sketch.ofText? source with
  | none => (.passThrough source, [], { s with diagnostics := [] })
  | some sketch =>
    let worked := carry answerLine (s.cleared sketch.debug) sketch.body
    worked.2.finish worked.1.flatten

/-! ## Working and running -/

/-- The session that has moved on to a scope and found the failures among some emissions. -/
def advance (es : List Emission) (scope : Scope) : Session :=
  { s with scope := scope, diagnostics := s.diagnostics ++ es.filterMap Emission.diagnostic? }

theorem advance_advance (es fs : List Emission) (scope scope' : Scope) :
    (s.advance es scope).advance fs scope' = s.advance (es ++ fs) scope' := by
  simp [advance]

theorem advance_nil : s.advance [] s.scope = s := by
  simp [advance]

theorem nextLine_eq : s.nextLine = s.advance [] s.scope.nextLine := by
  simp [nextLine, advance]

/-- An item becomes in a session what it becomes in the scope of the session. -/
theorem answer_eq (i : Item) :
    s.answer i = ((Emission.ofItem s.keywords s.scope i).1,
      s.advance [(Emission.ofItem s.keywords s.scope i).1]
        (Emission.ofItem s.keywords s.scope i).2) := by
  cases i with
  | verbatim c =>
    have hnil : s.diagnostics ++ [Emission.verbatim c].filterMap Emission.diagnostic? =
      s.diagnostics := List.append_nil _
    rw [answer, Emission.ofItem, advance, hnil]
  | statement t =>
    cases h : Statement.ofText t with
    | ok st =>
      rw [Emission.ofItem_of_ok _ _ h]
      simp [answer, transform, Scope.transform, h, Except.map, located, advance,
        Emission.diagnostic?, Statement.line_after]
    | error f =>
      rw [Emission.ofItem_of_error _ _ h]
      simp [answer, transform, Scope.transform, h, Except.map, located, advance,
        Emission.diagnostic?, Failure.diagnose?]

theorem carry_answer (is : List Item) :
    carry answer s is = ((carry (Emission.ofItem s.keywords) s.scope is).1,
      s.advance (carry (Emission.ofItem s.keywords) s.scope is).1
        (carry (Emission.ofItem s.keywords) s.scope is).2) := by
  -- The session advances by the emissions of each item, with the scope that the loop has reached.
  induction is generalizing s with
  | nil => rw [carry_nil, carry_nil, advance_nil]
  | cons i is ih =>
    rw [carry_cons, carry_cons, answer_eq, ih, advance_advance]
    rfl

theorem answerLine_eq (line : Text) :
    s.answerLine line = ((Emission.ofLine s.keywords s.scope line).1,
      s.advance (Emission.ofLine s.keywords s.scope line).1
        (Emission.ofLine s.keywords s.scope line).2) := by
  rw [answerLine, nextLine_eq, carry_answer, advance_advance]
  rfl

theorem carry_answerLine (lines : List Text) :
    carry answerLine s lines = ((Emission.ofLines s.keywords s.scope lines).1,
      s.advance (Emission.ofLines s.keywords s.scope lines).1.flatten
        (Emission.ofLines s.keywords s.scope lines).2) := by
  unfold Emission.ofLines
  induction lines generalizing s with
  | nil => rw [carry_nil, carry_nil, List.flatten_nil, advance_nil]
  | cons line lines ih =>
    rw [carry_cons, carry_cons, answerLine_eq, ih, advance_advance]
    rfl

/-- Submitting a text is working through it, whatever the session has been through. -/
theorem submit_eq_work (source : Text) : s.submit source = s.work source := by
  unfold work
  cases h : Sketch.ofText? source with
  | none =>
    have hmarked : Sketch.isMarked source = false := by simpa [Sketch.ofText?] using h
    exact s.submit_of_not_isMarked hmarked
  | some sketch =>
    rw [s.submit_of_sketch h]
    dsimp only
    rw [carry_answerLine]
    rfl

end Session

end KScript
