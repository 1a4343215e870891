import KScript.HostScript

/-!
# Sessions

A session keeps its built-in names, and what the latest text or statement left behind.
-/

namespace KScript

/-- The state between two requests. -/
structure Session where
  /-- The names that need no quotes. -/
  keywords : Names
  /-- The scope after the latest statement. -/
  scope : Scope
  /-- The diagnostics of the latest text. -/
  diagnostics : List Diagnostic
deriving DecidableEq

namespace Session

/-- A fresh session. -/
def start (keywords : Names) : Session := ⟨keywords, .empty, []⟩

/-- The session after a text.  A text that is no sketch clears the diagnostics and nothing else. -/
def after (s : Session) (source : Text) : Session :=
  match Run.ofText? s.keywords source with
  | some r => { s with scope := r.scope, diagnostics := r.diagnostics }
  | none => { s with diagnostics := [] }

/-- The script for a text, what is reported about it, and the session after it. -/
def submit (s : Session) (source : Text) : HostScript × List Record × Session :=
  (.ofText s.keywords source, HostScript.records s.keywords source, s.after source)

/-- A sketch leaves the scope and the diagnostics of its run behind. -/
theorem submit_of_sketch (s : Session) {source : Text} {sketch : Sketch}
    (h : Sketch.ofText? source = some sketch) :
    s.submit source =
      (.ofRun (Run.ofSketch s.keywords sketch), (Run.ofSketch s.keywords sketch).records,
        { s with scope := (Run.ofSketch s.keywords sketch).scope,
                 diagnostics := (Run.ofSketch s.keywords sketch).diagnostics }) := by
  simp [submit, HostScript.ofText, HostScript.records, after, Run.ofText?, h]

/-- A text that is no sketch is passed through. -/
theorem submit_of_not_isMarked (s : Session) {source : Text}
    (h : Sketch.isMarked source = false) :
    s.submit source = (.passThrough source, [], { s with diagnostics := [] }) := by
  simp [submit, HostScript.ofText, HostScript.records, after, Run.ofText?, Sketch.ofText?, h]

/-- The code of a single statement, and the session after it.  A failure changes nothing. -/
def transform (s : Session) (statement : Text) : Except StatementError Text × Session :=
  match s.scope.transform s.keywords statement with
  | .ok (code, scope) => (.ok code, { s with scope := scope })
  | .error e => (.error e, s)

/-- The code of a single value. -/
def reduce (s : Session) (value : Text) : Except StatementError Text :=
  s.scope.reduce s.keywords value

/-- The session with more built-in names. -/
def addKeywords (s : Session) (ns : List Text) : Session :=
  { s with keywords := s.keywords.addAll ns }

end Session

end KScript
