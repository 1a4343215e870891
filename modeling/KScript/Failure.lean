import KScript.Fault

/-!
# Failures

Why there is no result, and the text that says so.  A failure that comes from a single statement can be
told as a diagnostic, any other cannot.
-/

namespace KScript

/-- Why a statement or a build fails. -/
inductive Failure where
  /-- A single statement fails. -/
  | statement (error : StatementError)
  /-- The system refuses to read or to write. -/
  | io (message : String)
  | fileNotFound (path : String)
  | unsupported (message : String)
  /-- Statements failed where none may. -/
  | diagnostics (diagnostics : List Diagnostic)
deriving DecidableEq

namespace Failure

/-- The wording of a failure. -/
def display : Failure → String
  | statement e => e.display
  | io message => s!"I/O error: {message}"
  | fileNotFound path => s!"File not found: {path}"
  | unsupported message => s!"Unsupported: {message}"
  | diagnostics ds =>
    let entries := "\n".intercalate (ds.map fun d => "  - " ++ d.display)
    s!"Transpilation produced {ds.length} error(s):\n{entries}"

/-- The wording of a failure followed by that of its cause, if it has one of its own. -/
def displayChain : Failure → String
  | io message => (io message).display ++ ": " ++ message
  | f => f.display

/-- The failure as a report about a statement, if it comes from one. -/
def diagnose? (statement : Text) : Failure → Option Diagnostic
  | .statement e => some (e.diagnose statement)
  | io _ | fileNotFound _ | unsupported _ | diagnostics _ => none

theorem statement_of_diagnose? {f : Failure} {t : Text} {d : Diagnostic}
    (h : f.diagnose? t = some d) : d.statement = t := by
  cases f with
  | statement e =>
    cases h
    rfl
  | io | fileNotFound | unsupported | diagnostics => cases h

end Failure

end KScript
