import KScript.Text.Basic

/-!
# Faults and diagnostics

A fault is what can be wrong with one statement.  Reported with its line it is an error; reported
with its line and its statement it is a diagnostic.
-/

namespace KScript

/-- The two stages in which a statement can fail. -/
inductive FaultKind where
  | split
  | value
deriving DecidableEq

/-- What can be wrong with one statement. -/
inductive Fault where
  /-- A string literal of the text is not closed. -/
  | unterminatedLiteral (text : Text)
  /-- A call has arguments but nothing to call. -/
  | missingCallee (tokens : List Text)
  /-- Nothing stands to the left of an assignment. -/
  | missingTarget
deriving DecidableEq

namespace Fault

/-- The stage in which the fault shows. -/
def kind : Fault → FaultKind
  | unterminatedLiteral _ => .split
  | missingCallee _ | missingTarget => .value

/-- The wording of a fault. -/
def message : Fault → String
  | unterminatedLiteral text =>
    let quoted := String.ofList text
    s!"unterminated string literal in `{quoted}`"
  | missingCallee tokens =>
    let quoted := String.ofList ([' '].intercalate tokens)
    s!"missing function name before arguments `{quoted}`"
  | missingTarget => "assignment has no target"

end Fault

/-- A fault on a line. -/
structure StatementError where
  kind : FaultKind
  line : Nat
  message : String
deriving DecidableEq

/-- A fault on a line, with the statement it was found in. -/
structure Diagnostic where
  kind : FaultKind
  line : Nat
  message : String
  statement : Text
deriving DecidableEq

/-- The error that a fault causes on a line. -/
def Fault.on (f : Fault) (line : Nat) : StatementError := ⟨f.kind, line, f.message⟩

namespace StatementError

/-- The wording of an error. -/
def display (e : StatementError) : String :=
  match e.kind with
  | .split => s!"Split error on line {e.line}: {e.message}"
  | .value => s!"Value processing error on line {e.line}: {e.message}"

/-- The error as a report about a statement. -/
def diagnose (e : StatementError) (statement : Text) : Diagnostic :=
  ⟨e.kind, e.line, e.message, statement⟩

end StatementError

namespace FaultKind

/-- The name of a kind in diagnostics. -/
def name : FaultKind → String
  | split => "SplitError"
  | value => "ValueProcessingError"

end FaultKind

/-- The wording of a diagnostic. -/
def Diagnostic.display (d : Diagnostic) : String :=
  let statement := String.ofList d.statement
  s!"{d.kind.name} on line {d.line}: {d.message} (in `{statement}`)"

/-- An outcome whose faults are reported on a line. -/
def located {α : Type} (line : Nat) : Except Fault α → Except StatementError α
  | .ok a => .ok a
  | .error f => .error (f.on line)

end KScript
