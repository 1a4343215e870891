import KScript.Statement.Assignment
import KScript.Statement.Basic

/-!
# Reading statements

The form of a statement is settled by its text alone, in a fixed order: opener, closers, control
headers, assignment, value.
-/

namespace KScript

namespace Opener

/-- A name with the parameters after its first comma. -/
def ofSignature (signature : Text) : Opener :=
  match signature.cutAt? (· == ',') with
  | none => .plain signature
  | some (name, parameters) => .withParameters name.trim parameters.trim

/-- The header of a block without its colon, trimmed. -/
def ofHeader (header : Text) : Opener :=
  if header = "draw".toList then .draw
  else match header.dropPrefix? "block ".toList, header.dropPrefix? "block:".toList with
    | some signature, _ => ofSignature signature.trim
    | none, some name => .plain name.trim
    | none, none => ofSignature header

end Opener

namespace Control

/-- The control header that a trimmed statement is, if it is one. -/
def ofText? (statement : Text) : Option Control :=
  if statement = "else".toList then some .orElse
  else match statement.dropPrefix? "else if ".toList with
  | some condition => some (.orElseIf condition.trim)
  | none => match statement.dropPrefix? "if ".toList with
    | some condition => some (.ifThen condition.trim)
    | none => match statement.dropPrefix? "while ".toList with
      | some condition => some (.whileLoop condition.trim)
      | none => (statement.dropPrefix? "for ".toList).map fun iteration => .forLoop iteration.trim

end Control

namespace Statement

/-- The statements that close a block. -/
def blockClosers : List Text := ["end", "end setup", "end draw", "end block"].map String.toList

/-- The statements that close a branch or a loop. -/
def controlClosers : List Text := ["end if", "end while", "end for"].map String.toList

/-- An assignment, which needs a target and a value. -/
def ofAssignment (a : Assignment) : Except Fault Statement :=
  if a.target.isEmpty then .error .missingTarget
  else (Value.ofText a.value).map fun value =>
    match a.operator with
    | some operator => .update a.target operator value
    | none => .assign a.target value

/-- The form of a trimmed statement. -/
def ofTrimmed (s : Text) : Except Fault Statement :=
  match s.dropSuffix? [':'] with
  | some header => .ok (.opener (.ofHeader header.trim))
  | none =>
    if blockClosers.contains s then .ok .blockEnd
    else if controlClosers.contains s then .ok .controlEnd
    else match Control.ofText? s with
    | some c => .ok (.control c)
    | none => match Assignment.ofText? s with
      | some a => ofAssignment a
      | none => (Value.ofText s).map .expression

/-- The form of a statement. -/
def ofText (s : Text) : Except Fault Statement := ofTrimmed s.trim

end Statement

end KScript
