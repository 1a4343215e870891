import KScript.Identifier
import KScript.Value

/-!
# Statements

The forms that one statement of a sketch can take, and the names that each of them binds.
-/

namespace KScript

/-- The header of a block, which becomes a function. -/
inductive Opener where
  /-- The block that draws a frame; its parameter is the time. -/
  | draw
  /-- A block without parameters. -/
  | plain (name : Text)
  /-- A block with parameters, as written after the first comma. -/
  | withParameters (name parameters : Text)
deriving DecidableEq

/-- The header of a branch or of a loop. -/
inductive Control where
  | orElse
  | orElseIf (condition : Text)
  | ifThen (condition : Text)
  | whileLoop (condition : Text)
  | forLoop (iteration : Text)
deriving DecidableEq

/-- A statement. -/
inductive Statement where
  | opener (opener : Opener)
  | blockEnd
  | controlEnd
  | control (control : Control)
  /-- An assignment to a target. -/
  | assign (target : Text) (value : Value)
  /-- An assignment that combines the target with a value. -/
  | update (target : Text) (operator : Char) (value : Value)
  /-- A value on its own. -/
  | expression (value : Value)
deriving DecidableEq

/-- The names that a parameter list binds: what stands before a default value, if an identifier. -/
def Opener.parameterNames (parameters : Text) : List Text :=
  ((parameters.splitOn ',').map fun p => Text.trim (p.takeWhile (· != '='))).filter
    Text.isIdentifier

/-- The names that a block binds for its body. -/
def Opener.binds : Opener → List Text
  | draw => ["time".toList]
  | plain _ => []
  | withParameters _ parameters => parameterNames parameters

/-- The names that a statement binds. -/
def Statement.binds : Statement → List Text
  | opener o => o.binds
  | assign target _ => [target].filter Text.isIdentifier
  | blockEnd | controlEnd | control _ | update _ _ _ | expression _ => []

end KScript
