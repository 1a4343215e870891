import KScript.Scope
import KScript.Statement.Reading

/-!
# Rendering statements

A statement that was read becomes one line of host code, and changes the scope for those after it.
Inside a block the first binding of a name declares it with `let`; outside of blocks every
assignment to a name declares it with `var`.
-/

namespace KScript

/-- A block as the head of a function. -/
def Opener.render : Opener → Text
  | draw => "function draw(time) \x7b".toList
  | plain name => "function ".toList ++ name ++ "() \x7b".toList
  | withParameters name parameters =>
    "function ".toList ++ name ++ '(' :: parameters ++ ") \x7b".toList

/-- A control header in host syntax. -/
def Control.render : Control → Text
  | orElse => "\x7d else \x7b".toList
  | orElseIf condition => "\x7d else if (".toList ++ condition ++ ") \x7b".toList
  | ifThen condition => "if (".toList ++ condition ++ ") \x7b".toList
  | whileLoop condition => "while (".toList ++ condition ++ ") \x7b".toList
  | forLoop iteration => "for (".toList ++ iteration ++ ") \x7b".toList

namespace Statement

/-- The scope after a statement. -/
def after (s : Scope) : Statement → Scope
  | opener o => (s.bindAll o.binds).inside
  | blockEnd => s.outside
  | st => s.bindAll st.binds

/-- The word before an assigned target. -/
def declarator (s : Scope) (target : Text) : Text :=
  if !target.isIdentifier then []
  else if !s.inBlock then "var ".toList
  else if s.binds target then []
  else "let ".toList

/-- The host code of a statement. -/
def render (keywords : Names) (s : Scope) : Statement → Text
  | opener o => o.render
  | blockEnd | controlEnd => ['\x7d']
  | control c => c.render
  | assign target value =>
    declarator s target ++ target ++ " = ".toList ++ value.render (s.knows keywords) ++ [';']
  | update target operator value =>
    target ++ ' ' :: operator :: "= ".toList ++ value.render (s.knows keywords) ++ [';']
  | expression value => value.render (s.knows keywords) ++ [';']

end Statement

namespace Scope

/-- The host code of a value in a scope. -/
def reduce (s : Scope) (keywords : Names) (value : Text) : Except StatementError Text :=
  located s.line ((Value.ofText value).map (Value.render (s.knows keywords)))

/-- The host code of a statement in a scope, and the scope after it. -/
def transform (s : Scope) (keywords : Names) (statement : Text) :
    Except StatementError (Text × Scope) :=
  located s.line ((Statement.ofText statement).map fun st => (st.render keywords s, st.after s))

end Scope

end KScript
