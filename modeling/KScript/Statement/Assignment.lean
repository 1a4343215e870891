import KScript.Literal.Scan

/-!
# The equals sign of an assignment

An assignment is split at its first structural `=` that is not part of a comparison or of an arrow.
An arithmetic or bitwise operator right before the sign belongs to the assignment.
-/

namespace KScript

/-- The two sides of an assignment, and the operator that combines them, if there is one. -/
structure Assignment where
  target : Text
  operator : Option Char
  value : Text
deriving DecidableEq

namespace Assignment

/-- Whether an `=` between the two characters assigns: the next one does not make it a comparison
or an arrow, and neither does the one before. -/
def isSign (before after : Option Char) : Bool :=
  !(after == some '=' || after == some '>') &&
    !(before == some '=' || before == some '<' || before == some '>' || before == some '!')

/-- The operators that an assignment can carry. -/
def isOperator (c : Char) : Bool :=
  c == '+' || c == '-' || c == '*' || c == '/' || c == '%' || c == '&' || c == '|' || c == '^'

/-- The texts around the first sign that assigns; `before` holds the passed characters, the latest
first. -/
def around? (before : Text) : List Mark → Option (Text × Text)
  | [] => none
  | m :: r =>
    if m.structural && m.char == '=' && isSign before.head? (r.head?.map Mark.char) then
      some (before.reverse, r.map Mark.char)
    else around? (m.char :: before) r

/-- The assignment with the given texts around its sign. -/
def ofSides (left right : Text) : Assignment :=
  match left.getLast? with
  | some c =>
    if isOperator c then ⟨Text.trim left.dropLast, some c, right.trim⟩
    else ⟨left.trim, none, right.trim⟩
  | none => ⟨[], none, right.trim⟩

/-- The assignment that a statement is, if it is one. -/
def ofText? (statement : Text) : Option Assignment :=
  (around? [] statement.marks).map fun (left, right) => ofSides left right

end Assignment

end KScript
