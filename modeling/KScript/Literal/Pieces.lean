import KScript.Fault
import KScript.Literal.Scan

/-!
# Cutting text outside literals

A separator counts only where it is structural.  Cutting fails exactly when a literal is left open.
-/

namespace KScript

namespace Text

/-- The pieces between the structural separators.  There is always at least one. -/
def pieces (sep : Char → Bool) (t : Text) : List Text :=
  (t.marks.splitOnP fun m => m.structural && sep m.char).map fun p => p.map Mark.char

/-- The pieces of a text in which every literal is closed. -/
def cut (sep : Char → Bool) (t : Text) : Except Fault (List Text) :=
  if t.closed then .ok (t.pieces sep) else .error (.unterminatedLiteral t)

/-- The trimmed pieces between structural commas, empty ones included. -/
def commaPieces (t : Text) : Except Fault (List Text) :=
  (t.cut (· == ',')).map fun ps => ps.map trim

/-- The words of a text: its non-empty pieces between structural blanks. -/
def words (t : Text) : Except Fault (List Text) :=
  (t.cut isBlank).map fun ps => ps.filter fun p => !p.isEmpty

/-- The pieces between structural semicolons, as they stand. -/
def statements (t : Text) : Except Fault (List Text) := t.cut (· == ';')

end Text

end KScript
