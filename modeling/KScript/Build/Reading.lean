import KScript.Failure
import KScript.Files.Tree
import KScript.Identifier
import KScript.Keyword

/-!
# Reading source and keywords files

A keywords file has one identifier on a line; blank lines and lines that begin with `#` are passed
over.
-/

namespace KScript

/-- The text of an entry. -/
def Entry.text (path : String) : Entry → Except Failure Text
  | missing => .error (.fileNotFound path)
  | unreadable reason => .error (.io reason)
  | file contents =>
    match String.fromUTF8? contents with
    | some s => .ok s.toList
    | none => .error (.io FileFault.notText.message)

namespace KeywordsFile

/-- Whether a trimmed line holds no name. -/
def isSkipped (line : Text) : Bool := line.isEmpty || line.head? == some '#'

/-- The failure for a line that holds something else than a name. -/
def invalid (path : String) (name : Text) (line : Nat) : Failure :=
  let quoted := String.ofList name
  .unsupported s!"invalid keyword `{quoted}` on line {line} of {path}"

/-- The names on lines that are counted from `n`. -/
def namesFrom (path : String) (n : Nat) : List Text → Except Failure (List Text)
  | [] => .ok []
  | line :: r =>
    let name := line.trim
    if isSkipped name then namesFrom path (n + 1) r
    else if name.isIdentifier then (namesFrom path (n + 1) r).map fun ns => name :: ns
    else .error (invalid path name n)

/-- The names of a keywords file in order. -/
def names (path : String) (contents : Text) : Except Failure (List Text) :=
  namesFrom path 1 (contents.splitOn '\n')

/-- The names of an entry in order. -/
def read (path : String) (e : Entry) : Except Failure (List Text) :=
  (e.text path).bind (names path)

/-- The built-in names and those of an entry. -/
def extend (path : String) (e : Entry) : Except Failure Names :=
  (read path e).map fun ns => Keyword.builtin.addAll ns

end KeywordsFile

end KScript
