import KScript.Carry
import KScript.Failure
import KScript.Log
import KScript.Statement.Rendering
import KScript.Text.Line

/-!
# Emissions

A line of a sketch asks for a list of items: text to copy, or statements to transform.  Every item
becomes one emission, which is one line of code.  A statement that fails becomes a comment line and
is reported, with a diagnostic if its failure has one, and the run goes on.
-/

namespace KScript

/-- What a line of a sketch asks for. -/
inductive Item where
  /-- A line of code that is copied. -/
  | verbatim (code : Text)
  /-- A trimmed statement. -/
  | statement (text : Text)
deriving DecidableEq

namespace Item

/-- What begins a comment line. -/
def commentMark : Text := "//".toList

/-- The items of a line.  Blank lines and comment lines are copied.  A line is cut at its structural
semicolons if it has any, unless it begins with `for` or leaves a literal open. -/
def ofLine (line : Text) : List Item :=
  let t := line.trim
  if t.isEmpty then [verbatim []]
  else if commentMark.isPrefixOf t then [verbatim line]
  else if !"for ".toList.isPrefixOf t && t.skeleton.contains ';' then
    match t.statements with
    | .ok ps => ((ps.map Text.trim).filter fun p => !p.isEmpty).map statement
    | .error _ => [statement t]
  else [statement t]

end Item

/-- What an item becomes. -/
inductive Emission where
  /-- A copied line. -/
  | verbatim (code : Text)
  /-- A statement of a line and its host code. -/
  | done (line : Nat) (statement code : Text)
  /-- A statement of a line and why it failed. -/
  | failed (line : Nat) (statement : Text) (failure : Failure)
deriving DecidableEq

/-- The host code of a statement and the scope after it, or the failure that it ends in. -/
def Scope.attempt (s : Scope) (keywords : Names) (statement : Text) :
    Except Failure (Text × Scope) :=
  (s.transform keywords statement).mapError .statement

namespace Emission

/-- The comment line that takes the place of a failed statement. -/
def comment (line : Nat) (statement : Text) : Text :=
  Item.commentMark ++ " KScript parse error on line ".toList ++ Nat.toDigits 10 line ++
    ": ".toList ++ statement

/-- The line of code that is emitted. -/
def code : Emission → Text
  | verbatim c => c
  | done _ _ c => c
  | failed line statement _ => comment line statement

/-- The diagnostic of a failure, if it has one. -/
def diagnostic? : Emission → Option Diagnostic
  | failed _ statement f => f.diagnose? statement
  | verbatim _ | done _ _ _ => none

/-- What is reported about an emission.  Failures are always reported, in the words of their
diagnostics where they have one; statements are reported when traced. -/
def record? (debug : Bool) : Emission → Option Record
  | verbatim _ => none
  | done line statement code =>
    let source := String.ofList statement
    let result := String.ofList code
    if debug then some ⟨.debug, s!"line {line}: {source} => {result}"⟩ else none
  | failed _ statement f =>
    match f.diagnose? statement with
    | some d => some ⟨.error, d.display⟩
    | none => some ⟨.error, f.display⟩

/-- The emission for an item, and the scope after it. -/
def ofItem (keywords : Names) (s : Scope) : Item → Emission × Scope
  | .verbatim c => (verbatim c, s)
  | .statement t =>
    match s.attempt keywords t with
    | .ok (c, s') => (done s.line t c, s')
    | .error f => (failed s.line t f, s)

/-- The emissions for a line, and the scope after it. -/
def ofLine (keywords : Names) (s : Scope) (line : Text) : List Emission × Scope :=
  carry (ofItem keywords) s.nextLine (Item.ofLine line)

/-- The emissions for several lines, line by line, and the scope after them. -/
def ofLines (keywords : Names) (s : Scope) (lines : List Text) : List (List Emission) × Scope :=
  carry (ofLine keywords) s lines

end Emission

end KScript
