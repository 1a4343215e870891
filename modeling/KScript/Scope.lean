import KScript.Names

/-!
# Scopes

What a run knows at a statement.  Blocks do not nest: a second opener leaves the scope inside a
block, and one closer leaves it outside.
-/

namespace KScript

/-- The names bound so far and the place of the current statement. -/
structure Scope where
  /-- The names introduced as bindings. -/
  names : Names
  /-- Whether a block is open. -/
  inBlock : Bool
  /-- The number of the current line, the first being 1. -/
  line : Nat
  /-- Whether every statement is traced. -/
  debug : Bool
deriving DecidableEq

namespace Scope

/-- The scope before the first line. -/
def empty : Scope := ⟨∅, false, 0, false⟩

/-- Whether a name is bound. -/
def binds (s : Scope) (n : Text) : Bool := s.names.contains n

/-- The scope with more names bound. -/
def bindAll (s : Scope) (ns : List Text) : Scope := { s with names := s.names.addAll ns }

/-- The scope with a name bound, and whether the name is new. -/
def bind (s : Scope) (n : Text) : Bool × Scope := (!s.binds n, s.bindAll [n])

@[simp] theorem binds_bindAll {s : Scope} {ns : List Text} {n : Text} :
    (s.bindAll ns).binds n ↔ s.binds n ∨ n ∈ ns := by
  simp [binds, bindAll]

/-- The scope inside a block. -/
def inside (s : Scope) : Scope := { s with inBlock := true }

/-- The scope outside of blocks. -/
def outside (s : Scope) : Scope := { s with inBlock := false }

/-- The scope on the next line. -/
def nextLine (s : Scope) : Scope := { s with line := s.line + 1 }

/-- The names that need no quotes: the built-in ones and the bound ones. -/
def knows (s : Scope) (keywords : Names) (n : Text) : Bool := keywords.contains n || s.binds n

end Scope

end KScript
