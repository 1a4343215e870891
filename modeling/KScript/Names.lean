import KScript.Text.Basic
import Std.Data.ExtTreeSet

/-!
# Sets of names

Two sets of names with the same members are equal, and their members are listed by code point.
-/

namespace KScript

/-- A finite set of names. -/
abbrev Names := Std.ExtTreeSet Text

namespace Names

/-- The names of a list. -/
def ofList (ns : List Text) : Names := Std.ExtTreeSet.ofList ns

/-- A set with all names of a list added. -/
def addAll (s : Names) (ns : List Text) : Names := s.insertMany ns

@[simp] theorem mem_ofList {n : Text} {ns : List Text} : n ∈ ofList ns ↔ n ∈ ns := by
  simp [ofList, Std.ExtTreeSet.mem_ofList]

@[simp] theorem mem_addAll {n : Text} {s : Names} {ns : List Text} :
    n ∈ s.addAll ns ↔ n ∈ s ∨ n ∈ ns := by
  simp [addAll]

end Names

end KScript
