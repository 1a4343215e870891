import KScript.Text.Basic

/-!
# Locations

Paths are read from the working directory.  A location says how far above the working directory, or
whether from the root, a chain of names begins; `..` at the root stays there.
-/

namespace KScript

/-- A directory from which names are counted. -/
inductive Anchor where
  /-- The root of the file system. -/
  | root
  /-- So many levels above the working directory. -/
  | above (levels : Nat)
deriving DecidableEq

/-- A place in the file system: an anchor and the names below it, the last one first. -/
structure Location where
  anchor : Anchor
  names : List Text
deriving DecidableEq

namespace Location

/-- The working directory. -/
def here : Location := ⟨.above 0, []⟩

/-- The place with a name directly below. -/
def child (l : Location) (name : Text) : Location := { l with names := name :: l.names }

/-- The place directly above. -/
def parent : Location → Location
  | ⟨a, _ :: ns⟩ => ⟨a, ns⟩
  | ⟨.above n, []⟩ => ⟨.above (n + 1), []⟩
  | ⟨.root, []⟩ => ⟨.root, []⟩

/-- The place that one component of a path leads to. -/
def follow (l : Location) (component : Text) : Location :=
  if component = [] ∨ component = ['.'] then l
  else if component = ['.', '.'] then l.parent
  else l.child component

/-- The components of a path, empty ones included. -/
def components (path : String) : List Text := path.toList.splitOn '/'

/-- Where a path begins. -/
def origin (path : String) : Location :=
  if path.toList.head? = some '/' then ⟨.root, []⟩ else here

/-- The place that a path names, whatever is there. -/
def ofPath (path : String) : Location := (components path).foldl follow (origin path)

/-- The path of a place below the working directory. -/
def path (l : Location) : String := String.ofList (['/'].intercalate l.names.reverse)

end Location

end KScript
