import KScript.Files.Location

/-!
# File trees

A finite picture of a file system.  Anchors are directories; every other directory and every file is
listed.  A path is followed component by component, and only directories can be passed through.
-/

namespace KScript

/-- Why a file cannot be read or written. -/
inductive FileFault where
  | notText
  | isDirectory
  | noSuchFile
  | notDirectory
  | nulInPath
deriving DecidableEq

/-- The wording of the system for a file fault. -/
def FileFault.message : FileFault → String
  | notText => "stream did not contain valid UTF-8"
  | isDirectory => "Is a directory (os error 21)"
  | noSuchFile => "No such file or directory (os error 2)"
  | notDirectory => "Not a directory (os error 20)"
  | nulInPath => "file name contained an unexpected NUL byte"

/-- What stands at a place. -/
inductive Node where
  | directory
  | file (contents : ByteArray)

/-- Whether a directory stands at a place. -/
def Node.isDirectory : Node → Bool
  | directory => true
  | file _ => false

/-- What a path shows. -/
inductive Entry where
  | missing
  /-- Something that cannot be read, and the reason. -/
  | unreadable (reason : String)
  | file (contents : ByteArray)

/-- The directories and files of a file system, with their places. -/
structure FileTree where
  nodes : List (Location × Node)

namespace FileTree

/-- Nothing but the anchors. -/
def empty : FileTree := ⟨[]⟩

/-- What stands at a place. -/
def node? (t : FileTree) (l : Location) : Option Node :=
  if l.names = [] then some .directory else t.nodes.lookup l

/-- The tree with a node put at a place. -/
def put (t : FileTree) (l : Location) (n : Node) : FileTree :=
  ⟨(l, n) :: t.nodes.filter fun p => p.1 ≠ l⟩

/-- What was put stands there. -/
theorem node?_put_self {t : FileTree} {l : Location} {n : Node} (h : l.names ≠ []) :
    (t.put l n).node? l = some n := by
  simp [node?, put, h]

/-- Putting a node changes no other place. -/
theorem node?_put_of_ne {t : FileTree} {k l : Location} {n : Node} (h : k ≠ l) :
    (t.put l n).node? k = t.node? k := by
  have hkl : (k == l) = false := by simpa using h
  have kept (ps : List (Location × Node)) :
      (ps.filter fun p => p.1 ≠ l).lookup k = ps.lookup k := by
    induction ps with
    | nil => rfl
    | cons p ps ih =>
      obtain ⟨q, m⟩ := p
      by_cases hq : q = l
      · simpa [List.lookup_cons, hq, hkl] using ih
      · cases hk : k == q <;> simp_all [List.lookup_cons]
  simp only [node?, put, List.lookup_cons, hkl, kept]

/-- Succeeds at a directory. -/
def enter (t : FileTree) (l : Location) : Except FileFault Unit :=
  match t.node? l with
  | some .directory => .ok ()
  | some (.file _) => .error .notDirectory
  | none => .error .noSuchFile

/-- The place that components lead to, if all places on the way are directories. -/
def walk (t : FileTree) (l : Location) : List Text → Except FileFault Location
  | [] => .ok l
  | c :: r => (t.enter l).bind fun _ => t.walk (l.follow c) r

/-- What a path shows. -/
def entry (t : FileTree) (path : String) : Entry :=
  if path = "" ∨ '\x00' ∈ path.toList then .missing
  else match t.walk (Location.origin path) (Location.components path) with
    | .error _ => .missing
    | .ok l => match t.node? l with
      | none => .missing
      | some .directory => .unreadable FileFault.isDirectory.message
      | some (.file contents) => .file contents

/-- The place at which a path can be written.  A path that ends in a slash or in a dot component
names a directory. -/
def target (t : FileTree) (path : String) : Except FileFault Location :=
  if path = "" then .error .noSuchFile
  else if '\x00' ∈ path.toList then .error .nulInPath
  else
    let components := Location.components path
    match components.reverse.dropWhile List.isEmpty with
    | [] => .error .isDirectory
    | name :: before => do
      let folder ← t.walk (Location.origin path) before.reverse
      t.enter folder
      if components.getLast? = some [] ∨ name = ['.'] ∨ name = ['.', '.'] ∨
          (t.node? (folder.child name)).any Node.isDirectory then
        .error .isDirectory
      else .ok (folder.child name)

/-- The tree after a file is written. -/
def write (t : FileTree) (path : String) (contents : ByteArray) : Except FileFault FileTree :=
  (t.target path).map fun l => t.put l (.file contents)

/-- The tree with the directories that lead to a place, the last name first. -/
def addFolders (t : FileTree) (anchor : Anchor) : List Text → FileTree
  | [] => t
  | name :: above => (t.addFolders anchor above).put ⟨anchor, name :: above⟩ .directory

/-- The tree with a directory and those that lead to it. -/
def addDirectory (t : FileTree) (path : String) : FileTree :=
  let l := Location.ofPath path
  t.addFolders l.anchor l.names

/-- The tree with a file and the directories that lead to it. -/
def addFile (t : FileTree) (path : String) (contents : ByteArray) : FileTree :=
  let l := Location.ofPath path
  (t.addFolders l.anchor l.parent.names).put l (.file contents)

/-- Whether a file with the given bytes stands at a place. -/
def holds (t : FileTree) (l : Location) (contents : ByteArray) : Bool :=
  match t.node? l with
  | some (.file old) => old == contents
  | some .directory | none => false

/-- The files below the working directory that are new in `t` or differ from `s`. -/
def changes (s t : FileTree) : List (String × ByteArray) :=
  t.nodes.filterMap fun p =>
    match p.2 with
    | .directory => none
    | .file contents =>
      if p.1.anchor = .above 0 ∧ !s.holds p.1 contents then some (p.1.path, contents) else none

end FileTree

end KScript
