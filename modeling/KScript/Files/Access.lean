import KScript.Files.Tree

/-!
# Access to files

The operations on files that a build needs.  They are given once for a pure world, and once, in the
outer layer, for the real one.
-/

namespace KScript

/-- Reading and writing by path. -/
class FileAccess (m : Type → Type) where
  /-- What a path shows. -/
  entry : String → m Entry
  /-- All of standard input. -/
  standardInput : m ByteArray
  /-- A file is written; the answer is the reason if it is not. -/
  write : String → ByteArray → m (Option String)

/-- A file system together with what waits on standard input. -/
structure World where
  files : FileTree
  input : ByteArray

instance : FileAccess (StateM World) where
  entry path := fun w => (w.files.entry path, w)
  standardInput := fun w => (w.input, w)
  write path contents := fun w =>
    match w.files.write path contents with
    | .ok files => (none, { w with files := files })
    | .error fault => (some fault.message, w)

end KScript
