import KScript.CommandLine.Basic

/-!
# The compiler as a process

Access to the real file system, and the process around the answer of the command line.
-/

namespace KScript

/-- The wording of a refusal by the system. -/
def refusal : IO.Error → String
  | .noFileOrDirectory _ _ _ => FileFault.noSuchFile.message
  | .inappropriateType _ _ details =>
    if details == "is a directory" then FileFault.isDirectory.message
    else FileFault.notDirectory.message
  | e => toString e

/-- What a path shows when reading it is refused. -/
def refusedEntry (e : IO.Error) : Entry :=
  let reason := refusal e
  if reason == FileFault.noSuchFile.message || reason == FileFault.notDirectory.message then
    .missing
  else .unreadable reason

instance : FileAccess IO where
  entry path := do
    try return .file (← IO.FS.readBinFile path)
    catch e => return refusedEntry e
  standardInput := do (← IO.getStdin).readBinToEnd
  write path contents := do
    try
      IO.FS.writeBinFile path contents
      return none
    catch e => return some (refusal e)

end KScript

/-- The process for a list of arguments. -/
def main (args : List String) : IO UInt32 := do
  let result : Except KScript.CommandLine.UsageError KScript.CommandLine.Answer ←
    KScript.CommandLine.run args
  match result with
  | .error e =>
    IO.eprintln s!"error: {e.message}"
    return 2
  | .ok answer =>
    answer.log.forM IO.eprintln
    IO.print answer.output
    if let some text := answer.failure then IO.eprint text
    return answer.exitCode.toUInt32
