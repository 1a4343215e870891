import KScript.Build.Reading
import KScript.Files.Access
import KScript.HostScript

/-!
# Builds

A build reads a source and, if asked, a keywords file, makes the host script, refuses faulty
statements if asked, and only then writes.
-/

namespace KScript

namespace Build

/-- What is to be built. -/
structure Options where
  /-- The source file, or `-` for standard input. -/
  input : String
  /-- The file that receives the code. -/
  output : Option String
  /-- A file with more built-in names. -/
  keywordsFile : Option String
  /-- Whether progress is reported. -/
  verbose : Bool
  /-- Whether a statement that fails makes the build fail. -/
  denyErrors : Bool
deriving DecidableEq

/-- What was built. -/
structure Output where
  /-- The source file as it was named. -/
  sourceFile : String
  /-- The source as read. -/
  source : Text
  /-- What became of it. -/
  script : HostScript
deriving DecidableEq

/-- The bytes of the code. -/
def Output.bytes (o : Output) : ByteArray := (String.ofList o.script.code).toUTF8

/-- The outcome of a build and what was reported on the way. -/
structure Report where
  outcome : Except Failure Output
  events : List Event

/-- The target of the progress reports. -/
def target : String := "kscript_transpiler::driver"

/-- A progress report, if they are wanted. -/
def Options.progress (o : Options) (message : String) : List Event :=
  if o.verbose then [⟨.info, some target, message⟩] else []

/-- The progress report about a script. -/
def summary (script : HostScript) : String :=
  if script.fromSketch then
    let size := (String.ofList script.code).utf8ByteSize
    s!"Generated {size} bytes of JavaScript, {script.diagnostics.length} diagnostic(s)"
  else
    let marker := String.ofList Sketch.marker
    s!"No {marker} marker, passing source through"

/-- The source and the built-in names. -/
def load (o : Options) (source : Entry) (keywords : Option Entry) :
    Except Failure (Text × Names) := do
  let text ← source.text o.input
  match o.keywordsFile, keywords with
  | some path, some e => return (text, ← KeywordsFile.extend path e)
  | _, _ => return (text, Keyword.builtin)

/-- A build up to the point where it writes. -/
def prepare (o : Options) (source : Entry) (keywords : Option Entry) : Report :=
  match load o source keywords with
  | .error f => ⟨.error f, []⟩
  | .ok (text, names) =>
    let script := HostScript.ofText names text
    ⟨if o.denyErrors && !script.diagnostics.isEmpty then .error (.diagnostics script.diagnostics)
      else .ok ⟨o.input, text, script⟩,
      o.progress s!"Compiling: {o.input} ({names.size} keywords)" ++
        Sink.tracing.deliverAll (HostScript.records names text) ++ o.progress (summary script)⟩

section

variable {m : Type → Type} [Monad m] [FileAccess m]

/-- What stands for the source. -/
def sourceEntry (o : Options) : m Entry :=
  if o.input = "-" then Entry.file <$> FileAccess.standardInput else FileAccess.entry o.input

/-- What stands for the keywords file. -/
def keywordsEntry (o : Options) : m (Option Entry) :=
  match o.keywordsFile with
  | none => pure none
  | some path => some <$> FileAccess.entry path

/-- The end of a build, in which the code is written. -/
def finish (o : Options) (r : Report) : m Report :=
  match r.outcome, o.output with
  | .ok out, some path => do
    match ← FileAccess.write path out.bytes with
    | none => return ⟨.ok out, r.events ++ o.progress s!"Wrote {path}"⟩
    | some message => return ⟨.error (.io message), r.events⟩
  | _, _ => pure r

end

end Build

/-- A whole build. -/
def build {m : Type → Type} [Monad m] [FileAccess m] (o : Build.Options) : m Build.Report := do
  let source ← Build.sourceEntry o
  let keywords ← Build.keywordsEntry o
  Build.finish o (Build.prepare o source keywords)

end KScript
