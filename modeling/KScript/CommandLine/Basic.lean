import KScript.CommandLine.Arguments
import KScript.CommandLine.Console

/-!
# The command line

The answer to a list of arguments: an exit code, text for the output, a log, and the reason if a
build fails.
-/

namespace KScript

namespace CommandLine

/-- What a process leaves behind, its files apart. -/
structure Answer where
  exitCode : Nat
  /-- All of standard output. -/
  output : String
  /-- The lines of the log. -/
  log : List String
  /-- Why there is no code. -/
  failure : Option String
deriving DecidableEq

/-- The text for a version request. -/
def versionText : String := "kscriptc 0.1.0\n"

/-- The text for a help request. -/
def helpText : String :=
  "\n".intercalate
    ["KScript compiler - transpiles KScript sketches into JavaScript",
     "",
     "Usage: kscriptc [OPTIONS] <FILE>",
     "",
     "Arguments:",
     "  <FILE>  Input KScript source file (`-` for stdin)",
     "",
     "Options:",
     "  -o, --output <FILE>    Write the generated JavaScript to this file instead of stdout",
     "  -v, --verbose          Enable verbose output",
     "  -k, --keywords <FILE>  File with extra built-in names, one per line",
     "      --deny-errors      Exit with an error if any statement fails to transpile",
     "  -h, --help             Print help",
     "  -V, --version          Print version",
     ""]

/-- The reason that is printed when the build of a file fails. -/
def failureText (input : String) (f : Failure) : String :=
  s!"Compilation failed: failed to compile {input}: {f.displayChain}\n"

/-- The answer after a build.  Code that goes to no file is printed. -/
def Answer.ofReport (o : Build.Options) (r : Build.Report) : Answer :=
  let log := Console.lines o.verbose r.events
  match r.outcome with
  | .error f => ⟨1, "", log, some (failureText o.input f)⟩
  | .ok out =>
    ⟨0, if o.output.isNone then String.ofList out.script.code ++ "\n" else "", log, none⟩

/-- The answer to a request. -/
def answer {m : Type → Type} [Monad m] [FileAccess m] : Request → m Answer
  | .version => pure ⟨0, versionText, [], none⟩
  | .help => pure ⟨0, helpText, [], none⟩
  | .build o => Answer.ofReport o <$> build o

/-- The answer to a list of arguments, or what is wrong with them. -/
def run {m : Type → Type} [Monad m] [FileAccess m] (args : List String) :
    m (Except UsageError Answer) :=
  match Request.ofArguments args with
  | .error e => pure (.error e)
  | .ok request => .ok <$> answer request

end CommandLine

end KScript
