import KScript.Build.Basic

/-!
# Command line arguments

One file name and options.  Options with a value take it from the rest of the argument or from the
next argument; flags in their short form can be joined.  Arguments are read from left to right, and
the first request for the version or for help, or the first mistake, ends the reading.

The program itself names its options only and leaves the reading to the argument parser clap, version 4.
What is said here of the order, the forms and the mistakes restates the documented rules of that parser,
and what is proved of runs with given arguments holds as far as it keeps to them.
-/

namespace KScript

namespace CommandLine

/-- What is asked for. -/
inductive Request where
  | build (options : Build.Options)
  | version
  | help
deriving DecidableEq

/-- What is wrong with the arguments. -/
inductive UsageError where
  | unknownOption (argument : String)
  | unexpectedArgument (argument : String)
  | unexpectedValue (argument : String)
  | repeated (argument : String)
  | missingValue (option : String)
  | missingFile
deriving DecidableEq

/-- The wording of a usage error, which is not that of the parser. -/
def UsageError.message : UsageError → String
  | unknownOption a => s!"unknown option {a}"
  | unexpectedArgument a => s!"unexpected argument {a}"
  | unexpectedValue a => s!"option takes no value: {a}"
  | repeated a => s!"option given twice: {a}"
  | missingValue o => s!"a value is required for {o}"
  | missingFile => "no FILE given"

/-- The options with a value. -/
inductive Setting where
  | output
  | keywords
deriving DecidableEq

/-- The options without a value. -/
inductive Flag where
  | verbose
  | denyErrors
  | version
  | help
deriving DecidableEq

/-- The options. -/
inductive Switch where
  | setting (setting : Setting)
  | flag (flag : Flag)
deriving DecidableEq

/-- The long form of an option with a value. -/
def Setting.name : Setting → String
  | output => "--output"
  | keywords => "--keywords"

namespace Switch

/-- The option with a short form. -/
def ofShort? (c : Char) : Option Switch :=
  match c with
  | 'o' => some (.setting .output)
  | 'k' => some (.setting .keywords)
  | 'v' => some (.flag .verbose)
  | 'h' => some (.flag .help)
  | 'V' => some (.flag .version)
  | _ => none

/-- The option with a long form, without the leading dashes. -/
def ofLong? (name : Text) : Option Switch :=
  if name = "output".toList then some (.setting .output)
  else if name = "keywords".toList then some (.setting .keywords)
  else if name = "verbose".toList then some (.flag .verbose)
  else if name = "deny-errors".toList then some (.flag .denyErrors)
  else if name = "help".toList then some (.flag .help)
  else if name = "version".toList then some (.flag .version)
  else none

end Switch

/-- What the arguments have said so far. -/
structure Partial where
  input : Option String
  output : Option String
  keywordsFile : Option String
  verbose : Bool
  denyErrors : Bool
deriving DecidableEq

/-- Where the reading stands after an argument. -/
inductive Progress where
  /-- Between arguments. -/
  | next (said : Partial)
  /-- An option waits for its value. -/
  | await (setting : Setting) (said : Partial)
  /-- A request that needs nothing more. -/
  | answered (request : Request)

namespace Partial

/-- Nothing said. -/
def empty : Partial := ⟨none, none, none, false, false⟩

/-- The file name is given. -/
def setInput (p : Partial) (a : String) : Except UsageError Partial :=
  if p.input.isSome then .error (.unexpectedArgument a)
  else if a = "" then .error .missingFile
  else .ok { p with input := some a }

/-- An option with a value is given. -/
def set (p : Partial) (s : Setting) (value : String) : Except UsageError Partial :=
  if value = "" then .error (.missingValue s.name)
  else match s with
    | .output =>
      if p.output.isSome then .error (.repeated s.name) else .ok { p with output := some value }
    | .keywords =>
      if p.keywordsFile.isSome then .error (.repeated s.name)
      else .ok { p with keywordsFile := some value }

/-- An option without a value is given. -/
def raise (p : Partial) : Flag → Except UsageError Progress
  | .verbose =>
    if p.verbose then .error (.repeated "--verbose") else .ok (.next { p with verbose := true })
  | .denyErrors =>
    if p.denyErrors then .error (.repeated "--deny-errors")
    else .ok (.next { p with denyErrors := true })
  | .version => .ok (.answered .version)
  | .help => .ok (.answered .help)

/-- The request once all arguments are read. -/
def finish (p : Partial) : Except UsageError Request :=
  match p.input with
  | none => .error .missingFile
  | some input => .ok (.build ⟨input, p.output, p.keywordsFile, p.verbose, p.denyErrors⟩)

end Partial

/-- What follows a short option with a value in the same argument: nothing, so that the next
argument is the value, or the value, which an equals sign may introduce. -/
def readAttached (p : Partial) (s : Setting) : Text → Except UsageError Progress
  | [] => .ok (.await s p)
  | c :: r => (p.set s (String.ofList (if c = '=' then r else c :: r))).map .next

/-- Joined short options, without the leading dash. -/
def readShort (p : Partial) : Text → Except UsageError Progress
  | [] => .ok (.next p)
  | c :: r =>
    match Switch.ofShort? c with
    | none => .error (.unknownOption (String.ofList ['-', c]))
    | some (.setting s) => readAttached p s r
    | some (.flag f) => (p.raise f).bind fun progress =>
      match progress with
      | .next said => readShort said r
      | other => .ok other

/-- A long option, without the leading dashes. -/
def readLong (p : Partial) (a : Text) : Except UsageError Progress :=
  match Switch.ofLong? (a.takeWhile (· != '=')), a.dropWhile (· != '=') with
  | none, _ => .error (.unknownOption ("--" ++ String.ofList a))
  | some (.setting s), [] => .ok (.await s p)
  | some (.setting s), _ :: value => (p.set s (String.ofList value)).map .next
  | some (.flag f), [] => p.raise f
  | some (.flag _), _ :: _ => .error (.unexpectedValue ("--" ++ String.ofList a))

/-- One argument. -/
def readArgument (p : Partial) (a : String) : Except UsageError Progress :=
  match a.toList with
  | '-' :: '-' :: long => readLong p long
  | '-' :: c :: short => readShort p (c :: short)
  | _ => (p.setInput a).map .next

/-- Whether an argument can be the value of the option before it. -/
def isValue (a : String) : Bool := a.toList.head? != some '-' || a == "-"

/-- The arguments after `--`, all of which are file names. -/
def readFiles (p : Partial) : List String → Except UsageError Partial
  | [] => .ok p
  | a :: r => (p.setInput a).bind fun said => readFiles said r

/-- The request of the remaining arguments. -/
def readAll : Progress → List String → Except UsageError Request
  | .answered request, _ => .ok request
  | .next p, [] => p.finish
  | .await s _, [] => .error (.missingValue s.name)
  | .next p, a :: r =>
    if a = "--" then (readFiles p r).bind Partial.finish
    else (readArgument p a).bind fun progress => readAll progress r
  | .await s p, a :: r =>
    if isValue a then (p.set s a).bind fun said => readAll (.next said) r
    else .error (.missingValue s.name)

/-- The request of a list of arguments. -/
def Request.ofArguments (args : List String) : Except UsageError Request :=
  readAll (.next .empty) args

end CommandLine

end KScript
