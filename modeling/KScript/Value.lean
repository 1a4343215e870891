import KScript.Literal.Pieces
import KScript.Literal.Quoted
import KScript.Number

/-!
# Values

A value is the right side of an assignment or a statement on its own.  Its shape does not depend on
which names are known; only the words and the arguments of calls are looked up when it is rendered.
-/

namespace KScript

/-- The shape of a value. -/
inductive Value where
  /-- Host syntax, taken as it stands. -/
  | verbatim (text : Text)
  /-- A single word: a name, a number or a text without its quotes. -/
  | word (text : Text)
  /-- A call with its arguments as written. -/
  | call (callee : Text) (arguments : List Text)
deriving DecidableEq

namespace Value

/-- The binary operators that mark a value as an expression when one is its second word. -/
def operators : List Text :=
  ["+", "-", "*", "/", "%", "**", "<", ">", "<=", ">=", "==", "===", "!=", "!==", "&&", "||", "??",
   "&", "|", "^", "<<", ">>", "?"].map String.toList

/-- Whether a character marks an argument as an expression. -/
def isExpressionChar (c : Char) : Bool :=
  c == '+' || c == '-' || c == '*' || c == '/' || c == '.' || c == '['

/-- The call of the first token with the others as arguments. -/
def ofTokens : List Text → Except Fault Value
  | [] => .error (.missingCallee [])
  | f :: args =>
    if f.trim.isEmpty then .error (.missingCallee (f :: args)) else .ok (.call f.trim args)

/-- The value with the given words. -/
def ofWords (text : Text) : List Text → Except Fault Value
  | [] => .ok (.verbatim (Text.quote []))
  | [t] => .ok (.word t)
  | f :: t :: args =>
    if operators.contains t then .ok (.verbatim text) else ofTokens (f :: t :: args)

/-- The value that is cut at its blanks if it has any, and a word otherwise. -/
def ofSpaced (v : Text) : Except Fault Value :=
  if v.any isBlank then v.words.bind (ofWords v) else .ok (.word v)

/-- The shape of a trimmed value.  A cut at commas that leaves a single token is given up for one at
blanks. -/
def ofTrimmed (v : Text) : Except Fault Value :=
  if v.isEmpty then .ok (.verbatim (Text.quote []))
  else if v.isQuoted || v.contains '(' && v.contains ')' || v.isCollection then .ok (.verbatim v)
  else if v.skeleton.contains ',' then
    v.commaPieces.bind fun ts => if 1 < ts.length then ofTokens ts else ofSpaced v
  else ofSpaced v

/-- The shape of a value. -/
def ofText (v : Text) : Except Fault Value := ofTrimmed v.trim

/-- Whether a token needs no quotes: it has them, is a number or is a known name. -/
def isPlain (known : Text → Bool) (t : Text) : Bool := t.isQuoted || t.isNumber || known t

/-- A word, quoted unless it is plain or reaches into something. -/
def renderWord (known : Text → Bool) (t : Text) : Text :=
  if isPlain known t || t.contains '.' || t.contains '[' then t else t.quote

/-- An argument, quoted unless it is plain or an expression. -/
def renderArgument (known : Text → Bool) (arg : Text) : Text :=
  let t := arg.trim
  if isPlain known t || t.any isExpressionChar then t else t.quote

/-- The host syntax of a value. -/
def render (known : Text → Bool) : Value → Text
  | verbatim t => t
  | word t => renderWord known t
  | call f args => f ++ '(' :: [',', ' '].intercalate (args.map (renderArgument known)) ++ [')']

end Value

end KScript
