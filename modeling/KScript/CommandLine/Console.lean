import KScript.Log
import KScript.Text.Basic

/-!
# The console log

Events as lines of text.  Characters that could steer a terminal are written out.

The program itself sets the levels of the filter only and leaves the rest to tracing-subscriber.  The
filter and the form of the lines restate the documented behaviour of that library, without times and
colours and for a process whose environment sets no filter of its own.
-/

namespace KScript

namespace Console

/-- A character of a message as it is shown. -/
def showChar (c : Char) : Text :=
  if c = '\x1b' then "\\x1b".toList
  else if c = '\x07' then "\\x07".toList
  else if c = '\x08' then "\\x08".toList
  else if c = '\x0c' then "\\x0c".toList
  else if c = '\x7f' then "\\x7f".toList
  else if 0x80 ≤ c.toNat ∧ c.toNat ≤ 0x9f then
    "\\u\x7b".toList ++ Nat.toDigits 16 c.toNat ++ "\x7d".toList
  else [c]

/-- A message as it is shown. -/
def showMessage (message : String) : String := String.ofList (message.toList.flatMap showChar)

/-- Whether an event is shown: those about the sketch always, others from a warning up, or from an
information up. -/
def isShown (verbose : Bool) (e : Event) : Bool :=
  e.target == some Sink.target ||
    match e.level with
    | .debug => false
    | .info => verbose
    | .warn | .error => true

/-- The line of an event. -/
def line (e : Event) : String :=
  match e.target with
  | some target => s!"{e.level.name} {target}: {showMessage e.message}"
  | none => s!"{e.level.name} {showMessage e.message}"

/-- The lines of the events that are shown, in order. -/
def lines (verbose : Bool) (es : List Event) : List String :=
  (es.filter (isShown verbose)).map line

end Console

end KScript
