import KScript.Keyword
import KScript.Sketch

/-!
# Host scripts

What becomes of a text: the code of a sketch with what was found on the way, or the text itself if
it carries no marker.
-/

namespace KScript

/-- The host code for a text. -/
structure HostScript where
  /-- The code of the sketch, or the text itself. -/
  code : Text
  /-- The failed statements. -/
  diagnostics : List Diagnostic
  /-- The names that the sketch binds, by code point. -/
  boundNames : List Text
  /-- Whether the text is a sketch. -/
  fromSketch : Bool
deriving DecidableEq

namespace HostScript

/-- The script that a run produces. -/
def ofRun (r : Run) : HostScript :=
  ⟨Text.ofLines r.codeLines, r.diagnostics, r.scope.names.toList, true⟩

/-- A text that is no sketch, as it stands. -/
def passThrough (source : Text) : HostScript := ⟨source, [], [], false⟩

/-- The script for a text. -/
def ofText (keywords : Names) (source : Text) : HostScript :=
  match Run.ofText? keywords source with
  | some r => ofRun r
  | none => passThrough source

/-- What is reported about a text. -/
def records (keywords : Names) (source : Text) : List Record :=
  match Run.ofText? keywords source with
  | some r => r.records
  | none => []

end HostScript

/-- The code for a text with the built-in names. -/
def hostCode (source : Text) : Text := (HostScript.ofText Keyword.builtin source).code

end KScript
