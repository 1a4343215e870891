import KScript.Emission

/-!
# Sketches

A text is a sketch if it begins with the language marker.  A line that consists of the debug
directive turns tracing on and is no line of the sketch.
-/

namespace KScript

/-- A sketch without its marker and directives. -/
structure Sketch where
  /-- Whether every statement is traced. -/
  debug : Bool
  /-- The lines that are transformed.  There is always at least one. -/
  body : List Text
deriving DecidableEq

namespace Sketch

/-- What a sketch begins with. -/
def marker : Text := "#kscript".toList

/-- The line that turns tracing on. -/
def directive : Text := "#debug".toList

/-- Whether a line is the debug directive. -/
def isDirective (line : Text) : Bool := line.trim == directive

/-- Whether a text carries the language marker. -/
def isMarked (source : Text) : Bool := marker.isPrefixOf source.trim

/-- A text without its directive lines. -/
def withoutDirectives (source : Text) : Text :=
  Text.ofLines (source.unifyBreaks.lines.filter fun l => !isDirective l)

/-- A text without the marker that it begins with. -/
def unmarked (t : Text) : Text := (t.dropPrefix? marker).getD t

/-- The sketch that a marked text holds. -/
def ofMarked (source : Text) : Sketch where
  debug := source.unifyBreaks.lines.any isDirective
  body := (unmarked (withoutDirectives source).trim).trim.lines

/-- The sketch that a text is, if it is one. -/
def ofText? (source : Text) : Option Sketch :=
  if isMarked source then some (ofMarked source) else none

end Sketch

/-- A finished run of a sketch. -/
structure Run where
  /-- The emissions, line by line. -/
  chunks : List (List Emission)
  /-- The scope after the last line. -/
  scope : Scope

namespace Run

/-- The run of a sketch. -/
def ofSketch (keywords : Names) (sketch : Sketch) : Run :=
  let result := Emission.ofLines keywords { Scope.empty with debug := sketch.debug } sketch.body
  ⟨result.1, result.2⟩

/-- The run of a text, if it is a sketch. -/
def ofText? (keywords : Names) (source : Text) : Option Run :=
  (Sketch.ofText? source).map (ofSketch keywords)

/-- The emissions in order. -/
def emissions (r : Run) : List Emission := r.chunks.flatten

/-- The lines of code. -/
def codeLines (r : Run) : List Text := r.emissions.map Emission.code

/-- The diagnostics in order. -/
def diagnostics (r : Run) : List Diagnostic := r.emissions.filterMap Emission.diagnostic?

/-- The last report of a traced run. -/
def summary (r : Run) : Record :=
  ⟨.debug, s!"transpiled {r.scope.line} line(s), {r.diagnostics.length} error(s)"⟩

/-- The reports in order. -/
def records (r : Run) : List Record :=
  r.emissions.filterMap (Emission.record? r.scope.debug) ++
    if r.scope.debug then [r.summary] else []

end Run

end KScript
