/-!
# Logging

What a run reports about itself, and the places where the reports arrive.
-/

namespace KScript

/-- How urgent a report is. -/
inductive Level where
  | debug
  | info
  | warn
  | error
deriving DecidableEq

/-- The name of a level. -/
def Level.name : Level → String
  | debug => "DEBUG"
  | info => "INFO"
  | warn => "WARN"
  | error => "ERROR"

/-- A report. -/
structure Record where
  level : Level
  message : String
deriving DecidableEq

/-- A report that has arrived, with the target under which it was filed, if any. -/
structure Event where
  level : Level
  target : Option String
  message : String
deriving DecidableEq

/-- Where reports go. -/
inductive Sink where
  /-- A listener that takes the bare report. -/
  | channel
  /-- The log of the process. -/
  | tracing
  /-- A listener that has gone. -/
  | closed
deriving DecidableEq

namespace Sink

/-- The target of all reports about a sketch in the log of the process. -/
def target : String := "kscript"

/-- What arrives of a report. -/
def deliver (r : Record) : Sink → Option Event
  | channel => some ⟨r.level, none, r.message⟩
  | tracing => some ⟨r.level, some target, r.message⟩
  | closed => none

/-- What arrives of several reports, in order. -/
def deliverAll (sink : Sink) (rs : List Record) : List Event :=
  rs.filterMap fun r => sink.deliver r

/-- The log of the process takes every report. -/
theorem deliverAll_tracing (rs : List Record) :
    tracing.deliverAll rs = rs.map fun r => ⟨r.level, some target, r.message⟩ :=
  congrFun List.filterMap_eq_map rs

end Sink

end KScript
