import Headroom.Num.Binary64

/-!
# Log events

A log event has a level, a fixed message, and named fields.
-/

namespace Headroom

/-- How serious an event is. -/
inductive LogLevel where
  | info
  | warn
  | error
  deriving DecidableEq, Repr

namespace LogLevel

/-- The level as it is written in a log line. -/
def name : LogLevel → String
  | info => "INFO"
  | warn => "WARN"
  | error => "ERROR"

end LogLevel

/-- The value of a field. -/
inductive LogValue where
  | count (value : Nat)
  | flag (value : Bool)
  | number (value : Binary64)
  | text (value : String)
  deriving DecidableEq, Repr

/-- One logged event. -/
structure LogEvent where
  level : LogLevel
  message : String
  fields : List (String × LogValue) := []
  deriving DecidableEq, Repr

end Headroom
