import Headroom.Load.SystemInfo
import Headroom.Log
import Headroom.Pool.Error

/-!
# What a pool reports

The events that a pool logs, and their texts.
-/

namespace Headroom

/-- Something that a pool logs. -/
inductive PoolNotice where
  | started (minConcurrency maxConcurrency desired : Nat)
  | pausing (inFlight : Nat)
  | resuming
  | stopped (phase : Phase) (inFlight : Nat) (historical : SystemInfo)
  | failed (error : PoolError) (inFlight : Nat) (historical : SystemInfo)
  | status (current desired : Nat) (info : SystemInfo)
  deriving DecidableEq, Repr

/-- A list of resources in brackets, each name in quotation marks. -/
def Resource.listText (rs : List Resource) : String :=
  "[" ++ ", ".intercalate (rs.map fun r => "\"" ++ r.name ++ "\"") ++ "]"

namespace PoolNotice

/-- The fields that sum up the whole history at the end of a run. -/
def closingFields (inFlight : Nat) (historical : SystemInfo) : List (String × LogValue) :=
  [("in_flight", .count inFlight), ("is_system_idle", .flag historical.idle),
   ("overloaded", .text (Resource.listText historical.overloaded))]

/-- The actual ratio of every resource. -/
def ratioFields (info : SystemInfo) : List (String × LogValue) :=
  [("mem", .number info.memory.actualRatio), ("event_loop", .number info.eventLoop.actualRatio),
   ("cpu", .number info.cpu.actualRatio), ("client", .number info.client.actualRatio)]

/-- The log event of a notice. -/
def toLog : PoolNotice → LogEvent
  | started low high desired =>
    ⟨.info, "autoscaled pool started",
      [("min", .count low), ("max", .count high), ("desired", .count desired)]⟩
  | pausing inFlight => ⟨.info, "pausing autoscaled pool", [("in_flight", .count inFlight)]⟩
  | resuming => ⟨.info, "resuming autoscaled pool", []⟩
  | stopped phase inFlight historical =>
    ⟨.info, "autoscaled pool stopped",
      ("phase", .text phase.name) :: closingFields inFlight historical⟩
  | failed error inFlight historical =>
    ⟨.error, "autoscaled pool failed",
      ("error", .text error.message) :: closingFields inFlight historical⟩
  | status current desired info =>
    let counts : List (String × LogValue) :=
      [("current_concurrency", .count current), ("desired_concurrency", .count desired)]
    if info.idle then ⟨.info, "pool status", counts ++ ratioFields info⟩
    else
      ⟨.warn, "pool status: system overloaded",
        counts ++ ("overloaded", .text (Resource.listText info.overloaded)) :: ratioFields info⟩

end PoolNotice

end Headroom
