import Headroom.Json.Writer
import Headroom.Load.SystemInfo

/-!
# Load in JSON
-/

namespace Headroom

/-- A verdict as an object. -/
def LoadInfo.toJson (l : LoadInfo) : Json :=
  .ofMembers
    [("is_overloaded", .boolean l.overloaded), ("limit_ratio", .ofBinary64 l.limitRatio),
     ("actual_ratio", .ofBinary64 l.actualRatio), ("sample_size", .ofCount l.sampleSize)]

/-- The load of the system as an object. -/
def SystemInfo.toJson (s : SystemInfo) : Json :=
  .ofMembers
    [("is_system_idle", .boolean s.idle), ("mem_info", s.memory.toJson),
     ("event_loop_info", s.eventLoop.toJson), ("cpu_info", s.cpu.toJson),
     ("client_info", s.client.toJson)]

end Headroom
