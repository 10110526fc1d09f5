import Headroom.Log
import Headroom.Sampling.Reading

/-!
# What sampling reports

The events that the snapshotter logs, and their texts.
-/

namespace Headroom

/-- Something that the snapshotter logs. -/
inductive SamplingNotice where
  | started (pushed : Bool)
  | stopped
  | memoryReadFailed (error : ReadingError)
  | cpuReadFailed (error : ReadingError)
  | zeroMemoryLimit
  | criticalMemory (usedBytes limitBytes : Nat)
  | eventsDropped (count : Nat)
  deriving DecidableEq, Repr

namespace SamplingNotice

/-- Bytes in a reported megabyte. -/
def megabyte : Nat := 1024 * 1024

/-- The log event of a notice. -/
def toLog : SamplingNotice → LogEvent
  | started pushed => ⟨.info, "snapshotter started", [("pushed", .flag pushed)]⟩
  | stopped => ⟨.info, "snapshotter stopped", []⟩
  | memoryReadFailed e =>
    ⟨.warn, "memory sampling failed, skipping tick", [("error", .text e.message)]⟩
  | cpuReadFailed e => ⟨.warn, "cpu sampling failed, skipping tick", [("error", .text e.message)]⟩
  | zeroMemoryLimit => ⟨.warn, "memory limit resolved to zero, skipping tick", []⟩
  | criticalMemory used limit =>
    ⟨.warn, "memory is critically overloaded",
      [("used_mb", .count (used / megabyte)), ("limit_mb", .count (limit / megabyte))]⟩
  | eventsDropped n =>
    ⟨.warn, "system info listener lagged, events dropped", [("skipped", .count n)]⟩

end SamplingNotice

end Headroom
