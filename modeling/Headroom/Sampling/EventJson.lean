import Headroom.Json.Reader
import Headroom.Json.Writer
import Headroom.Sampling.Event

/-!
# Pushed readings in JSON
-/

namespace Headroom

/-- A memory reading as an object. -/
def MemoryUsage.toJson (u : MemoryUsage) : Json :=
  .ofMembers [("used_bytes", .ofCount u.usedBytes), ("total_bytes", .ofCount u.totalBytes)]

/-- A memory reading out of an object or an array of two counts. -/
def MemoryUsage.ofJson? (j : Json) : Option MemoryUsage := do
  let (used, total) ← j.twoFields? "used_bytes" "total_bytes"
  return ⟨← used.toCount?, ← total.toCount?⟩

namespace SystemInfoEvent

/-- A pushed reading as an object. -/
def toJson (e : SystemInfoEvent) : Json :=
  .ofMembers [("cpu_used_ratio", .ofBinary64 e.cpuUsedRatio), ("memory", e.memory.toJson)]

/-- A pushed reading out of an object or an array of two. -/
def ofJson? (j : Json) : Option SystemInfoEvent := do
  let (cpu, memory) ← j.twoFields? "cpu_used_ratio" "memory"
  return ⟨← cpu.toBinary64?, ← MemoryUsage.ofJson? memory⟩

end SystemInfoEvent

end Headroom
