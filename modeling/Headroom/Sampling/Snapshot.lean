import Headroom.Time.Duration

/-!
# Snapshots

One observation of each watched resource: the instant it was taken, whether it counts as overloaded,
and the readings behind that verdict.
-/

namespace Headroom

/-- An observation that can be dated and judged. -/
class Snapshot (α : Type) where
  takenAt : α → Instant
  isOverloaded : α → Bool

export Snapshot (takenAt isOverloaded)

/-- Memory in use against the limit. -/
structure MemorySnapshot where
  instant : Instant
  overloaded : Bool
  usedBytes : Nat
  limitBytes : Nat
  /-- The used part of the limit. -/
  usedRatio : Binary64
  deriving DecidableEq, Repr

/-- How late a sleeping job was woken. -/
structure EventLoopSnapshot where
  instant : Instant
  overloaded : Bool
  delay : Duration
  maxDelay : Duration
  deriving DecidableEq, Repr

/-- The used part of the processor between two readings, or as pushed. -/
structure CpuSnapshot where
  instant : Instant
  overloaded : Bool
  usedRatio : Binary64
  maxUsedRatio : Binary64
  deriving DecidableEq, Repr

/-- Errors reported by the service that tasks depend on. -/
structure ClientSnapshot where
  instant : Instant
  overloaded : Bool
  /-- The counter at this tick. -/
  errorCount : Nat
  /-- Its growth since the tick before. -/
  newErrorCount : Nat
  maxErrors : Nat
  deriving DecidableEq, Repr

instance : Snapshot MemorySnapshot := ⟨(·.instant), (·.overloaded)⟩
instance : Snapshot EventLoopSnapshot := ⟨(·.instant), (·.overloaded)⟩
instance : Snapshot CpuSnapshot := ⟨(·.instant), (·.overloaded)⟩
instance : Snapshot ClientSnapshot := ⟨(·.instant), (·.overloaded)⟩

end Headroom
