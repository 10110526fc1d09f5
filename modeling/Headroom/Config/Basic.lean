import Headroom.Time.Duration

/-!
# Configuration

The options of the three sections with their defaults, and the quantities derived from them.
Interval options hold seconds; the accessors turn them into durations within a nanosecond and a
year, so they are total on values that were never validated.
-/

namespace Headroom

/-- Options of the pool's control loop. -/
structure PoolConfig where
  /-- Concurrency floor. -/
  minConcurrency : Nat := 1
  /-- Concurrency ceiling. -/
  maxConcurrency : Nat := 1000
  /-- Starting concurrency; absent means the floor. -/
  desiredConcurrency : Option Nat := none
  /-- The part of the desired concurrency that has to be in use before it is raised. -/
  desiredConcurrencyRatio : Binary64 := 0.95
  scaleUpStepRatio : Binary64 := 0.05
  scaleDownStepRatio : Binary64 := 0.05
  /-- Seconds between checks for ready tasks. -/
  maybeRunSecs : Binary64 := 0.5
  /-- Seconds between status reports; zero turns them off. -/
  loggingSecs : Binary64 := 60.0
  /-- Seconds between scaling decisions. -/
  autoscaleSecs : Binary64 := 10.0
  /-- Cap on task starts within any sliding minute; absent means no cap. -/
  maxTasksPerMinute : Option Nat := none
  deriving DecidableEq, Repr

/-- Options of the sampling timers and of the limits that make one snapshot overloaded. -/
structure SnapshotterConfig where
  eventLoopSecs : Binary64 := 0.5
  memorySecs : Binary64 := 1.0
  cpuSecs : Binary64 := 1.0
  clientSecs : Binary64 := 1.0
  /-- Lateness in milliseconds above which an event-loop snapshot is overloaded. -/
  maxBlockedMillis : Nat := 50
  maxUsedMemoryRatio : Binary64 := 0.7
  maxUsedCpuRatio : Binary64 := 0.95
  /-- New errors per tick above which a client snapshot is overloaded. -/
  maxClientErrors : Nat := 1
  /-- Seconds of history kept of every resource. -/
  historySecs : Binary64 := 60.0
  /-- Memory limit; absent means a part of the total memory. -/
  maxMemoryBytes : Option Nat := none
  availableMemoryRatio : Binary64 := 0.25
  deriving DecidableEq, Repr

/-- Options that turn histories into a verdict: the recent window, and per resource the part of the
snapshots that may be overloaded. -/
structure StatusConfig where
  currentHistorySecs : Binary64 := 5.0
  maxMemoryOverloadedRatio : Binary64 := 0.2
  maxEventLoopOverloadedRatio : Binary64 := 0.2
  maxCpuOverloadedRatio : Binary64 := 0.4
  maxClientOverloadedRatio : Binary64 := 0.2
  deriving DecidableEq, Repr

/-- A whole configuration. -/
structure Config where
  pool : PoolConfig := {}
  snapshotter : SnapshotterConfig := {}
  status : StatusConfig := {}
  deriving DecidableEq, Repr

namespace PoolConfig

/-- The starting concurrency, which is the floor if none is given. -/
def initialDesired (c : PoolConfig) : Nat := c.desiredConcurrency.getD c.minConcurrency

/-- The period of checks for ready tasks. -/
def maybeRunInterval (c : PoolConfig) : Duration := .bounded c.maybeRunSecs

/-- The period of scaling decisions. -/
def autoscaleInterval (c : PoolConfig) : Duration := .bounded c.autoscaleSecs

/-- The period of status reports; either zero turns them off. -/
def loggingInterval? (c : PoolConfig) : Option Duration :=
  if c.loggingSecs.same .zero then none else some (.bounded c.loggingSecs)

end PoolConfig

namespace SnapshotterConfig

/-- How long the job sleeps that measures lateness. -/
def eventLoopInterval (c : SnapshotterConfig) : Duration := .bounded c.eventLoopSecs

/-- The period of memory sampling. -/
def memoryInterval (c : SnapshotterConfig) : Duration := .bounded c.memorySecs

/-- The period of processor sampling. -/
def cpuInterval (c : SnapshotterConfig) : Duration := .bounded c.cpuSecs

/-- The period of client sampling. -/
def clientInterval (c : SnapshotterConfig) : Duration := .bounded c.clientSecs

/-- The lateness above which an event-loop snapshot is overloaded. -/
def maxBlocked (c : SnapshotterConfig) : Duration := c.maxBlockedMillis * Duration.millisecond

/-- How far back every history reaches. -/
def history (c : SnapshotterConfig) : Duration := .bounded c.historySecs

/-- The memory limit for a source that reports `total` bytes of memory. -/
def memoryLimit (c : SnapshotterConfig) (total : Nat) : Nat :=
  c.maxMemoryBytes.getD (Binary64.ofNat total * c.availableMemoryRatio).truncateToCount

end SnapshotterConfig

namespace StatusConfig

/-- The recent window, over which the current status looks. -/
def currentHistory (c : StatusConfig) : Duration := .bounded c.currentHistorySecs

end StatusConfig

end Headroom
