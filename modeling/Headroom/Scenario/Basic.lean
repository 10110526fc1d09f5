import Headroom.Config.Basic
import Headroom.Load.SystemInfo
import Headroom.Sampling.EventChannel
import Headroom.Sampling.FixedProbe
import Headroom.Sampling.ErrorTracker
import Headroom.Scenario.Workload

/-!
# Scenarios

A scenario is one snapshotter, any number of pools that share it, and a list of steps that act on
them at given moments of a virtual clock. What comes out is a report per step.
-/

namespace Headroom

/-! ## Sources of readings -/

/-- A probe whose readings, or failure, are set directly. -/
structure ManualProbe where
  memory : MemoryUsage := ⟨0, 0⟩
  ticks : CpuTicks := {}
  /-- The kind of failure, if the probe fails. -/
  failing : Option String := none
  deriving DecidableEq, Repr

namespace ManualProbe

/-- The error of a failing reading of some quantity. -/
def error (kind quantity : String) : ReadingError :=
  if kind = "read" then .unreadable "/fake" "gone"
  else if kind = "parse" then .malformed "/fake" quantity
  else if kind = "unsupported" then .unsupported quantity
  else .unavailable quantity

/-- Reports the memory usage that was set, or fails. -/
def readMemory (p : ManualProbe) : Except ReadingError MemoryUsage :=
  match p.failing with
  | some kind => .error (error kind "memory")
  | none => .ok p.memory

/-- Reports the ticks that were set, or fails. -/
def readCpu (p : ManualProbe) : Except ReadingError CpuTicks :=
  match p.failing with
  | some kind => .error (error kind "cpu")
  | none => .ok p.ticks

end ManualProbe

/-- Where memory and processor readings come from. -/
inductive Source where
  | fixed (probe : FixedProbe)
  | manual (probe : ManualProbe)
  | events (channel : EventChannel)
  deriving DecidableEq, Repr

namespace Source

/-- Readings are pushed. -/
def isPushed : Source → Bool
  | events _ => true
  | _ => false

/-- A memory reading, where there is a probe. -/
def readMemory? : Source → Option (Except ReadingError MemoryUsage)
  | fixed p => some p.readMemory
  | manual p => some p.readMemory
  | events _ => none

/-- A processor reading, where there is a probe, and the probe afterwards. -/
def readCpu? : Source → Option (Except ReadingError CpuTicks) × Source
  | fixed p => let (r, p) := p.readCpu; (some r, fixed p)
  | manual p => (some p.readCpu, manual p)
  | events c => (none, events c)

/-- Sets the memory usage of a probe. -/
def setMemory (usage : MemoryUsage) : Source → Source
  | fixed p => fixed (p.setMemory usage)
  | manual p => manual { p with memory := usage }
  | events c => events c

/-- Sets the processor load of a probe that has chosen readings. -/
def setCpu (ratio : Binary64) : Source → Source
  | fixed p => fixed (p.setCpuUsedRatio ratio)
  | s => s

/-- Sets the ticks of a probe that is set directly. -/
def setTicks (ticks : CpuTicks) : Source → Source
  | manual p => manual { p with ticks := ticks }
  | s => s

/-- Makes a probe fail, or succeed again. -/
def setFailing (kind : Option String) : Source → Source
  | fixed p => fixed (p.setFailing kind.isSome)
  | manual p => manual { p with failing := kind }
  | events c => events c

end Source

/-- Where client errors are counted. -/
inductive ClientSource where
  | none
  | tracker (t : ErrorTracker)
  | counter (value : Nat)
  deriving DecidableEq, Repr

namespace ClientSource

/-- The counter as the client sampler reads it. -/
def count : ClientSource → Nat
  | none => 0
  | tracker t => t.retryErrors
  | counter value => value

/-- Records errors on an attempt, where they are tracked. -/
def record (attempt times : Nat) : ClientSource → ClientSource
  | tracker t => tracker (Nat.repeat (·.record attempt) times t)
  | c => c

/-- Sets the counter, where it is a plain one. -/
def set (value : Nat) : ClientSource → ClientSource
  | counter _ => counter value
  | c => c

end ClientSource

/-! ## Input -/

/-- A pool to be built, with what its callbacks do. -/
structure PoolPlan where
  config : PoolConfig
  work : Workload

/-- One action of a scenario. Pools are named by number. -/
inductive Action where
  | sleep (d : Duration)
  /-- The clock jumps ahead, as if some job had hogged the thread. -/
  | block (d : Duration)
  | start
  | stop
  | takeLease
  | dropLease (index : Nat)
  | recordEvent (event : SystemInfoEvent)
  | sendEvents (events : List SystemInfoEvent)
  | closeChannel
  | setMemory (usage : MemoryUsage)
  | setCpu (ratio : Binary64)
  | setTicks (ticks : CpuTicks)
  | setFailing (kind : Option String)
  | clientErrors (attempt times : Nat)
  | setCounter (value : Nat)
  | sample (resource : Resource) (window : Option Duration)
  | status
  | run (pool : Nat)
  | dropRun (pool index : Nat)
  | pause (pool : Nat) (timeout : Option Duration)
  | abort (pool : Nat)
  | resume (pool : Nat)
  | notify (pool : Nat)
  /-- A notification from outside, where no check can be spawned. -/
  | notifyOutside (pool : Nat)
  | setMin (pool value : Nat)
  | setMax (pool value : Nat)
  | setDesired (pool value : Nat)
  | addTasks (pool count : Nat)

/-- What a scenario is made of. -/
structure Scenario where
  snapshotter : SnapshotterConfig
  status : StatusConfig
  source : Source
  client : ClientSource
  pools : List PoolPlan
  actions : List Action

/-! ## Output -/

/-- The snapshots of one resource. -/
inductive SampleRows where
  | memory (rows : List MemorySnapshot)
  | eventLoop (rows : List EventLoopSnapshot)
  | cpu (rows : List CpuSnapshot)
  | client (rows : List ClientSnapshot)

/-- What an action answers at once. -/
inductive ActionResult where
  | nothing
  | sent (oks : List Bool)
  | rows (sample : SampleRows)
  | status (current historical : SystemInfo)

/-- When a call came back, and with what. -/
structure Resolved where
  instant : Instant
  outcome : Except PoolError Unit

/-- A pool after a step. Of every call to run or pause it tells how it resolved, if it has. -/
structure PoolReport where
  state : PoolState
  work : Workload
  runs : List (Option Resolved)
  pauses : List (Option Resolved)

/-- The world after a step. -/
structure StepReport where
  now : Instant
  result : ActionResult
  sampling : Bool
  leases : Nat
  pools : List PoolReport
  logs : List LogEvent

/-- What comes out of a scenario. -/
structure ScenarioReport where
  pushed : Bool
  steps : List StepReport
  /-- The tasks of every pool. -/
  tasks : List (List TaskTimes)

end Headroom
