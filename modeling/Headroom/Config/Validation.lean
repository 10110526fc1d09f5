import Headroom.Config.Basic

/-!
# Validation

A configuration is refused at its first fault, in a fixed order: the pool's options, then the
snapshotter's, then the status's. A fault names the option and the rule it breaks.
-/

namespace Headroom

/-- A rule that an option's value breaks. -/
inductive Flaw where
  | belowOne
  | aboveCeiling (value ceiling : Nat)
  | outsideBounds (value low high : Nat)
  | notPositiveRatio (value : Binary64)
  | notFraction (value : Binary64)
  | notInterval (value : Binary64)
  | rateBelowOne
  | zeroLimit
  deriving DecidableEq, Repr

/-- An option with the rule it breaks. -/
structure Fault where
  option : String
  flaw : Flaw
  deriving DecidableEq, Repr

namespace Flaw

/-- The text of a flaw. -/
def reason : Flaw → String
  | belowOne => "must be at least 1"
  | aboveCeiling value ceiling =>
    decimalText value ++ " exceeds max_concurrency " ++ decimalText ceiling
  | outsideBounds value low high =>
    decimalText value ++ " is outside [" ++ decimalText low ++ ", " ++ decimalText high ++ "]"
  | notPositiveRatio value => value.render .message ++ " is not in (0, 1]"
  | notFraction value => value.render .message ++ " is not in [0, 1]"
  | notInterval value =>
    value.render .message ++ " is not a positive number of seconds up to " ++
      decimalText (Duration.year / Duration.second)
  | rateBelowOne => "must be at least 1 when set"
  | zeroLimit => "must be positive when set"

end Flaw

/-- The text of a fault. -/
def Fault.message (f : Fault) : String :=
  "invalid option " ++ "\x60" ++ f.option ++ "\x60" ++ ": " ++ f.flaw.reason

/-- Whether a number lies in `(0, 1]`. -/
def Binary64.isPositiveRatio (x : Binary64) : Bool := Binary64.zero.lt x && x.le 1

/-- Whether a number lies in `[0, 1]`. -/
def Binary64.isFraction (x : Binary64) : Bool := Binary64.zero.le x && x.le 1

namespace Fault

/-- A fault where a rule does not hold. -/
def require (holds : Bool) (option : String) (flaw : Flaw) : Option Fault :=
  if holds then none else some ⟨option, flaw⟩

/-- The fault of a ratio outside `(0, 1]`. -/
def ratio (option : String) (x : Binary64) : Option Fault :=
  require x.isPositiveRatio option (.notPositiveRatio x)

/-- The fault of a fraction outside `[0, 1]`. -/
def fraction (option : String) (x : Binary64) : Option Fault :=
  require x.isFraction option (.notFraction x)

/-- The fault of seconds that are no interval. -/
def interval (option : String) (x : Binary64) : Option Fault :=
  require (Duration.isInterval x) option (.notInterval x)

end Fault

/-- The first fault of the pool's options. -/
def PoolConfig.fault? (c : PoolConfig) : Option Fault :=
  [Fault.require (1 ≤ c.minConcurrency) "min_concurrency" .belowOne,
   Fault.require (c.minConcurrency ≤ c.maxConcurrency) "min_concurrency"
     (.aboveCeiling c.minConcurrency c.maxConcurrency),
   c.desiredConcurrency.bind fun d =>
     Fault.require (c.minConcurrency ≤ d && d ≤ c.maxConcurrency) "desired_concurrency"
       (.outsideBounds d c.minConcurrency c.maxConcurrency),
   Fault.ratio "desired_concurrency_ratio" c.desiredConcurrencyRatio,
   Fault.ratio "scale_up_step_ratio" c.scaleUpStepRatio,
   Fault.ratio "scale_down_step_ratio" c.scaleDownStepRatio,
   Fault.interval "maybe_run_interval_secs" c.maybeRunSecs,
   Fault.interval "autoscale_interval_secs" c.autoscaleSecs,
   if c.loggingSecs.same .zero then none else Fault.interval "logging_interval_secs" c.loggingSecs,
   Fault.require (c.maxTasksPerMinute != some 0) "max_tasks_per_minute" .rateBelowOne].findSome? id

/-- The first fault of the snapshotter's options. -/
def SnapshotterConfig.fault? (c : SnapshotterConfig) : Option Fault :=
  [Fault.interval "event_loop_snapshot_interval_secs" c.eventLoopSecs,
   Fault.interval "memory_snapshot_interval_secs" c.memorySecs,
   Fault.interval "cpu_snapshot_interval_secs" c.cpuSecs,
   Fault.interval "client_snapshot_interval_secs" c.clientSecs,
   Fault.interval "snapshot_history_secs" c.historySecs,
   Fault.ratio "max_used_memory_ratio" c.maxUsedMemoryRatio,
   Fault.ratio "max_used_cpu_ratio" c.maxUsedCpuRatio,
   Fault.ratio "available_memory_ratio" c.availableMemoryRatio,
   Fault.require (c.maxMemoryBytes != some 0) "max_memory_bytes" .zeroLimit].findSome? id

/-- The first fault of the status's options. -/
def StatusConfig.fault? (c : StatusConfig) : Option Fault :=
  [Fault.interval "current_history_secs" c.currentHistorySecs,
   Fault.fraction "max_memory_overloaded_ratio" c.maxMemoryOverloadedRatio,
   Fault.fraction "max_event_loop_overloaded_ratio" c.maxEventLoopOverloadedRatio,
   Fault.fraction "max_cpu_overloaded_ratio" c.maxCpuOverloadedRatio,
   Fault.fraction "max_client_overloaded_ratio" c.maxClientOverloadedRatio].findSome? id

/-- The first fault of a configuration, sections in order. -/
def Config.fault? (c : Config) : Option Fault :=
  (c.pool.fault?.or c.snapshotter.fault?).or c.status.fault?

end Headroom
