import Headroom.Config.Basic

/-!
# The options of each section

Every section lists its options in their written order: the name, the kind of value, and how the
value is read from and put into the section. Reading, printing and enumerating a configuration all
go through these lists, so they agree on names and order.
-/

namespace Headroom

/-- The value of one option. -/
inductive OptionValue where
  | number (value : Binary64)
  | count (value : Nat)
  deriving DecidableEq, Repr

/-- How an option sits in its section `σ`. Counts have an exclusive upper bound. -/
inductive OptionSlot (σ : Type) where
  | number (get : σ → Binary64) (set : σ → Binary64 → σ)
  | count (get : σ → Nat) (set : σ → Nat → σ) (bound : Nat)
  | optionalCount (get : σ → Option Nat) (set : σ → Option Nat → σ) (bound : Nat)

/-- A named option of a section. -/
structure ConfigOption (σ : Type) where
  name : String
  slot : OptionSlot σ

namespace ConfigOption

/-- The option's value; an optional one may be absent. -/
def value? {σ : Type} (o : ConfigOption σ) (s : σ) : Option OptionValue :=
  match o.slot with
  | .number get _ => some (.number (get s))
  | .count get _ _ => some (.count (get s))
  | .optionalCount get _ _ => (get s).map .count

end ConfigOption

/-- The number of 64-bit counts. -/
def countBound : Nat := Nat.pow 2 64

/-- The number of 32-bit counts. -/
def shortCountBound : Nat := Nat.pow 2 32

/-- The options of the pool. -/
def PoolConfig.options : List (ConfigOption PoolConfig) :=
  [⟨"min_concurrency", .count (·.minConcurrency) ({ · with minConcurrency := · }) countBound⟩,
   ⟨"max_concurrency", .count (·.maxConcurrency) ({ · with maxConcurrency := · }) countBound⟩,
   ⟨"desired_concurrency",
    .optionalCount (·.desiredConcurrency) ({ · with desiredConcurrency := · }) countBound⟩,
   ⟨"desired_concurrency_ratio",
    .number (·.desiredConcurrencyRatio) ({ · with desiredConcurrencyRatio := · })⟩,
   ⟨"scale_up_step_ratio", .number (·.scaleUpStepRatio) ({ · with scaleUpStepRatio := · })⟩,
   ⟨"scale_down_step_ratio", .number (·.scaleDownStepRatio) ({ · with scaleDownStepRatio := · })⟩,
   ⟨"maybe_run_interval_secs", .number (·.maybeRunSecs) ({ · with maybeRunSecs := · })⟩,
   ⟨"logging_interval_secs", .number (·.loggingSecs) ({ · with loggingSecs := · })⟩,
   ⟨"autoscale_interval_secs", .number (·.autoscaleSecs) ({ · with autoscaleSecs := · })⟩,
   ⟨"max_tasks_per_minute",
    .optionalCount (·.maxTasksPerMinute) ({ · with maxTasksPerMinute := · }) shortCountBound⟩]

/-- The options of the snapshotter. -/
def SnapshotterConfig.options : List (ConfigOption SnapshotterConfig) :=
  [⟨"event_loop_snapshot_interval_secs", .number (·.eventLoopSecs) ({ · with eventLoopSecs := · })⟩,
   ⟨"memory_snapshot_interval_secs", .number (·.memorySecs) ({ · with memorySecs := · })⟩,
   ⟨"cpu_snapshot_interval_secs", .number (·.cpuSecs) ({ · with cpuSecs := · })⟩,
   ⟨"client_snapshot_interval_secs", .number (·.clientSecs) ({ · with clientSecs := · })⟩,
   ⟨"max_blocked_millis",
    .count (·.maxBlockedMillis) ({ · with maxBlockedMillis := · }) countBound⟩,
   ⟨"max_used_memory_ratio", .number (·.maxUsedMemoryRatio) ({ · with maxUsedMemoryRatio := · })⟩,
   ⟨"max_used_cpu_ratio", .number (·.maxUsedCpuRatio) ({ · with maxUsedCpuRatio := · })⟩,
   ⟨"max_client_errors", .count (·.maxClientErrors) ({ · with maxClientErrors := · }) countBound⟩,
   ⟨"snapshot_history_secs", .number (·.historySecs) ({ · with historySecs := · })⟩,
   ⟨"max_memory_bytes",
    .optionalCount (·.maxMemoryBytes) ({ · with maxMemoryBytes := · }) countBound⟩,
   ⟨"available_memory_ratio",
    .number (·.availableMemoryRatio) ({ · with availableMemoryRatio := · })⟩]

/-- The options of the status. -/
def StatusConfig.options : List (ConfigOption StatusConfig) :=
  [⟨"current_history_secs", .number (·.currentHistorySecs) ({ · with currentHistorySecs := · })⟩,
   ⟨"max_memory_overloaded_ratio",
    .number (·.maxMemoryOverloadedRatio) ({ · with maxMemoryOverloadedRatio := · })⟩,
   ⟨"max_event_loop_overloaded_ratio",
    .number (·.maxEventLoopOverloadedRatio) ({ · with maxEventLoopOverloadedRatio := · })⟩,
   ⟨"max_cpu_overloaded_ratio",
    .number (·.maxCpuOverloadedRatio) ({ · with maxCpuOverloadedRatio := · })⟩,
   ⟨"max_client_overloaded_ratio",
    .number (·.maxClientOverloadedRatio) ({ · with maxClientOverloadedRatio := · })⟩]

/-- Numeric equality of two values of one option, in which a NaN differs from itself. -/
def OptionValue.same : OptionValue → OptionValue → Bool
  | .number a, .number b => a.same b
  | .count a, .count b => a == b
  | _, _ => false

/-- Numeric equality of two sections with the given options. -/
def ConfigOption.agree {σ : Type} (options : List (ConfigOption σ)) (a b : σ) : Bool :=
  options.all fun o =>
    match o.value? a, o.value? b with
    | some v, some w => v.same w
    | none, none => true
    | _, _ => false

/-- Numeric equality of two configurations, in which a NaN differs from itself. -/
def Config.same (a b : Config) : Bool :=
  ConfigOption.agree PoolConfig.options a.pool b.pool &&
    ConfigOption.agree SnapshotterConfig.options a.snapshotter b.snapshotter &&
    ConfigOption.agree StatusConfig.options a.status b.status

end Headroom
