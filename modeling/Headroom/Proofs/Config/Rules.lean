import Headroom.Pool.Basic
import Headroom.Proofs.Num.Order
import Headroom.Proofs.Pool.Bounds

/-!
# Rules of a configuration

Validation goes through comparisons of doubles, in which a NaN is neither above nor below anything.
`Config.rules` lists what it is to enforce: a rule for each option, about exact values. The verdict
is the first rule that is broken, and there are no other ways to be refused (`Config.judged`). Both
ways of building a pool come to that verdict, and a pool that is built starts out in order.
-/

namespace Headroom

/-! ## Rules -/

/-- A rule for an option, with the flaw of breaking it. -/
structure Rule where
  option : String
  flaw : Flaw
  Holds : Prop

namespace Rule

/-- The fault of a section that breaks the rule. -/
def fault (r : Rule) : Fault := ⟨r.option, r.flaw⟩

/-- A ratio lies in `(0, 1]`. -/
def ratio (option : String) (x : Binary64) : Rule where
  option := option
  flaw := .notPositiveRatio x
  Holds := ∃ q, x.value? = some q ∧ 0 < q ∧ q ≤ 1

/-- A fraction lies in `[0, 1]`. -/
def fraction (option : String) (x : Binary64) : Rule where
  option := option
  flaw := .notFraction x
  Holds := ∃ q, x.value? = some q ∧ 0 ≤ q ∧ q ≤ 1

/-- A number of seconds is not negative, and its nearest nanosecond count is between a nanosecond
and a year. -/
def IsInterval (x : Binary64) : Prop :=
  ∃ q d, x.value? = some q ∧ 0 ≤ q ∧ RoundsTo (q * Duration.second) d ∧ 1 ≤ d ∧ d ≤ Duration.year

/-- A number of seconds is an interval. -/
def interval (option : String) (x : Binary64) : Rule where
  option := option
  flaw := .notInterval x
  Holds := IsInterval x

end Rule

/-- The rules of the pool's options. -/
def PoolConfig.rules (c : PoolConfig) : List Rule :=
  [⟨"min_concurrency", .belowOne, 1 ≤ c.minConcurrency⟩,
   ⟨"min_concurrency", .aboveCeiling c.minConcurrency c.maxConcurrency,
    c.minConcurrency ≤ c.maxConcurrency⟩,
   ⟨"desired_concurrency",
    .outsideBounds c.initialDesired c.minConcurrency c.maxConcurrency,
    ∀ d, c.desiredConcurrency = some d → c.minConcurrency ≤ d ∧ d ≤ c.maxConcurrency⟩,
   .ratio "desired_concurrency_ratio" c.desiredConcurrencyRatio,
   .ratio "scale_up_step_ratio" c.scaleUpStepRatio,
   .ratio "scale_down_step_ratio" c.scaleDownStepRatio,
   .interval "maybe_run_interval_secs" c.maybeRunSecs,
   .interval "autoscale_interval_secs" c.autoscaleSecs,
   ⟨"logging_interval_secs", .notInterval c.loggingSecs,
    c.loggingSecs.value? ≠ some 0 → Rule.IsInterval c.loggingSecs⟩,
   ⟨"max_tasks_per_minute", .rateBelowOne, c.maxTasksPerMinute ≠ some 0⟩]

/-- The rules of the snapshotter's options. -/
def SnapshotterConfig.rules (c : SnapshotterConfig) : List Rule :=
  [.interval "event_loop_snapshot_interval_secs" c.eventLoopSecs,
   .interval "memory_snapshot_interval_secs" c.memorySecs,
   .interval "cpu_snapshot_interval_secs" c.cpuSecs,
   .interval "client_snapshot_interval_secs" c.clientSecs,
   .interval "snapshot_history_secs" c.historySecs,
   .ratio "max_used_memory_ratio" c.maxUsedMemoryRatio,
   .ratio "max_used_cpu_ratio" c.maxUsedCpuRatio,
   .ratio "available_memory_ratio" c.availableMemoryRatio,
   ⟨"max_memory_bytes", .zeroLimit, c.maxMemoryBytes ≠ some 0⟩]

/-- The rules of the status's options. -/
def StatusConfig.rules (c : StatusConfig) : List Rule :=
  [.interval "current_history_secs" c.currentHistorySecs,
   .fraction "max_memory_overloaded_ratio" c.maxMemoryOverloadedRatio,
   .fraction "max_event_loop_overloaded_ratio" c.maxEventLoopOverloadedRatio,
   .fraction "max_cpu_overloaded_ratio" c.maxCpuOverloadedRatio,
   .fraction "max_client_overloaded_ratio" c.maxClientOverloadedRatio]

/-- The rules of a configuration: the pool's, the snapshotter's, the status's. -/
def Config.rules (c : Config) : List Rule := c.pool.rules ++ c.snapshotter.rules ++ c.status.rules

/-- A verdict on rules is the fault of the first one that is broken. -/
inductive Judged : List Rule → Option Fault → Prop where
  | passed : Judged [] none
  | broken {rule rules} : ¬ rule.Holds → Judged (rule :: rules) (some rule.fault)
  | next {rule rules verdict} :
    rule.Holds → Judged rules verdict → Judged (rule :: rules) verdict

/-! ## Values in range -/

/-- A number that is neither below zero nor above one is finite. -/
lemma Binary64.exists_value {x : Binary64} (low : zero.le x = true) (high : x.le 1 = true) :
    ∃ q, x.value? = some q := by
  cases x with
  | nan => cases low
  | real negative m =>
    cases infinite : m.isInfinite with
    | false => exact ⟨_, value?_finite negative infinite⟩
    | true =>
      obtain rfl := m.eq_top infinite
      cases negative with
      | true => exact absurd low (by decide +kernel)
      | false => exact absurd high (by decide +kernel)

/-- Fractions are between zero and one. -/
lemma Binary64.isFraction_iff {x : Binary64} :
    x.isFraction = true ↔ ∃ q, x.value? = some q ∧ 0 ≤ q ∧ q ≤ 1 := by
  rw [isFraction, Bool.and_eq_true]
  refine ⟨?_, ?_⟩
  · rintro ⟨low, high⟩
    obtain ⟨q, value⟩ := exists_value low high
    exact ⟨q, value, (le_iff value?_zero value).mp low, (le_iff value value?_one).mp high⟩
  · rintro ⟨q, value, low, high⟩
    exact ⟨(le_iff value?_zero value).mpr low, (le_iff value value?_one).mpr high⟩

/-- Ratios are above zero and at most one. -/
lemma Binary64.isPositiveRatio_iff {x : Binary64} :
    x.isPositiveRatio = true ↔ ∃ q, x.value? = some q ∧ 0 < q ∧ q ≤ 1 := by
  rw [isPositiveRatio, Bool.and_eq_true]
  refine ⟨?_, ?_⟩
  · rintro ⟨low, high⟩
    obtain ⟨q, value⟩ := exists_value (le_of_lt' low) high
    exact ⟨q, value, (lt_iff value?_zero value).mp low, (le_iff value value?_one).mp high⟩
  · rintro ⟨q, value, low, high⟩
    exact ⟨(lt_iff value?_zero value).mpr low, (le_iff value value?_one).mpr high⟩

/-- Intervals round to between a nanosecond and a year. -/
lemma Duration.isInterval_iff {x : Binary64} : isInterval x = true ↔ Rule.IsInterval x := by
  rw [isInterval]
  refine ⟨?_, ?_⟩
  · intro h
    split at h
    · next d e =>
      rw [Bool.and_eq_true, decide_eq_true_eq, decide_eq_true_eq] at h
      obtain ⟨q, value, nonneg, rounds, _⟩ := ofSeconds?_iff.mp e
      exact ⟨q, d, value, nonneg, rounds, h⟩
    · cases h
  · rintro ⟨q, d, value, nonneg, rounds, some, short⟩
    have range : d < Nat.pow 2 64 * second := Nat.lt_of_le_of_lt short (by decide)
    rw [ofSeconds?_iff.mpr ⟨q, value, nonneg, rounds, range⟩]
    dsimp only
    rw [decide_eq_true some, decide_eq_true short]
    rfl

/-- Either zero has the value zero, and nothing else has. -/
lemma Binary64.same_zero_iff {x : Binary64} : x.same zero = true ↔ x.value? = some 0 := by
  cases x with
  | nan => exact ⟨nofun, nofun⟩
  | real negative m =>
    cases infinite : m.isInfinite with
    | false =>
      have value := value?_finite negative infinite
      rw [same_iff value value?_zero, value, Option.some_inj]
    | true =>
      obtain rfl := m.eq_top infinite
      rw [value?_top]
      refine ⟨?_, nofun⟩
      intro same
      cases negative with
      | true => exact absurd same (by decide)
      | false => exact absurd same (by decide)

/-! ## Verdicts -/

namespace Judged

/-- A requirement enforces its rule. -/
lemma require {holds : Bool} {rule : Rule} (iff : holds = true ↔ rule.Holds) :
    Judged [rule] (Fault.require holds rule.option rule.flaw) := by
  cases holds with
  | true => exact .next (iff.mp rfl) .passed
  | false => exact .broken fun h => Bool.false_ne_true (iff.mpr h)

/-- Two verdicts in turn enforce the rules of both. -/
lemma append {rules more : List Rule} {verdict next : Option Fault} (h : Judged rules verdict)
    (h1 : Judged more next) : Judged (rules ++ more) (verdict.or next) := by
  induction h with
  | passed => exact h1
  | broken broken => exact .broken broken
  | next holds _ ih => exact .next holds ih

/-- A verdict in front of others enforces one more rule. -/
lemma cons {rule : Rule} {rules : List Rule} {verdict : Option Fault}
    {verdicts : List (Option Fault)} (h : Judged [rule] verdict)
    (h1 : Judged rules (verdicts.findSome? id)) :
    Judged (rule :: rules) ((verdict :: verdicts).findSome? id) := by
  have both := h.append h1
  rw [List.findSome?_cons]
  cases verdict with
  | none => exact both
  | some fault => exact both

/-- Nothing is wrong just if all rules hold. -/
lemma none_iff {rules : List Rule} {verdict : Option Fault} (h : Judged rules verdict) :
    verdict = none ↔ ∀ rule ∈ rules, rule.Holds := by
  induction h with
  | passed => exact ⟨fun _ => nofun, fun _ => rfl⟩
  | broken broken => exact ⟨nofun, fun all => absurd (all _ List.mem_cons_self) broken⟩
  | next holds _ ih => rw [ih, List.forall_mem_cons, and_iff_right holds]

/-- The check of a ratio enforces its rule. -/
lemma ratio (option : String) (x : Binary64) :
    Judged [.ratio option x] (Fault.ratio option x) := .require Binary64.isPositiveRatio_iff

/-- The check of a fraction enforces its rule. -/
lemma fraction (option : String) (x : Binary64) :
    Judged [.fraction option x] (Fault.fraction option x) := .require Binary64.isFraction_iff

/-- The check of an interval enforces its rule. -/
lemma interval (option : String) (x : Binary64) :
    Judged [.interval option x] (Fault.interval option x) := .require Duration.isInterval_iff

/-- An optional count that is given is not zero. -/
lemma nonzero (option : String) (flaw : Flaw) (count : Option Nat) :
    Judged [⟨option, flaw, count ≠ some 0⟩] (Fault.require (count != some 0) option flaw) := by
  refine .require ?_
  exact bne_iff_ne

end Judged

/-! ## Sections -/

/-- The pool's section is judged by its rules. -/
lemma PoolConfig.rules_judged (c : PoolConfig) : Judged c.rules c.fault? := by
  refine .cons (.require decide_eq_true_iff) <| .cons (.require decide_eq_true_iff) <|
    .cons ?desired <| .cons (.ratio _ _) <| .cons (.ratio _ _) <| .cons (.ratio _ _) <|
    .cons (.interval _ _) <| .cons (.interval _ _) <| .cons ?logging <|
    .cons (.nonzero _ _ _) .passed
  case desired =>
    rw [initialDesired]
    cases c.desiredConcurrency with
    | none =>
      refine .next ?_ .passed
      intro d e
      cases e
    | some d =>
      refine .require ?_
      rw [Bool.and_eq_true, decide_eq_true_eq, decide_eq_true_eq]
      refine ⟨?_, fun h => h d rfl⟩
      intro h d' e
      cases e
      exact h
  case logging =>
    split
    · next zero =>
      exact .next (fun some => absurd (Binary64.same_zero_iff.mp zero) some) .passed
    · next other =>
      refine .require (Duration.isInterval_iff.trans ⟨fun h _ => h, ?_⟩)
      exact fun h => h fun zero => other (Binary64.same_zero_iff.mpr zero)

/-- The snapshotter's section is judged by its rules. -/
lemma SnapshotterConfig.rules_judged (c : SnapshotterConfig) : Judged c.rules c.fault? :=
  .cons (.interval _ _) <| .cons (.interval _ _) <| .cons (.interval _ _) <|
    .cons (.interval _ _) <| .cons (.interval _ _) <| .cons (.ratio _ _) <| .cons (.ratio _ _) <|
    .cons (.ratio _ _) <| .cons (.nonzero _ _ _) .passed

/-- The status's section is judged by its rules. -/
lemma StatusConfig.rules_judged (c : StatusConfig) : Judged c.rules c.fault? :=
  .cons (.interval _ _) <| .cons (.fraction _ _) <| .cons (.fraction _ _) <|
    .cons (.fraction _ _) <| .cons (.fraction _ _) .passed

namespace Config

/-- A configuration is accepted just if it keeps all rules, and otherwise refused for the first one
in their order that it breaks. Both ways of building a pool refuse it for the same fault, or build
the same pool, which is idle and in order. -/
theorem judged (c : Config) :
    Judged c.rules c.fault? ∧ (c.fault? = none ↔ ∀ rule ∈ c.rules, rule.Holds) ∧
      match c.fault? with
      | some fault =>
        Pool.new c.pool c.snapshotter c.status = .error (.invalidConfig fault) ∧
          Pool.ofConfig c = .error (.invalidConfig fault)
      | none => ∃ p, Pool.new c.pool c.snapshotter c.status = .ok p ∧ Pool.ofConfig c = .ok p ∧
        p.config = c.pool ∧ p.phase = .idle ∧ p.state.current = 0 ∧ p.state.Bounded := by
  have verdict : Judged c.rules c.fault? :=
    (c.pool.rules_judged.append c.snapshotter.rules_judged).append c.status.rules_judged
  refine ⟨verdict, verdict.none_iff, ?_⟩
  rw [Pool.ofConfig, Pool.new]
  have same : (c.pool.fault?.or c.snapshotter.fault?).or c.status.fault? = c.fault? := rfl
  rw [same]
  cases e : c.fault? with
  | some fault => exact ⟨rfl, rfl⟩
  | none =>
    have pool : c.pool.fault? = none := (Option.or_eq_none_iff.mp (Option.or_eq_none_iff.mp e).1).1
    exact ⟨_, rfl, rfl, rfl, rfl, rfl, PoolState.new_bounded pool⟩

end Config

end Headroom
