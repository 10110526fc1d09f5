import Mathlib.Tactic.Lemma
import Headroom.Sampling.Snapshotter

/-!
# When sampling runs

Leases start sampling, and the last one returned stops it. What is recorded meanwhile does neither
(`Snapshotter.observe_switch`).
-/

namespace Headroom

/-- Something that the snapshotter records: a tick of one of the samplers, or a pushed event. -/
inductive Observation where
  | memory (reading : Except ReadingError MemoryUsage) (now : Instant)
  | cpu (reading : Except ReadingError CpuTicks) (now : Instant)
  | eventLoop (since now : Instant)
  | client (count : Nat) (now : Instant)
  | pushed (event : SystemInfoEvent) (now : Instant)

namespace Snapshotter

/-- Records an observation. -/
def observe (s : Snapshotter) : Observation → Snapshotter
  | .memory reading now => (s.sampleMemory reading now).1
  | .cpu reading now => (s.sampleCpu reading now).1
  | .eventLoop since now => s.wokenAfterSleep since now
  | .client count now => s.sampleClient count now
  | .pushed event now => (s.recordEvent event now).1

/-- Whether sampling runs, the leases, and the configuration. -/
def switch (s : Snapshotter) : Bool × Nat × SnapshotterConfig := (s.running, s.leases, s.config)

/-! ## Leases -/

/-- A lease makes sampling run. -/
lemma lease_switch (s : Snapshotter) : s.lease.1.switch = (true, s.leases + 1, s.config) := by
  rw [lease, start]
  split
  · next running =>
    rw [switch]
    dsimp only at running ⊢
    rw [running]
  · rfl

/-- A lease that is returned stops sampling if it is the last one. -/
lemma release_switch (s : Snapshotter) :
    s.release.1.switch = (s.running && decide (0 < s.leases - 1), s.leases - 1, s.config) := by
  rw [release]
  dsimp only
  split
  · next last =>
    rw [last, stop]
    split
    · exact congrArg (·, 0, s.config) (Bool.and_false s.running).symm
    · next still =>
      rw [switch, eq_false_of_ne_true still]
      rfl
  · next others =>
    rw [switch, decide_eq_true (Nat.pos_of_ne_zero others), Bool.and_true]

/-! ## Observations -/

/-- A warning changes nothing but the time of the last one. -/
lemma warnCriticalMemory_eq (s : Snapshotter) (used limit : Nat) (now : Instant) :
    ∃ warning, (s.warnCriticalMemory used limit now).1 =
      { s with lastMemoryWarning := warning } := by
  rw [warnCriticalMemory]
  split
  · exact ⟨_, rfl⟩
  · exact ⟨_, rfl⟩

/-- A memory reading is recorded against the limit on it, unless that is zero. -/
lemma recordMemory_cases {s : Snapshotter} {usage : MemoryUsage} {now : Instant} {result}
    (e : s.recordMemory usage now = result) :
    (s.config.memoryLimit usage.totalBytes = 0 ∧ result.1 = s) ∨
      (s.config.memoryLimit usage.totalBytes ≠ 0 ∧ ∃ ratio warning,
        ratio = Binary64.ofNat usage.usedBytes /
          Binary64.ofNat (s.config.memoryLimit usage.totalBytes) ∧
        result.1 = { s with
          memory := s.memory.push
            ⟨now, s.config.maxUsedMemoryRatio.lt ratio, usage.usedBytes,
              s.config.memoryLimit usage.totalBytes, ratio⟩
          lastMemoryWarning := warning }) := by
  rw [recordMemory] at e
  split at e
  · next zero =>
    cases e
    exact .inl ⟨zero, rfl⟩
  · next some =>
    extract_lets ratio at e
    split at e
    next t notices e1 =>
      have warned : ∃ warning, t = { s with lastMemoryWarning := warning } := by
        split at e1
        · obtain ⟨warning, e2⟩ := s.warnCriticalMemory_eq usage.usedBytes
            (s.config.memoryLimit usage.totalBytes) now
          rw [e1] at e2
          exact ⟨warning, e2⟩
        · cases e1
          exact ⟨_, rfl⟩
      obtain ⟨warning, e2⟩ := warned
      subst e2 e
      exact .inr ⟨some, ratio, warning, rfl, rfl⟩

-- The result is a variable. The checker would otherwise look for it by computing the ratio.
/-- Recording memory changes its history and the time of the last warning. -/
lemma recordMemory_eq {s : Snapshotter} {usage : MemoryUsage} {now : Instant} {result}
    (e : s.recordMemory usage now = result) :
    ∃ memory warning, result.1 = { s with memory := memory, lastMemoryWarning := warning } := by
  rcases recordMemory_cases e with ⟨_, e1⟩ | ⟨_, _, warning, _, e1⟩
  · exact ⟨_, _, e1⟩
  · exact ⟨_, _, e1⟩

/-- Sampling memory changes its history and the time of the last warning. -/
lemma sampleMemory_eq (s : Snapshotter) (reading : Except ReadingError MemoryUsage)
    (now : Instant) :
    ∃ memory warning, (s.sampleMemory reading now).1 =
      { s with memory := memory, lastMemoryWarning := warning } := by
  cases reading with
  | error e => exact ⟨_, _, rfl⟩
  | ok usage => exact recordMemory_eq rfl

/-- Recording an event changes both histories and the time of the last warning. -/
lemma recordEvent_eq (s : Snapshotter) (event : SystemInfoEvent) (now : Instant) :
    ∃ memory warning cpu, (s.recordEvent event now).1 =
      { s with memory := memory, lastMemoryWarning := warning, cpu := cpu } := by
  generalize e : s.recordMemory event.memory now = result
  obtain ⟨memory, warning, e1⟩ := recordMemory_eq e
  obtain ⟨t, notices⟩ := result
  dsimp only at e1
  subst e1
  rw [recordEvent, e]
  exact ⟨_, _, _, rfl⟩

/-- Sampling the processor changes its history and the baseline. -/
lemma sampleCpu_eq (s : Snapshotter) (reading : Except ReadingError CpuTicks) (now : Instant) :
    ∃ ticks cpu, (s.sampleCpu reading now).1 = { s with previousTicks := ticks, cpu := cpu } := by
  cases reading with
  | error e => exact ⟨_, _, rfl⟩
  | ok ticks =>
    rw [sampleCpu]
    dsimp only
    split <;> exact ⟨_, _, rfl⟩

/-- What is recorded neither starts nor stops sampling. -/
lemma observe_switch (s : Snapshotter) (o : Observation) : (s.observe o).switch = s.switch := by
  cases o with
  | memory reading now =>
    obtain ⟨_, _, e⟩ := s.sampleMemory_eq reading now
    rw [observe, e]
    rfl
  | cpu reading now =>
    obtain ⟨_, _, e⟩ := s.sampleCpu_eq reading now
    rw [observe, e]
    rfl
  | eventLoop since now => rfl
  | client count now => rfl
  | pushed event now =>
    obtain ⟨_, _, _, e⟩ := s.recordEvent_eq event now
    rw [observe, e]
    rfl

/-! ## Lending -/

/-- A number of leases is out, and sampling runs just if that is some. -/
structure Lends (s : Snapshotter) (n : Nat) : Prop where
  leases : s.leases = n
  running : s.running = decide (0 < n)

namespace Lends

variable {s : Snapshotter} {n : Nat}

/-- One more lease is out, and sampling runs. -/
lemma lease (h : s.Lends n) : s.lease.1.Lends (n + 1) := by
  have e := s.lease_switch
  refine ⟨?_, congrArg Prod.fst e⟩
  rw [← h.leases]
  exact congrArg (·.2.1) e

/-- One lease less is out, and sampling runs on if some are left. -/
lemma release (h : s.Lends (n + 1)) : s.release.1.Lends n := by
  have e := s.release_switch
  rw [h.leases, h.running] at e
  refine ⟨congrArg (·.2.1) e, ?_⟩
  exact congrArg Prod.fst e

/-- Observations change no lease. -/
lemma observe (h : s.Lends n) (o : Observation) : (s.observe o).Lends n := by
  have e := s.observe_switch o
  refine ⟨?_, ?_⟩
  · rw [← h.leases]
    exact congrArg (·.2.1) e
  · rw [← h.running]
    exact congrArg Prod.fst e

end Lends

end Snapshotter

end Headroom
