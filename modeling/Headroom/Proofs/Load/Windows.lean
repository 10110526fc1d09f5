import Headroom.Load.Status
import Headroom.Pool.Lifecycle
import Headroom.Proofs.Sampling.Recording

/-!
# What the load depends on

The current load is a function of the marks within the recent window, and the historical load of
those that are kept (`SamplingRun.current_load`, `StatusConfig.historical_load`). So two runs of a
snapshotter that left the same marks within the window are given the same verdict, whatever they
recorded before, whatever was forgotten since, and however sampling was switched
(`StatusConfig.window_decides`).
-/

namespace Headroom

/-! ## Statements -/

/-- The part of the snapshots of a resource that may be overloaded. -/
def StatusConfig.limit (c : StatusConfig) : Resource → Binary64
  | .memory => c.maxMemoryOverloadedRatio
  | .eventLoop => c.maxEventLoopOverloadedRatio
  | .cpu => c.maxCpuOverloadedRatio
  | .client => c.maxClientOverloadedRatio

/-- The direction of a change. -/
def ScaleChange.isUp : ScaleChange → Bool
  | up _ _ => true
  | down _ _ => false

/-- What a new snapshotter has been called for up to a time, on a clock that never goes back. -/
structure SamplingRun (k : SnapshotterConfig) (now : Instant) where
  /-- Memory and processor readings are pushed and not sampled. -/
  pushed : Bool
  calls : List SamplingCall
  clock : (observationTimes calls).Pairwise (· ≤ ·)
  past : ∀ t ∈ observationTimes calls, t ≤ now

namespace SamplingRun

variable {k : SnapshotterConfig} {now : Instant}

/-- The snapshotter after the run. -/
def last (a : SamplingRun k now) : Snapshotter := (Snapshotter.new k a.pushed).obeyAll a.calls

/-- All marks left with a resource. -/
def log (a : SamplingRun k now) (r : Resource) : List Mark :=
  (Snapshotter.new k a.pushed).log r a.calls

/-- The marks left with a resource within a span up to now. -/
def recent (a : SamplingRun k now) (span : Duration) (r : Resource) : List Mark :=
  (a.log r).filter (isWithin now span)

/-- The marks of a resource that are kept. -/
def kept (a : SamplingRun k now) (r : Resource) : List Mark := (a.last.marks r).entries

end SamplingRun

/-- The recent window decides the current load after two runs, and what is kept decides the
historical load. -/
structure WindowDecides {k : SnapshotterConfig} {now : Instant} (c : StatusConfig)
    (a b : SamplingRun k now) : Prop where
  sorted : ∀ r, Timely (a.kept r) ∧ Timely (b.kept r)
  /-- The load of a resource rests on its own marks and limit, whatever the other ones are. -/
  own : ∀ r (d : StatusConfig), d.currentHistory = c.currentHistory → d.limit r = c.limit r →
    b.recent c.currentHistory r = a.recent c.currentHistory r →
    (d.current b.last now).load r = (c.current a.last now).load r
  current : (∀ r, b.recent c.currentHistory r = a.recent c.currentHistory r) →
    c.current b.last now = c.current a.last now
  /-- The verdict moves any two pools in one direction, if it moves them. -/
  direction : (∀ r, b.recent c.currentHistory r = a.recent c.currentHistory r) →
    ∀ p q change other p1 q1,
      Pool.autoscale p (c.current a.last now).idle = .ok (some change, p1) →
      Pool.autoscale q (c.current b.last now).idle = .ok (some other, q1) →
      other.isUp = change.isUp
  ownHistorical : ∀ r (d : StatusConfig) t u, d.limit r = c.limit r → b.kept r = a.kept r →
    (d.historical b.last u).load r = (c.historical a.last t).load r
  /-- The time of the call does not matter. -/
  historical : ∀ t u, (∀ r, b.kept r = a.kept r) → c.historical b.last u = c.historical a.last t
  /-- The system is idle just if no resource is judged overloaded. -/
  idle : ∀ window t, (c.evaluate a.last window t).idle = true ↔
    (c.evaluate a.last window t).overloaded = []

/-! ## The load out of marks -/

/-- The load is a matter of the marks alone. -/
lemma LoadInfo.evaluate_marks {α : Type} [Snapshot α] (sample : List α) (limit : Binary64) :
    evaluate (sample.map Mark.of) limit = evaluate sample limit := by
  rw [evaluate, evaluate, List.countP_map, List.length_map]
  rfl

/-- The load of a window is that of its marks. -/
lemma History.evaluate_sample {α : Type} [Snapshot α] (h : History α) (window : Option Duration)
    (now : Instant) (limit : Binary64) :
    LoadInfo.evaluate (h.sample window now) limit =
      .evaluate (h.marks.sample window now) limit := by
  rw [marks_sample, LoadInfo.evaluate_marks]

namespace StatusConfig

variable {c d : StatusConfig} {s t : Snapshotter}

/-- The load of a resource is that of its marks within the window. -/
lemma evaluate_load (window : Option Duration) (now : Instant) (r : Resource) :
    (c.evaluate s window now).load r =
      .evaluate ((s.marks r).sample window now) (c.limit r) := by
  cases r with
  | memory => exact s.memory.evaluate_sample window now _
  | eventLoop => exact s.eventLoop.evaluate_sample window now _
  | cpu => exact s.cpu.evaluate_sample window now _
  | client => exact s.client.evaluate_sample window now _

/-- Without a window, the load of a resource is that of the marks that are kept, at any time. -/
lemma historical_load (now : Instant) (r : Resource) :
    (c.historical s now).load r = .evaluate (s.marks r).entries (c.limit r) :=
  evaluate_load none now r

/-- The load of the system is that of its resources. -/
lemma evaluate_ext {window other : Option Duration} {now later : Instant}
    (h : ∀ r, (c.evaluate s window now).load r = (d.evaluate t other later).load r) :
    c.evaluate s window now = d.evaluate t other later := by
  have memory := h .memory
  have eventLoop := h .eventLoop
  have cpu := h .cpu
  have client := h .client
  rw [evaluate, evaluate] at memory eventLoop cpu client ⊢
  dsimp only [SystemInfo.load, SystemInfo.ofLoads] at memory eventLoop cpu client
  rw [memory, eventLoop, cpu, client]

end StatusConfig

/-! ## Along a run -/

namespace SamplingRun

variable {k : SnapshotterConfig} {now : Instant}

/-- What is logged of a run is in order of time. -/
lemma timely (a : SamplingRun k now) (r : Resource) : Timely (a.log r) :=
  Snapshotter.log_timely _ r a.clock

/-- At the end of a run, each history holds what was logged. -/
lemma holds (a : SamplingRun k now) (r : Resource) :
    (a.last.marks r).Holds k.history (a.log r) := by
  have fresh : ((Snapshotter.new k a.pushed).marks r).Holds k.history [] := by
    cases r with
    | _ => exact ⟨rfl, rfl⟩
  exact Snapshotter.holds_obeyAll fresh (a.timely r)

/-- Nothing is logged after the end of a run. -/
lemma newest_le (a : SamplingRun k now) (r : Resource) : newest (a.log r) ≤ now := by
  rw [newest]
  cases e : (a.log r).getLast? with
  | none => exact Nat.zero_le _
  | some m =>
    have mem : takenAt m ∈ (a.log r).map takenAt :=
      List.mem_map_of_mem (List.mem_of_getLast? e)
    exact a.past _ ((Snapshotter.log_times _ r a.calls).subset mem)

/-- The current load is that of the marks logged within the recent window. -/
lemma current_load (a : SamplingRun k now) {c : StatusConfig} (short : c.currentHistory ≤ k.history)
    (r : Resource) :
    (c.current a.last now).load r = .evaluate (a.recent c.currentHistory r) (c.limit r) := by
  rw [StatusConfig.current, StatusConfig.evaluate_load,
    (a.holds r).transparent (a.timely r) short (a.newest_le r)]
  rfl

end SamplingRun

/-! ## The direction of a scaling decision -/

/-- A change goes in the direction that it is made for. -/
lemma PoolState.isUp_of_rescale {s t : PoolState} {make : Nat → Nat → ScaleChange} {up : Bool}
    {target : Nat} {change : ScaleChange} (h : ∀ old new, (make old new).isUp = up)
    (e : s.rescale make target = (some change, t)) : change.isUp = up := by
  rw [rescale] at e
  split at e
  · cases e
  · cases e
    exact h _ _

/-- An idle system scales up, and an overloaded one down. -/
lemma PoolState.isUp_of_autoscale {s t : PoolState} {idle : Bool} {c : PoolConfig}
    {change : ScaleChange} (e : s.autoscale idle c = .ok (some change, t)) :
    change.isUp = idle := by
  cases idle with
  | false => exact isUp_of_rescale (fun _ _ => rfl) (Except.ok.inj e)
  | true =>
    rw [autoscale, if_pos rfl] at e
    split at e
    · split at e
      · exact isUp_of_rescale (fun _ _ => rfl) (Except.ok.inj e)
      · cases e
    · cases e

/-- An idle system scales up if it scales, and an overloaded one down. -/
lemma Pool.isUp_of_autoscale {p q : Pool} {idle : Bool} {change : ScaleChange}
    (e : p.autoscale idle = .ok (some change, q)) : change.isUp = idle := by
  rw [autoscale] at e
  split at e
  · cases e1 : p.state.autoscale idle p.config with
    | error fault => rw [e1] at e; cases e
    | ok result =>
      obtain ⟨other, state⟩ := result
      rw [e1] at e
      cases e
      exact PoolState.isUp_of_autoscale e1
  · cases e

/-! ## Two runs -/

/-- After two runs of a snapshotter, the current load differs only where the marks within the recent
window do, if that is no longer than the retention, and the historical load only where the kept
marks do. -/
theorem StatusConfig.window_decides {k : SnapshotterConfig} {now : Instant} {c : StatusConfig}
    (a b : SamplingRun k now) (short : c.currentHistory ≤ k.history) : WindowDecides c a b := by
  have own : ∀ r (d : StatusConfig), d.currentHistory = c.currentHistory → d.limit r = c.limit r →
      b.recent c.currentHistory r = a.recent c.currentHistory r →
      (d.current b.last now).load r = (c.current a.last now).load r := by
    intro r d span limit same
    rw [a.current_load short, b.current_load (span ▸ short), span, limit, same]
  have ownHistorical : ∀ r (d : StatusConfig) t u, d.limit r = c.limit r → b.kept r = a.kept r →
      (d.historical b.last u).load r = (c.historical a.last t).load r := by
    intro r d t u limit same
    rw [historical_load, historical_load, limit]
    exact congrArg (LoadInfo.evaluate · _) same
  have current : (∀ r, b.recent c.currentHistory r = a.recent c.currentHistory r) →
      c.current b.last now = c.current a.last now := by
    intro same
    exact evaluate_ext fun r => own r c rfl rfl (same r)
  refine ⟨?_, own, current, ?_, ownHistorical, ?_, ?_⟩
  · intro r
    exact ⟨(a.holds r).timely (a.timely r), (b.holds r).timely (b.timely r)⟩
  · intro same p q change other p1 q1 e1 e2
    rw [current same] at e2
    rw [Pool.isUp_of_autoscale e1, Pool.isUp_of_autoscale e2]
  · intro t u same
    exact evaluate_ext fun r => ownHistorical r c t u rfl (same r)
  · intro window t
    exact SystemInfo.ofLoads_idle_iff _ _ _ _

/-- A job was woken late long ago in one run and not in the other, and only one was switched. The
late wake-up within the window is common to both, so both overload the system. -/
theorem StatusConfig.window_decides_of_past :
    ∃ (c : StatusConfig) (a b : SamplingRun {} (62 * Duration.second)),
      c.currentHistory ≤ SnapshotterConfig.history {} ∧ WindowDecides c a b ∧
      (∀ r, b.recent c.currentHistory r = a.recent c.currentHistory r) ∧
      a.log .eventLoop ≠ b.log .eventLoop ∧ a.kept .eventLoop ≠ b.kept .eventLoop ∧
      (c.current a.last (62 * Duration.second)).overloaded = [.eventLoop] := by
  let second := Duration.second
  let a : SamplingRun {} (62 * Duration.second) :=
    { pushed := true
      calls := [.start, .observe (.eventLoop 0 second), .stop,
        .observe (.eventLoop (30 * second) (32 * second)),
        .observe (.eventLoop (58 * second) (60 * second))]
      clock := by decide +kernel
      past := by decide +kernel }
  let b : SamplingRun {} (62 * Duration.second) :=
    { pushed := false
      calls := [.observe (.cpu (.error (.unavailable "ticks")) (60 * second)),
        .observe (.eventLoop (58 * second) (60 * second))]
      clock := by decide +kernel
      past := by decide +kernel }
  have short : StatusConfig.currentHistory {} ≤ SnapshotterConfig.history {} := by decide +kernel
  refine ⟨{}, a, b, short, window_decides a b short, ?_, ?_⟩
  · intro r
    cases r with
    | _ => decide +kernel
  · decide +kernel

end Headroom
