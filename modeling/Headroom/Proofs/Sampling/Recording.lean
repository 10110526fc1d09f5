import Headroom.Load.SystemInfo
import Headroom.Proofs.Sampling.Retaining
import Headroom.Proofs.Sampling.Switching

/-!
# What a snapshotter records

Four resources are watched by different jobs at different rates, and each has a history of its own
kind. A verdict on the load takes only a mark from every snapshot: its time, and whether it counts
as overloaded. `Snapshotter.mark?` says which mark an observation leaves with which resource, and
`Snapshotter.observe_marks` that nothing else comes into the histories. So each history holds the
marks left so far (`Snapshotter.holds_obeyAll`), in order of time as long as the clock never goes
back.
-/

namespace Headroom

/-! ## Marks -/

/-- What a verdict takes from a snapshot. -/
structure Mark where
  instant : Instant
  overloaded : Bool
  deriving DecidableEq

instance : Snapshot Mark := ⟨(·.instant), (·.overloaded)⟩

section

variable {α : Type} [Snapshot α]

/-- The mark of a snapshot. -/
def Mark.of (s : α) : Mark := ⟨takenAt s, isOverloaded s⟩

namespace History

/-- A history of the marks alone. -/
def marks (h : History α) : History Mark := ⟨h.retention, h.entries.map .of⟩

/-- Pushing a snapshot pushes its mark. -/
@[simp]
lemma marks_push (h : History α) (s : α) : (h.push s).marks = h.marks.push (.of s) := by
  rw [push, push, marks, marks, since, since]
  dsimp only
  rw [← List.map_singleton, ← List.map_append, List.dropWhile_map]
  rfl

/-- Sampling takes the marks of the snapshots within the window. -/
@[simp]
lemma marks_sample (h : History α) (window : Option Duration) (now : Instant) :
    h.marks.sample window now = (h.sample window now).map .of := by
  cases window with
  | none => rfl
  | some w =>
    have test : h.marks.isOlderAt now w = h.isOlderAt now w := by
      funext i
      rw [isOlderAt, isOlderAt, marks, List.getElem?_map, Option.any_map]
      rfl
    rw [sample, sample, test]
    dsimp only [marks]
    rw [List.length_map, List.map_drop]

/-- The history with one more snapshot, if there is one. -/
def add (h : History α) : Option α → History α
  | some s => h.push s
  | none => h

end History

end

/-! ## Calls -/

/-- The time at which an observation is made. -/
def Observation.now : Observation → Instant
  | memory _ now => now
  | cpu _ now => now
  | eventLoop _ now => now
  | client _ now => now
  | pushed _ now => now

/-- A call on a snapshotter. -/
inductive SamplingCall where
  | observe (o : Observation)
  | start
  | stop
  | lease
  | release

/-- The times of the observations among some calls, in order. -/
def observationTimes (calls : List SamplingCall) : List Instant :=
  calls.filterMap fun
    | .observe o => some o.now
    | _ => none

namespace Snapshotter

/-- The history of the marks of a resource. -/
def marks (s : Snapshotter) : Resource → History Mark
  | .memory => s.memory.marks
  | .eventLoop => s.eventLoop.marks
  | .cpu => s.cpu.marks
  | .client => s.client.marks

/-- The mark of a memory reading. There is none under a limit of zero. -/
def memoryMark? (s : Snapshotter) (usage : MemoryUsage) (now : Instant) : Option Mark :=
  let limit := s.config.memoryLimit usage.totalBytes
  if limit = 0 then none
  else
    let ratio := Binary64.ofNat usage.usedBytes / Binary64.ofNat limit
    some ⟨now, s.config.maxUsedMemoryRatio.lt ratio⟩

/-- The mark that an observation leaves with a resource. A failed reading leaves none, and neither
does the first reading of the processor or one without a tick since the last. -/
def mark? (s : Snapshotter) : Observation → Resource → Option Mark
  | .memory (.ok usage) now, .memory => s.memoryMark? usage now
  | .cpu (.ok ticks) now, .cpu =>
    (s.previousTicks.bind ticks.usedRatioSince?).map fun ratio =>
      ⟨now, s.config.maxUsedCpuRatio.lt ratio⟩
  | .eventLoop since now, .eventLoop =>
    some ⟨now, s.config.maxBlocked < lateness s.config.eventLoopInterval since now⟩
  | .client count now, .client =>
    some ⟨now, s.previousErrors.any fun before => s.config.maxClientErrors < count - before⟩
  | .pushed event now, .memory => s.memoryMark? event.memory now
  | .pushed event now, .cpu =>
    some ⟨now, s.config.maxUsedCpuRatio.lt (event.cpuUsedRatio.clamp 0 1)⟩
  | _, _ => none

/-- What a call makes of a snapshotter. -/
def obey (s : Snapshotter) : SamplingCall → Snapshotter
  | .observe o => s.observe o
  | .start => s.start.1
  | .stop => s.stop.1
  | .lease => s.lease.1
  | .release => s.release.1

/-- What some calls make of a snapshotter, one after another. -/
def obeyAll (s : Snapshotter) (calls : List SamplingCall) : Snapshotter := calls.foldl obey s

/-- All marks that calls leave with a resource, in order. -/
def log (s : Snapshotter) (r : Resource) : List SamplingCall → List Mark
  | [] => []
  | .observe o :: calls => (s.mark? o r).toList ++ (s.observe o).log r calls
  | call :: calls => (s.obey call).log r calls

/-! ## One call -/

/-- A call that observes nothing changes at most whether sampling runs, and the leases. -/
lemma obey_eq (s : Snapshotter) (call : SamplingCall) :
    (∃ o, call = .observe o) ∨ (∀ o, call ≠ .observe o) ∧
      ∃ running leases, s.obey call = { s with running := running, leases := leases } := by
  have start_eq (s : Snapshotter) : ∃ running, s.start.1 = { s with running := running } := by
    rw [start]
    split <;> exact ⟨_, rfl⟩
  have stop_eq (s : Snapshotter) : ∃ running, s.stop.1 = { s with running := running } := by
    rw [stop]
    split <;> exact ⟨_, rfl⟩
  cases call with
  | observe o => exact .inl ⟨o, rfl⟩
  | start =>
    obtain ⟨running, e⟩ := start_eq s
    exact .inr ⟨by rintro o ⟨⟩, running, s.leases, e⟩
  | stop =>
    obtain ⟨running, e⟩ := stop_eq s
    exact .inr ⟨by rintro o ⟨⟩, running, s.leases, e⟩
  | lease =>
    obtain ⟨running, e⟩ := start_eq { s with leases := s.leases + 1 }
    exact .inr ⟨by rintro o ⟨⟩, running, _, e⟩
  | release =>
    refine .inr ⟨by rintro o ⟨⟩, ?_⟩
    rw [obey, release]
    dsimp only
    split
    · obtain ⟨running, e⟩ := stop_eq { s with leases := s.leases - 1 }
      exact ⟨running, _, e⟩
    · exact ⟨_, _, rfl⟩

/-- A memory reading leaves its mark, and nothing with the other resources. -/
lemma recordMemory_marks {s : Snapshotter} {usage : MemoryUsage} {now : Instant} {result}
    (e : s.recordMemory usage now = result) :
    result.1.marks .memory = (s.marks .memory).add (s.memoryMark? usage now) ∧
      ∀ r, r ≠ .memory → result.1.marks r = s.marks r := by
  rw [memoryMark?]
  rcases recordMemory_cases e with ⟨zero, e1⟩ | ⟨some, ratio, warning, e2, e1⟩
  · rw [if_pos zero, e1]
    exact ⟨rfl, fun _ _ => rfl⟩
  · rw [if_neg some, e1, ← e2]
    refine ⟨History.marks_push _ _, ?_⟩
    intro r other
    cases r with
    | memory => exact absurd rfl other
    | _ => rfl

/-- A reading of the processor leaves its mark with the processor only. -/
lemma sampleCpu_marks (s : Snapshotter) (reading : Except ReadingError CpuTicks) (now : Instant)
    (r : Resource) :
    (s.sampleCpu reading now).1.marks r = (s.marks r).add (s.mark? (.cpu reading now) r) := by
  cases reading with
  | error e => cases r <;> rfl
  | ok ticks =>
    rw [sampleCpu]
    dsimp only
    cases r with
    | cpu =>
      rw [mark?]
      cases s.previousTicks.bind ticks.usedRatioSince? with
      | none => rfl
      | some ratio => exact History.marks_push _ _
    | memory => split <;> rfl
    | eventLoop => split <;> rfl
    | client => split <;> rfl

/-- A count of client errors leaves its mark with the clients only. -/
lemma sampleClient_marks (s : Snapshotter) (count : Nat) (now : Instant) (r : Resource) :
    (s.sampleClient count now).marks r = (s.marks r).add (s.mark? (.client count now) r) := by
  cases r with
  | client =>
    rw [mark?, sampleClient]
    cases s.previousErrors with
    | none => exact History.marks_push _ _
    | some before => exact History.marks_push _ _
  | memory => rfl
  | eventLoop => rfl
  | cpu => rfl

/-- An observation leaves the marks that it is said to leave, and no others. -/
lemma observe_marks (s : Snapshotter) (o : Observation) (r : Resource) :
    (s.observe o).marks r = (s.marks r).add (s.mark? o r) := by
  cases o with
  | memory reading now =>
    cases reading with
    | error e => cases r <;> rfl
    | ok usage =>
      generalize e : s.recordMemory usage now = result
      obtain ⟨own, others⟩ := recordMemory_marks e
      rw [observe, sampleMemory, e]
      cases r with
      | memory => exact own
      | eventLoop => exact others .eventLoop (by decide)
      | cpu => exact others .cpu (by decide)
      | client => exact others .client (by decide)
  | cpu reading now => exact s.sampleCpu_marks reading now r
  | eventLoop since now =>
    cases r with
    | eventLoop => exact History.marks_push _ _
    | memory => rfl
    | cpu => rfl
    | client => rfl
  | client count now => exact s.sampleClient_marks count now r
  | pushed event now =>
    generalize e : s.recordMemory event.memory now = result
    obtain ⟨own, others⟩ := recordMemory_marks e
    have config : result.1.config = s.config := by
      obtain ⟨_, _, e1⟩ := recordMemory_eq e
      rw [e1]
    obtain ⟨t, notices⟩ := result
    rw [observe, recordEvent, e]
    cases r with
    | memory => exact own
    | cpu =>
      rw [mark?, ← config, ← others .cpu (by decide)]
      exact History.marks_push _ _
    | eventLoop => exact others .eventLoop (by decide)
    | client => exact others .client (by decide)

/-- A start leaves no mark. -/
@[simp]
lemma start_marks (s : Snapshotter) (r : Resource) : s.start.1.marks r = s.marks r := by
  rw [start]
  split
  · rfl
  · cases r <;> rfl

/-- A stop leaves no mark. -/
@[simp]
lemma stop_marks (s : Snapshotter) (r : Resource) : s.stop.1.marks r = s.marks r := by
  rw [stop]
  split
  · cases r <;> rfl
  · rfl

/-- Taking a lease leaves no mark. -/
@[simp]
lemma lease_marks (s : Snapshotter) (r : Resource) : s.lease.1.marks r = s.marks r := by
  rw [lease, start_marks]
  cases r <;> rfl

/-- Returning a lease leaves no mark. -/
@[simp]
lemma release_marks (s : Snapshotter) (r : Resource) : s.release.1.marks r = s.marks r := by
  rw [release]
  dsimp only
  split
  · rw [stop_marks]
    cases r <;> rfl
  · cases r <;> rfl

/-- A mark of memory has the time of its reading. -/
lemma memoryMark?_instant {s : Snapshotter} {usage : MemoryUsage} {now : Instant} {m : Mark}
    (h : s.memoryMark? usage now = some m) : m.instant = now := by
  rw [memoryMark?] at h
  dsimp only at h
  split at h
  · cases h
  · cases h
    rfl

/-- A mark has the time of its observation. -/
lemma mark?_instant {s : Snapshotter} {o : Observation} {r : Resource} {m : Mark}
    (h : s.mark? o r = some m) : m.instant = o.now := by
  unfold mark? at h
  split at h
  · exact memoryMark?_instant h
  · obtain ⟨_, _, e⟩ := Option.map_eq_some_iff.mp h
    cases e
    rfl
  · cases h
    rfl
  · cases h
    rfl
  · exact memoryMark?_instant h
  · cases h
    rfl
  · cases h

/-! ## Along calls -/

/-- The marks that are logged have times of observations, in their order. -/
lemma log_times (s : Snapshotter) (r : Resource) (calls : List SamplingCall) :
    ((s.log r calls).map takenAt).Sublist (observationTimes calls) := by
  induction calls generalizing s with
  | nil => exact .slnil
  | cons call calls ih =>
    cases call with
    | observe o =>
      rw [log, List.map_append]
      cases e : s.mark? o r with
      | none => exact (ih _).cons _
      | some m =>
        have same : takenAt m = o.now := mark?_instant e
        rw [Option.toList_some, List.map_singleton, same]
        exact (ih _).cons_cons _
    | start => exact ih _
    | stop => exact ih _
    | lease => exact ih _
    | release => exact ih _

/-- With a clock that never goes back, the log is in order of time. -/
lemma log_timely (s : Snapshotter) (r : Resource) {calls : List SamplingCall}
    (clock : (observationTimes calls).Pairwise (· ≤ ·)) : Timely (s.log r calls) :=
  List.pairwise_map.mp (clock.sublist (s.log_times r calls))

/-- A history holds the marks that were logged so far. -/
lemma holds_obeyAll {s : Snapshotter} {retention : Duration} {past : List Mark} {r : Resource}
    {calls : List SamplingCall} (ho : (s.marks r).Holds retention past)
    (timely : Timely (past ++ s.log r calls)) :
    ((s.obeyAll calls).marks r).Holds retention (past ++ s.log r calls) := by
  induction calls generalizing s past with
  | nil =>
    rw [log, List.append_nil]
    exact ho
  | cons call calls ih =>
    cases call with
    | observe o =>
      rw [log, ← List.append_assoc] at timely ⊢
      refine ih ?_ timely
      rw [observe_marks]
      cases e : s.mark? o r with
      | none =>
        rw [Option.toList_none, List.append_nil]
        exact ho
      | some m =>
        rw [e] at timely
        exact ho.push (timely.sublist (List.sublist_append_left _ _))
    -- Switching leaves the histories alone.
    | start => exact ih (s.start_marks r ▸ ho) timely
    | stop => exact ih (s.stop_marks r ▸ ho) timely
    | lease => exact ih (s.lease_marks r ▸ ho) timely
    | release => exact ih (s.release_marks r ▸ ho) timely

end Snapshotter

end Headroom
