import Headroom.Proofs.Num.Ratio
import Headroom.Proofs.Sampling.ClientErrors

/-!
# Readings that fail

A reading of memory or of the processor may fail at any time. A failed one leaves the snapshotter as
it is, so it might as well not have been taken. The used part of the processor is measured from the
latest reading that succeeded, however many have failed and however often sampling was switched
since (`Snapshotter.skips_failures`).
-/

namespace Headroom

/-! ## Statements -/

/-- A reading of memory or of the processor that failed. -/
def SamplingCall.fails : SamplingCall → Bool
  | .observe (.memory (.error _) _) => true
  | .observe (.cpu (.error _) _) => true
  | _ => false

/-- The ticks of a reading of the processor that succeeded. -/
def SamplingCall.ticks? : SamplingCall → Option CpuTicks
  | .observe (.cpu (.ok ticks) _) => some ticks
  | _ => none

/-- The readings of the processor that succeeded among some calls, in order. -/
def tickReadings (calls : List SamplingCall) : List CpuTicks := calls.filterMap (·.ticks?)

/-- What a reading of the processor appends to the history, by the latest one before it that
succeeded. -/
inductive CpuTick (limit : Binary64) (latest : Option CpuTicks) (now : Instant) :
    Except ReadingError CpuTicks → Option CpuSnapshot → Prop where
  | failed {e} : CpuTick limit latest now (.error e) none
  | first {ticks} :
    latest = none →
    CpuTick limit latest now (.ok ticks) none
  /-- No tick has passed, or the count of ticks has gone back. -/
  | still {ticks previous} :
    latest = some previous →
    ticks.total ≤ previous.total →
    CpuTick limit latest now (.ok ticks) none
  /-- Ticks have passed. The used part is a number from zero to one. -/
  | moved {ticks previous ratio q} :
    latest = some previous →
    previous.total < ticks.total →
    ticks.usedRatioSince? previous = some ratio →
    ratio.value? = some q →
    0 ≤ q →
    q ≤ 1 →
    CpuTick limit latest now (.ok ticks) (some ⟨now, limit.lt ratio, ratio, limit⟩)

/-- Failed readings among some calls on a snapshotter change nothing, and each reading of the
processor that succeeds is measured from the one before that did. -/
structure SkipsFailures (s : Snapshotter) (calls : List SamplingCall) : Prop where
  /-- After a failed reading, the snapshotter is as before: histories, baselines and all. -/
  failed : ∀ before call after, calls = before ++ call :: after → call.fails = true →
    s.obeyAll (before ++ [call]) = s.obeyAll before
  /-- It ends up as if no failed reading had been taken. -/
  erased : s.obeyAll calls = s.obeyAll (calls.filter (!·.fails))
  baseline : ∀ before after, calls = before ++ after →
    (s.obeyAll before).previousTicks = (tickReadings before).getLast?
  sampled : ∀ before reading now after, calls = before ++ .observe (.cpu reading now) :: after →
    ∃ snapshot?, CpuTick s.config.maxUsedCpuRatio (tickReadings before).getLast? now reading
        snapshot? ∧
      (s.obeyAll (before ++ [.observe (.cpu reading now)])).cpu =
        (s.obeyAll before).cpu.add snapshot?

namespace Snapshotter

/-! ## One call -/

/-- A reading that fails changes nothing. -/
lemma obey_fails {s : Snapshotter} {call : SamplingCall} (fails : call.fails = true) :
    s.obey call = s := by
  unfold SamplingCall.fails at fails
  split at fails
  · rfl
  · rfl
  · cases fails

/-- A reading of the processor is the next baseline. -/
@[simp]
lemma sampleCpu_previousTicks (s : Snapshotter) (ticks : CpuTicks) (now : Instant) :
    (s.sampleCpu (.ok ticks) now).1.previousTicks = some ticks := by
  rw [sampleCpu]
  dsimp only
  split <;> rfl

/-- A reading of the processor that succeeds is what the next one is measured from. -/
lemma obey_previousTicks (s : Snapshotter) (call : SamplingCall) :
    (s.obey call).previousTicks = call.ticks?.or s.previousTicks := by
  rcases s.obey_eq call with ⟨o, rfl⟩ | ⟨other, _, _, e⟩
  · cases o with
    | memory reading now =>
      obtain ⟨_, _, e⟩ := s.sampleMemory_eq reading now
      rw [obey, observe, e]
      rfl
    | cpu reading now =>
      cases reading with
      | error e => rfl
      | ok ticks => exact s.sampleCpu_previousTicks ticks now
    | eventLoop since now => rfl
    | client count now => rfl
    | pushed event now =>
      obtain ⟨_, _, _, e⟩ := s.recordEvent_eq event now
      rw [obey, observe, e]
      rfl
  · have none : call.ticks? = none := by
      cases call with
      | observe o => exact absurd rfl (other o)
      | _ => rfl
    rw [e, none]
    rfl

/-- A tick records the used part since the baseline, if there is one. -/
lemma sampleCpu_cpu (s : Snapshotter) {reading : Except ReadingError CpuTicks} (now : Instant)
    (fits : ∀ ticks, reading = .ok ticks → ticks.total < Nat.pow 2 64) :
    ∃ snapshot?, CpuTick s.config.maxUsedCpuRatio s.previousTicks now reading snapshot? ∧
      (s.sampleCpu reading now).1.cpu = s.cpu.add snapshot? := by
  cases reading with
  | error e => exact ⟨none, .failed, rfl⟩
  | ok ticks =>
    cases e : s.previousTicks with
    | none =>
      refine ⟨none, .first rfl, ?_⟩
      rw [sampleCpu, e]
      rfl
    | some previous =>
      cases Nat.lt_or_ge previous.total ticks.total with
      | inl grown =>
        obtain ⟨ratio, q, e1, value, low, high⟩ :=
          CpuTicks.usedRatioSince?_eq_some grown (fits ticks rfl)
        refine ⟨_, .moved rfl grown e1 value low high, ?_⟩
        rw [sampleCpu, e]
        dsimp only [Option.bind]
        rw [e1]
        rfl
      | inr still =>
        refine ⟨none, .still rfl still, ?_⟩
        rw [sampleCpu, e]
        dsimp only [Option.bind]
        rw [CpuTicks.usedRatioSince?_eq_none.mpr still]
        rfl

/-! ## Along calls -/

/-- The latest reading comes last. -/
@[simp]
lemma tickReadings_concat (calls : List SamplingCall) (call : SamplingCall) :
    tickReadings (calls ++ [call]) = tickReadings calls ++ call.ticks?.toList := by
  rw [tickReadings, List.filterMap_append, List.filterMap_cons]
  cases call.ticks? with
  | none => rfl
  | some ticks => rfl

/-- No call changes the configuration. -/
lemma obeyAll_config (s : Snapshotter) (calls : List SamplingCall) :
    (s.obeyAll calls).config = s.config := by
  induction calls generalizing s with
  | nil => rfl
  | cons call calls ih => exact (ih _).trans (s.obey_config call)

/-- Along some calls, the latest reading that succeeded is the one to measure from. -/
lemma obeyAll_previousTicks (s : Snapshotter) (calls : List SamplingCall) :
    (s.obeyAll calls).previousTicks = (tickReadings calls).getLast?.or s.previousTicks := by
  induction calls using List.reverseRecOn with
  | nil => rfl
  | append_singleton calls call ih =>
    rw [obeyAll_concat, obey_previousTicks, ih, tickReadings_concat]
    cases call.ticks? with
    | none =>
      rw [Option.toList_none, List.append_nil]
      rfl
    | some ticks =>
      rw [Option.toList_some, List.getLast?_concat]
      rfl

/-- Readings that fail might as well not be taken. -/
lemma obeyAll_filter_fails (s : Snapshotter) (calls : List SamplingCall) :
    s.obeyAll (calls.filter (!·.fails)) = s.obeyAll calls := by
  induction calls generalizing s with
  | nil => rfl
  | cons call calls ih =>
    rw [List.filter_cons]
    cases fails : call.fails with
    | true =>
      rw [Bool.not_true, if_neg Bool.false_ne_true, ih, obeyAll, obeyAll, List.foldl_cons,
        obey_fails fails]
    | false => exact ih _

/-- Whatever readings fail, and however sampling is switched in between, failed readings change
nothing, and the used part of the processor is measured between readings that succeed. -/
theorem skips_failures (config : SnapshotterConfig) (pushed : Bool) {calls : List SamplingCall}
    (fits : ∀ ticks ∈ tickReadings calls, ticks.total < Nat.pow 2 64) :
    SkipsFailures (new config pushed) calls where
  failed before call after _ fails := by
    rw [obeyAll_concat, obey_fails fails]
  erased := (obeyAll_filter_fails _ calls).symm
  baseline before after _ := by
    rw [obeyAll_previousTicks]
    exact Option.or_none
  sampled before reading now after e := by
    have latest : ((new config pushed).obeyAll before).previousTicks =
        (tickReadings before).getLast? := by
      rw [obeyAll_previousTicks]
      exact Option.or_none
    have fits1 : ∀ ticks, reading = .ok ticks → ticks.total < Nat.pow 2 64 := by
      intro ticks e1
      refine fits ticks (List.mem_filterMap.mpr ⟨.observe (.cpu reading now), ?_, ?_⟩)
      · rw [e]
        exact List.mem_append_right _ List.mem_cons_self
      · rw [e1]
        rfl
    rw [obeyAll_concat, ← latest, ← obeyAll_config (new config pushed) before]
    exact sampleCpu_cpu _ now fits1

/-- Readings fail before the first one that succeeds, and around a stop. The part is measured across
the stop. Then the count of ticks goes back, and after that the count of idle ones runs ahead. -/
theorem skips_failures_of_reversal :
    ∃ calls : List SamplingCall, (∀ ticks ∈ tickReadings calls, ticks.total < Nat.pow 2 64) ∧
      SkipsFailures (new {} false) calls ∧ calls.countP (·.fails) = 3 ∧
      ((new {} false).obeyAll calls).cpu.entries.map (fun s => (s.instant, s.usedRatio)) =
        [(3, 0.75), (5, 0)] ∧
      ((new {} false).obeyAll calls).previousTicks = some ⟨400, 260⟩ := by
  let gone : ReadingError := .unavailable "ticks"
  let calls : List SamplingCall :=
    [.start, .observe (.cpu (.error gone) 0), .observe (.cpu (.ok ⟨100, 200⟩) 1),
      .observe (.memory (.error gone) 1), .stop, .observe (.cpu (.error gone) 2), .start,
      .observe (.cpu (.ok ⟨125, 300⟩) 3), .observe (.cpu (.ok ⟨10, 250⟩) 4),
      .observe (.cpu (.ok ⟨400, 260⟩) 5)]
  have fits : ∀ ticks ∈ tickReadings calls, ticks.total < Nat.pow 2 64 := by decide +kernel
  exact ⟨calls, fits, skips_failures {} false fits, by decide +kernel⟩

end Snapshotter

end Headroom
