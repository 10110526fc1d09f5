import Headroom.Proofs.Sampling.Baselines

/-!
# Warnings of critical memory

Sampled and pushed memory readings are recorded by one function, and the time of the last warning is
kept in one place, which nothing else writes. A reading is warned of if it is critical and the last
warning is a cooldown old (`Snapshotter.warned?_eq_some`). So the warnings along any calls are a
cooldown apart, and before any critical reading there is a warning less than that ago, unless it is
warned of itself (`Snapshotter.warns_in_time`). The history takes no notice of warnings.
-/

namespace Headroom

/-! ## Recordings -/

/-- A memory reading that is to be recorded, and its time. -/
structure MemoryRecording where
  usage : MemoryUsage
  instant : Instant
  deriving DecidableEq

/-- The memory reading that a call records, sampled or pushed. -/
def SamplingCall.recording? : SamplingCall → Option MemoryRecording
  | .observe (.memory (.ok usage) now) => some ⟨usage, now⟩
  | .observe (.pushed event now) => some ⟨event.memory, now⟩
  | _ => none

/-- The memory readings that are to be recorded along some calls, in order. -/
def memoryRecordings (calls : List SamplingCall) : List MemoryRecording :=
  calls.filterMap (·.recording?)

namespace MemoryRecording

/-- The limit that the reading is held against. -/
def limit (m : MemoryRecording) (c : SnapshotterConfig) : Nat := c.memoryLimit m.usage.totalBytes

/-- The used part of the limit. -/
def ratio (m : MemoryRecording) (c : SnapshotterConfig) : Binary64 :=
  Binary64.ofNat m.usage.usedBytes / Binary64.ofNat (m.limit c)

/-- There is a limit, and the used part of it is above the critical ratio. -/
def isCritical (m : MemoryRecording) (c : SnapshotterConfig) : Bool :=
  m.limit c != 0 && Snapshotter.criticalMemoryRatio.lt (m.ratio c)

/-- The warning that the reading gives rise to. -/
def warning (m : MemoryRecording) (c : SnapshotterConfig) : SamplingNotice :=
  .criticalMemory m.usage.usedBytes (m.limit c)

/-- What the history takes in of the reading. -/
def snapshot? (m : MemoryRecording) (c : SnapshotterConfig) : Option MemorySnapshot :=
  if m.limit c = 0 then none
  else some ⟨m.instant, c.maxUsedMemoryRatio.lt (m.ratio c), m.usage.usedBytes, m.limit c,
    m.ratio c⟩

end MemoryRecording

/-! ## Reports -/

/-- What there is to report of an effect. -/
def SamplingEffect.notice? : SamplingEffect → Option SamplingNotice
  | notice n => some n
  | _ => none

/-- The notice is a warning of critical memory. -/
def SamplingNotice.isWarning : SamplingNotice → Bool
  | criticalMemory _ _ => true
  | _ => false

namespace Snapshotter

/-- What a call reports. -/
def notices (s : Snapshotter) : SamplingCall → List SamplingNotice
  | .observe (.memory reading now) => (s.sampleMemory reading now).2
  | .observe (.cpu reading now) => (s.sampleCpu reading now).2
  | .observe (.pushed event now) => (s.recordEvent event now).2
  | .observe (.eventLoop _ _) => []
  | .observe (.client _ _) => []
  | .start => s.start.2.filterMap (·.notice?)
  | .stop => s.stop.2.filterMap (·.notice?)
  | .lease => s.lease.2.filterMap (·.notice?)
  | .release => s.release.2.filterMap (·.notice?)

/-- The call warns of critical memory. -/
def warns (s : Snapshotter) (call : SamplingCall) : Bool := (s.notices call).any (·.isWarning)

/-- The readings that are warned of along some calls, in order. -/
def warnings (s : Snapshotter) : List SamplingCall → List MemoryRecording
  | [] => []
  | call :: calls =>
    (if s.warns call then call.recording?.toList else []) ++ (s.obey call).warnings calls

/-- Which of the memory readings along some calls are warned of, and what is kept of them. -/
structure WarnsInTime (s : Snapshotter) (calls : List SamplingCall) : Prop where
  /-- A call warns of the reading that it records, which is critical, and reports nothing else. -/
  critical : ∀ before call after, calls = before ++ call :: after →
    (s.obeyAll before).warns call = true →
    ∃ m, call.recording? = some m ∧ m.isCritical s.config = true ∧
      (s.obeyAll before).notices call = [m.warning s.config]
  /-- Any two warnings are a cooldown apart. -/
  spaced : (s.warnings calls).Pairwise (·.instant + memoryWarningCooldown ≤ ·.instant)
  /-- A critical reading is warned of, or one was that came less than a cooldown before it. -/
  covered : ∀ before call after m, calls = before ++ call :: after → call.recording? = some m →
    m.isCritical s.config = true →
    ∃ w ∈ s.warnings (before ++ [call]),
      w.instant ≤ m.instant ∧ m.instant < w.instant + memoryWarningCooldown
  /-- The history takes in every reading that has a limit, whenever the last warning was. -/
  recorded : ∀ last, ({ s with lastMemoryWarning := last }.obeyAll calls).memory =
    ((memoryRecordings calls).filterMap (·.snapshot? s.config)).foldl .push s.memory

/-! ## One call -/

/-- A reading is to be warned of: it is critical, and the last warning is a cooldown old. -/
def isDue (s : Snapshotter) (m : MemoryRecording) : Bool :=
  m.isCritical s.config && !s.lastMemoryWarning.any (m.instant < · + memoryWarningCooldown)

/-- What comes of recording a reading. -/
inductive Records (s : Snapshotter) (m : MemoryRecording) :
    Snapshotter × List SamplingNotice → Prop where
  | unlimited :
    m.snapshot? s.config = none →
    s.isDue m = false →
    Records s m (s, [.zeroMemoryLimit])
  | quiet {snapshot} :
    m.snapshot? s.config = some snapshot →
    s.isDue m = false →
    Records s m ({ s with memory := s.memory.push snapshot }, [])
  | warned {snapshot} :
    m.snapshot? s.config = some snapshot →
    s.isDue m = true →
    Records s m
      ({ s with memory := s.memory.push snapshot, lastMemoryWarning := some m.instant },
        [m.warning s.config])

-- The result is a variable, as in `recordMemory_cases`.
/-- Recording memory records and warns as it is said to. -/
lemma recordMemory_records {s : Snapshotter} {m : MemoryRecording} {result}
    (e : s.recordMemory m.usage m.instant = result) : Records s m result := by
  rw [recordMemory] at e
  split at e
  · next zero =>
    have unlimited : m.limit s.config = 0 := zero
    subst e
    refine .unlimited (if_pos unlimited) ?_
    rw [isDue, MemoryRecording.isCritical, unlimited]
    rfl
  · next present =>
    have limited : m.limit s.config ≠ 0 := present
    extract_lets ratio at e
    have same : m.ratio s.config = ratio := rfl
    clear_value ratio
    have snapshot : m.snapshot? s.config =
        some ⟨m.instant, s.config.maxUsedMemoryRatio.lt ratio, m.usage.usedBytes,
          m.limit s.config, ratio⟩ := by
      rw [MemoryRecording.snapshot?, if_neg limited, same]
    have due : s.isDue m = (criticalMemoryRatio.lt ratio &&
        !s.lastMemoryWarning.any (m.instant < · + memoryWarningCooldown)) := by
      rw [isDue, MemoryRecording.isCritical, bne_iff_ne.mpr limited, same, Bool.true_and]
    cases critical : criticalMemoryRatio.lt ratio with
    | false =>
      rw [critical] at e due
      subst e
      exact .quiet snapshot due
    | true =>
      rw [critical, if_pos rfl, warnCriticalMemory] at e
      rw [critical, Bool.true_and] at due
      cases recent : s.lastMemoryWarning.any (m.instant < · + memoryWarningCooldown) with
      | true =>
        rw [recent, if_pos rfl] at e
        rw [recent] at due
        subst e
        exact .quiet snapshot due
      | false =>
        rw [recent, if_neg Bool.false_ne_true] at e
        rw [recent] at due
        subst e
        exact .warned snapshot due

/-- A call that records a memory reading does with it what recording it does. -/
lemma obey_recording (s : Snapshotter) {call : SamplingCall} {m : MemoryRecording}
    (e : call.recording? = some m) :
    ∃ result, Records s m result ∧ (s.obey call).memory = result.1.memory ∧
      (s.obey call).lastMemoryWarning = result.1.lastMemoryWarning ∧
      s.notices call = result.2 := by
  unfold SamplingCall.recording? at e
  split at e
  · next usage now =>
    cases e
    generalize e1 : s.recordMemory usage now = result
    refine ⟨result, recordMemory_records e1, ?_⟩
    rw [obey, observe, notices, sampleMemory, e1]
    exact ⟨rfl, rfl, rfl⟩
  · next event now =>
    cases e
    generalize e1 : s.recordMemory event.memory now = result
    refine ⟨result, recordMemory_records e1, ?_⟩
    rw [obey, observe, notices, recordEvent, e1]
    exact ⟨rfl, rfl, rfl⟩
  · cases e

/-- Any other call leaves the memory history and the time of the last warning alone, and does not
warn. -/
lemma obey_unrecorded (s : Snapshotter) {call : SamplingCall} (e : call.recording? = none) :
    (s.obey call).memory = s.memory ∧ (s.obey call).lastMemoryWarning = s.lastMemoryWarning ∧
      s.warns call = false := by
  cases call with
  | observe o =>
    cases o with
    | memory reading now =>
      cases reading with
      | error error => exact ⟨rfl, rfl, rfl⟩
      | ok usage => cases e
    | cpu reading now =>
      obtain ⟨_, _, e1⟩ := s.sampleCpu_eq reading now
      rw [obey, observe, e1]
      cases reading <;> exact ⟨rfl, rfl, rfl⟩
    | eventLoop since now => exact ⟨rfl, rfl, rfl⟩
    | client count now => exact ⟨rfl, rfl, rfl⟩
    | pushed event now => cases e
  | start =>
    rw [obey, warns, notices, start]
    split <;> exact ⟨rfl, rfl, rfl⟩
  | stop =>
    rw [obey, warns, notices, stop]
    split <;> exact ⟨rfl, rfl, rfl⟩
  | lease =>
    rw [obey, warns, notices, lease, start]
    split <;> exact ⟨rfl, rfl, rfl⟩
  | release =>
    rw [obey, warns, notices, release, stop]
    dsimp only
    split
    · split <;> exact ⟨rfl, rfl, rfl⟩
    · exact ⟨rfl, rfl, rfl⟩

/-- The reading that a call warns of. -/
def warned? (s : Snapshotter) (call : SamplingCall) : Option MemoryRecording :=
  call.recording?.filter s.isDue

/-- The history takes in the reading that a call records, and a warning of it is the last one. -/
lemma obey_warned (s : Snapshotter) (call : SamplingCall) :
    (s.obey call).memory = s.memory.add (call.recording?.bind (·.snapshot? s.config)) ∧
      (s.obey call).lastMemoryWarning =
        ((s.warned? call).map (·.instant)).or s.lastMemoryWarning := by
  cases e : call.recording? with
  | none =>
    obtain ⟨memory, last, _⟩ := s.obey_unrecorded e
    rw [warned?, e, memory, last]
    exact ⟨rfl, rfl⟩
  | some m =>
    obtain ⟨_, records, memory, last, _⟩ := s.obey_recording e
    rw [warned?, e, memory, last, Option.bind_some, Option.filter_some]
    cases records with
    | unlimited snapshot due =>
      rw [snapshot, due]
      exact ⟨rfl, rfl⟩
    | quiet snapshot due =>
      rw [snapshot, due]
      exact ⟨rfl, rfl⟩
    | warned snapshot due =>
      rw [snapshot, due]
      exact ⟨rfl, rfl⟩

/-- A call that is to warn of a reading does so and reports nothing else. No other call warns. -/
lemma warns_eq (s : Snapshotter) (call : SamplingCall) :
    s.warns call = (s.warned? call).isSome ∧
      ∀ m ∈ s.warned? call, s.notices call = [m.warning s.config] := by
  cases e : call.recording? with
  | none =>
    rw [(s.obey_unrecorded e).2.2, warned?, e]
    exact ⟨rfl, nofun⟩
  | some m =>
    obtain ⟨_, records, _, _, reported⟩ := s.obey_recording e
    rw [warns, warned?, e, reported, Option.filter_some]
    cases records with
    | unlimited _ due =>
      rw [due]
      exact ⟨rfl, nofun⟩
    | quiet _ due =>
      rw [due]
      exact ⟨rfl, nofun⟩
    | warned _ due =>
      rw [due]
      refine ⟨rfl, ?_⟩
      rintro _ ⟨⟩
      rfl

/-- Warnings of the first call come first. -/
@[simp]
lemma warnings_cons (s : Snapshotter) (call : SamplingCall) (calls : List SamplingCall) :
    s.warnings (call :: calls) = (s.warned? call).toList ++ (s.obey call).warnings calls := by
  rw [warnings, (s.warns_eq call).1, warned?]
  cases call.recording? with
  | none => rfl
  | some m =>
    rw [Option.filter_some]
    cases s.isDue m with
    | false => rfl
    | true => rfl

/-- A warning is due if memory is critical and the last warning is a cooldown old. -/
lemma isDue_iff {s : Snapshotter} {m : MemoryRecording} :
    s.isDue m = true ↔ m.isCritical s.config = true ∧
      ∀ last ∈ s.lastMemoryWarning, last + memoryWarningCooldown ≤ m.instant := by
  rw [isDue, Bool.and_eq_true, Bool.not_eq_true', Option.any_eq_false]
  refine and_congr_right' (forall₂_congr fun last _ => ?_)
  rw [decide_eq_false_iff_not, Nat.not_lt]

/-- A call warns of its own recording if that is due. -/
lemma warned?_eq_some {s : Snapshotter} {call : SamplingCall} {m : MemoryRecording} :
    s.warned? call = some m ↔ call.recording? = some m ∧ m.isCritical s.config = true ∧
      ∀ last ∈ s.lastMemoryWarning, last + memoryWarningCooldown ≤ m.instant := by
  rw [warned?, Option.filter_eq_some_iff, isDue_iff]

/-! ## Along calls -/

/-- Nothing is warned of while the last warning is less than a cooldown old. -/
lemma le_of_mem_warnings {s : Snapshotter} {last : Instant} (e : s.lastMemoryWarning = some last)
    (calls : List SamplingCall) :
    ∀ w ∈ s.warnings calls, last + memoryWarningCooldown ≤ w.instant := by
  induction calls generalizing s last with
  | nil => exact nofun
  | cons call calls ih =>
    have next := (s.obey_warned call).2
    rw [e] at next
    rw [warnings_cons, List.forall_mem_append]
    cases e1 : s.warned? call with
    | none =>
      rw [e1] at next
      exact ⟨nofun, ih next⟩
    | some m =>
      rw [e1] at next
      have le := (warned?_eq_some.mp e1).2.2 last e
      refine ⟨?_, ?_⟩
      · rintro _ (_ | ⟨_, ⟨⟩⟩)
        exact le
      · intro w mem
        exact (le.trans (Nat.le_add_right _ _)).trans (ih next w mem)

/-- Warnings are a cooldown apart. -/
lemma warnings_spaced (s : Snapshotter) (calls : List SamplingCall) :
    (s.warnings calls).Pairwise (·.instant + memoryWarningCooldown ≤ ·.instant) := by
  induction calls generalizing s with
  | nil => exact .nil
  | cons call calls ih =>
    rw [warnings_cons]
    cases e : s.warned? call with
    | none => exact ih _
    | some m =>
      have next := (s.obey_warned call).2
      rw [e] at next
      exact .cons (le_of_mem_warnings next calls) (ih _)

/-- The last warning, if there is one, is the one whose time is kept. -/
lemma obeyAll_lastMemoryWarning (s : Snapshotter) (calls : List SamplingCall) :
    (s.obeyAll calls).lastMemoryWarning =
      ((s.warnings calls).getLast?.map (·.instant)).or s.lastMemoryWarning := by
  induction calls generalizing s with
  | nil => rfl
  | cons call calls ih =>
    rw [warnings_cons, List.getLast?_append, Option.map_or, Option.or_assoc]
    refine (ih (s.obey call)).trans (congrArg _ ?_)
    rw [(s.obey_warned call).2]
    cases s.warned? call with
    | none => rfl
    | some m => rfl

/-- Warnings of two stretches come one after the other. -/
lemma warnings_append (s : Snapshotter) (before after : List SamplingCall) :
    s.warnings (before ++ after) = s.warnings before ++ (s.obeyAll before).warnings after := by
  induction before generalizing s with
  | nil => rfl
  | cons call before ih =>
    rw [List.cons_append, warnings_cons, ih, warnings_cons, List.append_assoc]
    rfl

/-- Only critical recordings are warned of, and each once. -/
lemma warnings_sublist (s : Snapshotter) (calls : List SamplingCall) :
    (s.warnings calls).Sublist ((memoryRecordings calls).filter (·.isCritical s.config)) := by
  induction calls generalizing s with
  | nil => exact .slnil
  | cons call calls ih =>
    have rest := ih (s.obey call)
    rw [obey_config] at rest
    rw [warnings_cons, memoryRecordings, List.filterMap_cons]
    cases e : s.warned? call with
    | none =>
      cases call.recording? with
      | none => exact rest
      | some m => exact rest.trans (.filter _ (List.sublist_cons_self m _))
    | some m =>
      obtain ⟨e1, critical, _⟩ := warned?_eq_some.mp e
      rw [e1]
      dsimp only
      rw [List.filter_cons, if_pos critical]
      exact rest.cons_cons m

/-- What the history takes in does not depend on warnings. -/
lemma obeyAll_memory (s : Snapshotter) (calls : List SamplingCall) :
    (s.obeyAll calls).memory =
      ((memoryRecordings calls).filterMap (·.snapshot? s.config)).foldl .push s.memory := by
  induction calls generalizing s with
  | nil => rfl
  | cons call calls ih =>
    refine (ih (s.obey call)).trans ?_
    rw [obey_config, (s.obey_warned call).1, memoryRecordings, memoryRecordings,
      List.filterMap_cons]
    cases call.recording? with
    | none => rfl
    | some m =>
      dsimp only [Option.bind_some]
      rw [List.filterMap_cons]
      cases m.snapshot? s.config with
      | none => rfl
      | some snapshot => rfl

/-- A critical reading is warned of unless a warning of a reading before it is too recent. -/
lemma warned_or_recent {s : Snapshotter} (fresh : s.lastMemoryWarning = none)
    {before : List SamplingCall} {call : SamplingCall} {m : MemoryRecording}
    (e : call.recording? = some m) (critical : m.isCritical s.config = true) :
    m ∈ s.warnings (before ++ [call]) ∨
      ∃ w ∈ s.warnings before, m.instant < w.instant + memoryWarningCooldown := by
  cases due : (s.obeyAll before).isDue m with
  | true =>
    have warned : (s.obeyAll before).warned? call = some m := by
      rw [warned?, e, Option.filter_some, due, if_pos rfl]
    rw [warnings_append, warnings_cons, warned]
    exact .inl (List.mem_append_right _ List.mem_cons_self)
  | false =>
    rw [isDue, obeyAll_config, critical, Bool.true_and, Bool.not_eq_false', Option.any_eq_true,
      obeyAll_lastMemoryWarning, fresh, Option.or_none] at due
    obtain ⟨last, e1, recent⟩ := due
    obtain ⟨w, e2, rfl⟩ := Option.map_eq_some_iff.mp e1
    exact .inr ⟨w, List.mem_of_getLast? e2, decide_eq_true_iff.mp recent⟩

/-- A warning is no later than a critical reading that follows it. -/
lemma instant_le {s : Snapshotter} {before after : List SamplingCall} {call : SamplingCall}
    {m w : MemoryRecording}
    (clock : ((memoryRecordings (before ++ call :: after)).filter (·.limit s.config != 0)).Pairwise
      (·.instant ≤ ·.instant))
    (e : call.recording? = some m) (critical : m.isCritical s.config = true)
    (warned : w ∈ s.warnings before) : w.instant ≤ m.instant := by
  have limited {m : MemoryRecording} (h : m.isCritical s.config = true) :
      (m.limit s.config != 0) = true := (Bool.and_eq_true_iff.mp h).1
  have recorded := List.mem_filter.mp ((s.warnings_sublist before).subset warned)
  rw [memoryRecordings, List.filterMap_append, List.filterMap_cons, e] at clock
  dsimp only at clock
  rw [List.filter_append, List.pairwise_append] at clock
  exact clock.2.2 w (List.mem_filter.mpr ⟨recorded.1, limited recorded.2⟩) m
    (List.mem_filter.mpr ⟨List.mem_cons_self, limited critical⟩)

/-- Warnings of critical memory are a cooldown apart, no critical reading is further than that from
the warning before it, and the history is the same as without warnings. -/
theorem warns_in_time (config : SnapshotterConfig) (pushed : Bool) {calls : List SamplingCall}
    (clock : ((memoryRecordings calls).filter (·.limit config != 0)).Pairwise
      (·.instant ≤ ·.instant)) :
    WarnsInTime (new config pushed) calls where
  critical before call after _ warns := by
    obtain ⟨e, reported⟩ := ((new config pushed).obeyAll before).warns_eq call
    obtain ⟨m, e1⟩ := Option.isSome_iff_exists.mp (e.symm.trans warns)
    obtain ⟨e2, critical, _⟩ := warned?_eq_some.mp e1
    rw [obeyAll_config] at critical reported
    exact ⟨m, e2, critical, reported m e1⟩
  spaced := warnings_spaced _ calls
  covered before call after m e recorded critical := by
    subst e
    cases warned_or_recent rfl recorded critical with
    | inl warned =>
      exact ⟨m, warned, Nat.le_refl _, Nat.lt_add_of_pos_right (by decide)⟩
    | inr recent =>
      obtain ⟨w, mem, lt⟩ := recent
      refine ⟨w, ?_, ?_, lt⟩
      · rw [warnings_append]
        exact List.mem_append_left _ mem
      · exact instant_le clock recorded critical mem
  recorded last := obeyAll_memory _ calls

/-- Sampled and pushed readings share one cooldown, also across a stop. A reading without a limit in
between counts for nothing, nor does one of nine tenths. The cooldown is over exactly at its end. -/
theorem warns_in_time_at_cooldown :
    ∃ calls : List SamplingCall,
      ((memoryRecordings calls).filter (·.limit ({} : SnapshotterConfig) != 0)).Pairwise
        (·.instant ≤ ·.instant) ∧
      WarnsInTime (new {} false) calls ∧ (memoryRecordings calls).length = 7 ∧
      ((new {} false).warnings calls).map (·.instant) =
        [0, 10 * Duration.second, 20 * Duration.second] := by
  let sampled (used total : Nat) (now : Instant) : SamplingCall :=
    .observe (.memory (.ok ⟨used, total⟩) now)
  let pushed (used total : Nat) (now : Instant) : SamplingCall :=
    .observe (.pushed ⟨0, used, total⟩ now)
  let calls : List SamplingCall :=
    [.start, sampled 95 400 0, pushed 91 400 (5 * Duration.second), .stop,
      pushed 95 0 Duration.second, .start, sampled 90 400 (10 * Duration.second - 1),
      pushed 95 400 (10 * Duration.second), sampled 95 400 (20 * Duration.second - 1),
      sampled 95 400 (20 * Duration.second)]
  have clock : ((memoryRecordings calls).filter (·.limit ({} : SnapshotterConfig) != 0)).Pairwise
      (·.instant ≤ ·.instant) := by decide +kernel
  exact ⟨calls, clock, warns_in_time {} false clock, by decide +kernel⟩

end Snapshotter

end Headroom
