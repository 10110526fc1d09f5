import Headroom.Proofs.Sampling.IdleTicks
import Headroom.Proofs.Sampling.ProbeHandles

/-!
# One probe behind many handles

Whatever is done with handles, those of one probe are answered as that probe alone would answer all
their calls in order (`ProbeHandles.heard_eq`), so it does not matter which of them a call is made
through. What such calls show of the processor is said by the loads that it is read under
(`FixedProbe.loadsRead`): a reading adds up the idle ticks of all loads so far
(`FixedProbe.readings_eq`), and two readings give back the load between them. Together this is
`ProbeHandles.shared_consistent`.
-/

namespace Headroom

namespace FixedProbe

/-! ## What calls show -/

/-- A probe after some calls. -/
def callAll (p : FixedProbe) (calls : List Call) : FixedProbe :=
  calls.foldl (fun p c => (p.call c).2) p

/-- Calls, each with its answer. -/
def transcript : FixedProbe → List Call → List (Call × Answer)
  | _, [] => []
  | p, c :: calls => (c, (p.call c).1) :: transcript (p.call c).2 calls

/-- The ticks of a reading that succeeds. -/
def Answer.ticks? : Answer → Option CpuTicks
  | .cpu (.ok t) => some t
  | _ => none

/-- The readings of the processor that succeed. -/
def readings (p : FixedProbe) (calls : List Call) : List CpuTicks :=
  (p.transcript calls).filterMap fun e => e.2.ticks?

/-- The loads under which readings of the processor succeed. -/
def loadsRead (load : Binary64) (failing : Bool) : List Call → List Binary64
  | [] => []
  | .setCpuUsedRatio ratio :: calls => loadsRead (ratio.clamp 0 1) failing calls
  | .setFailing failing :: calls => loadsRead load failing calls
  | .readCpu :: calls =>
    if failing then loadsRead load failing calls else load :: loadsRead load failing calls
  | _ :: calls => loadsRead load failing calls

/-- The loads that a fresh probe is read under. -/
def loads (calls : List Call) : List Binary64 := loadsRead 0.1 false calls

/-- The idle ticks of readings under some loads. -/
def idleTicks (loads : List Binary64) : Nat := (loads.map idlePerRead).sum

/-- What a call says of failing. -/
def Call.failing? : Call → Option Bool
  | .setFailing failing => some failing
  | _ => none

/-- What calls last said of failing, if they said anything. A fresh probe does not fail. -/
def fails (calls : List Call) : Bool := (calls.filterMap Call.failing?).getLast?.getD false

/-- The counters of a fresh probe are consistent through some calls. -/
structure Consistent (calls : List Call) : Prop where
  /-- All that was read is in the counters. -/
  counters : (callAll {} calls).ticks =
    (⟨idleTicks (loads calls), ticksPerRead * (loads calls).length⟩ : CpuTicks)
  succeeded : (readings {} calls).length = (loads calls).length
  /-- Each reading shows what was read up to it. -/
  reading : ∀ i t, (readings {} calls)[i]? = some t →
    t = (⟨idleTicks ((loads calls).take (i + 1)), ticksPerRead * (i + 1)⟩ : CpuTicks)
  /-- Idle ticks are a rounded part of all ticks. Under no number there are none. -/
  part : ∀ load ∈ loads calls, idlePerRead load ≤ ticksPerRead ∧
    (load = .nan ∧ idlePerRead load = 0 ∨ ∃ q : ℚ, load.value? = some q ∧ 0 ≤ q ∧ q ≤ 1 ∧
      |(idlePerRead load : ℚ) - (1 - q) * ticksPerRead| ≤ 1 / 2 + 1 / 2 ^ 42)
  idle : ∀ t ∈ readings {} calls, t.idle ≤ t.total
  /-- While it fails, a probe says so and stays as it is. -/
  refuses : fails calls = true →
    (callAll {} calls).call .readMemory =
      (.memory (.error (.unavailable "fixed memory reading")), callAll {} calls) ∧
    (callAll {} calls).call .readCpu =
      (.cpu (.error (.unavailable "fixed cpu reading")), callAll {} calls)
  /-- Any two readings give back the load between them, up to the roundings. -/
  used : ∀ i j earlier later, i < j → (readings {} calls)[i]? = some earlier →
    (readings {} calls)[j]? = some later →
    ∃ (ratio : Binary64) (q : ℚ), later.usedRatioSince? earlier = some ratio ∧
      ratio.value? = some q ∧ 0 ≤ q ∧ q ≤ 1 ∧
      |q - (1 - idleTicks (((loads calls).take (j + 1)).drop (i + 1)) /
        (ticksPerRead * (j - i) : Nat))| ≤ 1 / 2 ^ 51

/-- The transcript of more calls goes on where the first ones end. -/
@[simp]
lemma transcript_append (p : FixedProbe) (calls more : List Call) :
    p.transcript (calls ++ more) = p.transcript calls ++ (p.callAll calls).transcript more := by
  induction calls generalizing p with
  | nil => rfl
  | cons c calls ih =>
    rw [List.cons_append, transcript, transcript, ih]
    rfl

/-! ## Counters -/

/-- Ticks that advance by a reading under each of some loads. -/
def advance (t : CpuTicks) : List Binary64 → List CpuTicks
  | [] => []
  | load :: loads =>
    let t1 : CpuTicks := ⟨t.idle + idlePerRead load, t.total + ticksPerRead⟩
    t1 :: advance t1 loads

/-- One more load adds its idle ticks. -/
@[simp]
lemma idleTicks_cons (load : Binary64) (loads : List Binary64) :
    idleTicks (load :: loads) = idlePerRead load + idleTicks loads := by
  rw [idleTicks, List.map_cons, List.sum_cons, idleTicks]

/-- Idle ticks of two stretches add up. -/
@[simp]
lemma idleTicks_append (loads more : List Binary64) :
    idleTicks (loads ++ more) = idleTicks loads + idleTicks more := by
  rw [idleTicks, List.map_append, List.sum_append, idleTicks, idleTicks]

/-- There is one reading for each load. -/
@[simp]
lemma advance_length (t : CpuTicks) (loads : List Binary64) :
    (advance t loads).length = loads.length := by
  induction loads generalizing t with
  | nil => rfl
  | cons load loads ih => rw [advance, List.length_cons, ih, List.length_cons]

/-- A reading shows the ticks of all loads up to it. -/
lemma advance_getElem? {t t1 : CpuTicks} {loads : List Binary64} {i : Nat}
    (h : (advance t loads)[i]? = some t1) :
    t1 = ⟨t.idle + idleTicks (loads.take (i + 1)), t.total + ticksPerRead * (i + 1)⟩ := by
  induction loads generalizing t i with
  | nil => cases h
  | cons load loads ih =>
    rw [advance] at h
    cases i with
    | zero =>
      cases h
      rfl
    | succ i =>
      rw [List.getElem?_cons_succ] at h
      rw [ih h, List.take_succ_cons, idleTicks_cons, Nat.add_assoc, Nat.add_assoc,
        Nat.mul_succ _ (i + 1), Nat.add_comm ticksPerRead]

/-- What a call does to the counters. -/
inductive Counts (p : FixedProbe) (c : Call) : Prop where
  | silent (answer : (p.call c).1.ticks? = none) (kept : (p.call c).2.ticks = p.ticks)
    (loads : ∀ calls, loadsRead p.cpuUsedRatio p.failing (c :: calls) =
      loadsRead (p.call c).2.cpuUsedRatio (p.call c).2.failing calls)
  /-- A reading succeeds under the load that is set. -/
  | reads (t : CpuTicks) (answer : (p.call c).1.ticks? = some t) (kept : (p.call c).2.ticks = t)
    (next : t = ⟨p.ticks.idle + idlePerRead p.cpuUsedRatio, p.ticks.total + ticksPerRead⟩)
    (loads : ∀ calls, loadsRead p.cpuUsedRatio p.failing (c :: calls) = p.cpuUsedRatio ::
      loadsRead (p.call c).2.cpuUsedRatio (p.call c).2.failing calls)

/-- A call reads the counters, or leaves them alone. -/
lemma call_counts (p : FixedProbe) (c : Call) : Counts p c := by
  cases c with
  | setMemory usage => exact .silent rfl rfl fun _ => rfl
  | setCpuUsedRatio ratio => exact .silent rfl rfl fun _ => rfl
  | setFailing failing => exact .silent rfl rfl fun _ => rfl
  | readMemory => exact .silent rfl rfl fun _ => rfl
  | readCpu =>
    cases failing : p.failing with
    | true =>
      have e : p.readCpu = (.error (.unavailable "fixed cpu reading"), p) := if_pos failing
      refine .silent ?_ ?_ fun calls => ?_
      · rw [call, e]
        rfl
      · rw [call, e]
      · rw [call, e, failing]
        rfl
    | false =>
      have e : p.readCpu = _ := if_neg (ne_true_of_eq_false failing)
      refine .reads _ ?_ ?_ rfl fun calls => ?_
      · rw [call, e]
        rfl
      · rw [call, e]
      · rw [call, e, failing]
        rfl

/-- Readings add up the idle ticks of the loads that they are made under. -/
lemma readings_eq (p : FixedProbe) (calls : List Call) :
    p.readings calls = advance p.ticks (loadsRead p.cpuUsedRatio p.failing calls) := by
  induction calls generalizing p with
  | nil => rfl
  | cons c calls ih =>
    rw [readings, transcript, List.filterMap_cons, ← readings, ih]
    cases call_counts p c with
    | silent answer kept loads => rw [answer, kept, loads]
    | reads t answer kept next loads => rw [answer, kept, loads, advance, next]

/-- The counters add up the loads that were read. -/
lemma callAll_ticks (p : FixedProbe) (calls : List Call) :
    (p.callAll calls).ticks =
      (⟨p.ticks.idle + idleTicks (loadsRead p.cpuUsedRatio p.failing calls),
        p.ticks.total + ticksPerRead * (loadsRead p.cpuUsedRatio p.failing calls).length⟩ :
          CpuTicks) := by
  induction calls generalizing p with
  | nil => rfl
  | cons c calls ih =>
    rw [callAll, List.foldl_cons, ← callAll, ih]
    cases call_counts p c with
    | silent answer kept loads => rw [kept, loads]
    | reads t answer kept next loads =>
      rw [kept, loads, next, idleTicks_cons, List.length_cons, Nat.mul_succ, Nat.add_assoc,
        Nat.add_assoc, Nat.add_comm ticksPerRead]

/-! ## Loads and failing -/

/-- The loads that are read are loads if the first one is. -/
lemma loadsRead_isLoad {load : Binary64} (h : IsLoad load) (failing : Bool) (calls : List Call) :
    ∀ x ∈ loadsRead load failing calls, IsLoad x := by
  induction calls generalizing load failing with
  | nil => exact fun x member => nomatch member
  | cons c calls ih =>
    cases c with
    | setMemory usage => exact ih h failing
    | setCpuUsedRatio ratio => exact ih (.clamp ratio) failing
    | setFailing failing => exact ih h failing
    | readMemory => exact ih h failing
    | readCpu =>
      cases failing with
      | true => exact ih h true
      | false => exact List.forall_mem_cons.mpr ⟨h, ih h false⟩

/-- Whatever is set, a fresh probe is read under loads. -/
lemma loads_isLoad (calls : List Call) : ∀ x ∈ loads calls, IsLoad x := by
  have fresh : (0.1 : Binary64) = (0.1 : Binary64).clamp 0 1 := by decide +kernel
  exact loadsRead_isLoad (fresh ▸ .clamp 0.1) false calls

/-- There are no more idle ticks than ticks. -/
lemma idleTicks_le {loads : List Binary64} (h : ∀ x ∈ loads, IsLoad x) :
    idleTicks loads ≤ ticksPerRead * loads.length := by
  induction loads with
  | nil => exact Nat.zero_le _
  | cons load loads ih =>
    obtain ⟨head, tail⟩ := List.forall_mem_cons.mp h
    rw [idleTicks_cons, List.length_cons, Nat.mul_succ, Nat.add_comm]
    exact Nat.add_le_add (ih tail) head.idlePerRead_le

/-- A probe fails as it was told last. -/
lemma callAll_failing (p : FixedProbe) (calls : List Call) :
    (p.callAll calls).failing = (calls.filterMap Call.failing?).getLast?.getD p.failing := by
  induction calls generalizing p with
  | nil => rfl
  | cons c calls ih =>
    rw [callAll, List.foldl_cons, ← callAll, ih]
    cases c with
    | setMemory usage => rfl
    | setCpuUsedRatio ratio => rfl
    | setFailing failing =>
      have said : Call.failing? (.setFailing failing) = some failing := rfl
      rw [List.filterMap_cons_some said, List.getLast?_cons]
      rfl
    | readMemory => rfl
    | readCpu =>
      have kept : p.readCpu.2.failing = p.failing := by
        rw [readCpu]
        split
        · rfl
        · rfl
      exact congrArg _ kept

/-- What readings add between two of them. -/
lemma idleTicks_between (loads : List Binary64) {i j : Nat} (lt : i < j) :
    idleTicks (loads.take (j + 1)) =
      idleTicks (loads.take (i + 1)) + idleTicks ((loads.take (j + 1)).drop (i + 1)) := by
  have first : (loads.take (j + 1)).take (i + 1) = loads.take (i + 1) := by
    rw [List.take_take, Nat.min_eq_left (by omega)]
  rw [← idleTicks_append, ← first, List.take_append_drop]

/-- Between two readings there are no more idle ticks than ticks. -/
lemma idleTicks_between_le {loads : List Binary64} (h : ∀ x ∈ loads, IsLoad x) (i j : Nat) :
    idleTicks ((loads.take (j + 1)).drop (i + 1)) ≤ ticksPerRead * (j - i) := by
  refine (idleTicks_le fun x member => ?_).trans (Nat.mul_le_mul_left _ ?_)
  · exact h x (List.mem_of_mem_take (List.mem_of_mem_drop member))
  · rw [List.length_drop, List.length_take]
    omega

/-- A failing probe refuses both kinds of reading and stays as it is. -/
lemma call_failing {p : FixedProbe} (failing : p.failing = true) :
    p.call .readMemory = (.memory (.error (.unavailable "fixed memory reading")), p) ∧
    p.call .readCpu = (.cpu (.error (.unavailable "fixed cpu reading")), p) := by
  have memory : p.readMemory = .error (.unavailable "fixed memory reading") := if_pos failing
  have cpu : p.readCpu = (.error (.unavailable "fixed cpu reading"), p) := if_pos failing
  rw [call, call, memory, cpu]
  exact ⟨rfl, rfl⟩

/-! ## Consistency -/

/-- A fresh probe gives one reading for each load. -/
lemma length_readings (calls : List Call) :
    (readings {} calls).length = (loads calls).length := by
  rw [readings_eq, advance_length]
  rfl

/-- A reading of a fresh probe shows the ticks of all loads up to it. -/
lemma reading_eq {calls : List Call} {i : Nat} {t : CpuTicks}
    (h : (readings {} calls)[i]? = some t) :
    t = ⟨idleTicks ((loads calls).take (i + 1)), ticksPerRead * (i + 1)⟩ := by
  rw [readings_eq] at h
  rw [advance_getElem? h, Nat.zero_add, Nat.zero_add]
  rfl

/-- No reading is more idle than long. -/
lemma reading_idle_le {calls : List Call} {t : CpuTicks} (member : t ∈ readings {} calls) :
    t.idle ≤ t.total := by
  obtain ⟨i, h⟩ := List.mem_iff_getElem?.mp member
  rw [reading_eq h]
  calc idleTicks ((loads calls).take (i + 1))
    _ ≤ ticksPerRead * ((loads calls).take (i + 1)).length :=
      idleTicks_le fun x taken => loads_isLoad calls x (List.mem_of_mem_take taken)
    _ ≤ ticksPerRead * (i + 1) := Nat.mul_le_mul_left _ (List.length_take_le _ _)

/-- Two readings give back the load between them, wherever they stand. -/
lemma readings_used {calls : List Call} {i j : Nat} {earlier later : CpuTicks}
    (fits : ticksPerRead * (readings {} calls).length < Nat.pow 2 64) (lt : i < j)
    (h : (readings {} calls)[i]? = some earlier) (h1 : (readings {} calls)[j]? = some later) :
    ∃ (ratio : Binary64) (q : ℚ), later.usedRatioSince? earlier = some ratio ∧
      ratio.value? = some q ∧ 0 ≤ q ∧ q ≤ 1 ∧
      |q - (1 - idleTicks (((loads calls).take (j + 1)).drop (i + 1)) /
        (ticksPerRead * (j - i) : Nat))| ≤ 1 / 2 ^ 51 := by
  obtain ⟨valid, _⟩ := List.getElem?_eq_some_iff.mp h1
  have total : ticksPerRead * (j + 1) = ticksPerRead * (i + 1) + ticksPerRead * (j - i) := by
    have steps : i + 1 + (j - i) = j + 1 := by omega
    rw [← Nat.mul_add, steps]
  have some : 0 < ticksPerRead * (j - i) := Nat.mul_pos (by decide) (Nat.sub_pos_of_lt lt)
  have few : ticksPerRead * (j - i) ≤ Nat.pow 2 64 :=
    (Nat.mul_le_mul_left _ (by omega)).trans fits.le
  rw [reading_eq h, reading_eq h1]
  exact CpuTicks.usedRatioSince?_error (idleTicks_between _ lt) total some
    (idleTicks_between_le (loads_isLoad calls) i j) few

/-- The counters of a fresh probe stay consistent as long as they are counts of 64 bits. -/
lemma consistent {calls : List Call}
    (fits : ticksPerRead * (readings {} calls).length < Nat.pow 2 64) : Consistent calls where
  counters := by
    rw [callAll_ticks, Nat.zero_add, Nat.zero_add]
    rfl
  succeeded := length_readings calls
  reading _ _ h := reading_eq h
  part load member := by
    have isLoad := loads_isLoad calls load member
    refine ⟨isLoad.idlePerRead_le, ?_⟩
    rcases isLoad with rfl | ⟨q, value, low, high⟩
    · exact .inl ⟨rfl, idlePerRead_nan⟩
    · exact .inr ⟨q, value, low, high, idlePerRead_error value low high⟩
  idle _ member := reading_idle_le member
  refuses failing := call_failing ((callAll_failing {} calls).trans failing)
  used _ _ _ _ lt h h1 := readings_used fits lt h h1

end FixedProbe

/-! ## Handles -/

namespace ProbeHandles

/-- The call of a use that reaches the probe at a place, with its answer. -/
def reaches? (h : ProbeHandles) (place : Nat) : Use → Option (FixedProbe.Call × FixedProbe.Answer)
  | .call handle c =>
    if h.places[handle]? = some place then (h.answer? handle c).map fun answer => (c, answer)
    else none
  | _ => none

/-- The calls that reach the probe at a place, through whatever handle, with their answers. -/
def heard (place : Nat) : ProbeHandles → List Use → List (FixedProbe.Call × FixedProbe.Answer)
  | _, [] => []
  | h, u :: uses => (h.reaches? place u).toList ++ heard place (h.use u) uses

/-- The calls that have reached the probe at a place since there were no handles. -/
def callsTo (place : Nat) (uses : List Use) : List FixedProbe.Call :=
  (heard place {} uses).map Prod.fst

/-- After some uses of handles, those of one probe share it. -/
structure Shared (uses : List Use) (place : Nat) : Prop where
  /-- The calls through all of them were answered as one fresh probe answers them in order. -/
  answered : heard place {} uses = FixedProbe.transcript {} (callsTo place uses)
  /-- Whichever is called next, it answers as these calls have left the probe. -/
  state : ∀ (handle : Nat) c, (useAll {} uses).places[handle]? = some place →
    (useAll {} uses).answer? handle c =
      some ((FixedProbe.callAll {} (callsTo place uses)).call c).1
  /-- The call is then one of those that the others see. -/
  call : ∀ (handle : Nat) c, (useAll {} uses).places[handle]? = some place →
    callsTo place (uses ++ [.call handle c]) = callsTo place uses ++ [c]
  /-- Copying one makes another. -/
  clone : ∀ handle : Nat, (useAll {} uses).places[handle]? = some place →
    (useAll {} (uses ++ [.clone handle])).places = (useAll {} uses).places ++ [place]
  /-- Whatever is done, none of them is taken away. -/
  stays : ∀ (handle : Nat) (more : List Use), (useAll {} uses).places[handle]? = some place →
    (useAll {} (uses ++ more)).places[handle]? = some place

/-- The probe at a place, fresh if it is still to be made. -/
def probeAt (h : ProbeHandles) (place : Nat) : FixedProbe := h.probes[place]?.getD {}

/-- Every handle leads to a probe. -/
def Placed (h : ProbeHandles) : Prop := ∀ place ∈ h.places, place < h.probes.length

variable {h : ProbeHandles} {place : Nat}

/-- No use of the handles leaves one without a probe. -/
lemma use_placed (placed : h.Placed) (u : Use) : (h.use u).Placed := by
  intro place member
  cases u with
  | create =>
    rw [use, List.length_append]
    rcases List.mem_append.mp member with old | new
    · exact Nat.lt_succ_of_lt (placed place old)
    · rw [List.mem_singleton.mp new]
      exact Nat.lt_succ_self _
  | clone handle =>
    rcases List.mem_append.mp member with old | new
    · exact placed place old
    · rw [Option.mem_toList] at new
      exact placed place (List.mem_of_getElem? new)
  | call handle c =>
    rw [use] at member ⊢
    split at member
    · exact placed place member
    · rw [List.length_modify]
      exact placed place member

/-- No uses of the handles leave one without a probe. -/
lemma useAll_placed (placed : h.Placed) (uses : List Use) : (h.useAll uses).Placed := by
  induction uses generalizing h with
  | nil => exact placed
  | cons u uses ih => exact ih (use_placed placed u)

/-- A handle leads to the same probe after every use. -/
lemma use_keeps {handle : Nat} (at_place : h.places[handle]? = some place) (u : Use) :
    (h.use u).places[handle]? = some place := by
  obtain ⟨lt, _⟩ := List.getElem?_eq_some_iff.mp at_place
  cases u with
  | create =>
    rw [use, List.getElem?_append_left lt]
    exact at_place
  | clone other =>
    rw [use, List.getElem?_append_left lt]
    exact at_place
  | call other c =>
    rw [use]
    split
    · exact at_place
    · exact at_place

/-- A handle leads to the same probe forever. -/
lemma useAll_keeps {handle : Nat} (at_place : h.places[handle]? = some place)
    (uses : List Use) : (h.useAll uses).places[handle]? = some place := by
  induction uses generalizing h with
  | nil => exact at_place
  | cons u uses ih => exact ih (use_keeps at_place u)

/-- A call through a handle is answered by its probe. -/
lemma answer?_eq (placed : h.Placed) {handle : Nat} (at_place : h.places[handle]? = some place)
    (c : FixedProbe.Call) : h.answer? handle c = some ((h.probeAt place).call c).1 := by
  have lt := placed place (List.mem_of_getElem? at_place)
  rw [answer?, at_place, probeAt]
  dsimp only
  rw [List.getElem?_eq_getElem lt]
  rfl

/-- A use does to the probe at a place what its call does, if it is one that reaches it. -/
lemma use_transcript (placed : h.Placed) (place : Nat) (u : Use) :
    (h.reaches? place u).toList =
      (h.probeAt place).transcript ((h.reaches? place u).toList.map Prod.fst) ∧
    (h.use u).probeAt place =
      (h.probeAt place).callAll ((h.reaches? place u).toList.map Prod.fst) := by
  cases u with
  | create =>
    refine ⟨rfl, ?_⟩
    rw [use, probeAt, probeAt]
    dsimp only
    rcases lt_or_ge place h.probes.length with old | new
    · rw [List.getElem?_append_left old]
      rfl
    · rw [List.getElem?_append_right new, List.getElem?_eq_none new]
      cases place - h.probes.length with
      | zero => rfl
      | succ n => rfl
  | clone handle => exact ⟨rfl, rfl⟩
  | call handle c =>
    rw [reaches?]
    split
    · next here =>
      have lt := placed place (List.mem_of_getElem? here)
      rw [answer?_eq placed here]
      refine ⟨rfl, ?_⟩
      rw [use, here, probeAt, probeAt]
      dsimp only
      rw [List.getElem?_modify_eq, List.getElem?_eq_getElem lt]
      rfl
    · next elsewhere =>
      refine ⟨rfl, ?_⟩
      rw [use]
      split
      · rfl
      · next other there =>
        have ne : other ≠ place := fun same => elsewhere (same ▸ there)
        rw [probeAt, probeAt]
        dsimp only
        rw [List.getElem?_modify_ne _ _ ne]
        rfl

/-- The handles of a probe are answered as that probe alone answers their calls. -/
lemma heard_eq (placed : h.Placed) (place : Nat) (uses : List Use) :
    heard place h uses = (h.probeAt place).transcript ((heard place h uses).map Prod.fst) ∧
    (h.useAll uses).probeAt place =
      (h.probeAt place).callAll ((heard place h uses).map Prod.fst) := by
  induction uses generalizing h with
  | nil => exact ⟨rfl, rfl⟩
  | cons u uses ih =>
    obtain ⟨first, next⟩ := use_transcript placed place u
    obtain ⟨rest, last⟩ := ih (use_placed placed u)
    rw [heard, List.map_append, FixedProbe.transcript_append, ← first, ← next, ← rest]
    refine ⟨rfl, ?_⟩
    rw [useAll, List.foldl_cons, ← useAll, last, next, FixedProbe.callAll, FixedProbe.callAll,
      FixedProbe.callAll, List.foldl_append]

/-- What a probe hears in two stretches comes one after the other. -/
@[simp]
lemma heard_append (place : Nat) (h : ProbeHandles) (uses more : List Use) :
    heard place h (uses ++ more) = heard place h uses ++ heard place (h.useAll uses) more := by
  induction uses generalizing h with
  | nil => rfl
  | cons u uses ih =>
    rw [List.cons_append, heard, heard, ih, List.append_assoc]
    rfl

/-- Two stretches of uses come one after the other. -/
@[simp]
lemma useAll_append (h : ProbeHandles) (uses more : List Use) :
    h.useAll (uses ++ more) = (h.useAll uses).useAll more := List.foldl_append

/-- Without handles there is none without a probe. -/
lemma placed_none : Placed {} := fun _ member => nomatch member

/-- The handles of a probe show what their calls have made of it. -/
lemma shared (uses : List Use) (place : Nat) : Shared uses place where
  answered := (heard_eq placed_none place uses).1
  state handle c here := by
    rw [answer?_eq (useAll_placed placed_none uses) here, (heard_eq placed_none place uses).2]
    rfl
  call handle c here := by
    rw [callsTo, heard_append, List.map_append, heard, heard, reaches?, if_pos here,
      answer?_eq (useAll_placed placed_none uses) here]
    rfl
  clone handle here := by
    rw [useAll_append, useAll, List.foldl_cons, List.foldl_nil, use, here]
    rfl
  stays handle more here := by
    rw [useAll_append]
    exact useAll_keeps here more

/-- However handles are copied and used, those of one probe show one state, and its counters are
consistent as long as they are counts of 64 bits. -/
theorem shared_consistent (uses : List Use) (place : Nat)
    (fits : FixedProbe.ticksPerRead *
      (FixedProbe.readings {} (callsTo place uses)).length < Nat.pow 2 64) :
    Shared uses place ∧ FixedProbe.Consistent (callsTo place uses) :=
  ⟨shared uses place, FixedProbe.consistent fits⟩

/-- Three handles of one probe and one of another. What is no number leaves no idle ticks, what is
above one is all of the load, and a failed reading is as if it had not been made. -/
theorem shared_consistent_of_copies :
    ∃ uses : List Use,
      FixedProbe.ticksPerRead * (FixedProbe.readings {} (callsTo 0 uses)).length < Nat.pow 2 64 ∧
      Shared uses 0 ∧ FixedProbe.Consistent (callsTo 0 uses) ∧
      (useAll {} uses).places = [0, 0, 1, 0] ∧
      FixedProbe.readings {} (callsTo 0 uses) =
        [⟨900, 1000⟩, ⟨1650, 2000⟩, ⟨1650, 3000⟩, ⟨1650, 4000⟩] := by
  let uses : List Use :=
    [.create, .clone 0, .call 1 .readCpu, .create, .call 2 .readCpu, .clone 1,
      .call 0 (.setCpuUsedRatio 0.25), .call 3 .readCpu, .call 2 (.setFailing true),
      .call 3 (.setCpuUsedRatio .nan), .call 1 .readCpu, .call 1 (.setFailing true),
      .call 0 .readCpu, .call 3 (.setFailing false), .call 1 (.setCpuUsedRatio 7),
      .call 0 .readCpu]
  have fits : FixedProbe.ticksPerRead *
      (FixedProbe.readings {} (callsTo 0 uses)).length < Nat.pow 2 64 := by decide +kernel
  obtain ⟨shares, consistent⟩ := shared_consistent uses 0 fits
  exact ⟨uses, fits, shares, consistent, by decide +kernel, by decide +kernel⟩

end ProbeHandles

end Headroom
