import Mathlib.Algebra.Ring.Nat
import Mathlib.Data.List.Chain
import Headroom.Proofs.Sampling.Halting
import Headroom.Scenario.Basic

/-!
# Client errors

The client sampler reads a counter and records by how much it has grown since the tick before. The
reading before is kept in a place of its own, which `stop` and `start` leave alone and the histories
do not share. So no growth is lost between two ticks and none is counted twice, however sampling is
switched and whatever else is recorded in between (`Snapshotter.counts_errors`).
-/

namespace Headroom

/-! ## Ticks -/

/-- The reading of a client tick and its time. -/
def SamplingCall.tick? : SamplingCall → Option (Nat × Instant)
  | .observe (.client count now) => some (count, now)
  | _ => none

/-- A tick is an observation of the clients. -/
lemma SamplingCall.tick?_eq {call : SamplingCall} {count : Nat} {now : Instant}
    (h : call.tick? = some (count, now)) : call = .observe (.client count now) := by
  unfold tick? at h
  split at h
  · cases h
    rfl
  · cases h

/-- Calls are client ticks, with others between them. -/
@[elab_as_elim]
lemma tickInduction {motive : List SamplingCall → Prop} (nil : motive [])
    (other : ∀ call calls, call.tick? = none → motive calls → motive (call :: calls))
    (tick : ∀ count now calls, motive calls → motive (.observe (.client count now) :: calls))
    (calls : List SamplingCall) : motive calls := by
  induction calls with
  | nil => exact nil
  | cons call calls ih =>
    cases e : call.tick? with
    | none => exact other call calls e ih
    | some reading =>
      cases SamplingCall.tick?_eq e
      exact tick _ _ calls ih

/-- The client ticks among some calls, in order. -/
def clientTicks (calls : List SamplingCall) : List (Nat × Instant) := calls.filterMap (·.tick?)

namespace Snapshotter

/-- The snapshot that a client tick leaves as the latest one. -/
def clientRecord? (s : Snapshotter) (call : SamplingCall) : Option ClientSnapshot :=
  call.tick?.bind fun _ => (s.obey call).client.last?

/-- The snapshots that the client ticks among some calls leave, in order. -/
def clientRecords (s : Snapshotter) : List SamplingCall → List ClientSnapshot
  | [] => []
  | call :: calls => (s.clientRecord? call).toList ++ (s.obey call).clientRecords calls

end Snapshotter

/-- Errors are counted along the ticks of a client, whose readings are those of `ticks` and which
recorded `records`. -/
structure CountsErrors (limit : Nat) (ticks : List (Nat × Instant))
    (records : List ClientSnapshot) : Prop where
  /-- Each tick records its reading. -/
  readings : records.map (fun r => (r.errorCount, r.instant)) = ticks
  limits : ∀ r ∈ records, r.maxErrors = limit
  /-- The first tick has nothing to compare with. -/
  first : ∀ r after, records = r :: after → r.newErrorCount = 0 ∧ r.overloaded = false
  /-- Each further tick records the growth since the one before. -/
  later : ∀ before r r' after, records = before ++ r :: r' :: after →
    r'.newErrorCount = r'.errorCount - r.errorCount ∧
      (r'.overloaded = true ↔ limit < r'.errorCount - r.errorCount)
  /-- Over a stretch in which the counter never goes back, the recorded growth adds up. -/
  growth : ∀ before r stretch after, records = before ++ (r :: stretch) ++ after →
    (r :: stretch).IsChain (·.errorCount ≤ ·.errorCount) →
    r.errorCount + (stretch.map (·.newErrorCount)).sum =
      ((r :: stretch).getLast (List.cons_ne_nil _ _)).errorCount
  /-- After a tick at which the counter has gone back, growth is measured from there. -/
  reset : ∀ before r r' r'' after, records = before ++ r :: r' :: r'' :: after →
    r'.errorCount < r.errorCount →
    r'.newErrorCount = 0 ∧ r''.newErrorCount = r''.errorCount - r'.errorCount
  /-- Without a source there are no errors. -/
  unsourced : (∀ tick ∈ ticks, tick.1 = ClientSource.none.count) →
    ∀ r ∈ records, r.errorCount = 0 ∧ r.newErrorCount = 0 ∧ r.overloaded = false

/-! ## Telescoping -/

/-- A tick records its growth over the reading before. -/
def Grows (limit : Nat) (r r' : ClientSnapshot) : Prop :=
  r'.newErrorCount = r'.errorCount - r.errorCount ∧
    r'.overloaded = decide (limit < r'.errorCount - r.errorCount)

/-- Growth from reading to reading adds up to the last one. -/
lemma sum_growth {limit : Nat} {r : ClientSnapshot} {stretch : List ClientSnapshot}
    (grows : (r :: stretch).IsChain (Grows limit))
    (monotone : (r :: stretch).IsChain (·.errorCount ≤ ·.errorCount)) :
    r.errorCount + (stretch.map (·.newErrorCount)).sum =
      ((r :: stretch).getLast (List.cons_ne_nil _ _)).errorCount := by
  induction stretch generalizing r with
  | nil => rfl
  | cons r' stretch ih =>
    obtain ⟨⟨new, _⟩, grows⟩ := List.isChain_cons_cons.mp grows
    obtain ⟨le, monotone⟩ := List.isChain_cons_cons.mp monotone
    rw [List.map_cons, List.sum_cons, new, ← Nat.add_assoc, Nat.add_sub_cancel' le,
      ih grows monotone]
    rfl

/-- Errors are counted where the first tick counts none and each further one its growth. -/
lemma countsErrors_of_grows {limit : Nat} {records : List ClientSnapshot}
    (limits : ∀ r ∈ records, r.maxErrors = limit)
    (first : ∀ r ∈ records.head?, r.newErrorCount = 0 ∧ r.overloaded = false)
    (grows : records.IsChain (Grows limit)) :
    CountsErrors limit (records.map fun r => (r.errorCount, r.instant)) records where
  readings := rfl
  limits := limits
  first r after e := by
    subst e
    exact first r rfl
  later before r r' after e := by
    subst e
    obtain ⟨new, overloaded⟩ := (List.isChain_append_cons_cons.mp grows).2.1
    rw [overloaded, decide_eq_true_iff]
    exact ⟨new, Iff.rfl⟩
  growth before r stretch after e monotone := by
    subst e
    exact sum_growth grows.left_of_append.right_of_append monotone
  reset before r r' r'' after e back := by
    subst e
    obtain ⟨_, ⟨new, _⟩, grows1⟩ := List.isChain_append_cons_cons.mp grows
    refine ⟨?_, (List.isChain_cons_cons.mp grows1).1.1⟩
    rw [new]
    exact Nat.sub_eq_zero_of_le (Nat.le_of_lt back)
  unsourced zero r mem := by
    have none : r.errorCount = 0 := zero _ (List.mem_map_of_mem mem)
    refine ⟨none, ?_⟩
    obtain ⟨before, after, e⟩ := List.append_of_mem mem
    subst e
    cases List.eq_nil_or_concat before with
    | inl start =>
      subst start
      exact first r rfl
    | inr further =>
      obtain ⟨before, r0, e⟩ := further
      rw [e, List.concat_eq_append, List.append_assoc] at grows
      obtain ⟨new, overloaded⟩ := (List.isChain_append_cons_cons.mp grows).2.1
      rw [new, overloaded, none, Nat.zero_sub]
      exact ⟨rfl, rfl⟩

namespace Snapshotter

/-! ## One call -/

/-- The client's history and the reading that its next tick compares with. -/
def clientSide (s : Snapshotter) : History ClientSnapshot × Option Nat :=
  (s.client, s.previousErrors)

/-- Whatever is no client tick leaves the client's history and reading alone. -/
lemma obey_clientSide {s : Snapshotter} {call : SamplingCall} (other : call.tick? = none) :
    (s.obey call).clientSide = s.clientSide := by
  rcases s.obey_eq call with ⟨o, rfl⟩ | ⟨_, _, _, e⟩
  · cases o with
    | memory reading now =>
      obtain ⟨_, _, e⟩ := s.sampleMemory_eq reading now
      rw [obey, observe, e]
      rfl
    | cpu reading now =>
      obtain ⟨_, _, e⟩ := s.sampleCpu_eq reading now
      rw [obey, observe, e]
      rfl
    | eventLoop since now => rfl
    | client count now => cases other
    | pushed event now =>
      obtain ⟨_, _, _, e⟩ := s.recordEvent_eq event now
      rw [obey, observe, e]
      rfl
  · rw [e]
    rfl

/-- No call changes the configuration. -/
lemma obey_config (s : Snapshotter) (call : SamplingCall) : (s.obey call).config = s.config :=
  congrArg (·.2.2) (s.obey_switch call)

/-- The snapshot of a client tick. -/
def clientSnapshot (s : Snapshotter) (count : Nat) (now : Instant) : ClientSnapshot :=
  let new := s.previousErrors.elim 0 (count - ·)
  ⟨now, s.previousErrors.isSome && s.config.maxClientErrors < new, count, new,
    s.config.maxClientErrors⟩

end Snapshotter

/-- What was pushed last is the latest snapshot. -/
@[simp]
lemma History.push_last? {α : Type} [Snapshot α] (h : History α) (s : α) :
    (h.push s).last? = some s := by
  rw [last?, push, since]
  have recent : isOlder (takenAt s) h.retention s = false := by
    rw [isOlder_eq, isWithin, decide_eq_true (Nat.le_add_right _ _)]
    rfl
  rw [List.dropWhile_append, List.dropWhile_cons_of_neg (ne_true_of_eq_false recent)]
  split
  · rfl
  · exact List.getLast?_concat

namespace Snapshotter

/-- A tick adds the record of its reading. -/
@[simp]
lemma clientRecords_tick (s : Snapshotter) (count : Nat) (now : Instant)
    (calls : List SamplingCall) :
    s.clientRecords (.observe (.client count now) :: calls) =
      s.clientSnapshot count now :: (s.sampleClient count now).clientRecords calls := by
  have latest : s.clientRecord? (.observe (.client count now)) =
      some (s.clientSnapshot count now) := History.push_last? _ _
  rw [clientRecords, latest]
  rfl

/-- Other calls add no record. -/
lemma clientRecords_other {s : Snapshotter} {call : SamplingCall} (other : call.tick? = none)
    (calls : List SamplingCall) :
    s.clientRecords (call :: calls) = (s.obey call).clientRecords calls := by
  rw [clientRecords, clientRecord?, other]
  rfl

/-! ## Along calls -/

/-- There is one record for every tick. -/
lemma clientRecords_readings (s : Snapshotter) (calls : List SamplingCall) :
    (s.clientRecords calls).map (fun r => (r.errorCount, r.instant)) = clientTicks calls := by
  induction calls using tickInduction generalizing s with
  | nil => rfl
  | other call calls e ih =>
    rw [clientRecords_other e, clientTicks, List.filterMap_cons, e]
    exact ih _
  | tick count now calls ih =>
    rw [clientRecords_tick, List.map_cons, ih]
    rfl

/-- All records have the limit of the configuration. -/
lemma clientRecords_limits (s : Snapshotter) (calls : List SamplingCall) :
    ∀ r ∈ s.clientRecords calls, r.maxErrors = s.config.maxClientErrors := by
  induction calls using tickInduction generalizing s with
  | nil => exact nofun
  | other call calls e ih =>
    rw [clientRecords_other e, ← s.obey_config call]
    exact ih _
  | tick count now calls ih =>
    rw [clientRecords_tick]
    exact List.forall_mem_cons.mpr ⟨rfl, ih _⟩

/-- Once there is a reading to compare with, every tick records its growth. -/
lemma clientRecords_grows {s : Snapshotter} {r : ClientSnapshot}
    (last : s.previousErrors = some r.errorCount) (calls : List SamplingCall) :
    (r :: s.clientRecords calls).IsChain (Grows s.config.maxClientErrors) := by
  -- Along the calls: the reading to compare with is always that of the latest record.
  induction calls using tickInduction generalizing s r with
  | nil => exact List.isChain_singleton r
  | other call calls e ih =>
    have same : (s.obey call).previousErrors = s.previousErrors :=
      congrArg Prod.snd (obey_clientSide e)
    rw [clientRecords_other e, ← s.obey_config call]
    exact ih (same.trans last)
  | tick count now calls ih =>
    rw [clientRecords_tick]
    refine List.isChain_cons_cons.mpr ⟨?_, ih (s := s.sampleClient count now) rfl⟩
    rw [clientSnapshot, last]
    exact ⟨rfl, Bool.true_and _⟩

/-- The first tick ever counts no errors, and every further one its growth. -/
lemma clientRecords_first {s : Snapshotter} (fresh : s.previousErrors = none)
    (calls : List SamplingCall) :
    (∀ r ∈ (s.clientRecords calls).head?, r.newErrorCount = 0 ∧ r.overloaded = false) ∧
      (s.clientRecords calls).IsChain (Grows s.config.maxClientErrors) := by
  induction calls using tickInduction generalizing s with
  | nil => exact ⟨nofun, .nil⟩
  | other call calls e ih =>
    have same : (s.obey call).previousErrors = s.previousErrors :=
      congrArg Prod.snd (obey_clientSide e)
    rw [clientRecords_other e, ← s.obey_config call]
    exact ih (same.trans fresh)
  | tick count now calls _ =>
    rw [clientRecords_tick]
    refine ⟨?_, clientRecords_grows (s := s.sampleClient count now) rfl calls⟩
    intro r mem
    cases mem
    rw [clientSnapshot, fresh]
    exact ⟨rfl, rfl⟩

/-- What the history holds in the end are the last of the recorded snapshots. -/
lemma obeyAll_client (s : Snapshotter) (calls : List SamplingCall) :
    (s.obeyAll calls).client.entries <:+ s.client.entries ++ s.clientRecords calls := by
  induction calls using tickInduction generalizing s with
  | nil =>
    rw [clientRecords, List.append_nil]
    exact List.suffix_refl _
  | other call calls e ih =>
    have same : (s.obey call).client = s.client := congrArg Prod.fst (obey_clientSide e)
    rw [clientRecords_other e, ← same]
    exact ih _
  | tick count now calls ih =>
    rw [clientRecords_tick, List.append_cons]
    refine (ih _).trans ?_
    obtain ⟨old, e1⟩ : (s.sampleClient count now).client.entries <:+
      s.client.entries ++ [s.clientSnapshot count now] := List.dropWhile_suffix _
    refine ⟨old, ?_⟩
    rw [← e1, List.append_assoc]
    rfl

/-- However sampling is switched and whatever else is recorded in between, client errors are neither
lost nor counted twice, and the history keeps the latest snapshots that count them. -/
theorem counts_errors (config : SnapshotterConfig) (pushed : Bool) (calls : List SamplingCall) :
    let s := new config pushed
    CountsErrors config.maxClientErrors (clientTicks calls) (s.clientRecords calls) ∧
      (s.obeyAll calls).client.entries <:+ s.clientRecords calls := by
  intro s
  obtain ⟨first, grows⟩ := clientRecords_first (s := s) rfl calls
  rw [← s.clientRecords_readings calls]
  have counts := countsErrors_of_grows (s.clientRecords_limits calls) first grows
  exact ⟨counts, s.obeyAll_client calls⟩

end Snapshotter

end Headroom
