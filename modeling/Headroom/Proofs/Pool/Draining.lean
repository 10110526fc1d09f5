import Headroom.Proofs.Pool.Finishing
import Headroom.Proofs.Pool.Outcome

/-!
# Pools without a task in flight

Only a running pool launches tasks. So once no task is in flight, none is until the pool runs again
(`Run.stays_drained`). A finished pool never does: `Run.drained_end` shows that a run is asked for
its end, and finishes, only with no task in flight, and that nothing is in flight ever after.
-/

namespace Headroom.Pool

/-- Where the tasks in flight stand at the end of a run. -/
structure DrainedEnd (ms : List Moment) (s : Situation) : Prop where
  /-- The question for the end of the run is asked only while the pool runs with no task in flight.
  Asking it changes neither. -/
  asks : ∀ m ∈ ms, ∀ q, m.asksEnd? = some q →
    (m.before.pool.phase = .running ∧ m.before.pool.state.current = 0) ∧
      m.after.pool.phase = .running ∧ m.after.pool.state.current = 0
  /-- The pool finishes only with no task in flight. -/
  finishes : ∀ m ∈ ms, m.before.pool.phase ≠ .finished → m.after.pool.phase = .finished →
    m.before.pool.state.current = 0 ∧ m.after.pool.state.current = 0
  /-- Once the pool has finished, it stays so, and all tasks that were launched have settled. -/
  rests : ∀ m ∈ ms, m.after.pool.phase = .finished →
    s.pool.phase = .finished ∧ s.pool.state.current = 0 ∧ s.inFlight = [] ∧
      ∀ task < launchCount ms, (settlements ms).count task = 1

/-! ## While a pool does not run -/

/-- A pool that does not run launches nothing. -/
lemma Reaction.launches_of_not_running {p e r} (re : Reaction p e r) (h : p.phase ≠ .running) :
    Pool.launches r.effects = 0 := by
  cases Nat.eq_zero_or_pos (Pool.launches r.effects) with
  | inl zero => exact zero
  | inr pos =>
    obtain ⟨_, capacity, _⟩ := re.of_launch pos
    exact absurd (PoolState.hasCapacity_iff.mp capacity).1 h

/-- Once no task is in flight, none is as long as the pool does not run. -/
lemma Run.stays_drained {later m earlier s} (run : Run (later ++ m :: earlier) s)
    (drained : m.after.pool.state.current = 0)
    (rests : ∀ w ∈ later, w.before.pool.phase ≠ .running) : s.pool.state.current = 0 := by
  induction later generalizing s with
  | nil =>
    cases run with
    | step => exact drained
  | cons w later ih =>
    cases run with
    | @step _ s e run1 _ =>
      obtain ⟨rest, rests1⟩ := List.forall_mem_cons.mp rests
      have re := respond_reaction s.pool e
      have le := re.resting (re.launches_of_not_running rest)
      rw [ih run1 rests1] at le
      exact Nat.eq_zero_of_le_zero le

/-- Where the count is zero, nothing is in flight. -/
lemma Run.inFlight_of_zero {ms s} (run : Run ms s) (h : s.pool.state.current = 0) :
    s.inFlight = [] := by
  rw [run.tallied.counted] at h
  exact List.eq_nil_of_length_eq_zero h

/-! ## The end of a run -/

/-- A terminal phase is not left any more. -/
lemma Run.stays_until {later m earlier s w} (run : Run (later ++ m :: earlier) s)
    (terminal : m.after.pool.phase.isTerminal = true) (mem : w ∈ later) :
    w.before.pool.phase = m.after.pool.phase := by
  obtain ⟨l1, l2, e⟩ := List.append_of_mem mem
  subst e
  rw [List.append_assoc] at run
  exact (run.split.1.stays terminal).1

/-- The moment that finishes a run finds and leaves no task in flight. -/
lemma Moment.finishes_drained {m : Moment} (before : m.before.pool.phase ≠ .finished)
    (after : m.after.pool.phase = .finished) :
    m.before.pool.state.current = 0 ∧ m.after.pool.state.current = 0 := by
  have re := m.reaction
  obtain ⟨drained, _⟩ := re.finishes before after
  rw [isDrained, beq_iff_eq] at drained
  -- A launch would need capacity, and leave the pool running.
  have none : launches m.effects = 0 := by
    cases Nat.eq_zero_or_pos (launches m.effects) with
    | inl zero => exact zero
    | inr pos =>
      obtain ⟨_, capacity, _, _, e⟩ := re.of_launch pos
      have running : m.after.pool.phase = .running := by
        have e1 : m.after.pool.state = _ := e
        rw [Pool.phase, e1]
        exact (PoolState.hasCapacity_iff.mp capacity).1
      rw [after] at running
      cases running
  have le : m.after.pool.state.current ≤ m.before.pool.state.current := re.resting none
  rw [drained] at le
  exact ⟨drained, Nat.eq_zero_of_le_zero le⟩

/-- A pool that is finished has a moment in which it finished. -/
lemma Run.finishes_in {ms s} (run : Run ms s) (finished : s.pool.phase = .finished) :
    ∃ later m earlier, ms = later ++ m :: earlier ∧ m.before.pool.phase ≠ .finished ∧
      m.after.pool.phase = .finished := by
  induction run with
  | start e =>
    obtain ⟨_, e1⟩ := new_inv e
    subst e1
    cases finished
  | @step ms s e run _ ih =>
    by_cases before : s.pool.phase = .finished
    · obtain ⟨later, m, earlier, e1, h⟩ := ih before
      exact ⟨⟨s, e⟩ :: later, m, earlier, congrArg _ e1, h⟩
    · exact ⟨[], ⟨s, e⟩, ms, rfl, before, finished⟩

/-- Nothing is in flight in a finished pool. -/
lemma Run.finished_drained {ms s} (run : Run ms s) (finished : s.pool.phase = .finished) :
    s.pool.state.current = 0 := by
  obtain ⟨later, m, earlier, e, before, after⟩ := run.finishes_in finished
  subst e
  refine run.stays_drained (Moment.finishes_drained before after).2 ?_
  intro w mem
  rw [run.stays_until (by rw [after]; rfl) mem, after]
  nofun

/-- A run is asked for its end, and finishes, only with no task in flight. A finished pool has none
in flight ever after. -/
theorem Run.drained_end {ms s} (run : Run ms s) : DrainedEnd ms s where
  asks m _ q asks := by
    obtain ⟨enters, _, running, drained, _⟩ := newFinish?_inv asks
    rw [isDrained, beq_iff_eq] at drained
    have e : m.after.pool.state = m.before.pool.state := by
      rw [Moment.after, enters, Situation.next, respond]
      cases m.before.pool.enterFinishCheck_cases with
      | inl asks => rw [asks.1]
      | inr refused => rw [refused]
    refine ⟨⟨running, drained⟩, ?_⟩
    rw [Pool.phase, e]
    exact ⟨running, drained⟩
  finishes m _ before after := Moment.finishes_drained before after
  rests m mem after := by
    obtain ⟨later, earlier, e⟩ := List.append_of_mem mem
    subst e
    have finished := (run.stays (by rw [after]; rfl)).1.trans after
    have zero := run.finished_drained finished
    have none := run.inFlight_of_zero zero
    refine ⟨finished, zero, none, ?_⟩
    intro task lt
    rw [run.count_settlements none, run.tallied.launched, if_pos lt]

/-- A run finishes with its only task settled, and is aborted in vain afterwards. -/
theorem Run.drained_end_of_task :
    ∃ ms s, Run ms s ∧ DrainedEnd ms s ∧ s.pool.phase = .finished ∧ launchCount ms = 1 ∧
      settlements ms = [0] := by
  obtain ⟨h⟩ := nonempty_systemInfo
  have run0 := Run.fresh (c := { loggingSecs := .zero }) (by decide +kernel)
  have run1 := run0.step (e := .callRun) trivial
  have run2 := run1.step (e := .enterStartCheck false 0 true) trivial
  have run3 := run2.step (e := .answerReady ⟨0, 0, false, true, 1⟩ (.ok true) 5 true h)
    List.mem_cons_self
  have run4 := run3.step (e := .settleTask 0 .succeeded h) List.mem_cons_self
  have run5 := run4.step (e := .enterFinishCheck) Nat.one_pos
  have run6 := run5.step (e := .answerFinished ⟨0, 1⟩ (.ok true) h) List.mem_cons_self
  have run7 := run6.step (e := .abort h) trivial
  exact ⟨_, _, run7, run7.drained_end, rfl, rfl, rfl⟩

end Headroom.Pool
