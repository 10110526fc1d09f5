import Mathlib.Data.List.Nodup
import Headroom.Proofs.Pool.Moment

/-!
# The tasks that a pool counts

The current concurrency of a pool is a number that goes up with a launch and down, but not below
zero, with the end of a task. `Run.accounted` shows that it is the number of tasks in flight all
along a run, in every phase: each launched task is in flight or has settled, and none settles twice.
So the count is never lowered from zero, and whatever becomes of the tasks in flight, it comes back
to zero.
-/

namespace Headroom.Pool

/-- The tasks that settled, the latest first. -/
def settlements (ms : List Moment) : List Nat := ms.filterMap (·.event.settles?)

/-- How many tasks were launched. -/
def launchCount (ms : List Moment) : Nat := launches (ms.flatMap (·.effects))

/-- The account of the tasks of a run so far. -/
structure Accounted (ms : List Moment) (s : Situation) : Prop where
  /-- The current concurrency is the number of tasks in flight. -/
  counted : s.pool.state.current = s.inFlight.length
  /-- These are the tasks that were launched and have not settled. -/
  balanced : s.pool.state.current + (settlements ms).length = launchCount ms
  /-- Every launched task has settled once, or is in flight once and has not settled. -/
  once : ∀ task,
    (settlements ms).count task + s.inFlight.count task = if task < launchCount ms then 1 else 0
  /-- The end of a task found a count above zero, and lowered it by one. -/
  lowered : ∀ m ∈ ms, m.event.settles?.isSome = true →
    0 < m.before.pool.state.current ∧
      m.after.pool.state.current + 1 = m.before.pool.state.current
  /-- However the tasks in flight end, the run can go on with the end of each, until all tasks have
  settled once and none is counted. -/
  settling : ∀ (result : Nat → TaskResult) (historical : SystemInfo), ∃ later t,
    Run (later ++ ms) t ∧
      (∀ m ∈ later, ∃ task, m.event = .settleTask task (result task) historical) ∧
      t.pool.state.current = 0 ∧
      ∀ task < launchCount ms, (settlements (later ++ ms)).count task = 1

/-! ## One moment -/

/-- An event that settles a task launches none. -/
lemma Reaction.launches_of_settles {p e r task} (re : Reaction p e r)
    (h : e.settles? = some task) : Pool.launches r.effects = 0 := by
  cases Nat.eq_zero_or_pos (Pool.launches r.effects) with
  | inl zero => exact zero
  | inr pos =>
    obtain ⟨_, _, ⟨_, _, _, _, e1⟩, _⟩ := re.of_launch pos
    subst e1
    cases h

/-- Only a task in flight can settle. -/
lemma Situation.Enabled.settles {s : Situation} {e : Event} {task} (enabled : s.Enabled e)
    (h : e.settles? = some task) : task ∈ s.inFlight := by
  cases e with
  | settleTask => cases h; exact enabled
  | _ => cases h

/-- The end of a task lowers the count by one, or leaves it at zero. -/
lemma Event.counted_current {e : Event} {task} (h : e.settles? = some task) (state : PoolState) :
    (e.counted state).current = state.current - 1 := by
  cases e with
  | settleTask => rfl
  | _ => cases h

/-- A task that settles launches none, and is not in flight any more. -/
lemma Situation.next_of_settles {s : Situation} {e : Event} {task} (h : e.settles? = some task) :
    (s.next e).launched = s.launched ∧ (s.next e).inFlight = s.inFlight.erase task ∧
      (s.next e).pool.state.current = s.pool.state.current - 1 := by
  have re := respond_reaction s.pool e
  have l := re.launches_of_settles h
  refine ⟨?_, ?_, ?_⟩
  · rw [s.next_launched, l]
    rfl
  · rw [s.next_inFlight, l, h]
    exact List.append_nil _
  · rw [next, re.current, l, Event.counted_current h]
    rfl

/-- Where no task settles, the launched ones come to those in flight. -/
lemma Situation.next_of_no_settles {s : Situation} {e : Event} (h : e.settles? = none) :
    (s.next e).inFlight =
        s.inFlight ++ List.range' s.launched (launches (s.pool.respond e).effects) ∧
      (s.next e).pool.state.current =
        s.pool.state.current + launches (s.pool.respond e).effects := by
  have re := respond_reaction s.pool e
  refine ⟨?_, ?_⟩
  · rw [s.next_inFlight, h]
    rfl
  · rw [next, re.current, Event.counted_of_not_settles h]

/-- The task that the latest moment settles comes first. -/
@[simp]
lemma settlements_cons {m : Moment} {ms} :
    settlements (m :: ms) = m.event.settles?.toList ++ settlements ms := by
  rw [settlements, List.filterMap_cons]
  cases m.event.settles? with
  | none => rfl
  | some task => rfl

/-- A moment adds its launches. -/
@[simp]
lemma launchCount_cons {m : Moment} {ms} :
    launchCount (m :: ms) = launches m.effects + launchCount ms := by
  rw [launchCount, List.flatMap_cons, launches_append]
  rfl

/-- Taking out one occurrence lowers the count by it. -/
lemma count_erase_mem {task : Nat} {l : List Nat} (mem : task ∈ l) (k : Nat) :
    [task].count k + (l.erase task).count k = l.count k := by
  have perm : (task :: l.erase task).Perm l := (List.perm_cons_erase mem).symm
  rw [← perm.count_eq k, ← List.count_append]
  rfl

/-! ## The account along a run -/

/-- The numbers of an account, without what it says of single moments. -/
structure Tallied (ms : List Moment) (s : Situation) : Prop where
  launched : s.launched = launchCount ms
  counted : s.pool.state.current = s.inFlight.length
  balanced : s.inFlight.length + (settlements ms).length = launchCount ms
  once : ∀ task,
    (settlements ms).count task + s.inFlight.count task = if task < launchCount ms then 1 else 0

/-- The end of a task in flight keeps the numbers right. -/
lemma Tallied.settle {ms s e task} (ta : Tallied ms s) (h : e.settles? = some task)
    (mem : task ∈ s.inFlight) : Tallied (⟨s, e⟩ :: ms) (s.next e) := by
  obtain ⟨e1, e2, e3⟩ := s.next_of_settles h
  have e4 : settlements (⟨s, e⟩ :: ms) = task :: settlements ms := by
    rw [settlements_cons, h]
    rfl
  have e5 : launchCount (⟨s, e⟩ :: ms) = launchCount ms := by
    have l : launches (Moment.mk s e).effects = 0 := (respond_reaction _ _).launches_of_settles h
    rw [launchCount_cons, l, Nat.zero_add]
  have e6 := List.length_erase_of_mem mem
  have pos := List.length_pos_of_mem mem
  constructor
  · rw [e1, e5]
    exact ta.launched
  · rw [e3, e2, e6, ta.counted]
  · rw [e2, e4, e5, e6, List.length_cons, ← ta.balanced]
    omega
  · intro k
    have e7 := count_erase_mem mem k
    have e8 := ta.once k
    rw [e2, e4, e5, ← e8, ← e7, ← List.singleton_append, List.count_append]
    omega

/-- What is no end of a task keeps the numbers right. -/
lemma Tallied.goOn {ms s e} (ta : Tallied ms s) (h : e.settles? = none) :
    Tallied (⟨s, e⟩ :: ms) (s.next e) := by
  obtain ⟨e2, e3⟩ := s.next_of_no_settles h
  have e1 := s.next_launched e
  have e4 : settlements (⟨s, e⟩ :: ms) = settlements ms := by
    rw [settlements_cons, h]
    rfl
  have e5 : launchCount (⟨s, e⟩ :: ms) =
      launches (s.pool.respond e).effects + launchCount ms := launchCount_cons
  constructor
  · rw [e1, e5, ta.launched, Nat.add_comm]
  · rw [e3, e2, List.length_append, List.length_range', ta.counted]
  · rw [e2, e4, e5, List.length_append, List.length_range', ← ta.balanced]
    omega
  · -- The numbers of the new tasks begin where those of the old ones end.
    intro k
    have e6 := ta.once k
    rw [e2, e4, e5, List.count_append, List.count_range_1', ← Nat.add_assoc, e6, ta.launched]
    split <;> split <;> split <;> omega

/-- The numbers are right all along a run. -/
lemma Run.tallied {ms s} (run : Run ms s) : Tallied ms s := by
  induction run with
  | start e =>
    obtain ⟨_, e1⟩ := new_inv e
    subst e1
    exact ⟨rfl, rfl, rfl, fun _ => rfl⟩
  | @step ms s e _ enabled ih =>
    cases h : e.settles? with
    | none => exact ih.goOn h
    | some task => exact ih.settle h (enabled.settles h)

/-- No task is in flight twice. -/
lemma Tallied.inFlight_nodup {ms s} (ta : Tallied ms s) : s.inFlight.Nodup := by
  rw [List.nodup_iff_count_le_one]
  intro task
  have once := ta.once task
  split at once
  · omega
  · omega

/-- A run can go on with the end of all tasks in flight, one after the other. -/
lemma Run.settle_all {ms s} (run : Run ms s) (result : Nat → TaskResult)
    (historical : SystemInfo) :
    ∃ later t, Run (later ++ ms) t ∧
      (∀ m ∈ later, ∃ task, m.event = .settleTask task (result task) historical) ∧
      t.inFlight = [] ∧ launchCount (later ++ ms) = launchCount ms := by
  -- Each end of a task shortens the list of those in flight.
  induction len : s.inFlight.length generalizing ms s with
  | zero =>
    refine ⟨[], s, run, ?_, List.length_eq_zero_iff.mp len, rfl⟩
    intro m mem
    cases mem
  | succ n ih =>
    obtain ⟨task, mem⟩ := List.exists_mem_of_length_pos (by rw [len]; exact Nat.succ_pos n)
    have h : (Event.settleTask task (result task) historical).settles? = some task := rfl
    have run1 := Run.step (e := .settleTask task (result task) historical) run mem
    obtain ⟨e2, e3, _⟩ := s.next_of_settles h
    have e4 : (s.next (.settleTask task (result task) historical)).inFlight.length = n := by
      rw [e3, List.length_erase_of_mem mem, len]
      rfl
    obtain ⟨later, t, run2, events, e5, e6⟩ := ih run1 e4
    refine ⟨later ++ [⟨s, .settleTask task (result task) historical⟩], t, ?_, ?_, e5, ?_⟩
    · rw [List.append_assoc]
      exact run2
    · intro m mem1
      cases List.mem_append.mp mem1 with
      | inl mem2 => exact events m mem2
      | inr mem2 =>
        cases List.mem_singleton.mp mem2
        exact ⟨task, rfl⟩
    · rw [List.append_assoc]
      refine e6.trans ?_
      rw [← run1.tallied.launched, e2, run.tallied.launched]

/-- All along a run, the current concurrency is the number of launched tasks that have not settled,
and every launched task settles at most once, from a count above zero. -/
theorem Run.accounted {ms s} (run : Run ms s) : Accounted ms s where
  counted := run.tallied.counted
  balanced := by
    rw [run.tallied.counted]
    exact run.tallied.balanced
  once := run.tallied.once
  lowered m mem settles := by
    obtain ⟨task, h⟩ := Option.isSome_iff_exists.mp settles
    obtain ⟨earlier, run1, enabled⟩ := run.of_mem mem
    -- The task was in flight, and the count knew of it.
    have pos := List.length_pos_of_mem (enabled.settles h)
    obtain ⟨_, _, e⟩ := m.before.next_of_settles h
    rw [← run1.tallied.counted] at pos
    refine ⟨pos, ?_⟩
    rw [Moment.after, e]
    exact Nat.sub_add_cancel pos
  settling result historical := by
    obtain ⟨later, t, run1, events, e1, e2⟩ := run.settle_all result historical
    have ta := run1.tallied
    refine ⟨later, t, run1, events, ?_, ?_⟩
    · rw [ta.counted, e1]
      rfl
    · intro task lt
      have e3 := ta.once task
      rw [e1, e2, if_pos lt] at e3
      exact e3

/-- Two tasks are launched, and the first of them fails. The second is still counted by the pool
that failed. -/
theorem Run.accounted_of_failure :
    ∃ ms s, Run ms s ∧ Accounted ms s ∧ s.pool.phase = .failed ∧ s.inFlight = [1] ∧
      settlements ms = [0] := by
  have load : LoadInfo := .ofCounts 0 0 .zero
  have h := SystemInfo.ofLoads load load load load
  have fresh := Run.start
    (new_ok (c := { minConcurrency := 2 }) (s := {}) (t := {}) (by decide +kernel))
  have run1 := fresh.step (e := .callRun) trivial
  have run2 := run1.step (e := .enterStartCheck false 0 true) trivial
  have run3 := run2.step (e := .answerReady ⟨0, 0, false, true, 2⟩ (.ok true) 5 true h)
    List.mem_cons_self
  have run4 := run3.step (e := .answerReady ⟨1, 0, false, true, 2⟩ (.ok true) 8 true h)
    List.mem_cons_self
  have run5 := run4.step (e := .settleTask 0 (.failed "disk full") h) List.mem_cons_self
  exact ⟨_, _, run5, run5.accounted, rfl, rfl, rfl⟩

end Headroom.Pool
