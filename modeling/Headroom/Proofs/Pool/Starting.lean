import Headroom.Proofs.Pool.Accounting
import Headroom.Proofs.Pool.Slots

/-!
# When tasks start

A check for ready tasks looks at the budget, asks whether a task is ready, and starts one for a yes.
While the question is open, anything may happen to the pool. `Run.starts_safely` shows what holds
nonetheless at every start: the pool runs, the count stays within the desired concurrency of that
moment, and an overload at the time of the question keeps the count within the floor of that time.

The last point rests on the slot of the check (`Slotted`). It admits one open question at a time, so
nobody else starts a task meanwhile, and the count that was below the floor when the check asked is
still below it when the answer comes.
-/

namespace Headroom.Pool

/-! ## Questions and answers -/

namespace Moment

/-- The question for a ready task that is asked in a moment. -/
def asks? (m : Moment) : Option ReadyQuestion := m.before.newReady? m.event

/-- The check for ready tasks that is at work in a moment. -/
def check? (m : Moment) : Option Nat :=
  match m.event with
  | .enterStartCheck .. => some m.before.startChecks
  | .answerReady q .. => some q.check
  | .dropStartCheck q => some q.check
  | _ => none

end Moment

/-- The largest desired concurrency that a pool held while it ran. -/
def peakDesired : List Situation → Nat
  | [] => 0
  | s :: l => max (if s.pool.phase = .running then s.pool.state.desired else 0) (peakDesired l)

/-- A moment that starts a task, between the later and the earlier moments of a run. -/
structure SafeStart (later : List Moment) (m : Moment) (earlier : List Moment) : Prop where
  /-- One task starts, and is counted. -/
  single : launches m.effects = 1 ∧ m.after.pool.state.current = m.before.pool.state.current + 1
  running : m.before.pool.phase = .running ∧ m.after.pool.phase = .running
  within : m.after.pool.state.current ≤ m.after.pool.state.desired ∧
    m.after.pool.state.desired ≤ m.after.pool.state.maxConcurrency
  /-- The start is due to a yes to a question that the same check has asked before and that is not
  answered at any other moment. If the system was overloaded then, the count is within the floor of
  then. -/
  answered : ∃ asked ∈ earlier, ∃ q now idle historical,
    asked.asks? = some q ∧
      asked.check? = m.check? ∧
      m.event = .answerReady q (.ok true) now idle historical ∧
      (∀ other ∈ later ++ earlier, other.event.closesReady? ≠ some q) ∧
      (asked.event.reading? = some false →
        m.after.pool.state.current ≤ asked.after.pool.state.minConcurrency)

/-- All starts of a run so far are safe. -/
structure SafeStarts (ms : List Moment) (s : Situation) : Prop where
  starts : ∀ later m earlier,
    ms = later ++ m :: earlier → 0 < launches m.effects → SafeStart later m earlier
  /-- Where no task starts, the count does not grow. -/
  resting : ∀ m ∈ ms,
    launches m.effects = 0 → m.after.pool.state.current ≤ m.before.pool.state.current
  peak : s.inFlight.length ≤ peakDesired (s :: ms.map (·.before))

/-! ## The floor -/

/-- Under overload a task is wanted only below the floor. -/
lemma wantsTask_floor {p : Pool} {now} (wants : (p.wantsTask now false).1 = true) :
    (p.wantsTask now false).2.state.current < (p.wantsTask now false).2.state.minConcurrency := by
  rw [wantsTask] at wants ⊢
  split
  · next capacity =>
    rw [if_pos capacity] at wants
    dsimp only at wants ⊢
    rw [Bool.and_eq_true, Bool.or_false, decide_eq_true_eq] at wants
    exact wants.2
  · next capacity =>
    rw [if_neg capacity] at wants
    cases wants

/-- An overloaded system is asked for a task only below the floor. -/
lemma askForTask_floor {p : Pool} {effects now}
    (asking : (p.askForTask effects now false).asking = true) :
    (p.askForTask effects now false).pool.state.current <
      (p.askForTask effects now false).pool.state.minConcurrency :=
  wantsTask_floor asking

/-- A question that is asked under overload finds the count below the floor. -/
lemma respond_floor {p : Pool} {e : Event} (asking : (p.respond e).asking = true)
    (overload : e.reading? = some false) :
    (p.respond e).pool.state.current < (p.respond e).pool.state.minConcurrency := by
  obtain ⟨q, effects, now, e1⟩ := respond_asks asking overload
  rw [e1] at asking ⊢
  exact askForTask_floor asking

/-! ## Open questions -/

/-- A new question tells under which number and by which check it is asked, and what was the case.
-/
lemma newReady?_inv {s : Situation} {e : Event} {q} (h : s.newReady? e = some q) :
    (s.pool.respond e).asking = true ∧
      q.number = s.readyAsked ∧
      (Moment.mk s e).check? = some q.check ∧
      e.reading? = some q.idle ∧
      (s.next e).pool.state.minConcurrency = q.floor := by
  cases e with
  | enterStartCheck timed now idle =>
    simp only [Situation.newReady?] at h
    split at h
    · next asking =>
      cases h
      exact ⟨asking, rfl, rfl, rfl, rfl⟩
    · cases h
  | answerReady q answer now idle historical =>
    simp only [Situation.newReady?] at h
    split at h
    · next asking =>
      cases h
      exact ⟨asking, rfl, rfl, rfl, rfl⟩
    · cases h
  | _ => cases h

/-- The slot of the check for ready tasks is held for the one open question, and a question that was
asked under overload keeps the count below the floor of then. -/
structure Slotted (s : Situation) : Prop where
  slot : s.readyOpen.length = s.pool.startCheckBusy.toNat
  floor : ∀ q ∈ s.readyOpen, q.idle = false → s.pool.state.current < q.floor

/-- An open question for a ready task is the only one. -/
lemma Slotted.only {s q} (sl : Slotted s) (mem : q ∈ s.readyOpen) : s.readyOpen = [q] :=
  (eq_singleton_of_slot sl.slot mem).1

/-- Only an open question gets an answer. -/
lemma Situation.Enabled.closes {s : Situation} {e : Event} {q} (enabled : s.Enabled e)
    (h : e.closesReady? = some q) : q ∈ s.readyOpen := by
  cases e with
  | answerReady => cases h; exact enabled
  | dropStartCheck => cases h; exact enabled.1
  | _ => cases h

/-- Closing the open question leaves none but the one that is asked next. -/
lemma Slotted.close {s e q} (sl : Slotted s) (enabled : s.Enabled e)
    (h : e.closesReady? = some q) : (s.next e).readyOpen = (s.newReady? e).toList := by
  have only := sl.only (enabled.closes h)
  rw [Situation.next, h, only]
  dsimp only [Option.elim]
  rw [List.erase_cons_head]
  rfl

/-- Open questions stay open until their answers come. -/
lemma next_readyOpen {s : Situation} {e : Event} (h : e.closesReady? = none) :
    (s.next e).readyOpen = s.readyOpen ++ (s.newReady? e).toList := by
  rw [Situation.next, h]
  rfl

/-- A question is asked by the work of a check for ready tasks alone. -/
lemma newReady?_none {s : Situation} {e : Event} (h : e.reading? = none) :
    s.newReady? e = none := by
  cases e with
  | enterStartCheck => cases h
  | answerReady => cases h
  | _ => rfl

/-- The work of a check for ready tasks leaves a new question if it asks. -/
lemma newReady?_isSome {s : Situation} {e : Event} {idle} (h : e.reading? = some idle) :
    (s.newReady? e).isSome = (s.pool.respond e).asking := by
  cases e with
  | enterStartCheck timed now idle =>
    simp only [Situation.newReady?]
    cases (s.pool.respond (.enterStartCheck timed now idle)).asking with
    | true => rfl
    | false => rfl
  | answerReady q answer now idle historical =>
    simp only [Situation.newReady?]
    cases (s.pool.respond (.answerReady q answer now idle historical)).asking with
    | true => rfl
    | false => rfl
  | _ => cases h

/-- The slot is held for the open questions after an event if it was before. -/
lemma Slotted.next_slot {s e} (sl : Slotted s) (enabled : s.Enabled e) :
    (s.next e).readyOpen.length = (s.next e).pool.startCheckBusy.toNat := by
  cases h : e.closesReady? with
  | some q =>
    -- The holder of the slot keeps it for its next question, or gives it up.
    have e1 : (s.next e).pool.startCheckBusy = (s.newReady? e).isSome := by
      cases e with
      | answerReady q answer now idle historical =>
        rw [newReady?_isSome (e := .answerReady q answer now idle historical) rfl]
        exact answerReady_slot _ _ _ _ _
      | dropStartCheck q => rfl
      | _ => cases h
    rw [sl.close enabled h, e1]
    cases s.newReady? e with
    | none => rfl
    | some q => rfl
  | none =>
    rw [next_readyOpen h, List.length_append, sl.slot]
    cases r : e.reading? with
    | none =>
      have e1 : (s.next e).pool.startCheckBusy = s.pool.startCheckBusy := respond_startSlot _ r h
      rw [newReady?_none r, e1]
      rfl
    | some idle =>
      -- The check takes the slot, or finds it taken and asks nothing.
      have e1 := newReady?_isSome (s := s) r
      cases e with
      | enterStartCheck timed now idle =>
        cases busy : s.pool.startCheckBusy with
        | true =>
          have e2 : s.pool.respond (.enterStartCheck timed now idle) = ⟨s.pool, [], false⟩ :=
            enterStartCheck_busy busy
          rw [e2, Option.isSome_eq_false_iff, Option.isNone_iff_eq_none] at e1
          rw [Situation.next, e1, e2]
          exact congrArg Bool.toNat busy.symm
        | false =>
          have e2 : (s.next (.enterStartCheck timed now idle)).pool.startCheckBusy =
              (s.pool.respond (.enterStartCheck timed now idle)).asking :=
            enterStartCheck_free busy
          rw [e2, ← e1]
          cases s.newReady? (.enterStartCheck timed now idle) with
          | none => rfl
          | some q => rfl
      | answerReady => cases h
      | _ => cases r

/-- An open question was open before and nothing was closed, or it is new. -/
lemma Slotted.mem_next {s e q} (sl : Slotted s) (enabled : s.Enabled e)
    (mem : q ∈ (s.next e).readyOpen) :
    (q ∈ s.readyOpen ∧ e.closesReady? = none) ∨ s.newReady? e = some q := by
  cases h : e.closesReady? with
  | some q1 =>
    rw [sl.close enabled h] at mem
    exact .inr (Option.mem_toList.mp mem)
  | none =>
    rw [next_readyOpen h] at mem
    cases List.mem_append.mp mem with
    | inl mem1 => exact .inl ⟨mem1, rfl⟩
    | inr mem1 => exact .inr (Option.mem_toList.mp mem1)

/-- Nobody but the holder of the slot launches, so the count does not grow while its question stays
open. -/
lemma Situation.next_current_le {s : Situation} {e : Event} (h : e.closesReady? = none) :
    (s.next e).pool.state.current ≤ s.pool.state.current := by
  have re := respond_reaction s.pool e
  apply re.resting
  cases Nat.eq_zero_or_pos (launches (s.pool.respond e).effects) with
  | inl zero => exact zero
  | inr pos =>
    obtain ⟨_, _, ⟨_, _, _, _, e1⟩, _⟩ := re.of_launch pos
    subst e1
    cases h

/-- An event keeps the slot for the open question and the count below the floor of then. -/
lemma Slotted.next {s e} (sl : Slotted s) (enabled : s.Enabled e) : Slotted (s.next e) := by
  refine ⟨sl.next_slot enabled, ?_⟩
  intro q mem overload
  cases sl.mem_next enabled mem with
  | inl old =>
    obtain ⟨mem1, h⟩ := old
    exact Nat.lt_of_le_of_lt (s.next_current_le h) (sl.floor q mem1 overload)
  | inr fresh =>
    obtain ⟨asking, _, _, e1, e2⟩ := newReady?_inv fresh
    rw [← e2]
    exact respond_floor asking (overload ▸ e1)

/-- The slot is held for the open question all along a run. -/
lemma Run.slotted {ms s} (run : Run ms s) : Slotted s := by
  induction run with
  | start e =>
    obtain ⟨_, e1⟩ := new_inv e
    subst e1
    exact ⟨rfl, nofun⟩
  | step _ enabled ih => exact ih.next enabled

/-! ## The past of a question -/

/-- Every open question was asked in a moment of the run, and no moment has closed it. -/
structure Traced (ms : List Moment) (s : Situation) : Prop where
  asked : ∀ q ∈ s.readyOpen, ∃ m ∈ ms, m.asks? = some q ∧ m.check? = some q.check ∧
    m.event.reading? = some q.idle ∧ m.after.pool.state.minConcurrency = q.floor
  numbered : ∀ q ∈ s.readyOpen, q.number < s.readyAsked
  /-- A question that was closed has a number that was given away. -/
  closed : ∀ m ∈ ms, ∀ q, m.event.closesReady? = some q → q.number < s.readyAsked
  unused : ∀ q ∈ s.readyOpen, ∀ m ∈ ms, m.event.closesReady? ≠ some q

/-- Every event keeps track of the past of open questions. -/
lemma Traced.next {ms s e} (tr : Traced ms s) (sl : Slotted s) (enabled : s.Enabled e) :
    Traced (⟨s, e⟩ :: ms) (s.next e) := by
  have le : s.readyAsked ≤ (s.next e).readyAsked := Nat.le_add_right _ _
  -- Numbers of closed questions are below the number of a new one.
  have closed : ∀ m ∈ Moment.mk s e :: ms, ∀ q,
      m.event.closesReady? = some q → q.number < s.readyAsked := by
    intro m mem q h
    cases List.mem_cons.mp mem with
    | inl e1 =>
      subst e1
      exact tr.numbered q (enabled.closes h)
    | inr mem1 => exact tr.closed m mem1 q h
  constructor
  · intro q mem
    cases sl.mem_next enabled mem with
    | inl old =>
      obtain ⟨m, mem1, h⟩ := tr.asked q old.1
      exact ⟨m, List.mem_cons_of_mem _ mem1, h⟩
    | inr fresh =>
      obtain ⟨_, _, h⟩ := newReady?_inv fresh
      exact ⟨⟨s, e⟩, List.mem_cons_self, fresh, h⟩
  · intro q mem
    cases sl.mem_next enabled mem with
    | inl old => exact Nat.lt_of_lt_of_le (tr.numbered q old.1) le
    | inr fresh =>
      obtain ⟨_, e1, _⟩ := newReady?_inv fresh
      rw [e1, Situation.next, fresh]
      exact Nat.lt_succ_self _
  · intro m mem q h
    exact Nat.lt_of_lt_of_le (closed m mem q h) le
  · intro q mem m mem1 h
    cases sl.mem_next enabled mem with
    | inl old =>
      cases List.mem_cons.mp mem1 with
      | inl e1 =>
        subst e1
        rw [old.2] at h
        cases h
      | inr mem2 => exact tr.unused q old.1 m mem2 h
    | inr fresh =>
      obtain ⟨_, e1, _⟩ := newReady?_inv fresh
      have lt := closed m mem1 q h
      rw [e1] at lt
      exact Nat.lt_irrefl _ lt

/-- Along a run, the past of every open question is known. -/
lemma Run.traced {ms s} (run : Run ms s) : Traced ms s := by
  induction run with
  | start e =>
    constructor
    · exact nofun
    · exact nofun
    · intro m mem
      cases mem
    · exact nofun
  | step run enabled ih => exact ih.next run.slotted enabled

/-- A question that a moment of a run closes is closed at no other moment. -/
lemma Run.closes_once {later m earlier s q} (run : Run (later ++ m :: earlier) s)
    (h : m.event.closesReady? = some q) :
    ∀ other ∈ later ++ earlier, other.event.closesReady? ≠ some q := by
  obtain ⟨run1, enabled⟩ := run.split
  intro other mem h1
  cases List.mem_append.mp mem with
  | inl mem1 =>
    obtain ⟨l1, l2, e1⟩ := List.append_of_mem mem1
    subst e1
    rw [List.append_assoc] at run
    obtain ⟨run2, enabled1⟩ := run.split
    exact run2.traced.unused q (enabled1.closes h1) m
      (List.mem_append_right _ List.mem_cons_self) h
  | inr mem1 => exact run1.traced.unused q (enabled.closes h) other mem1 h1

/-! ## Starts -/

/-- Every start of a run is safe. -/
lemma Run.safe_start {later m earlier s} (run : Run (later ++ m :: earlier) s)
    (pos : 0 < launches m.effects) : SafeStart later m earlier := by
  obtain ⟨run1, enabled⟩ := run.split
  obtain ⟨one, capacity, ⟨q, now, idle, historical, e1⟩, starts, e2⟩ := m.reaction.of_launch pos
  have e3 : m.after.pool.state = _ := e2
  have h : m.event.closesReady? = some q := by rw [e1]; rfl
  have mem := enabled.closes h
  rw [PoolState.hasCapacity_iff] at capacity
  constructor
  · rw [e3]
    exact ⟨one, rfl⟩
  · refine ⟨capacity.1, ?_⟩
    rw [Pool.phase, e3]
    exact capacity.1
  · rw [e3]
    exact ⟨capacity.2, run1.bounded.le_ceiling⟩
  · obtain ⟨asked, mem1, e4, e5, e6, e7⟩ := run1.traced.asked q mem
    refine ⟨asked, mem1, q, now, idle, historical, e4, ?_, e1, run.closes_once h, ?_⟩
    · rw [e5, Moment.check?, e1]
    · intro overload
      rw [e6, Option.some.injEq] at overload
      rw [e3, e7]
      exact run1.slotted.floor q mem overload

/-- The count stays within the largest desired concurrency of the run so far. -/
lemma Run.current_le_peak {ms s} (run : Run ms s) :
    s.pool.state.current ≤ peakDesired (s :: ms.map (·.before)) := by
  induction run with
  | start e =>
    obtain ⟨_, e1⟩ := new_inv e
    subst e1
    exact Nat.zero_le _
  | @step ms s e run enabled ih =>
    cases Nat.eq_zero_or_pos (launches (Moment.mk s e).effects) with
    | inl zero =>
      have le := (respond_reaction s.pool e).resting zero
      exact Nat.le_trans (Nat.le_trans le ih) (Nat.le_max_right _ _)
    | inr pos =>
      have safe : SafeStart [] ⟨s, e⟩ ms := Run.safe_start (Run.step run enabled) pos
      have running : (s.next e).pool.phase = .running := safe.running.2
      rw [List.map_cons, peakDesired, if_pos running]
      exact Nat.le_trans safe.within.1 (Nat.le_max_left _ _)

/-- Along a run, every task starts safely: on a yes to a question of the same check that is used for
this start alone, while the pool runs, within the desired concurrency, and under overload within the
floor. In between, the count does not grow. -/
theorem Run.starts_safely {ms s} (run : Run ms s) : SafeStarts ms s where
  starts later m earlier e pos := by
    subst e
    exact run.safe_start pos
  resting m _ zero := m.reaction.resting zero
  peak := by
    rw [← run.tallied.counted]
    exact run.current_le_peak

/-- A task starts under overload, on a yes that comes after the floor was set. The check asks again,
but then the pool is paused, and the second yes starts nothing. -/
theorem Run.starts_safely_of_pause :
    ∃ ms s, Run ms s ∧ SafeStarts ms s ∧ s.pool.phase = .paused ∧ s.inFlight = [0] ∧
      settlements ms = [] ∧ peakDesired (s :: ms.map (·.before)) = 4 := by
  have load : LoadInfo := .ofCounts 0 0 .zero
  have h := SystemInfo.ofLoads load load load load
  have fresh := Run.start
    (new_ok (c := { minConcurrency := 2 }) (s := {}) (t := {}) (by decide +kernel))
  have run1 := fresh.step (e := .callRun) trivial
  have run2 := run1.step (e := .enterStartCheck false 0 false) trivial
  have run3 := run2.step (e := .setMin 4) trivial
  have run4 := run3.step (e := .answerReady ⟨0, 0, false, false, 2⟩ (.ok true) 5 false h)
    List.mem_cons_self
  have run5 := run4.step (e := .callPause none false) trivial
  have run6 := run5.step (e := .answerReady ⟨1, 0, false, false, 4⟩ (.ok true) 8 false h)
    List.mem_cons_self
  exact ⟨_, _, run6, run6.starts_safely, rfl, rfl, rfl, rfl⟩

end Headroom.Pool
