import Headroom.Proofs.Pool.Draining

/-!
# Calls to pause

A call to pause stops new starts and comes back once no task is in flight, or at its deadline.
Several calls may wait at once; the last task that settles wakes all of them, and each looks at the
pool again when its turn comes. By then the pool may have been resumed and have launched tasks.

`Run.pauses_drain` shows that a call succeeds only with no task in flight, and times out only with
some. The latter rests on the wake-ups: a call that waits without having been woken has tasks to
wait for (`Attended`).
-/

namespace Headroom

/-- The effect wakes the calls that wait for the last task. -/
def PoolEffect.isWake : PoolEffect → Bool
  | wakeDrained => true
  | _ => false

namespace Pool

/-- A call to pause comes back in a moment. -/
def Moment.ReturnsPause (m : Moment) (call : Nat) (outcome : Except PoolError Unit) : Prop :=
  m.after.pauses[call]? = some (.returned outcome) ∧
    ∀ other, m.before.pauses[call]? ≠ some (.returned other)

/-- A call to pause reaches its limit in a moment, and what that leaves of the pool. -/
inductive Expiry (m : Moment) (call : Nat) (limit : Duration) : Prop where
  /-- The call had been waiting. -/
  | waited {woken} :
    m.before.pauses[call]? = some (.waiting (some limit) woken) →
    m.after.pool = m.before.pool →
    Expiry m call limit
  /-- The limit of a new call is up at once, and the pool was not running. -/
  | unpaused :
    m.event = .callPause (some limit) true →
    m.after.pool = m.before.pool →
    Expiry m call limit
  /-- The limit of a new call is up at once, and the call has paused the pool. -/
  | paused :
    m.event = .callPause (some limit) true →
    m.before.pool.phase = .running →
    m.after.pool = { m.before.pool with state := { m.before.pool.state with phase := .paused } } →
    Expiry m call limit

/-- How pauses hold, and how calls to pause come back. -/
structure PausesDrain (ms : List Moment) (s : Situation) : Prop where
  /-- A paused pool launches nothing, and the count does not grow. -/
  holds : ∀ m ∈ ms, m.before.pool.phase = .paused →
    launches m.effects = 0 ∧ m.after.pool.state.current ≤ m.before.pool.state.current
  /-- A paused pool runs again only if it is resumed. -/
  resumes : ∀ m ∈ ms, m.before.pool.phase = .paused → m.after.pool.phase = .running →
    m.event = .resume
  /-- A call succeeds only with no task in flight, and then none is until the pool runs again. -/
  succeeds : ∀ later m earlier call, ms = later ++ m :: earlier → m.ReturnsPause call (.ok ()) →
    m.before.pool.state.current = 0 ∧ m.after.pool.state.current = 0 ∧
      ((∀ w ∈ later, w.before.pool.phase ≠ .running) →
        s.pool.state.current = 0 ∧ s.inFlight = [])
  /-- A call fails only at its own limit, with tasks in flight. It leaves the bookkeeping as it is,
  but for a pause by the very call. -/
  expires : ∀ m ∈ ms, ∀ call e, m.ReturnsPause call (.error e) →
    ∃ limit, e = .pauseTimeout limit ∧ 0 < m.before.pool.state.current ∧ Expiry m call limit
  /-- A call that waits without having been woken has tasks to wait for. -/
  waits : ∀ (call : Nat) limit,
    s.pauses[call]? = some (.waiting limit false) → 0 < s.pool.state.current
  /-- With no task in flight, a call that waits succeeds as soon as it looks, even if its limit is
  up by then. -/
  attends : s.pool.state.current = 0 → ∀ (call : Nat) limit woken expired,
    s.pauses[call]? = some (.waiting limit woken) →
      (s.next (.pollPause call expired)).pauses[call]? = some (.returned (.ok ()))

/-! ## One look at the pool -/

namespace PauseCall

variable {p : Pool} {limit : Option Duration} {woken expired : Bool}

/-- A look that succeeds finds no task in flight. -/
lemma look_ok (h : look p limit woken expired = .returned (.ok ())) : p.state.current = 0 := by
  rw [look, lookForDrain] at h
  split at h
  · next e =>
    split at e
    · next drained =>
      rw [Bool.and_eq_true, isDrained, beq_iff_eq] at drained
      exact drained.2
    · split at e <;> cases e
  · cases h
  · cases h

/-- A look fails at the limit, unless the call was woken and no task is in flight. -/
lemma look_error {e} (h : look p limit woken expired = .returned (.error e)) :
    ∃ span, limit = some span ∧ expired = true ∧ e = .pauseTimeout span ∧
      (woken = true → 0 < p.state.current) := by
  rw [look, lookForDrain] at h
  split at h
  · cases h
  · next e1 =>
    split at e1
    · cases e1
    · next busy =>
      split at e1
      · next up =>
        rw [Bool.and_eq_true] at up
        obtain ⟨span, e2⟩ := Option.isSome_iff_exists.mp up.1
        subst e2
        cases h
        refine ⟨span, rfl, up.2, rfl, ?_⟩
        intro woke
        rw [woke, Bool.true_and, isDrained, beq_iff_eq] at busy
        exact Nat.pos_of_ne_zero busy
      · cases e1
  · cases h

/-- A call that was woken waits on only if tasks are in flight. It is registered anew. -/
lemma look_waiting {span woke} (h : look p limit woken expired = .waiting span woke) :
    woke = false ∧ (woken = true → 0 < p.state.current) := by
  rw [look, lookForDrain] at h
  split at h
  · cases h
  · cases h
  · next e1 =>
    split at e1
    · cases e1
    · next busy =>
      cases h
      refine ⟨rfl, ?_⟩
      intro woke
      rw [woke, Bool.true_and, isDrained, beq_iff_eq] at busy
      exact Nat.pos_of_ne_zero busy

/-- A call that was woken succeeds if no task is in flight. -/
lemma look_drained (drained : p.state.current = 0) :
    look p limit true expired = .returned (.ok ()) := by
  rw [look, lookForDrain, isDrained, drained]
  rfl

end PauseCall

/-! ## Calls and effects -/

/-- Effects wake the calls that wait, or leave them alone. -/
lemma Surroundings.foldl_pauses (fx : List PoolEffect) (w : Surroundings) :
    (fx.foldl perform w).pauses =
      if fx.any (·.isWake) then w.pauses.map .wake else w.pauses := by
  -- Who was woken already stays so.
  have twice (calls : List PauseCall) :
      (calls.map PauseCall.wake).map PauseCall.wake = calls.map PauseCall.wake := by
    rw [List.map_map]
    refine List.map_congr_left ?_
    intro call _
    cases call with
    | waiting limit woken => rfl
    | returned outcome => rfl
  induction fx generalizing w with
  | nil => rfl
  | cons f fx ih =>
    rw [List.foldl_cons, ih, List.any_cons]
    cases f with
    | wakeDrained =>
      rw [perform, PoolEffect.isWake, Bool.true_or, if_pos rfl]
      split
      · exact twice w.pauses
      · rfl
    | _ => rfl

namespace Situation

variable {s : Situation} {e : Event} {call : Nat}

/-- A call after an event is what it was as the event took its turn, woken if the event wakes
anybody. -/
lemma next_pause {c} (h : (s.next e).pauses[call]? = some c) :
    ∃ taken, (s.take e).pauses[call]? = some taken ∧
      c = if (s.pool.respond e).effects.any (·.isWake) then taken.wake else taken := by
  rw [next, Surroundings.foldl_pauses] at h
  split at h
  · next wakes =>
    obtain ⟨taken, e1, e2⟩ := Option.map_eq_some_iff.mp (List.getElem?_map.symm.trans h)
    exact ⟨taken, e1, e2.symm.trans (if_pos wakes).symm⟩
  · next calm => exact ⟨c, h, (if_neg calm).symm⟩

/-- A call that has come back after an event did so as the event took its turn. -/
lemma next_returned {outcome} (h : (s.next e).pauses[call]? = some (.returned outcome)) :
    (s.take e).pauses[call]? = some (.returned outcome) := by
  obtain ⟨taken, e1, e2⟩ := next_pause h
  cases taken with
  | waiting limit woken => split at e2 <;> cases e2
  | returned outcome1 => split at e2 <;> cases e2 <;> exact e1

/-- A call that waits without having been woken did so as the event took its turn, and the event
wakes nobody. -/
lemma next_waiting {limit} (h : (s.next e).pauses[call]? = some (.waiting limit false)) :
    (s.take e).pauses[call]? = some (.waiting limit false) ∧
      (s.pool.respond e).effects.any (·.isWake) = false := by
  obtain ⟨taken, e1, e2⟩ := next_pause h
  split at e2
  · cases taken with
    | waiting => cases e2
    | returned => cases e2
  · next calm =>
    subst e2
    exact ⟨e1, eq_false_of_ne_true calm⟩

/-- A call to pause is as it was, or it looks at the pool: a new one once it has paused the pool,
and one that waits as it is polled. -/
lemma take_pauses {c} (h : (s.take e).pauses[call]? = some c) :
    s.pauses[call]? = some c ∨ ∃ limit woken expired,
      c = .look (s.next e).pool limit woken expired ∧
        ((e = .callPause limit expired ∧ woken = true ∧ (s.next e).pool = s.pool.pause.1) ∨
          (e = .pollPause call expired ∧ s.pauses[call]? = some (.waiting limit woken) ∧
            (s.next e).pool = s.pool)) := by
  cases e with
  | callPause limit expired =>
    rw [take, List.getElem?_append] at h
    split at h
    · exact .inl h
    · rw [List.getElem?_singleton] at h
      split at h
      · cases h
        exact .inr ⟨limit, true, expired, rfl, .inl ⟨rfl, rfl, rfl⟩⟩
      · cases h
  | pollPause n expired =>
    rw [take, List.getElem?_modify] at h
    cases old : s.pauses[call]? with
    | none => rw [old] at h; cases h
    | some c0 =>
      rw [old] at h
      by_cases same : n = call
      · subst same
        simp only [if_pos] at h
        cases c0 with
        | waiting limit woken =>
          cases h
          exact .inr ⟨limit, woken, expired, rfl, .inr ⟨rfl, rfl, rfl⟩⟩
        | returned outcome => exact .inl h
      · simp only [if_neg same] at h
        exact .inl h
  | _ => exact .inl h

end Situation

/-- The end of the last task in flight wakes the calls that wait for it. -/
lemma wakes_of_drained {p : Pool} {e : Event} (before : 0 < p.state.current)
    (after : (p.respond e).pool.state.current = 0) :
    (p.respond e).effects.any (·.isWake) = true := by
  have re := (respond_reaction p e).current
  rw [after] at re
  cases e with
  | settleTask task result historical =>
    have zero : p.state.current - 1 = 0 := (Nat.add_eq_zero_iff.mp re.symm).1
    have last : p.state.recordSettled.1 = true := beq_iff_eq.mpr zero
    rw [respond, CheckStep.plain, taskSettled]
    cases result.error? with
    | some error =>
      dsimp only
      rw [last, if_pos rfl, List.any_append]
      rfl
    | none =>
      dsimp only
      rw [last, if_pos rfl, List.any_append]
      rfl
  | _ =>
    -- Nothing else lowers the count.
    have zero : p.state.current = 0 := (Nat.add_eq_zero_iff.mp re.symm).1
    omega

/-! ## No wake-up is lost -/

/-- A call that waits without having been woken has tasks to wait for. -/
def Attended (s : Situation) : Prop :=
  ∀ (call : Nat) limit, s.pauses[call]? = some (.waiting limit false) → 0 < s.pool.state.current

/-- Every event leaves tasks to wait for to all calls that wait without a wake-up. -/
lemma Attended.next {s : Situation} (at1 : Attended s) (e : Event) : Attended (s.next e) := by
  intro call limit h
  obtain ⟨taken, calm⟩ := Situation.next_waiting h
  -- Who waited before the event still has tasks to wait for, since it woke nobody.
  have still : 0 < s.pool.state.current → 0 < (s.next e).pool.state.current := by
    intro pos
    cases Nat.eq_zero_or_pos (s.next e).pool.state.current with
    | inl zero =>
      rw [wakes_of_drained pos zero] at calm
      cases calm
    | inr pos1 => exact pos1
  cases Situation.take_pauses taken with
  | inl old => exact still (at1 call limit old)
  | inr looks =>
    obtain ⟨span, woken, expired, e1, cause⟩ := looks
    obtain ⟨_, busy⟩ := PauseCall.look_waiting e1.symm
    cases woken with
    | true => exact busy rfl
    | false =>
      cases cause with
      | inl fresh => cases fresh.2.1
      | inr polled => exact still (at1 call span polled.2.1)

/-- Along a run, a call that waits without a wake-up has tasks to wait for. -/
lemma Run.attended {ms s} (run : Run ms s) : Attended s := by
  induction run with
  | start e =>
    obtain ⟨_, e1⟩ := new_inv e
    subst e1
    intro call limit h
    cases h
  | step _ _ ih => exact ih.next _

/-! ## Calls that come back -/

/-- A call that comes back has looked at the pool. -/
lemma Moment.ReturnsPause.looks {m : Moment} {call : Nat} {outcome}
    (h : m.ReturnsPause call outcome) : ∃ limit woken expired,
      PauseCall.look m.after.pool limit woken expired = .returned outcome ∧
        ((m.event = .callPause limit expired ∧ woken = true ∧
            m.after.pool = m.before.pool.pause.1) ∨
          (m.event = .pollPause call expired ∧
            m.before.pauses[call]? = some (.waiting limit woken) ∧
            m.after.pool = m.before.pool)) := by
  obtain ⟨returned, pending⟩ := h
  cases Situation.take_pauses (Situation.next_returned returned) with
  | inl old => exact absurd old (pending outcome)
  | inr looks =>
    obtain ⟨limit, woken, expired, e, cause⟩ := looks
    exact ⟨limit, woken, expired, e.symm, cause⟩

/-- A pause turns a running pool to paused, and no other one. -/
lemma pause_eq (p : Pool) : p.pause.1 =
    if p.phase = .running then { p with state := { p.state with phase := .paused } } else p := by
  rw [pause]
  split <;> rfl

/-- The return of a call settles no task. -/
lemma Moment.ReturnsPause.counts {m : Moment} {call : Nat} {outcome}
    (h : m.ReturnsPause call outcome) :
    m.after.pool.state.current = m.before.pool.state.current := by
  obtain ⟨_, _, _, _, cause⟩ := h.looks
  cases cause with
  | inl called =>
    rw [called.2.2, pause_eq]
    split <;> rfl
  | inr polled => rw [polled.2.2]

/-- A call fails at its limit, while tasks are in flight. -/
lemma Run.pause_expires {ms e} {m : Moment} {call : Nat} (run : Run ms m.before)
    (h : m.ReturnsPause call (.error e)) :
    ∃ limit, e = .pauseTimeout limit ∧ 0 < m.before.pool.state.current ∧ Expiry m call limit := by
  have same := h.counts
  obtain ⟨limit, woken, expired, look, cause⟩ := h.looks
  obtain ⟨span, e1, e2, e3, busy⟩ := PauseCall.look_error look
  subst e1 e2
  rw [same] at busy
  refine ⟨span, e3, ?_, ?_⟩
  · -- A call that was not woken has tasks to wait for anyway.
    cases woken with
    | true => exact busy rfl
    | false =>
      cases cause with
      | inl called => cases called.2.1
      | inr polled => exact run.attended call _ polled.2.1
  · cases cause with
    | inl called =>
      obtain ⟨event, _, e4⟩ := called
      rw [m.before.pool.pause_eq] at e4
      split at e4
      · next running => exact .paused event running e4
      · exact .unpaused event e4
    | inr polled => exact .waited polled.2.1 polled.2.2

/-- Only going on makes a paused pool run. -/
lemma Situation.resumes {s : Situation} (h : s.pool.unresolved = s.pool.phase.isActive)
    {e : Event} (paused : s.pool.phase = .paused) (runs : (s.next e).pool.phase = .running) :
    e = .resume := by
  cases s.fate h e with
  | ends _ ending =>
    have terminal := (Stands.of_ending ending).2
    rw [runs] at terminal
    cases terminal
  | begins _ idle => rw [paused] at idle; cases idle
  | goesOn _ turn =>
    rw [paused, runs] at turn
    cases turn with
    | inl same => cases same
    | inr t => cases t; rfl

/-- Along a run, a pause holds until the pool is resumed; a call to pause succeeds only with no task
in flight and fails only with some; and none waits in vain. -/
theorem Run.pauses_drain {ms s} (run : Run ms s) : PausesDrain ms s where
  holds m _ paused := by
    have none := m.reaction.launches_of_not_running (by rw [paused]; nofun)
    exact ⟨none, m.reaction.resting none⟩
  resumes m mem paused runs := by
    obtain ⟨_, run1, _⟩ := run.of_mem mem
    exact Situation.resumes run1.standing.unresolved paused runs
  succeeds later m earlier call e returns := by
    subst e
    obtain ⟨_, _, _, look, _⟩ := returns.looks
    have after := PauseCall.look_ok look
    refine ⟨returns.counts ▸ after, after, ?_⟩
    intro rests
    have zero := run.stays_drained after rests
    exact ⟨zero, run.inFlight_of_zero zero⟩
  expires m mem call e returns := by
    obtain ⟨_, run1, _⟩ := run.of_mem mem
    exact run1.pause_expires returns
  waits := run.attended
  attends drained call limit woken expired waiting := by
    have woke : woken = true := by
      cases woken with
      | true => rfl
      | false =>
        have pos := run.attended call limit waiting
        omega
    subst woke
    have calm : (s.pool.respond (.pollPause call expired)).effects = [] := rfl
    rw [Situation.next, calm, Situation.take]
    simp only [List.foldl_nil, List.getElem?_modify, waiting, if_pos]
    exact congrArg some (PauseCall.look_drained drained)

/-- Two calls pause the pool while a task is in flight. The one with a limit fails at it, the other
one succeeds when the task has settled. -/
theorem Run.pauses_drain_of_timeout :
    ∃ ms s, Run ms s ∧ PausesDrain ms s ∧ s.pool.phase = .paused ∧
      s.pauses = [.returned (.error (.pauseTimeout 5)), .returned (.ok ())] := by
  obtain ⟨h⟩ := nonempty_systemInfo
  have run0 := Run.fresh (c := { loggingSecs := .zero }) (by decide +kernel)
  have run1 := run0.step (e := .callRun) trivial
  have run2 := run1.step (e := .enterStartCheck false 0 true) trivial
  have run3 := run2.step (e := .answerReady ⟨0, 0, false, true, 1⟩ (.ok true) 5 true h)
    List.mem_cons_self
  have run4 := run3.step (e := .callPause (some 5) false) trivial
  have run5 := run4.step (e := .callPause none false) trivial
  have run6 := run5.step (e := .pollPause 0 true) ⟨_, _, rfl⟩
  have run7 := run6.step (e := .settleTask 0 .succeeded h) List.mem_cons_self
  have run8 := run7.step (e := .pollPause 1 false) ⟨_, _, rfl⟩
  exact ⟨_, _, run8, run8.pauses_drain, rfl, rfl⟩

end Pool

end Headroom
