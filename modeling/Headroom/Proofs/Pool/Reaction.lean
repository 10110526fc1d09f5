import Headroom.Proofs.Pool.Bounds
import Headroom.Proofs.Pool.Run

/-!
# What one event does to a pool

`Reaction` lists, once for all events, what a stretch of work can do to the bookkeeping of a pool
and to its surroundings: end the run, launch a task, change the phase, move the bounds, or none of
these. `respond_reaction` shows that every event does one of them. What a run keeps is shown from
these cases, and not from the functions on the pool.
-/

namespace Headroom

/-- The effect launches a task. -/
def PoolEffect.isLaunch : PoolEffect → Bool
  | launchTask => true
  | _ => false

/-- The outcome that an effect resolves a run with. -/
def PoolEffect.outcome? : PoolEffect → Option (Except PoolError Unit)
  | resolveRun outcome => some outcome
  | _ => none

/-- There is capacity in a running pool with fewer tasks in flight than desired. -/
lemma PoolState.hasCapacity_iff {s : PoolState} :
    s.hasCapacity = true ↔ s.phase = .running ∧ s.current < s.desired := by
  rw [hasCapacity, Bool.and_eq_true, beq_iff_eq, decide_eq_true_eq]

namespace Pool

/-! ## Effects -/

/-- How many tasks effects launch. -/
def launches (effects : List PoolEffect) : Nat := effects.countP (·.isLaunch)

/-- The outcomes that effects resolve a run with. -/
def resolutions (effects : List PoolEffect) : List (Except PoolError Unit) :=
  effects.filterMap (·.outcome?)

/-- Launches of two stretches add up. -/
@[simp]
lemma launches_append (fx gx : List PoolEffect) :
    launches (fx ++ gx) = launches fx + launches gx := List.countP_append

/-- Resolutions of two stretches come one after the other. -/
@[simp]
lemma resolutions_append (fx gx : List PoolEffect) :
    resolutions (fx ++ gx) = resolutions fx ++ resolutions gx := List.filterMap_append

/-- Effects that neither launch a task nor resolve a run. -/
def Silent (effects : List PoolEffect) : Prop :=
  launches effects = 0 ∧ resolutions effects = []

/-- Doing nothing is silent. -/
lemma Silent.nil : Silent [] := ⟨rfl, rfl⟩

/-- Two silent stretches are silent. -/
lemma Silent.append {fx gx} (h1 : Silent fx) (h2 : Silent gx) : Silent (fx ++ gx) := by
  obtain ⟨l1, r1⟩ := h1
  obtain ⟨l2, r2⟩ := h2
  refine ⟨?_, ?_⟩
  · rw [launches_append, l1, l2]
  · rw [resolutions_append, r1, r2]
    rfl

/-- Arming timers is silent. -/
lemma Silent.armTimers (timers : List PoolTimer) : Silent (timers.map .armTimer) := by
  induction timers with
  | nil => exact .nil
  | cons t timers ih =>
    have h : Silent [.armTimer t] := ⟨rfl, rfl⟩
    exact h.append ih

/-- Waking those who wait for the last task is silent. -/
lemma Silent.wake (drained : Bool) : Silent (if drained then [.wakeDrained] else []) := by
  cases drained with
  | true => exact ⟨rfl, rfl⟩
  | false => exact .nil

/-- Taking the lease and arming the timers is silent. -/
lemma Silent.startTimers (p : Pool) : Silent p.startTimers.2 := by
  unfold Pool.startTimers
  split
  · exact .nil
  · have h : Silent [.takeLease] := ⟨rfl, rfl⟩
    exact h.append (.armTimers _)

/-- Equipping a run is silent. -/
lemma Silent.equip (p : Pool) : Silent p.equip.2 := by
  refine (Silent.startTimers p).append ?_
  exact ⟨rfl, rfl⟩

/-- Tearing down is silent. -/
lemma Silent.teardown (p : Pool) : Silent p.teardown.2 := by
  unfold Pool.teardown
  cases p.leased with
  | true => exact ⟨rfl, rfl⟩
  | false => exact ⟨rfl, rfl⟩

/-! ## The end of a run -/

/-- The pool once its run has ended in a phase. -/
def ended (p : Pool) (phase : Phase) : Pool :=
  { p with state := { p.state with phase := phase }, unresolved := false }.teardown.1

/-- The effects of the end of a run: the pool is torn down, and the outcome is reported and sent. -/
def farewell (p : Pool) (outcome : Except PoolError Unit) (phase : Phase)
    (historical : SystemInfo) : List PoolEffect :=
  p.teardown.2 ++
    [.notice (closingNotice outcome phase p.state.current historical), .resolveRun outcome]

/-- The end of a run launches no task. -/
@[simp]
lemma launches_farewell (p : Pool) (outcome phase historical) :
    launches (p.farewell outcome phase historical) = 0 := by
  rw [farewell, launches_append, (Silent.teardown p).1]
  rfl

/-- The end of a run resolves it with its outcome, once. -/
lemma resolutions_farewell (p : Pool) (outcome phase historical) :
    resolutions (p.farewell outcome phase historical) = [outcome] := by
  rw [farewell, resolutions_append, (Silent.teardown p).2]
  rfl

/-- An open run ends with its outcome. -/
lemma settle?_open {p : Pool} {outcome phase historical} (u : p.unresolved = true) :
    p.settle? outcome phase historical =
      some (p.ended phase, p.farewell outcome phase historical) := by
  rw [settle?, if_pos u]
  rfl

/-- Without an open run there is nothing to end. -/
lemma settle?_shut {p : Pool} {outcome phase historical} (u : p.unresolved = false) :
    p.settle? outcome phase historical = none := by
  rw [settle?, if_neg (ne_true_of_eq_false u)]

/-- An error ends an open run. -/
lemma fail_open {p : Pool} {e historical} (u : p.unresolved = true) :
    p.fail e historical = (p.ended .failed, p.farewell (.error e) .failed historical) := by
  rw [fail, settle?_open u]
  rfl

/-- Without an open run an error is ignored. -/
lemma fail_shut {p : Pool} {e historical} (u : p.unresolved = false) :
    p.fail e historical = (p, []) := by
  rw [fail, settle?_shut u]
  rfl

/-! ## Cases of a reaction -/

namespace Event

/-- The outcome and the final phase that an event ends a run with, if it ends one. -/
def ending? : Event → Option (Except PoolError Unit × Phase)
  | abort _ => some (.ok (), .aborted)
  | answerReady _ (.error detail) .. => some (.error (.readinessFailed detail), .failed)
  | answerFinished _ (.error detail) _ => some (.error (.finishFailed detail), .failed)
  | answerFinished _ (.ok true) _ => some (.ok (), .finished)
  | settleTask _ result _ => result.error?.map fun e => (.error e, .failed)
  | _ => none

/-- The bookkeeping once the end of a task is counted, if an event is one. -/
def counted (state : PoolState) : Event → PoolState
  | settleTask .. => state.recordSettled.2
  | _ => state

/-- The event sets a bound or the desired concurrency. -/
def isSetter : Event → Bool
  | setMin _ => true
  | setMax _ => true
  | setDesired _ => true
  | _ => false

end Event

/-- The changes of phase by calls on a pool whose run does not end with them. -/
inductive Turn : Event → Phase → Phase → Prop where
  | abort {historical} : Turn (.abort historical) .idle .aborted
  | pause {limit expired} : Turn (.callPause limit expired) .running .paused
  | resume : Turn .resume .paused .running

/-- What an event does to the bookkeeping of a pool, to its open run and to its surroundings. -/
inductive Reaction (p : Pool) (e : Event) (r : CheckStep) : Prop where
  /-- An open run ends. Only a pool without a task in flight finishes. -/
  | ends {outcome phase} :
    e.ending? = some (outcome, phase) →
    p.unresolved = true →
    (phase = .finished → p.isDrained = true) →
    r.pool.state = { e.counted p.state with phase := phase } →
    r.pool.unresolved = false →
    launches r.effects = 0 →
    resolutions r.effects = [outcome] →
    Reaction p e r
  /-- A ready task is launched. -/
  | launches {q now idle historical starts} :
    e = .answerReady q (.ok true) now idle historical →
    p.state.hasCapacity = true →
    r.pool.state = { p.state with current := p.state.current + 1, recentStarts := starts } →
    r.pool.unresolved = p.unresolved →
    launches r.effects = 1 →
    resolutions r.effects = [] →
    Reaction p e r
  /-- A run begins. -/
  | begins :
    e = .callRun →
    p.phase = .idle →
    r.pool.state = { p.state with phase := .running } →
    r.pool.unresolved = true →
    Silent r.effects →
    Reaction p e r
  /-- The phase turns. -/
  | turns {phase} :
    Turn e p.phase phase →
    (p.unresolved = true → e.ending? = none) →
    r.pool.state = { p.state with phase := phase } →
    r.pool.unresolved = p.unresolved →
    Silent r.effects →
    Reaction p e r
  /-- The bounds or the desired concurrency move. -/
  | scales :
    (e.isSetter = true ∨ p.phase.isActive = true) →
    e.ending? = none →
    e.settles? = none →
    r.pool.phase = p.phase →
    r.pool.state.current = p.state.current →
    (p.state.Bounded → r.pool.state.Bounded) →
    r.pool.unresolved = p.unresolved →
    Silent r.effects →
    Reaction p e r
  /-- The pool goes on, at most counting the end of a task or forgetting starts. -/
  | goesOn (starts) :
    (∀ outcome phase, e.ending? = some (outcome, phase) → p.unresolved = true →
      phase = .finished ∧ p.isDrained = false) →
    r.pool.state = { e.counted p.state with recentStarts := starts } →
    r.pool.unresolved = p.unresolved →
    Silent r.effects →
    Reaction p e r

/-- Only a task that settles is counted. -/
lemma Event.counted_of_not_settles {e : Event} (h : e.settles? = none) (state : PoolState) :
    e.counted state = state := by
  cases e with
  | settleTask => cases h
  | _ => rfl

/-- A stretch that leaves the bookkeeping and the run alone lets the pool go on. -/
lemma Reaction.still {p e r} (h1 : e.ending? = none) (h2 : e.settles? = none)
    (state : r.pool.state = p.state) (same : r.pool.unresolved = p.unresolved)
    (silent : Silent r.effects) : Reaction p e r := by
  refine .goesOn p.state.recentStarts ?_ ?_ same silent
  · intro outcome phase h
    rw [h1] at h
    cases h
  · rw [Event.counted_of_not_settles h2, state]

/-- Where no run is open, a stretch that at most counts the end of a task lets the pool go on. -/
lemma Reaction.shut {p e r} (u : p.unresolved = false)
    (state : r.pool.state = e.counted p.state) (same : r.pool.unresolved = p.unresolved)
    (silent : Silent r.effects) : Reaction p e r := by
  refine .goesOn p.state.recentStarts ?_ ?_ same silent
  · intro _ _ _ u1
    rw [u] at u1
    cases u1
  · rw [state]
    cases e with
    | _ => rfl

/-- A failure, of the pool once the end of a task is counted, ends an open run. -/
lemma Reaction.fails {p q : Pool} {e r error historical pre}
    (ending : e.ending? = some (.error error, .failed))
    (counted : q.state = e.counted p.state)
    (unsettled : q.unresolved = p.unresolved)
    (silent : Silent pre) (state : r.pool.state = (q.fail error historical).1.state)
    (same : r.pool.unresolved = (q.fail error historical).1.unresolved)
    (effects : r.effects = pre ++ (q.fail error historical).2) : Reaction p e r := by
  cases u : q.unresolved with
  | true =>
    rw [fail_open u] at state same effects
    refine .ends ending (unsettled ▸ u) nofun ?_ same ?_ ?_
    · rw [state, ← counted]
      rfl
    · rw [effects, launches_append, silent.1, launches_farewell]
    · rw [effects, resolutions_append, silent.2, resolutions_farewell]
      rfl
  | false =>
    rw [fail_shut u] at state same effects
    refine .shut (unsettled ▸ u) (state.trans counted) (same.trans unsettled) ?_
    rw [effects]
    exact silent.append .nil

/-! ## Calls -/

/-- A run begins from the idle phase. -/
lemma callRun_idle {p : Pool} (h : p.phase = .idle) : p.respond .callRun =
    ⟨{ p with state := { p.state with phase := .running }, unresolved := true }, [], false⟩ := by
  rw [respond, beginRun, if_pos h]
  rfl

/-- From any other phase no run begins. -/
lemma callRun_busy {p : Pool} (h : p.phase ≠ .idle) : p.respond .callRun = ⟨p, [], false⟩ := by
  rw [respond, beginRun, if_neg h]
  rfl

/-- A call of `run` begins a run or does nothing. -/
lemma reaction_callRun (p : Pool) : Reaction p .callRun (p.respond .callRun) := by
  by_cases h : p.phase = .idle
  · rw [callRun_idle h]
    exact .begins rfl h rfl rfl .nil
  · rw [callRun_busy h]
    exact .still rfl rfl rfl rfl .nil

/-- Equipping a run does nothing to the bookkeeping. -/
lemma reaction_equip (p : Pool) (call : Nat) : Reaction p (.equip call) (.plain p.equip) := by
  refine .still rfl rfl ?_ ?_ (.equip p)
  · rw [CheckStep.plain, equip_fst, startTimers]
    split <;> rfl
  · rw [CheckStep.plain, equip_fst, startTimers]
    split <;> rfl

/-- Aborting ends an open run. A pool that never ran turns to aborted. -/
lemma reaction_abort (p : Pool) (historical : SystemInfo) :
    Reaction p (.abort historical) (.plain (p.abort historical)) := by
  cases u : p.unresolved with
  | true =>
    have e : p.abort historical = (p.ended .aborted, p.farewell (.ok ()) .aborted historical) := by
      rw [abort, settle?_open u]
      rfl
    rw [e]
    exact .ends rfl u nofun rfl rfl (launches_farewell ..) (resolutions_farewell ..)
  | false =>
    rw [abort, settle?_shut u]
    by_cases h : p.phase = .idle
    · rw [if_pos h]
      refine .turns (h ▸ .abort) ?_ rfl rfl .nil
      intro u1
      rw [u] at u1
      cases u1
    · rw [if_neg h]
      exact .shut u rfl rfl .nil

/-- A pause turns a running pool to paused. -/
lemma reaction_callPause (p : Pool) (limit : Option Duration) (expired : Bool) :
    Reaction p (.callPause limit expired) (.plain p.pause) := by
  rw [pause]
  by_cases h : p.phase = .running
  · rw [if_pos h]
    exact .turns (h ▸ .pause) (fun _ => rfl) rfl rfl ⟨rfl, rfl⟩
  · rw [if_neg h]
    exact .still rfl rfl rfl rfl .nil

/-- Asking for a check is silent. -/
lemma Silent.notify (p : Pool) : Silent p.notify := by
  rw [Pool.notify]
  split
  · exact ⟨rfl, rfl⟩
  · exact .nil

/-- Going on turns a paused pool to running. -/
lemma reaction_resume (p : Pool) : Reaction p .resume (.plain p.resume) := by
  rw [resume]
  by_cases h : p.phase = .paused
  · rw [if_pos h]
    have silent : Silent [.notice .resuming] := ⟨rfl, rfl⟩
    exact .turns (h ▸ .resume) (fun _ => rfl) rfl rfl (silent.append (.notify _))
  · rw [if_neg h]
    exact .still rfl rfl rfl rfl .nil

/-- Setting the desired concurrency keeps the phase and the tasks in flight. -/
lemma setDesired_frame {s t : PoolState} {value : Nat} (e : s.setDesired value = .ok t) :
    t.phase = s.phase ∧ t.current = s.current := by
  rw [PoolState.setDesired] at e
  split at e
  · cases e; exact ⟨rfl, rfl⟩
  · cases e

/-- Setting the desired concurrency moves the bounds only. -/
lemma reaction_setDesired (p : Pool) (value : Nat) :
    Reaction p (.setDesired value) (p.respond (.setDesired value)) := by
  cases e : p.state.setDesired value with
  | error fault =>
    rw [respond, e]
    exact .still rfl rfl rfl rfl .nil
  | ok state =>
    obtain ⟨e1, e2⟩ := setDesired_frame e
    rw [respond, e]
    refine .scales (.inl rfl) rfl rfl e1 e2 ?_ rfl .nil
    intro bd
    obtain ⟨t, e3, bd1⟩ := bd.setDesired value
    rw [e] at e3
    cases e3
    exact bd1

/-- Scaling keeps the phase and the tasks in flight. -/
lemma autoscale_frame {s t : PoolState} {idle : Bool} {c : PoolConfig} {change}
    (e : s.autoscale idle c = .ok (change, t)) : t.phase = s.phase ∧ t.current = s.current := by
  unfold PoolState.autoscale at e
  split at e
  · split at e
    · split at e
      · cases e; exact ⟨rfl, rfl⟩
      · cases e
    · cases e; exact ⟨rfl, rfl⟩
  · cases e; exact ⟨rfl, rfl⟩

/-- Only an active pool scales, and scaling keeps bounded bookkeeping bounded. -/
lemma reaction_autoscale (p : Pool) (idle : Bool) :
    Reaction p (.autoscale idle) (p.respond (.autoscale idle)) := by
  rw [respond, autoscale]
  by_cases h : p.phase.isActive = true
  · rw [if_pos h]
    cases e : p.state.autoscale idle p.config with
    | error fault => exact .still rfl rfl rfl rfl .nil
    | ok r =>
      obtain ⟨change, state⟩ := r
      obtain ⟨e1, e2⟩ := autoscale_frame e
      exact .scales (.inr h) rfl rfl e1 e2 (fun bd => bd.autoscale e) rfl .nil
  · rw [if_neg h]
    exact .still rfl rfl rfl rfl .nil

/-! ## Checks -/

/-- Looking at the budget at most forgets starts. -/
lemma wantsTask_pool (p : Pool) (now : Instant) (idle : Bool) :
    ∃ starts, (p.wantsTask now idle).2 =
      { p with state := { p.state with recentStarts := starts } } := by
  rw [wantsTask]
  split
  · cases e : p.config.maxTasksPerMinute with
    | none => exact ⟨_, rfl⟩
    | some limit => exact ⟨_, rfl⟩
  · exact ⟨_, rfl⟩

/-- The head of a check for ready tasks forgets starts and holds the slot while it asks. -/
lemma askForTask_step (p : Pool) (effects : List PoolEffect) (now : Instant) (idle : Bool) :
    ∃ starts wants, p.askForTask effects now idle =
      ⟨{ p with
          state := { p.state with recentStarts := starts }, startCheckBusy := wants }, effects,
        wants⟩ := by
  obtain ⟨starts, e⟩ := wantsTask_pool p now idle
  refine ⟨starts, (p.wantsTask now idle).1, ?_⟩
  rw [askForTask]
  simp only [e]

/-- Beginning a check for ready tasks at most forgets starts. -/
lemma reaction_enterStartCheck (p : Pool) (timed : Bool) (now : Instant) (idle : Bool) :
    Reaction p (.enterStartCheck timed now idle) (p.enterStartCheck now idle) := by
  rw [enterStartCheck]
  split
  · exact .still rfl rfl rfl rfl .nil
  · obtain ⟨starts, wants, e⟩ := askForTask_step { p with startCheckBusy := true } [] now idle
    rw [e]
    exact .goesOn starts nofun rfl rfl .nil

/-- An answer to the question for a ready task ends the run if it is an error, launches the task if
it is a yes and there is still capacity, and changes nothing otherwise. -/
lemma reaction_answerReady (p : Pool) (q : ReadyQuestion) (answer : Except String Bool)
    (now : Instant) (idle : Bool) (historical : SystemInfo) :
    Reaction p (.answerReady q answer now idle historical)
      (p.answerReady answer now idle historical) := by
  cases answer with
  | error detail => exact .fails (q := p) rfl rfl rfl .nil rfl rfl rfl
  | ok ready =>
    cases ready with
    | false =>
      refine .still rfl rfl rfl rfl ?_
      rw [answerReady]
      dsimp only
      split
      · exact ⟨rfl, rfl⟩
      · exact .nil
    | true =>
      simp only [answerReady]
      split
      · next capacity =>
        obtain ⟨starts, wants, e⟩ := askForTask_step (p.launch now) [.launchTask] now idle
        rw [e]
        exact .launches rfl capacity rfl rfl rfl rfl
      · exact .still rfl rfl rfl rfl .nil

/-- Beginning a check for the end of the run leaves the bookkeeping alone. -/
lemma reaction_enterFinishCheck (p : Pool) :
    Reaction p .enterFinishCheck p.enterFinishCheck := by
  rw [enterFinishCheck]
  split
  · exact .still rfl rfl rfl rfl .nil
  · split
    · exact .still rfl rfl rfl rfl .nil
    · exact .still rfl rfl rfl rfl .nil

/-- An answer to the question for the end of the run ends it if it is an error, or if it is a yes
and no task is in flight. -/
lemma reaction_answerFinished (p : Pool) (q : FinishQuestion) (answer : Except String Bool)
    (historical : SystemInfo) :
    Reaction p (.answerFinished q answer historical) (p.answerFinished answer historical) := by
  cases answer with
  | error detail => exact .fails (q := p) rfl rfl rfl .nil rfl rfl rfl
  | ok finished =>
    cases finished with
    | false => exact .still rfl rfl rfl rfl .nil
    | true =>
      simp only [answerFinished]
      cases d : p.isDrained with
      | false =>
        refine .goesOn p.state.recentStarts ?_ rfl rfl .nil
        intro outcome phase h _
        cases h
        exact ⟨rfl, d⟩
      | true =>
        rw [if_pos rfl]
        cases u : p.unresolved with
        | true =>
          rw [settle?_open u]
          exact .ends rfl u (fun _ => d) rfl rfl (launches_farewell ..) (resolutions_farewell ..)
        | false =>
          rw [settle?_shut u]
          exact .shut u rfl rfl .nil

/-- The end of a task is counted, and ends the run if it is an error. -/
lemma reaction_settleTask (p : Pool) (task : Nat) (result : TaskResult)
    (historical : SystemInfo) :
    Reaction p (.settleTask task result historical) (.plain (p.taskSettled result historical)) := by
  have wake := Silent.wake p.state.recordSettled.1
  unfold taskSettled
  cases e : result.error? with
  | some error =>
    have ending : (Event.settleTask task result historical).ending? =
        some (.error error, .failed) := by
      rw [Event.ending?, e]
      rfl
    exact .fails (q := { p with state := p.state.recordSettled.2 }) ending rfl rfl wake rfl rfl rfl
  | none =>
    refine .goesOn p.state.recentStarts ?_ rfl rfl (wake.append ?_)
    · intro outcome phase h
      rw [Event.ending?, e] at h
      cases h
    · split
      · exact ⟨rfl, rfl⟩
      · exact .nil

/-- Every event does one of the things that a reaction lists. -/
theorem respond_reaction (p : Pool) (e : Event) : Reaction p e (p.respond e) := by
  cases e with
  | callRun => exact reaction_callRun p
  | equip call => exact reaction_equip p call
  | returnRun => exact .still rfl rfl rfl rfl (.teardown p)
  | dropRun => exact .still rfl rfl rfl rfl .nil
  | abort historical => exact reaction_abort p historical
  | callPause limit expired => exact reaction_callPause p limit expired
  | pollPause => exact .still rfl rfl rfl rfl .nil
  | resume => exact reaction_resume p
  | notify => exact .still rfl rfl rfl rfl (.notify p)
  | setMin value =>
    exact .scales (.inl rfl) rfl rfl rfl rfl (fun _ => PoolState.setMin_bounded _ _) rfl .nil
  | setMax value =>
    exact .scales (.inl rfl) rfl rfl rfl rfl
      (fun bd => PoolState.setMax_bounded bd.one_le_floor _) rfl .nil
  | setDesired value => exact reaction_setDesired p value
  | autoscale idle => exact reaction_autoscale p idle
  | report => exact .still rfl rfl rfl rfl ⟨rfl, rfl⟩
  | enterStartCheck timed now idle => exact reaction_enterStartCheck p timed now idle
  | answerReady q answer now idle historical =>
    exact reaction_answerReady p q answer now idle historical
  | dropStartCheck => exact .still rfl rfl rfl rfl .nil
  | enterFinishCheck => exact reaction_enterFinishCheck p
  | answerFinished q answer historical => exact reaction_answerFinished p q answer historical
  | settleTask task result historical => exact reaction_settleTask p task result historical

end Pool

end Headroom
