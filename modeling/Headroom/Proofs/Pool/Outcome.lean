import Headroom.Proofs.Pool.Moment

/-!
# The outcome of a run

Aborts, failures of tasks and of checks, and a positive finish check race to end a run.
`Run.decided` shows that the first of them decides both the final phase and the outcome, that the
call which began the run gets that very outcome, and that nothing moves a pool that has ended but
the setters and the ends of the tasks in flight.

All of it rests on how the open run, the outcome and the phase belong together (`Stands`).
-/

namespace Headroom.Pool

/-! ## Statements -/

/-- A call to run begins a run in a moment. -/
def Moment.begins (m : Moment) : Bool :=
  match m.event with
  | .callRun => m.before.pool.phase == .idle
  | _ => false

/-- A run has begun. -/
def begun (ms : List Moment) : Bool := ms.any (·.begins)

/-- Whether a run has begun, the outcome that was sent to it, and the phase. -/
inductive Stands : Bool → Option (Except PoolError Unit) → Phase → Prop where
  | fresh : Stands false none .idle
  | withdrawn : Stands false none .aborted
  | running : Stands true none .running
  | paused : Stands true none .paused
  | finished : Stands true (some (.ok ())) .finished
  | aborted : Stands true (some (.ok ())) .aborted
  | failed {e} : Stands true (some (.error e)) .failed

/-- How the outcome of a run so far comes about. -/
structure Decided (ms : List Moment) (s : Situation) : Prop where
  /-- An outcome is fixed just where a run has ended: a success in the phases finished and aborted,
  an error in the phase failed. -/
  stands : Stands (begun ms) s.sent s.pool.phase
  /-- The run is resolved at most once, with what is sent to the call. -/
  once : resolutions (ms.flatMap (·.effects)) = s.sent.toList
  /-- It is resolved just when the phase becomes terminal. -/
  resolves : ∀ m ∈ ms, resolutions m.effects ≠ [] ↔
    m.before.pool.phase.isActive = true ∧ m.after.pool.phase.isTerminal = true
  /-- The outcome and the final phase are those of the event that resolves it. -/
  cause : ∀ m ∈ ms, ∀ outcome ∈ resolutions m.effects,
    m.event.ending? = some (outcome, m.after.pool.phase)
  /-- The first event that ends the run decides, whatever comes later. A positive finish check ends
  it if no task is in flight. -/
  first : ∀ m ∈ ms, ∀ outcome phase,
    m.event.ending? = some (outcome, phase) →
    m.before.pool.phase.isActive = true →
    (phase = .finished → m.before.pool.isDrained = true) →
    s.sent = some outcome ∧ s.pool.phase = phase
  /-- A call that comes back does so with the outcome that was sent. -/
  returns : ∀ m ∈ ms, ∀ call, m.event = .returnRun call →
    ∃ outcome, m.before.sent = some outcome ∧ m.after.runs[call]? = some (.returned outcome)
  /-- A call that waits can come back just when the phase is terminal. -/
  waits : ∀ call, s.runs[call]? = some .awaiting →
    (s.Enabled (.returnRun call) ↔ s.pool.phase.isTerminal = true)
  /-- In a terminal phase no task starts, the count does not grow, and only setters move the bounds
  and the desired concurrency. -/
  rests : ∀ m ∈ ms, m.before.pool.phase.isTerminal = true →
    m.after.pool.phase = m.before.pool.phase ∧
      launches m.effects = 0 ∧
      m.after.pool.state.current ≤ m.before.pool.state.current ∧
      (m.event.isSetter = false →
        m.after.pool.state.minConcurrency = m.before.pool.state.minConcurrency ∧
        m.after.pool.state.maxConcurrency = m.before.pool.state.maxConcurrency ∧
        m.after.pool.state.desired = m.before.pool.state.desired)
  /-- A call to run is refused with the phase unless that is idle, and nothing else happens. -/
  refuses : s.pool.phase ≠ .idle →
    s.pool.run = .error (.notIdle s.pool.phase) ∧
      s.next .callRun = { s with runs := s.runs ++ [.returned (.error (.notIdle s.pool.phase))] }

/-! ## Phases -/

/-- A terminal phase is not active. -/
lemma inactive_of_terminal {phase : Phase} (h : phase.isTerminal = true) :
    phase.isActive = false := by
  cases phase with
  | idle => cases h
  | running => cases h
  | paused => cases h
  | _ => rfl

namespace Stands

variable {b : Bool} {sent : Option (Except PoolError Unit)} {phase : Phase}

/-- In the idle phase no outcome has been sent. -/
lemma of_idle (st : Stands b sent .idle) : sent = none := by
  cases st with
  | fresh => rfl

/-- In an active phase the run is open and no outcome has been sent. -/
lemma of_active (st : Stands b sent phase) (h : phase.isActive = true) :
    b = true ∧ sent = none := by
  cases st with
  | running => exact ⟨rfl, rfl⟩
  | paused => exact ⟨rfl, rfl⟩
  | _ => cases h

/-- A run that has begun and is not active has been sent an outcome, and its phase is terminal. -/
lemma of_inactive (st : Stands true sent phase) (h : phase.isActive = false) :
    (∃ outcome, sent = some outcome) ∧ phase.isTerminal = true := by
  cases st with
  | running => cases h
  | paused => cases h
  | finished => exact ⟨⟨_, rfl⟩, rfl⟩
  | aborted => exact ⟨⟨_, rfl⟩, rfl⟩
  | failed => exact ⟨⟨_, rfl⟩, rfl⟩

/-- An event that ends a run leaves the outcome with the phase that belongs to it. -/
lemma of_ending {e : Event} {outcome} (h : e.ending? = some (outcome, phase)) :
    Stands true (some outcome) phase ∧ phase.isTerminal = true := by
  cases e with
  | abort => cases h; exact ⟨.aborted, rfl⟩
  | answerReady q answer =>
    cases answer with
    | error detail => cases h; exact ⟨.failed, rfl⟩
    | ok ready => cases h
  | answerFinished q answer =>
    cases answer with
    | error detail => cases h; exact ⟨.failed, rfl⟩
    | ok finished =>
      cases finished with
      | false => cases h
      | true => cases h; exact ⟨.finished, rfl⟩
  | settleTask task result =>
    cases result with
    | succeeded => cases h
    | failed => cases h; exact ⟨.failed, rfl⟩
    | panicked => cases h; exact ⟨.failed, rfl⟩
  | _ => cases h

/-- A change of the phase keeps together what belongs together. -/
lemma turn {e : Event} {other : Phase} (st : Stands b sent phase) (t : Turn e phase other) :
    Stands b sent other ∧ other.isActive = phase.isActive := by
  cases t with
  | abort => cases st; exact ⟨.withdrawn, rfl⟩
  | pause => cases st; exact ⟨.paused, rfl⟩
  | resume => cases st; exact ⟨.running, rfl⟩

end Stands

/-! ## One moment -/

/-- What an event means for the open run, the outcome and the phase. -/
inductive Fate (s : Situation) (e : Event) : Prop where
  /-- The open run ends. -/
  | ends {outcome} :
    s.pool.phase.isActive = true →
    e.ending? = some (outcome, (s.next e).pool.phase) →
    (s.next e).pool.unresolved = false →
    resolutions (s.pool.respond e).effects = [outcome] →
    Fate s e
  /-- A run begins. -/
  | begins :
    (Moment.mk s e).begins = true →
    s.pool.phase = .idle →
    (s.next e).pool.phase = .running →
    (s.next e).pool.unresolved = true →
    resolutions (s.pool.respond e).effects = [] →
    Fate s e
  /-- The run stays as it is, and only its phase may turn. -/
  | goesOn :
    (Moment.mk s e).begins = false →
    (s.pool.phase = (s.next e).pool.phase ∨ Turn e s.pool.phase (s.next e).pool.phase) →
    (∀ outcome phase, e.ending? = some (outcome, phase) → s.pool.phase.isActive = true →
      phase = .finished ∧ s.pool.isDrained = false) →
    (s.next e).pool.unresolved = s.pool.unresolved →
    resolutions (s.pool.respond e).effects = [] →
    Fate s e

/-- Every event has one of these fates, if the run is open just in the active phases. -/
lemma Situation.fate {s : Situation} (h : s.pool.unresolved = s.pool.phase.isActive) (e : Event) :
    Fate s e := by
  have re := respond_reaction s.pool e
  -- A reaction alone does not tell that a call on an idle pool begins a run.
  cases b : (Moment.mk s e).begins with
  | true =>
    cases e with
    | callRun =>
      have idle : s.pool.phase = .idle := beq_iff_eq.mp b
      have e1 := callRun_idle idle
      refine .begins b idle ?_ ?_ ?_
      · rw [next, e1]
        rfl
      · rw [next, e1]
      · rw [e1]
        rfl
    | _ => cases b
  | false =>
    cases re with
    | @ends outcome phase e1 u _ e2 e3 _ e4 =>
      have e5 : (s.next e).pool.phase = phase := by rw [next, Pool.phase, e2]
      refine .ends (h ▸ u) ?_ e3 e4
      rw [e5]
      exact e1
    | launches e1 _ e2 e3 _ e4 =>
      subst e1
      refine .goesOn rfl (.inl ?_) ?_ e3 e4
      · rw [next, Pool.phase, Pool.phase, e2]
      · intro outcome phase ending
        cases ending
    | begins e1 idle =>
      subst e1
      rw [Moment.begins, beq_eq_false_iff_ne] at b
      exact absurd idle b
    | @turns phase t no e1 e2 silent =>
      have e3 : (s.next e).pool.phase = phase := by rw [next, Pool.phase, e1]
      refine .goesOn b (.inr (e3 ▸ t)) ?_ e2 silent.2
      intro outcome phase e4 active
      rw [no (h.trans active)] at e4
      cases e4
    | scales _ no _ e1 _ _ e2 silent =>
      refine .goesOn b (.inl e1.symm) ?_ e2 silent.2
      intro outcome phase e3
      rw [no] at e3
      cases e3
    | goesOn _ no e1 e2 silent =>
      refine .goesOn b (.inl ?_) ?_ e2 silent.2
      · rw [next, Pool.phase, Pool.phase, e1]
        exact (e.counted_frame _).1.symm
      · intro outcome phase e3 active
        exact no outcome phase e3 (h.trans active)

/-- Where the run goes on, outcome and phase still belong together. -/
lemma Stands.goOn {b sent e phase other} (st : Stands b sent phase)
    (h : phase = other ∨ Turn e phase other) :
    Stands b sent other ∧ other.isActive = phase.isActive := by
  cases h with
  | inl same => subst same; exact ⟨st, rfl⟩
  | inr t => exact st.turn t

/-- A terminal phase does not change. -/
lemma Turn.not_terminal {e phase other} (t : Turn e phase other) : phase.isTerminal = false := by
  cases t with
  | _ => rfl

/-! ## Along a run -/

/-- What holds of a run and of the calls to it at any time. -/
structure Standing (ms : List Moment) (s : Situation) : Prop where
  stands : Stands (begun ms) s.sent s.pool.phase
  unresolved : s.pool.unresolved = s.pool.phase.isActive
  /-- A call that has not come back is the one that began the run. -/
  calls : ∀ call ∈ s.runs, (∀ outcome, call ≠ .returned outcome) → begun ms = true

/-- A call that waits for its outcome, or for the timers, is one that began the run. -/
lemma Standing.begun_of_pending {ms} {s : Situation} {n : Nat} (sd : Standing ms s)
    (h : s.runs[n]? = some .begun ∨ s.runs[n]? = some .awaiting) : begun ms = true := by
  cases h with
  | inl e =>
    refine sd.calls _ (List.mem_of_getElem? e) ?_
    intro outcome e1
    cases e1
  | inr e =>
    refine sd.calls _ (List.mem_of_getElem? e) ?_
    intro outcome e1
    cases e1

/-- A run that has begun stays so. -/
lemma begun_cons {m : Moment} {ms} (h : begun ms = true) : begun (m :: ms) = true := by
  rw [begun, List.any_cons, ← begun, h, Bool.or_true]

/-- A call that has not come back after an event did not come back before, or begins a run. -/
lemma Standing.next_calls {ms s e} (sd : Standing ms s) (enabled : s.Enabled e) :
    ∀ call ∈ (s.next e).runs, (∀ outcome, call ≠ .returned outcome) →
      begun (⟨s, e⟩ :: ms) = true := by
  intro call mem pending
  rw [s.next_runs] at mem
  cases e with
  | callRun =>
    cases List.mem_append.mp mem with
    | inl mem1 => exact begun_cons (sd.calls call mem1 pending)
    | inr mem1 =>
      -- The new call is refused unless it begins the run.
      cases List.mem_singleton.mp mem1
      by_cases idle : s.pool.phase = .idle
      · rw [begun, List.any_cons, Moment.begins, beq_iff_eq.mpr idle, Bool.true_or]
      · rw [Situation.newRunCall, beginRun, if_neg idle] at pending
        exact absurd rfl (pending _)
  | equip n => exact begun_cons (sd.begun_of_pending (.inl enabled))
  | returnRun n => exact begun_cons (sd.begun_of_pending (.inr enabled.1))
  | dropRun n => exact begun_cons (sd.begun_of_pending (.inr enabled))
  | _ => exact begun_cons (sd.calls call mem pending)

/-- Every event keeps open run, outcome and phase together. -/
lemma Standing.next {ms s e} (sd : Standing ms s) (enabled : s.Enabled e) :
    Standing (⟨s, e⟩ :: ms) (s.next e) := by
  have calls := sd.next_calls enabled
  have sent := s.next_sent e
  cases s.fate sd.unresolved e with
  | ends active ending e1 e2 =>
    obtain ⟨b, none⟩ := sd.stands.of_active active
    obtain ⟨st, terminal⟩ := Stands.of_ending ending
    rw [e2] at sent
    refine ⟨?_, ?_, calls⟩
    · rw [begun_cons b, sent]
      exact st
    · rw [e1]
      exact (inactive_of_terminal terminal).symm
  | begins b idle e1 e2 e3 =>
    rw [e3] at sent
    have none := Stands.of_idle (idle ▸ sd.stands)
    refine ⟨?_, ?_, calls⟩
    · rw [begun, List.any_cons, b, Bool.true_or, sent, none, e1]
      exact .running
    · rw [e1, e2]
      rfl
  | goesOn b h _ e1 e2 =>
    rw [e2] at sent
    obtain ⟨st, active⟩ := sd.stands.goOn h
    refine ⟨?_, ?_, calls⟩
    · rw [begun, List.any_cons, b, Bool.false_or, sent]
      exact st
    · rw [e1, active]
      exact sd.unresolved

/-- Run, outcome and phase belong together all along a run. -/
lemma Run.standing {ms s} (run : Run ms s) : Standing ms s := by
  induction run with
  | start e =>
    obtain ⟨_, e1⟩ := new_inv e
    subst e1
    exact ⟨.fresh, rfl, nofun⟩
  | step _ enabled ih => exact ih.next enabled

/-! ## After the end -/

/-- An event leaves a terminal phase and the outcome alone. -/
lemma Situation.next_terminal {s : Situation} (h : s.pool.unresolved = s.pool.phase.isActive)
    (terminal : s.pool.phase.isTerminal = true) (e : Event) :
    (s.next e).pool.phase = s.pool.phase ∧ (s.next e).sent = s.sent := by
  have sent := s.next_sent e
  cases s.fate h e with
  | ends active => rw [inactive_of_terminal terminal] at active; cases active
  | begins _ idle => rw [idle] at terminal; cases terminal
  | goesOn _ turn _ _ e1 =>
    rw [e1] at sent
    refine ⟨?_, sent⟩
    cases turn with
    | inl same => exact same.symm
    | inr t => rw [t.not_terminal] at terminal; cases terminal

/-- A terminal phase and the outcome stay to the end of a run. -/
lemma Run.stays {later m earlier s} (run : Run (later ++ m :: earlier) s)
    (terminal : m.after.pool.phase.isTerminal = true) :
    s.pool.phase = m.after.pool.phase ∧ s.sent = m.after.sent := by
  induction later generalizing s with
  | nil =>
    cases run with
    | step => exact ⟨rfl, rfl⟩
  | cons m1 later ih =>
    cases run with
    | @step _ s e run1 _ =>
      obtain ⟨e1, e2⟩ := ih run1
      obtain ⟨e3, e4⟩ := s.next_terminal run1.standing.unresolved (e1 ▸ terminal) e
      exact ⟨e3.trans e1, e4.trans e2⟩

/-- In a terminal phase nothing is launched, the count does not grow, and only setters move the
bounds and the desired concurrency. -/
lemma Reaction.rests {p e r} (re : Reaction p e r) (u : p.unresolved = false)
    (terminal : p.phase.isTerminal = true) :
    Pool.launches r.effects = 0 ∧
      (e.isSetter = false →
        r.pool.state.minConcurrency = p.state.minConcurrency ∧
        r.pool.state.maxConcurrency = p.state.maxConcurrency ∧
        r.pool.state.desired = p.state.desired) := by
  cases re with
  | ends _ u1 => rw [u] at u1; cases u1
  | launches _ capacity =>
    rw [PoolState.hasCapacity_iff] at capacity
    rw [Pool.phase, capacity.1] at terminal
    cases terminal
  | begins _ idle => rw [idle] at terminal; cases terminal
  | turns t => rw [t.not_terminal] at terminal; cases terminal
  | scales cause _ _ _ _ _ _ silent =>
    refine ⟨silent.1, ?_⟩
    intro no
    cases cause with
    | inl setter => rw [no] at setter; cases setter
    | inr active => rw [inactive_of_terminal terminal] at active; cases active
  | goesOn _ _ e1 _ silent =>
    refine ⟨silent.1, ?_⟩
    intro _
    rw [e1]
    exact (e.counted_frame _).2

/-! ## Where outcomes come from -/

/-- An event resolves the run just when the phase goes from active to terminal, and then with its
own outcome and phase. -/
lemma Run.resolves {ms s} (run : Run ms s) (e : Event) :
    (resolutions (s.pool.respond e).effects ≠ [] ↔
      s.pool.phase.isActive = true ∧ (s.next e).pool.phase.isTerminal = true) ∧
      ∀ outcome ∈ resolutions (s.pool.respond e).effects,
        e.ending? = some (outcome, (s.next e).pool.phase) := by
  cases s.fate run.standing.unresolved e with
  | ends active ending _ e1 =>
    rw [e1]
    refine ⟨⟨fun _ => ⟨active, (Stands.of_ending ending).2⟩, fun _ => nofun⟩, ?_⟩
    intro outcome mem
    cases List.mem_singleton.mp mem
    exact ending
  | begins _ idle _ _ e1 =>
    rw [e1, idle]
    refine ⟨⟨fun no => absurd rfl no, ?_⟩, nofun⟩
    intro ⟨active, _⟩
    cases active
  | goesOn _ turn _ _ e1 =>
    rw [e1]
    refine ⟨⟨fun no => absurd rfl no, ?_⟩, nofun⟩
    intro ⟨active, terminal⟩
    rw [← (run.standing.stands.goOn turn).2, inactive_of_terminal terminal] at active
    cases active

/-- The resolutions along a run are the outcome that was sent, if one was. -/
lemma Run.resolutions_eq {ms s} (run : Run ms s) :
    resolutions (ms.flatMap (·.effects)) = s.sent.toList := by
  induction run with
  | start => rfl
  | @step ms s e run _ ih =>
    have e1 : (Moment.mk s e).effects = (s.pool.respond e).effects := rfl
    rw [List.flatMap_cons, resolutions_append, ih, e1, s.next_sent]
    cases s.fate run.standing.unresolved e with
    | ends active _ _ e2 =>
      rw [e2, (run.standing.stands.of_active active).2]
      rfl
    | begins _ _ _ _ e2 => rw [e2]; rfl
    | goesOn _ _ _ _ e2 => rw [e2]; rfl

/-- An event that ends an active run settles its outcome and its phase. -/
lemma Situation.next_of_ending {s : Situation} {e : Event} {outcome phase}
    (h : s.pool.unresolved = s.pool.phase.isActive)
    (ending : e.ending? = some (outcome, phase)) (active : s.pool.phase.isActive = true)
    (drained : phase = .finished → s.pool.isDrained = true) :
    (s.next e).sent = some outcome ∧ (s.next e).pool.phase = phase := by
  cases s.fate h e with
  | ends _ ending1 _ e1 =>
    rw [ending] at ending1
    cases ending1
    rw [s.next_sent, e1]
    exact ⟨rfl, rfl⟩
  | begins _ idle => rw [idle] at active; cases active
  | goesOn _ _ no =>
    obtain ⟨finished, busy⟩ := no outcome phase ending active
    rw [drained finished] at busy
    cases busy

/-- A call to run that waits can come back just when the phase is terminal. An outcome was sent
then. -/
lemma Run.awaiting {ms} {s : Situation} {call : Nat} (run : Run ms s)
    (h : s.runs[call]? = some .awaiting) :
    (s.pool.unresolved = false ↔ s.pool.phase.isTerminal = true) ∧
      (s.pool.unresolved = false → ∃ outcome, s.sent = some outcome) := by
  have sd := run.standing
  have st := sd.stands
  rw [sd.begun_of_pending (.inr h)] at st
  rw [sd.unresolved]
  cases active : s.pool.phase.isActive with
  | true =>
    refine ⟨⟨nofun, ?_⟩, nofun⟩
    intro terminal
    rw [inactive_of_terminal terminal] at active
    cases active
  | false =>
    obtain ⟨sent, terminal⟩ := st.of_inactive active
    exact ⟨⟨fun _ => terminal, fun _ => rfl⟩, fun _ => sent⟩

/-- A call to run is refused unless the pool is idle. -/
lemma Situation.next_callRun {s : Situation} (h : s.pool.phase ≠ .idle) :
    s.pool.run = .error (.notIdle s.pool.phase) ∧
      s.next .callRun =
        { s with runs := s.runs ++ [.returned (.error (.notIdle s.pool.phase))] } := by
  have e : s.pool.beginRun = .error (.notIdle s.pool.phase) := by rw [beginRun, if_neg h]
  refine ⟨?_, ?_⟩
  · rw [Pool.run, e]
    rfl
  · rw [next, callRun_busy h, take, newRunCall, e]
    dsimp only
    simp [newReady?, newFinish?]

/-! ## The headline -/

/-- Along a run, the first event that ends it decides its outcome and its final phase. -/
theorem Run.decided {ms s} (run : Run ms s) : Decided ms s where
  stands := run.standing.stands
  once := run.resolutions_eq
  resolves m mem := by
    obtain ⟨_, run1, _⟩ := run.of_mem mem
    exact (run1.resolves m.event).1
  cause m mem := by
    obtain ⟨_, run1, _⟩ := run.of_mem mem
    exact (run1.resolves m.event).2
  first m mem outcome phase ending active drained := by
    obtain ⟨later, earlier, e⟩ := List.append_of_mem mem
    subst e
    obtain ⟨e1, e2⟩ :=
      Situation.next_of_ending run.split.1.standing.unresolved ending active drained
    have e3 : m.after.pool.phase = phase := e2
    -- The phase is terminal from here on, so nothing that comes later counts.
    obtain ⟨e4, e5⟩ := run.stays (e3 ▸ (Stands.of_ending ending).2)
    exact ⟨e5.trans e1, e4.trans e2⟩
  returns m mem call e := by
    obtain ⟨_, run1, enabled⟩ := run.of_mem mem
    rw [e] at enabled
    obtain ⟨waiting, shut⟩ := enabled
    obtain ⟨outcome, sent⟩ := (run1.awaiting waiting).2 shut
    refine ⟨outcome, sent, ?_⟩
    obtain ⟨lt, _⟩ := List.getElem?_eq_some_iff.mp waiting
    rw [Moment.after, m.before.next_runs, e, Situation.take, sent]
    exact List.getElem?_set_self lt
  waits call waiting := by
    rw [← (run.awaiting waiting).1]
    exact ⟨fun h => h.2, fun h => ⟨waiting, h⟩⟩
  rests m mem terminal := by
    obtain ⟨_, run1, _⟩ := run.of_mem mem
    have sd := run1.standing
    have u : m.before.pool.unresolved = false := by
      rw [sd.unresolved]
      exact inactive_of_terminal terminal
    obtain ⟨none, frame⟩ := m.reaction.rests u terminal
    exact ⟨(m.before.next_terminal sd.unresolved terminal m.event).1, none,
      m.reaction.resting none, frame⟩
  refuses := Situation.next_callRun

/-- A task fails, and an abort comes too late. The call gets the failure, and the next one is
refused. -/
theorem Run.decided_of_failure :
    ∃ ms s, Run ms s ∧ Decided ms s ∧ s.pool.phase = .failed ∧
      s.runs =
        [.returned (.error (.taskFailed "disk full")), .returned (.error (.notIdle .failed))] := by
  have load : LoadInfo := .ofCounts 0 0 .zero
  have h := SystemInfo.ofLoads load load load load
  have run0 := Run.start
    (new_ok (c := { loggingSecs := .zero }) (s := {}) (t := {}) (by decide +kernel))
  have run1 := run0.step (e := .callRun) trivial
  have run2 := run1.step (e := .equip 0) rfl
  have run3 := run2.step (e := .enterStartCheck false 0 true) trivial
  have run4 := run3.step (e := .answerReady ⟨0, 0, false, true, 1⟩ (.ok true) 5 true h)
    List.mem_cons_self
  have run5 := run4.step (e := .settleTask 0 (.failed "disk full") h) List.mem_cons_self
  have run6 := run5.step (e := .abort h) trivial
  have run7 := run6.step (e := .returnRun 0) ⟨rfl, rfl⟩
  have run8 := run7.step (e := .callRun) trivial
  exact ⟨_, _, run8, run8.decided, rfl, rfl⟩

end Headroom.Pool
