import Headroom.Proofs.Pool.Outcome

/-!
# The timers and the lease of a pool

A run arms its timers and takes a lease when it is equipped, and gives both up when it ends. `Refit`
lists what an event may do to them; `Run.fitted` shows that a pool has timers and a lease exactly
while its run is open and equipped. A run is equipped at most once. One that has ended before finds
the pool torn down, and gets neither.
-/

namespace Headroom

/-- The effect is on the timers or on the lease of a pool. -/
def PoolEffect.isFitting : PoolEffect → Bool
  | takeLease | dropLease | armTimer _ | cancelTimers => true
  | _ => false

namespace Pool

/-- The timers that a run needs. -/
def timersFor (c : PoolConfig) : List PoolTimer :=
  [.autoscale, .maybeRun] ++ if c.loggingInterval?.isSome then [.logging] else []

/-- The effects on timers and lease. -/
def fittingEffects (effects : List PoolEffect) : List PoolEffect := effects.filter (·.isFitting)

/-- The configuration, whether the pool was torn down, the timers and the lease. -/
def fittings (p : Pool) : PoolConfig × Bool × List PoolTimer × Bool :=
  (p.config, p.closed, p.timers, p.leased)

/-- The event equips a run. -/
def Event.equips : Event → Bool
  | equip _ => true
  | _ => false

/-- What an event does to the timers and the lease of a pool. -/
inductive Refit (p : Pool) (e : Event) (r : CheckStep) : Prop where
  /-- All stays as it is, and an open run stays open. A run is equipped in vain if the pool was torn
  down. -/
  | stays :
    (e.equips = true → p.closed = true) →
    (p.unresolved = true → r.pool.unresolved = true) →
    r.pool.fittings = p.fittings →
    fittingEffects r.effects = [] →
    Refit p e r
  /-- A run is equipped. -/
  | equips :
    e.equips = true →
    p.closed = false →
    r.pool.unresolved = p.unresolved →
    r.pool.fittings = (p.config, false, timersFor p.config, true) →
    fittingEffects r.effects = .takeLease :: (timersFor p.config).map .armTimer →
    Refit p e r
  /-- An open run ends, or a call to run comes back. -/
  | strips :
    ((p.unresolved = true ∧ r.pool.unresolved = false) ∨
      ∃ call, e = .returnRun call ∧ r.pool.unresolved = p.unresolved) →
    r.pool.fittings = (p.config, true, [], false) →
    fittingEffects r.effects = .cancelTimers :: (if p.leased then [.dropLease] else []) →
    Refit p e r

/-! ## Single functions -/

/-- The fittings of two stretches come one after the other. -/
@[simp]
lemma fittingEffects_append (fx gx : List PoolEffect) :
    fittingEffects (fx ++ gx) = fittingEffects fx ++ fittingEffects gx := List.filter_append fx gx

/-- Tearing down gives up the timers and the lease. -/
@[simp]
lemma fittingEffects_teardown (p : Pool) : fittingEffects p.teardown.2 =
    .cancelTimers :: (if p.leased then [.dropLease] else []) := by
  rw [teardown]
  cases p.leased with
  | true => rfl
  | false => rfl

/-- The end of a run gives up the timers and the lease. -/
@[simp]
lemma fittingEffects_farewell (p : Pool) (outcome phase historical) :
    fittingEffects (p.farewell outcome phase historical) =
      .cancelTimers :: (if p.leased then [.dropLease] else []) := by
  rw [farewell, fittingEffects_append, fittingEffects_teardown]
  exact List.append_nil _

/-- Asking for a check touches neither timers nor lease. -/
@[simp]
lemma fittingEffects_notify (p : Pool) : fittingEffects p.notify = [] := by
  rw [notify]
  split <;> rfl

/-- The timers in use are those that a run needs. -/
lemma timersFor_eq (p : Pool) :
    [PoolTimer.autoscale, .maybeRun, .logging].filter (fun t => (p.period? t).isSome) =
      timersFor p.config := by
  rw [timersFor]
  cases e : p.config.loggingInterval? with
  | none => simp [e]
  | some span => simp [e]

/-- Arming timers is all fitting. -/
@[simp]
lemma fittingEffects_armTimers (timers : List PoolTimer) :
    fittingEffects (timers.map .armTimer) = timers.map .armTimer := by
  rw [fittingEffects, List.filter_eq_self]
  intro f mem
  obtain ⟨t, _, e⟩ := List.mem_map.mp mem
  subst e
  rfl

/-- Equipping a pool that was not torn down takes a lease and arms the timers. -/
lemma equip_fits {p : Pool} (h : p.closed = false) :
    p.equip.1.fittings = (p.config, false, timersFor p.config, true) ∧
      p.equip.1.unresolved = p.unresolved ∧
      fittingEffects p.equip.2 = .takeLease :: (timersFor p.config).map .armTimer := by
  have e : p.startTimers = ({ p with timers := timersFor p.config, leased := true },
      .takeLease :: (timersFor p.config).map .armTimer) := by
    rw [startTimers, if_neg (ne_true_of_eq_false h), timersFor_eq]
  rw [equip, e]
  refine ⟨congrArg (p.config, ·, timersFor p.config, true) h, rfl, ?_⟩
  have lease : fittingEffects [.takeLease] = [.takeLease] := rfl
  dsimp only
  rw [fittingEffects_append, ← List.singleton_append, fittingEffects_append, lease,
    fittingEffects_armTimers]
  exact List.append_nil _

/-- A pool that was torn down is equipped with nothing. -/
lemma equip_shut {p : Pool} (h : p.closed = true) :
    p.equip.1 = p ∧ fittingEffects p.equip.2 = [] := by
  rw [equip, startTimers, if_pos h]
  exact ⟨rfl, rfl⟩

/-! ## All events -/

/-- What leaves timers, lease and the open run alone is no refit. -/
lemma Refit.still {p : Pool} {e : Event} {r : CheckStep} (h : e.equips = false)
    (same : r.pool.fittings = p.fittings) (unsettled : r.pool.unresolved = p.unresolved)
    (calm : fittingEffects r.effects = []) : Refit p e r := by
  refine .stays ?_ ?_ same calm
  · intro equips
    rw [h] at equips
    cases equips
  · intro u
    rw [unsettled, u]

/-- The end of a run, once other effects are carried out, strips a pool whose run is open and leaves
any other alone. -/
lemma Refit.settles {p : Pool} {e : Event} {r : CheckStep} {outcome phase historical} (q : Pool)
    (pre : List PoolEffect) (h : e.equips = false) (same : q.fittings = p.fittings)
    (unsettled : q.unresolved = p.unresolved) (calm : fittingEffects pre = [])
    (fits : r.pool.fittings = ((q.settle? outcome phase historical).getD (q, [])).1.fittings)
    (ends : r.pool.unresolved = ((q.settle? outcome phase historical).getD (q, [])).1.unresolved)
    (effects : r.effects = pre ++ ((q.settle? outcome phase historical).getD (q, [])).2) :
    Refit p e r := by
  cases u : q.unresolved with
  | true =>
    rw [settle?_open u] at fits ends effects
    have config : q.config = p.config := congrArg Prod.fst same
    have leased : q.leased = p.leased := congrArg (·.2.2.2) same
    refine .strips (.inl ⟨unsettled ▸ u, ends⟩) ?_ ?_
    · rw [fits, ← config]
      rfl
    · rw [effects, fittingEffects_append, calm, ← leased]
      exact q.fittingEffects_farewell _ _ _
  | false =>
    rw [settle?_shut u] at fits ends effects
    refine .still h (fits.trans same) (ends.trans unsettled) ?_
    rw [effects, fittingEffects_append, calm]
    rfl

/-- The answer to a question for a ready task leaves timers and lease alone, or ends the run. -/
lemma refit_answerReady (p : Pool) (q : ReadyQuestion) (answer : Except String Bool)
    (now : Instant) (idle : Bool) (historical : SystemInfo) :
    Refit p (.answerReady q answer now idle historical)
      (p.answerReady answer now idle historical) := by
  cases answer with
  | error detail =>
    exact .settles p [] rfl rfl rfl rfl rfl rfl rfl
  | ok ready =>
    cases ready with
    | false =>
      refine .still rfl rfl rfl ?_
      rw [answerReady]
      dsimp only
      split <;> rfl
    | true =>
      simp only [answerReady]
      split
      · obtain ⟨starts, wants, e⟩ := askForTask_step (p.launch now) [.launchTask] now idle
        rw [e]
        exact .still rfl rfl rfl rfl
      · exact .still rfl rfl rfl rfl

/-- The answer to a question for the end leaves timers and lease alone, or ends the run. -/
lemma refit_answerFinished (p : Pool) (q : FinishQuestion) (answer : Except String Bool)
    (historical : SystemInfo) :
    Refit p (.answerFinished q answer historical) (p.answerFinished answer historical) := by
  cases answer with
  | error detail => exact .settles p [] rfl rfl rfl rfl rfl rfl rfl
  | ok finished =>
    cases finished with
    | false => exact .still rfl rfl rfl rfl
    | true =>
      simp only [answerFinished]
      split
      · exact .settles p [] rfl rfl rfl rfl rfl rfl rfl
      · exact .still rfl rfl rfl rfl

/-- A task that settles leaves timers and lease alone, or ends the run. -/
lemma refit_settleTask (p : Pool) (task : Nat) (result : TaskResult) (historical : SystemInfo) :
    Refit p (.settleTask task result historical) (.plain (p.taskSettled result historical)) := by
  have calm : fittingEffects (if p.state.recordSettled.1 then [.wakeDrained] else []) = [] := by
    split <;> rfl
  unfold taskSettled
  cases result.error? with
  | some error =>
    exact .settles { p with state := p.state.recordSettled.2 } _ rfl rfl rfl calm rfl rfl rfl
  | none =>
    refine .still rfl rfl rfl ?_
    rw [CheckStep.plain, fittingEffects_append, calm]
    split <;> rfl

/-- Every event leaves timers and lease alone, equips a run, or strips a pool. -/
theorem respond_refit (p : Pool) (e : Event) : Refit p e (p.respond e) := by
  cases e with
  | callRun =>
    by_cases h : p.phase = .idle
    · rw [callRun_idle h]
      exact .stays nofun (fun _ => rfl) rfl rfl
    · rw [callRun_busy h]
      exact .still rfl rfl rfl rfl
  | equip call =>
    rw [respond, CheckStep.plain]
    cases h : p.closed with
    | true =>
      obtain ⟨same, calm⟩ := equip_shut h
      refine .stays (fun _ => h) ?_ (congrArg _ same) calm
      intro u
      rw [same, u]
    | false =>
      obtain ⟨fits, unsettled, effects⟩ := equip_fits h
      exact .equips rfl h unsettled fits effects
  | returnRun call => exact .strips (.inr ⟨call, rfl, rfl⟩) rfl p.fittingEffects_teardown
  | dropRun => exact .still rfl rfl rfl rfl
  | abort historical =>
    rw [respond, CheckStep.plain, abort]
    cases u : p.unresolved with
    | true =>
      rw [settle?_open u]
      exact .strips (.inl ⟨u, rfl⟩) rfl (p.fittingEffects_farewell _ _ _)
    | false =>
      rw [settle?_shut u, Option.getD]
      split
      · exact .still rfl rfl u.symm rfl
      · exact .still rfl rfl rfl rfl
  | callPause =>
    rw [respond, CheckStep.plain, pause]
    split
    · exact .still rfl rfl rfl rfl
    · exact .still rfl rfl rfl rfl
  | pollPause => exact .still rfl rfl rfl rfl
  | resume =>
    rw [respond, CheckStep.plain, resume]
    split
    · exact .still rfl rfl rfl (fittingEffects_notify _)
    · exact .still rfl rfl rfl rfl
  | notify => exact .still rfl rfl rfl p.fittingEffects_notify
  | setMin => exact .still rfl rfl rfl rfl
  | setMax => exact .still rfl rfl rfl rfl
  | setDesired => exact .still rfl rfl rfl rfl
  | autoscale idle =>
    rw [respond, autoscale]
    split
    · cases p.state.autoscale idle p.config with
      | error fault => exact .still rfl rfl rfl rfl
      | ok r => exact .still rfl rfl rfl rfl
    · exact .still rfl rfl rfl rfl
  | report => exact .still rfl rfl rfl rfl
  | enterStartCheck timed now idle =>
    obtain ⟨starts, wants, e⟩ := askForTask_step { p with startCheckBusy := true } [] now idle
    rw [respond, enterStartCheck, e]
    split
    · exact .still rfl rfl rfl rfl
    · exact .still rfl rfl rfl rfl
  | answerReady q answer now idle historical =>
    exact refit_answerReady p q answer now idle historical
  | dropStartCheck => exact .still rfl rfl rfl rfl
  | enterFinishCheck =>
    rw [respond, enterFinishCheck]
    split
    · exact .still rfl rfl rfl rfl
    · split
      · exact .still rfl rfl rfl rfl
      · exact .still rfl rfl rfl rfl
  | answerFinished q answer historical => exact refit_answerFinished p q answer historical
  | settleTask task result historical => exact refit_settleTask p task result historical

/-! ## Along a run -/

/-- The run was equipped. -/
def equipped (ms : List Moment) : Bool := ms.any (·.event.equips)

/-- The call has begun the run and has not equipped it yet. -/
def RunCall.isBegun : RunCall → Bool
  | begun => true
  | _ => false

/-- The fittings that belong to a run, by whether it has begun, is open, and was equipped. -/
def fittingsFor (c : PoolConfig) (begun unresolved equipped : Bool) :
    PoolConfig × Bool × List PoolTimer × Bool :=
  (c, begun && !unresolved, if equipped && unresolved then timersFor c else [],
    equipped && unresolved)

/-- What an event means for a run that has begun or not, and is open or not. -/
inductive Passage : Bool → Bool → Bool → Bool → Prop where
  | same {begun unresolved} : Passage begun unresolved begun unresolved
  | begins : Passage false false true true
  | ends : Passage true true true false

/-- A pool that is idle has not begun a run. -/
lemma Standing.begun_of_idle {ms} {s : Situation} (sd : Standing ms s)
    (idle : s.pool.phase = .idle) : begun ms = false := by
  have st := sd.stands
  rw [idle] at st
  generalize begun ms = b, s.sent = sent at st
  cases st with
  | fresh => rfl

/-- A run begins at most once, and ends at most once. -/
lemma Run.passes {ms s} (run : Run ms s) (e : Event) :
    Passage (begun ms) s.pool.unresolved (begun (⟨s, e⟩ :: ms)) (s.next e).pool.unresolved := by
  have sd := run.standing
  have later : begun (⟨s, e⟩ :: ms) = ((Moment.mk s e).begins || begun ms) := List.any_cons
  cases s.fate sd.unresolved e with
  | ends active _ e1 =>
    have b := (sd.stands.of_active active).1
    rw [e1, sd.unresolved, active, begun_cons b, b]
    exact .ends
  | begins b idle _ e1 =>
    rw [e1, sd.unresolved, idle, later, b, sd.begun_of_idle idle]
    exact .begins
  | goesOn b _ _ e1 =>
    rw [e1, later, b, Bool.false_or]
    exact .same

/-- Replacing an element of a list leaves the count of all others. -/
lemma countP_replace {α : Type} {l : List α} {i : Nat} {a : α} (P : α → Bool) (b : α)
    (h : l[i]? = some a) :
    ∃ others, l.countP P = others + (P a).toNat ∧ (l.set i b).countP P = others + (P b).toNat := by
  obtain ⟨lt, e⟩ := List.getElem?_eq_some_iff.mp h
  have le : (P a).toNat ≤ l.countP P := by
    cases pa : P a with
    | true => exact List.countP_pos_iff.mpr ⟨a, List.mem_of_getElem? h, pa⟩
    | false => exact Nat.zero_le _
  refine ⟨l.countP P - (P a).toNat, (Nat.sub_add_cancel le).symm, ?_⟩
  rw [List.countP_set lt, e]
  cases P a <;> cases P b <;> rfl

/-- Along a run that has begun, either one call is still to equip it, or one has done so. -/
lemma Run.equips_once {ms s} (run : Run ms s) :
    s.runs.countP (·.isBegun) + ms.countP (·.event.equips) = (begun ms).toNat := by
  induction run with
  | start => rfl
  | @step ms s e run enabled ih =>
    rw [s.next_runs]
    cases e with
    | callRun =>
      have equips : (⟨s, .callRun⟩ :: ms : List Moment).countP (·.event.equips) =
        ms.countP (·.event.equips) := rfl
      rw [Situation.take, List.countP_append, equips, Nat.add_right_comm, ih]
      by_cases idle : s.pool.phase = .idle
      · have begins : begun (⟨s, .callRun⟩ :: ms) = true := by
          rw [begun, List.any_cons, Moment.begins, beq_iff_eq.mpr idle, Bool.true_or]
        rw [run.standing.begun_of_idle idle, begins, Situation.newRunCall, beginRun, if_pos idle]
        rfl
      · have same : begun (⟨s, .callRun⟩ :: ms) = begun ms := by
          rw [begun, List.any_cons, Moment.begins, beq_eq_false_iff_ne.mpr idle, Bool.false_or,
            begun]
        rw [same, Situation.newRunCall, beginRun, if_neg idle]
        rfl
    | equip call =>
      obtain ⟨others, before, after⟩ := countP_replace (·.isBegun) .awaiting enabled
      have begins : begun (⟨s, .equip call⟩ :: ms) = begun ms := rfl
      rw [begins, ← ih, Situation.take, after, before, List.countP_cons_of_pos rfl]
      exact Nat.add_right_comm others _ 1
    | returnRun call =>
      obtain ⟨others, before, after⟩ :=
        countP_replace (·.isBegun) (.returned (s.sent.getD (.ok ()))) enabled.1
      rw [before] at ih
      rw [Situation.take, after]
      exact ih
    | dropRun call =>
      obtain ⟨others, before, after⟩ := countP_replace (·.isBegun) .dropped enabled
      rw [before] at ih
      rw [Situation.take, after]
      exact ih
    | _ => exact ih

/-- Without an event that equips there is nothing equipped. -/
lemma equipped_of_count {ms : List Moment} (h : ms.countP (·.event.equips) = 0) :
    equipped ms = false := by
  rw [equipped, List.any_eq_false]
  exact List.countP_eq_zero.mp h

/-- A run that has not begun is not equipped. -/
lemma Run.equipped_of_unbegun {ms s} (run : Run ms s) (h : begun ms = false) :
    equipped ms = false := by
  have once := run.equips_once
  rw [h] at once
  exact equipped_of_count (Nat.eq_zero_of_add_eq_zero once).2

/-- An active run was equipped, unless a call is still to do so. -/
lemma Run.equipped_of_active {ms} {s : Situation} (run : Run ms s)
    (active : s.pool.phase.isActive = true) (settled : .begun ∉ s.runs) : equipped ms = true := by
  have none : s.runs.countP (·.isBegun) = 0 := by
    refine List.countP_eq_zero.mpr ?_
    intro call mem
    cases call with
    | begun => exact absurd mem settled
    | _ => nofun
  have once := run.equips_once
  rw [none, (run.standing.stands.of_active active).1, Nat.zero_add] at once
  have pos : 0 < ms.countP (·.event.equips) := by
    rw [once]
    exact Nat.one_pos
  obtain ⟨m, mem, equips⟩ := List.countP_pos_iff.mp pos
  exact List.any_eq_true.mpr ⟨m, mem, equips⟩

/-- A run is equipped once it has begun, and only then. -/
lemma Run.equips_first {ms s e} (run : Run ms s) (enabled : s.Enabled e) (h : e.equips = true) :
    begun ms = true ∧ equipped ms = false := by
  cases e with
  | equip call =>
    have b := run.standing.begun_of_pending (.inl enabled)
    have pos : 0 < s.runs.countP (·.isBegun) :=
      List.countP_pos_iff.mpr ⟨_, List.mem_of_getElem? enabled, rfl⟩
    have once := run.equips_once
    rw [b, Bool.toNat_true] at once
    have none : ms.countP (·.event.equips) = 0 := by omega
    exact ⟨b, equipped_of_count none⟩
  | _ => cases h

/-- The fittings follow the run through an event. -/
lemma Refit.fits {p : Pool} {e : Event} {r : CheckStep} {b b1 q} (refit : Refit p e r)
    (fits : p.fittings = fittingsFor p.config b p.unresolved q)
    (passage : Passage b p.unresolved b1 r.pool.unresolved)
    (unbegun : b = false → q = false) (equips : e.equips = true → b = true)
    (returns : ∀ call, e = .returnRun call → b = true ∧ p.unresolved = false) :
    r.pool.fittings = fittingsFor p.config b1 r.pool.unresolved (e.equips || q) := by
  have shut : p.closed = (b && !p.unresolved) := congrArg (·.2.1) fits
  cases refit with
  | stays vain stays same =>
    rw [same, fits]
    generalize p.unresolved = u, r.pool.unresolved = u1 at *
    cases passage with
    | same =>
      cases h : e.equips with
      | false => rfl
      | true =>
        -- The pool was torn down, so the run is not open.
        rw [vain h, equips h] at shut
        cases u with
        | true => cases shut
        | false => rw [fittingsFor, fittingsFor, Bool.and_false, Bool.and_false]
    | begins =>
      cases h : e.equips with
      | true => cases equips h
      | false => rw [unbegun rfl]; rfl
    | ends => cases stays rfl
  | equips h still unsettled fitted =>
    rw [still, equips h] at shut
    rw [fitted, h, Bool.true_or]
    rw [equips h] at passage
    generalize p.unresolved = u, r.pool.unresolved = u1 at *
    subst unsettled
    cases u1 with
    | true =>
      cases passage with
      | same => rfl
    | false => cases shut
  | strips ends bare =>
    rw [bare]
    generalize p.unresolved = u, r.pool.unresolved = u1 at *
    -- The run has begun, and it ends or had ended.
    have shape : b1 = true ∧ u1 = false := by
      cases ends with
      | inl open1 =>
        obtain ⟨e1, e2⟩ := open1
        subst e1 e2
        cases passage with
        | ends => exact ⟨rfl, rfl⟩
      | inr returned =>
        obtain ⟨call, e1, e2⟩ := returned
        obtain ⟨e3, e4⟩ := returns call e1
        subst e2 e3 e4
        cases passage with
        | same => exact ⟨rfl, rfl⟩
    rw [shape.1, shape.2, fittingsFor, Bool.and_false]
    rfl

/-- The timers and the lease of a pool follow its run. -/
theorem Run.fitted {ms s} (run : Run ms s) :
    s.pool.fittings = fittingsFor s.pool.config (begun ms) s.pool.unresolved (equipped ms) := by
  induction run with
  | start e =>
    obtain ⟨_, e1⟩ := new_inv e
    subst e1
    rfl
  | @step ms s e run enabled ih =>
    have returns : ∀ call, e = .returnRun call → begun ms = true ∧ s.pool.unresolved = false := by
      intro call e1
      subst e1
      exact ⟨run.standing.begun_of_pending (.inr enabled.1), enabled.2⟩
    have fits := (respond_refit s.pool e).fits ih (run.passes e) run.equipped_of_unbegun
      (fun h => (run.equips_first enabled h).1) returns
    have config : (s.next e).pool.config = s.pool.config := congrArg Prod.fst fits
    rw [config]
    exact fits

end Pool

end Headroom
