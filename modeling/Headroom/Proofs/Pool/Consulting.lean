import Headroom.Proofs.Pool.Finishing

/-!
# When a pool asks for the end of the run

A check for the end of the run is spawned on two occasions: a no to the question for a ready task
comes with no task in flight, or a task of a running pool succeeds. `Run.consulted` shows that each
question for the end of the run has an occasion of its own, and is asked only of a running pool
whose tasks have all settled. So in a run where every task asked for is ready, the question is asked
at most once for each task that succeeded.

The two checks that a success spawns are independent of each other. The question for the end may be
asked while the question for a ready task is still open, though the answer to it will be yes
(`Run.consulted_while_ready`).
-/

namespace Headroom

/-- The effect spawns a check for the end of the run. -/
@[simp]
def PoolEffect.isFinishCheck : PoolEffect → Bool
  | spawnFinishCheck => true
  | _ => false

namespace Pool

namespace Moment

/-- A no to the question for a ready task comes, and no task is in flight. -/
def runsDry (m : Moment) : Bool :=
  match m.event with
  | .answerReady _ (.ok false) .. => m.before.pool.isDrained
  | _ => false

/-- A task of a running pool succeeds. -/
def succeeds (m : Moment) : Bool :=
  match m.event with
  | .settleTask _ .succeeded _ => m.before.pool.phase == .running
  | _ => false

end Moment

/-- How often the pool ran dry. -/
def dryCount (ms : List Moment) : Nat := ms.countP (·.runsDry)

/-- How many tasks succeeded while the pool ran. -/
def successCount (ms : List Moment) : Nat := ms.countP (·.succeeds)

/-- How many questions for the end of the run were asked. -/
def endCount (ms : List Moment) : Nat := ms.countP (·.asksEnd?.isSome)

/-- Every answer to a question for a ready task was yes. -/
def AlwaysReady (ms : List Moment) : Prop :=
  ∀ m ∈ ms, ∀ q answer now idle historical,
    m.event = .answerReady q answer now idle historical → answer = .ok true

/-- When the questions for the end of the run are asked. -/
structure Consulted (ms : List Moment) : Prop where
  /-- The pool runs, no task is in flight, and every task that was launched has settled. -/
  drained : ∀ later m earlier q, ms = later ++ m :: earlier → m.asksEnd? = some q →
    m.before.pool.phase = .running ∧ m.before.inFlight = [] ∧
      ∀ task < launchCount earlier, (settlements earlier).count task = 1
  /-- The pool ran dry or had a success for each of them. -/
  occasioned : ∀ later m earlier q, ms = later ++ m :: earlier → m.asksEnd? = some q →
    endCount (m :: earlier) ≤ dryCount earlier + successCount earlier
  /-- Where every answer so far was yes, it had a success for each of them. -/
  ready : ∀ later m earlier q, ms = later ++ m :: earlier → m.asksEnd? = some q →
    AlwaysReady earlier → endCount (m :: earlier) ≤ successCount earlier

/-! ## Spawning checks -/

/-- How many checks for the end of the run effects spawn. -/
def finishSpawns (effects : List PoolEffect) : Nat := effects.countP (·.isFinishCheck)

/-- Checks that are spawned in two stretches add up. -/
@[simp]
lemma finishSpawns_append (fx gx : List PoolEffect) :
    finishSpawns (fx ++ gx) = finishSpawns fx + finishSpawns gx := List.countP_append

/-- Tearing down spawns no check. -/
@[simp]
lemma finishSpawns_teardown (p : Pool) : finishSpawns p.teardown.2 = 0 := by
  rw [teardown]
  cases p.leased with
  | true => rfl
  | false => rfl

/-- The end of a run spawns no check. -/
@[simp]
lemma finishSpawns_farewell (p : Pool) (outcome phase historical) :
    finishSpawns (p.farewell outcome phase historical) = 0 := by
  rw [farewell, finishSpawns_append, finishSpawns_teardown]
  rfl

/-- A failure spawns no check. -/
@[simp]
lemma finishSpawns_fail (p : Pool) (e historical) : finishSpawns (p.fail e historical).2 = 0 := by
  cases u : p.unresolved with
  | true => rw [fail_open u]; exact finishSpawns_farewell _ _ _ _
  | false => rw [fail_shut u]; rfl

/-- Ending a run spawns no check, open or not. -/
@[simp]
lemma finishSpawns_settle? (p : Pool) (outcome phase historical) :
    finishSpawns ((p.settle? outcome phase historical).getD (p, [])).2 = 0 := by
  cases u : p.unresolved with
  | true => rw [settle?_open u]; exact finishSpawns_farewell _ _ _ _
  | false => rw [settle?_shut u]; rfl

/-- An abort spawns no check. -/
@[simp]
lemma finishSpawns_abort (p : Pool) (historical) : finishSpawns (p.abort historical).2 = 0 := by
  rw [abort]
  cases u : p.unresolved with
  | true => rw [settle?_open u]; exact finishSpawns_farewell _ _ _ _
  | false =>
    rw [settle?_shut u, Option.getD]
    split <;> rfl

/-- Equipping a run spawns no check for its end. -/
@[simp]
lemma finishSpawns_equip (p : Pool) : finishSpawns p.equip.2 = 0 := by
  have e : p.equip.2 = p.startTimers.2 ++ _ := rfl
  rw [e, finishSpawns_append, startTimers]
  split
  · rfl
  · simp [finishSpawns, List.countP_map]

/-- Asking for a check spawns none for the end of the run. -/
@[simp]
lemma finishSpawns_notify (p : Pool) : finishSpawns p.notify = 0 := by
  rw [notify]
  split <;> rfl

/-- A task that settles spawns a check if it succeeds while the pool runs. -/
lemma finishSpawns_settleTask (p : Pool) (result : TaskResult) (historical : SystemInfo) :
    finishSpawns (p.taskSettled result historical).2 =
      (result.error?.isNone && p.phase == .running).toNat := by
  have wake : finishSpawns (if p.state.recordSettled.1 then [.wakeDrained] else []) = 0 := by
    split <;> rfl
  unfold taskSettled
  cases result.error? with
  | some e =>
    dsimp only
    rw [finishSpawns_append, wake, finishSpawns_fail]
    rfl
  | none =>
    have e : Pool.phase { p with state := p.state.recordSettled.2 } = p.phase := rfl
    dsimp only
    rw [finishSpawns_append, wake, e]
    cases p.phase with
    | _ => rfl

/-- Checks for the end of the run are spawned where the pool runs dry and where a task succeeds. -/
lemma Moment.finishSpawns_eq (m : Moment) :
    finishSpawns m.effects = m.runsDry.toNat + m.succeeds.toNat := by
  obtain ⟨s, e⟩ := m
  cases e with
  | equip => exact finishSpawns_equip s.pool
  | returnRun => exact finishSpawns_teardown s.pool
  | abort historical => exact finishSpawns_abort s.pool historical
  | callPause =>
    rw [effects, respond, CheckStep.plain, pause]
    split <;> rfl
  | resume =>
    rw [effects, respond, CheckStep.plain, resume]
    split
    · exact finishSpawns_notify _
    · rfl
  | notify => exact finishSpawns_notify s.pool
  | enterStartCheck timed now idle =>
    -- The head of the loop asks or gives up, and spawns nothing.
    obtain ⟨starts, wants, e⟩ := askForTask_step { s.pool with startCheckBusy := true } [] now idle
    rw [effects, respond, enterStartCheck, e]
    split <;> rfl
  | answerReady q answer now idle historical =>
    cases answer with
    | error detail => exact finishSpawns_fail s.pool _ _
    | ok ready =>
      cases ready with
      | false =>
        simp only [effects, respond, answerReady, runsDry, succeeds]
        cases s.pool.isDrained with
        | true => rfl
        | false => rfl
      | true =>
        simp only [effects, respond, answerReady]
        split
        · obtain ⟨starts, wants, e⟩ := askForTask_step (s.pool.launch now) [.launchTask] now idle
          rw [e]
          rfl
        · rfl
  | enterFinishCheck =>
    simp only [effects, respond]
    cases s.pool.enterFinishCheck_cases with
    | inl asks => rw [asks.1]; rfl
    | inr refused => rw [refused]; rfl
  | answerFinished q answer historical =>
    cases answer with
    | error detail => exact finishSpawns_fail s.pool _ _
    | ok finished =>
      cases finished with
      | false => rfl
      | true =>
        simp only [effects, respond, answerFinished]
        split
        · exact finishSpawns_settle? s.pool _ _ _
        · rfl
  | settleTask task result historical =>
    have e := finishSpawns_settleTask s.pool result historical
    cases result with
    | succeeded => exact e.trans (Nat.zero_add _).symm
    | failed => exact e
    | panicked => exact e
  | _ => rfl

/-- Every spawned check is counted. -/
lemma Surroundings.foldl_finishChecks (fx : List PoolEffect) (w : Surroundings) :
    (fx.foldl perform w).finishChecks = w.finishChecks + finishSpawns fx := by
  induction fx generalizing w with
  | nil => rfl
  | cons f fx ih =>
    rw [List.foldl_cons, ih, finishSpawns, finishSpawns, List.countP_cons]
    cases f with
    | spawnFinishCheck => exact Nat.add_right_comm _ _ _
    | _ => rfl

/-- A check that begins is not among the spawned ones any more. -/
lemma Situation.next_finishChecks (s : Situation) (e : Event) :
    (s.next e).finishChecks =
      (s.take e).finishChecks + (Moment.mk s e).runsDry.toNat + (Moment.mk s e).succeeds.toNat := by
  rw [next, Surroundings.foldl_finishChecks, Nat.add_assoc, ← Moment.finishSpawns_eq]
  rfl

/-! ## Along a run -/

/-- The questions for the end of the run, and the checks for it that have not begun, are covered by
the occasions. -/
structure Occasioned (ms : List Moment) (s : Situation) : Prop where
  asked : s.finishAsked = endCount ms
  covered : s.finishAsked + s.finishChecks ≤ dryCount ms + successCount ms

/-- Only a check that begins asks, and it was spawned before. -/
lemma Situation.Enabled.asks_or_takes {s : Situation} {e : Event} (enabled : s.Enabled e) :
    (s.newFinish? e).isSome.toNat + (s.take e).finishChecks ≤ s.finishChecks := by
  cases e with
  | enterFinishCheck =>
    have pos : 0 < s.finishChecks := enabled
    have one := Bool.toNat_le (s.newFinish? .enterFinishCheck).isSome
    have e1 : (s.take .enterFinishCheck).finishChecks = s.finishChecks - 1 := rfl
    omega
  | _ => exact Nat.le_of_eq (Nat.zero_add _)

/-- Every event keeps the questions within their occasions. -/
lemma Occasioned.next {ms s e} (oc : Occasioned ms s) (enabled : s.Enabled e) :
    Occasioned (⟨s, e⟩ :: ms) (s.next e) := by
  have asked : (s.next e).finishAsked = s.finishAsked + (s.newFinish? e).isSome.toNat := rfl
  have ends : endCount (⟨s, e⟩ :: ms) = endCount ms + (s.newFinish? e).isSome.toNat := by
    rw [endCount, List.countP_cons, Moment.asksEnd?]
    cases (s.newFinish? e).isSome <;> rfl
  have dry : dryCount (⟨s, e⟩ :: ms) = dryCount ms + (Moment.mk s e).runsDry.toNat := by
    rw [dryCount, List.countP_cons]
    cases (Moment.mk s e).runsDry <;> rfl
  have success : successCount (⟨s, e⟩ :: ms) =
      successCount ms + (Moment.mk s e).succeeds.toNat := by
    rw [successCount, List.countP_cons]
    cases (Moment.mk s e).succeeds <;> rfl
  constructor
  · rw [asked, ends, oc.asked]
  · -- A check that asks is taken off the spawned ones, and an occasion adds one to both sides.
    have spent := enabled.asks_or_takes
    have covered := oc.covered
    rw [asked, s.next_finishChecks, dry, success]
    omega

/-- Along a run, every question for the end has an occasion. -/
lemma Run.occasioned {ms s} (run : Run ms s) : Occasioned ms s := by
  induction run with
  | start e =>
    obtain ⟨_, e1⟩ := new_inv e
    subst e1
    exact ⟨rfl, Nat.le_refl _⟩
  | step _ enabled ih => exact ih.next enabled

/-- Where every answer was yes, the pool never ran dry. -/
lemma AlwaysReady.dryCount {ms} (ready : AlwaysReady ms) : dryCount ms = 0 := by
  rw [Pool.dryCount, List.countP_eq_zero]
  intro m mem dry
  rw [Moment.runsDry] at dry
  split at dry
  · next e => cases ready m mem _ _ _ _ _ e
  · cases dry

/-- Each question for the end of the run has an occasion before it. -/
lemma Run.endCount_le {m earlier s q} (run : Run (m :: earlier) s) (asks : m.asksEnd? = some q) :
    endCount (m :: earlier) ≤ dryCount earlier + successCount earlier := by
  cases run with
  | @step _ s e run1 enabled =>
    have oc := run1.occasioned
    have spent := enabled.asks_or_takes
    have covered := oc.covered
    have e1 : endCount (⟨s, e⟩ :: earlier) = endCount earlier + 1 := by
      rw [endCount, List.countP_cons, asks]
      rfl
    have one : (s.newFinish? e).isSome.toNat = 1 := by
      have e2 : s.newFinish? e = some q := asks
      rw [e2]
      rfl
    rw [e1, ← oc.asked]
    omega

/-- Along a run, the question for the end is asked only while the pool runs and all tasks launched
have settled, and only as often as the pool ran dry or a task succeeded. -/
theorem Run.consulted {ms s} (run : Run ms s) : Consulted ms where
  drained later m earlier q e asks := by
    subst e
    obtain ⟨run1, _⟩ := run.split
    obtain ⟨_, _, running, drained, _⟩ := newFinish?_inv asks
    have none := run1.drained drained
    refine ⟨running, none, ?_⟩
    intro task lt
    rw [run1.count_settlements none, run1.tallied.launched, if_pos lt]
  occasioned later m earlier q e asks := by
    subst e
    obtain ⟨run1, enabled⟩ := run.split
    exact (run1.step enabled).endCount_le asks
  ready later m earlier q e asks ready := by
    subst e
    obtain ⟨run1, enabled⟩ := run.split
    have le := (run1.step enabled).endCount_le asks
    rw [ready.dryCount, Nat.zero_add] at le
    exact le

/-- The pool runs dry, and the question for the end of the run is asked once. -/
theorem Run.consulted_of_dry :
    ∃ ms s, Run ms s ∧ Consulted ms ∧ endCount ms = 1 ∧ dryCount ms = 1 ∧ successCount ms = 0 := by
  obtain ⟨h⟩ := nonempty_systemInfo
  have run0 := Run.fresh (c := { loggingSecs := .zero }) (by decide +kernel)
  have run1 := run0.step (e := .callRun) trivial
  have run2 := run1.step (e := .enterStartCheck false 0 true) trivial
  have run3 := run2.step (e := .answerReady ⟨0, 0, false, true, 1⟩ (.ok false) 0 true h)
    List.mem_cons_self
  have run4 := run3.step (e := .enterFinishCheck) Nat.one_pos
  exact ⟨_, _, run4, run4.consulted, rfl, rfl, rfl⟩

/-- Every answer to a question for a ready task is yes, and yet the question for the end of the run
is asked: a task has succeeded, and the answer to the next question for a ready task is late. -/
theorem Run.consulted_while_ready :
    ∃ ms s, Run ms s ∧ AlwaysReady ms ∧ endCount ms = 1 ∧ s.readyOpen.length = 1 := by
  obtain ⟨h⟩ := nonempty_systemInfo
  have run0 := Run.fresh (c := { loggingSecs := .zero }) (by decide +kernel)
  have run1 := run0.step (e := .callRun) trivial
  have run2 := run1.step (e := .equip 0) rfl
  have run3 := run2.step (e := .enterStartCheck false 0 true) trivial
  have run4 := run3.step (e := .answerReady ⟨0, 0, false, true, 1⟩ (.ok true) 20 true h)
    List.mem_cons_self
  have run5 := run4.step (e := .settleTask 0 .succeeded h) List.mem_cons_self
  -- Both checks of the task's end begin.
  have run6 := run5.step (e := .enterStartCheck false 30 true) trivial
  have run7 := run6.step (e := .enterFinishCheck) Nat.one_pos
  refine ⟨_, _, run7, ?_, rfl, rfl⟩
  intro m mem q answer now idle historical e
  simp only [List.mem_cons, List.not_mem_nil, or_false] at mem
  rcases mem with rfl | rfl | rfl | rfl | rfl | rfl | rfl
  case inr.inr.inr.inl => cases e; rfl
  all_goals cases e

end Pool

end Headroom
