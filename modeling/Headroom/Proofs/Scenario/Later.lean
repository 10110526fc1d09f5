import Headroom.Proofs.Sampling.ClientErrors
import Headroom.Scenario.Run

/-!
# Later worlds

Whatever a world does, its snapshotter keeps its configuration and its clock does not go back
(`World.Later`). Effects and turns take no time, so that is a matter of the schedule alone, and the
configuration a matter of the calls that the snapshotter gets. Both come together for every turn of
every job (`World.turn_later`), for every action (`World.act_later`), and so for all the actions of
a scenario (`World.runActions_later`).
-/

namespace Headroom

/-! ## The clock of a schedule -/

namespace Schedule

variable {J : Type}

/-- Waking a job takes no time. -/
@[simp]
lemma wake_now (s : Schedule J) (id : JobId) : (s.wake id).now = s.now := by
  rw [wake]
  split
  · split <;> rfl
  · rfl

/-- Cancelling a job takes no time. -/
@[simp]
lemma cancel_now (s : Schedule J) (id : JobId) : (s.cancel id).now = s.now := by
  rw [cancel]
  split
  · exact wake_now _ id
  · rfl

/-- Setting an alarm takes no time. -/
@[simp]
lemma setAlarm_now (s : Schedule J) (id : JobId) (deadline : Instant) :
    (s.setAlarm id deadline).now = s.now := by
  rw [setAlarm]
  split <;> rfl

/-- Putting a job back takes no time. -/
@[simp]
lemma store_now (s : Schedule J) (id : JobId) (job : J) : (s.store id job).now = s.now := by
  rw [store]
  split <;> rfl

/-- Steps that take no time take none along a list. -/
lemma foldl_now {α : Type} {f : Schedule J → α → Schedule J} (h : ∀ s a, (f s a).now = s.now)
    (as : List α) (s : Schedule J) : (as.foldl f s).now = s.now := by
  induction as generalizing s with
  | nil => rfl
  | cons a as ih => exact (ih _).trans (h s a)

/-- Ringing the alarms takes no time. -/
@[simp]
lemma ring_now (s : Schedule J) : s.ring.now = s.now :=
  foldl_now (fun s (a : Alarm) => s.wake_now a.job) _ _

/-- Taking the next job takes no time. -/
lemma dequeue?_now {s t : Schedule J} {id : JobId} {cell : JobCell J}
    (e : s.dequeue? = some (id, cell, t)) : t.now = s.now := by
  rw [dequeue?] at e
  split at e
  · cases e
  · obtain ⟨_, _, e1⟩ := Option.map_eq_some_iff.mp e
    cases e1
    rfl

end Schedule

/-! ## Effects -/

/-- What one world may become. -/
structure World.Later (w v : World) : Prop where
  config : v.snapshotter.config = w.snapshotter.config
  clock : w.now ≤ v.now

namespace World

namespace Later

variable {u v w : World}

/-- A world is no earlier than itself. -/
lemma refl (w : World) : Later w w := ⟨rfl, Nat.le_refl _⟩

/-- What is later than a later world is later. -/
lemma trans (first : Later u v) (second : Later v w) : Later u w :=
  ⟨second.config.trans first.config, first.clock.trans second.clock⟩

/-- No time has passed. -/
lemma at_once (config : v.snapshotter.config = w.snapshotter.config) (clock : v.now = w.now) :
    Later w v := ⟨config, clock.ge⟩

/-- The snapshotter has not been called. -/
lemma of_schedule {schedule : Schedule Job} (clock : schedule.now = w.now) :
    Later w { w with schedule := schedule } := at_once rfl clock

/-- A world gets no earlier along steps that do not make it so. -/
lemma foldl {α : Type} {f : World → α → World} (h : ∀ v a, Later v (f v a)) (as : List α)
    (w : World) : Later w (as.foldl f w) := by
  induction as generalizing w with
  | nil => exact refl w
  | cons a as ih => exact (h w a).trans (ih _)

end Later

/-- Waking a job does not turn back the clock. -/
lemma wake_later (w : World) (id : JobId) : Later w (w.wake id) :=
  .of_schedule (w.schedule.wake_now id)

/-- Cancelling jobs does not turn back the clock. -/
lemma cancelAll_later (w : World) (ids : List JobId) : Later w (w.cancelAll ids) :=
  .of_schedule (Schedule.foldl_now Schedule.cancel_now ids w.schedule)

/-- Going to wait does not turn back the clock. -/
lemma waitUntil_later (w : World) (id : JobId) (deadline : Instant) (job : Job) :
    Later w (w.waitUntil id deadline job).1 :=
  .of_schedule (w.schedule.setAlarm_now id deadline)

/-- Effects of the snapshotter keep its configuration and the clock. -/
lemma performSampling_later (w : World) (fx : SamplingEffect) : Later w (w.performSampling fx) := by
  cases fx with
  | spawnSamplers =>
    have begins : Later w { w with samplerJobs := [] } := .at_once rfl rfl
    refine begins.trans (Later.foldl ?_ _ _)
    exact fun v job => .at_once rfl rfl
  | cancelSamplers =>
    exact .at_once rfl (Schedule.foldl_now Schedule.cancel_now w.samplerJobs w.schedule)
  | notice n => exact .at_once rfl rfl

/-- Starting and stopping of sampling keeps the configuration and the clock. -/
lemma switch_later (w : World) {f : Snapshotter → Snapshotter × List SamplingEffect}
    (keeps : ∀ s, (f s).1.config = s.config) : Later w (w.switch f) := by
  have begins : Later w { w with snapshotter := (f w.snapshotter).1 } := .at_once (keeps _) rfl
  exact begins.trans (Later.foldl performSampling_later _ _)

/-- Recording keeps the configuration and the clock. -/
lemma record_later (w : World) {f : Snapshotter → Snapshotter × List SamplingNotice}
    (keeps : ∀ s, (f s).1.config = s.config) : Later w (w.record f) := by
  have begins : Later w { w with snapshotter := (f w.snapshotter).1 } := .at_once (keeps _) rfl
  refine begins.trans (Later.foldl ?_ _ _)
  exact fun v n => .at_once rfl rfl

/-- One effect of a pool keeps the configuration and the clock. -/
lemma performOne_later (w : World) (i : Nat) (fx : PoolEffect) : Later w (w.performOne i fx) := by
  cases fx with
  | takeLease => exact w.switch_later fun s => s.obey_config .lease
  | dropLease => exact w.switch_later fun s => s.obey_config .release
  | armTimer t => exact .at_once rfl rfl
  | cancelTimers => exact .at_once rfl (Schedule.foldl_now Schedule.cancel_now _ w.schedule)
  | spawnStartCheck => exact .at_once rfl rfl
  | spawnFinishCheck => exact .at_once rfl rfl
  | launchTask => exact .at_once rfl rfl
  | wakeDrained =>
    have begins : Later w (w.modifySite i ({ · with drainWaiters := [] })) := .at_once rfl rfl
    exact begins.trans (Later.foldl wake_later _ _)
  | resolveRun outcome =>
    have begins : Later w (w.modifySite i ({ · with outcome := some outcome })) :=
      .at_once rfl rfl
    rw [performOne]
    split
    · exact begins.trans (wake_later _ _)
    · exact begins
  | notice n => exact .at_once rfl rfl

/-- A stretch of a pool's work keeps the configuration and the clock. -/
lemma update_later (w : World) (i : Nat) (result : Pool × List PoolEffect) :
    Later w (w.update i result) := by
  have begins : Later w (w.setPool i result.1) := .at_once rfl rfl
  exact begins.trans (Later.foldl (fun v fx => v.performOne_later i fx) _ _)

/-- The callbacks of a pool have been called before. -/
lemma updateWork_later (w : World) (i : Nat) (work : Workload) (result : Pool × List PoolEffect) :
    Later w ((w.modifySite i ({ · with work := work })).update i result) := by
  have begins : Later w (w.modifySite i ({ · with work := work })) := .at_once rfl rfl
  exact begins.trans (update_later _ _ _)

/-! ## Turns -/

/-- Taking one sample keeps the configuration and the clock. -/
lemma sampleOnce_later (w : World) (r : Sampler) : Later w (w.sampleOnce r) := by
  cases r with
  | client =>
    exact .at_once (w.snapshotter.obey_config (.observe (.client w.client.count w.now))) rfl
  | memory =>
    rw [sampleOnce]
    split
    · next reading _ =>
      exact w.record_later fun s => s.obey_config (.observe (.memory reading w.now))
    · exact .refl w
  | cpu =>
    rw [sampleOnce]
    split
    · next reading source _ =>
      have begins : Later w { w with source := source } := .at_once rfl rfl
      exact begins.trans
        (record_later _ fun s => s.obey_config (.observe (.cpu reading w.now)))
    · exact .refl w

/-- A turn of the job that measures lateness keeps the configuration and does not turn back the
clock. -/
lemma turnEventLoop_later (w : World) (id : JobId) (since : Option Instant) :
    Later w (w.turnEventLoop id since).1 := by
  cases since with
  | none => exact .refl w
  | some since =>
    rw [turnEventLoop]
    split
    · exact .at_once rfl rfl
    · exact w.waitUntil_later _ _ _

/-- A turn of a sampling job keeps the configuration and does not turn back the clock. -/
lemma turnSampler_later (w : World) (id : JobId) (r : Sampler) (deadline : Option Instant) :
    Later w (w.turnSampler id r deadline).1 := by
  cases deadline with
  | none => exact .refl w
  | some deadline =>
    rw [turnSampler]
    split
    · exact w.sampleOnce_later r
    · exact w.waitUntil_later _ _ _

/-- What the listener hears does not change the configuration. -/
lemma hear_config (s : Snapshotter) (received : Received) (now : Instant) :
    (s.hear received now).1.config = s.config := by
  cases received with
  | event e => exact s.obey_config (.observe (.pushed e now))
  | _ => rfl

/-- A turn of the listener keeps the configuration and does not turn back the clock. -/
lemma turnListener_later (w : World) (next : Nat) : Later w (w.turnListener next).1 := by
  rw [turnListener]
  split
  · next channel _ =>
    have heard : Later w (w.record (·.hear (channel.receive next).1 w.now)) :=
      w.record_later fun s => hear_config s _ _
    dsimp only
    split
    · exact heard
    · exact heard
    · exact heard
  · exact .refl w

/-- The next stretch of a check for ready tasks keeps the configuration and does not turn back the
clock. -/
lemma continueStartCheck_later (w : World) (i : Nat) (work : Workload) (timer : Option Instant)
    (step : Pool.CheckStep) : Later w (w.continueStartCheck i work timer step).1 := by
  have begins := w.update_later i (step.pool, step.effects)
  rw [continueStartCheck]
  dsimp only
  split
  · exact begins.trans (.at_once rfl rfl)
  · exact begins.trans (.at_once rfl rfl)

/-- A turn of a check for ready tasks keeps the configuration and does not turn back the clock. -/
lemma turnStartCheck_later (w : World) (id : JobId) (i : Nat) (timer : Option Instant)
    (site : PoolSite) (question : Option OpenQuestion) :
    Later w (w.turnStartCheck id i timer site question).1 := by
  cases question with
  | none => exact w.continueStartCheck_later _ _ _ _
  | some q =>
    rw [turnStartCheck]
    split
    · exact w.waitUntil_later _ _ _
    · exact w.continueStartCheck_later _ _ _ _

/-- A turn of a check for the end of the run keeps the configuration and does not turn back the
clock. -/
lemma turnFinishCheck_later (w : World) (id : JobId) (i : Nat) (site : PoolSite)
    (question : Option OpenQuestion) : Later w (w.turnFinishCheck id i site question).1 := by
  cases question with
  | none =>
    have begins := w.update_later i (site.pool.enterFinishCheck.pool,
      site.pool.enterFinishCheck.effects)
    rw [turnFinishCheck]
    dsimp only
    split
    · exact begins.trans (.at_once rfl rfl)
    · exact begins
  | some q =>
    rw [turnFinishCheck]
    split
    · exact w.waitUntil_later _ _ _
    · exact w.updateWork_later _ _ _

/-- A tick of a pool's timer keeps the configuration and does not turn back the clock. -/
lemma turnTimer_later (w : World) (id : JobId) (i : Nat) (site : PoolSite) (t : PoolTimer)
    (deadline : Option Instant) : Later w (w.turnTimer id i site t deadline).1 := by
  have ticks (next : Instant) : Later w (w.tickTimer i site next t).1 := by
    cases t with
    | autoscale =>
      rw [tickTimer]
      split
      · exact .at_once rfl rfl
      · exact .refl w
    | maybeRun => exact .refl w
    | logging => exact .at_once rfl rfl
  rw [turnTimer]
  split
  · exact .refl w
  · split
    · exact .refl w
    · split
      · exact ticks _
      · exact w.waitUntil_later _ _ _

/-- The end of a task keeps the configuration and does not turn back the clock. -/
lemma settleTask_later (w : World) (i : Nat) (site : PoolSite) (work : Workload)
    (result : TaskResult) : Later w (w.settleTask i site work result).1 :=
  w.updateWork_later _ _ _

/-- The beginning of a task keeps the configuration and does not turn back the clock. -/
lemma turnTask_later (w : World) (i : Nat) (site : PoolSite) : Later w (w.turnTask i site).1 := by
  rw [turnTask]
  dsimp only
  split
  · exact w.settleTask_later _ _ _ _
  · exact .at_once rfl rfl

/-- A turn of a task at work keeps the configuration and does not turn back the clock. -/
lemma turnWorking_later (w : World) (id : JobId) (i : Nat) (site : PoolSite) (k : Nat)
    (plan : TaskPlan) (due : Option Instant) :
    Later w (w.turnWorking id i site k plan due).1 := by
  rw [turnWorking]
  split
  · exact w.waitUntil_later _ _ _
  · exact w.settleTask_later _ _ _ _

/-- A call of `run` keeps the configuration and does not turn back the clock. -/
lemma turnRun_later (w : World) (id : JobId) (i index : Nat) (site : PoolSite) :
    Later w (w.turnRun id i index site).1 := by
  rw [turnRun]
  split
  · exact .at_once rfl rfl
  · exact (w.update_later i _).trans (.at_once rfl rfl)

/-- A look for the outcome of a run keeps the configuration and does not turn back the clock. -/
lemma turnAwaitOutcome_later (w : World) (i index : Nat) (site : PoolSite) :
    Later w (w.turnAwaitOutcome i index site).1 := by
  rw [turnAwaitOutcome]
  split
  · exact (w.update_later i _).trans (.at_once rfl rfl)
  · exact .refl w

/-- A look of a pause that waits keeps the configuration and does not turn back the clock. -/
lemma turnAwaitDrain_later (w : World) (id : JobId) (i index : Nat) (site : PoolSite)
    (timeout : Option (Duration × Instant)) :
    Later w (w.turnAwaitDrain id i index site timeout).1 := by
  rw [turnAwaitDrain]
  dsimp only
  split
  · exact .at_once rfl rfl
  · exact .at_once rfl rfl
  · split
    · refine Later.trans ?_ (waitUntil_later _ _ _ _)
      exact .at_once rfl rfl
    · exact .at_once rfl rfl

/-- What holds of a turn at every site holds of a turn that looks up its site. -/
lemma turnPoolJob_later (w : World) (i : Nat) {f : PoolSite → World × TurnEnd}
    (h : ∀ site, Later w (f site).1) : Later w (w.turnPoolJob i f).1 := by
  rw [turnPoolJob]
  split
  · exact h _
  · exact .refl w

/-- No turn changes the configuration or turns back the clock. -/
theorem turn_later (w : World) (id : JobId) (job : Job) : Later w (w.turn id job).1 := by
  cases job with
  | eventLoop since => exact w.turnEventLoop_later id since
  | sampler r deadline => exact w.turnSampler_later id r deadline
  | listener next => exact w.turnListener_later next
  | timer i t deadline => exact w.turnPoolJob_later i fun site => w.turnTimer_later id i site t _
  | startCheck i timer q =>
    exact w.turnPoolJob_later i fun site => w.turnStartCheck_later id i timer site q
  | finishCheck i q => exact w.turnPoolJob_later i fun site => w.turnFinishCheck_later id i site q
  | task i => exact w.turnPoolJob_later i fun site => w.turnTask_later i site
  | working i k plan due =>
    exact w.turnPoolJob_later i fun site => w.turnWorking_later id i site k plan due
  | run i index => exact w.turnPoolJob_later i fun site => w.turnRun_later id i index site
  | awaitOutcome i index =>
    exact w.turnPoolJob_later i fun site => w.turnAwaitOutcome_later i index site
  | pause i index timeout => exact w.turnPoolJob_later i fun site => w.update_later i _
  | awaitDrain i index timeout =>
    exact w.turnPoolJob_later i fun site => w.turnAwaitDrain_later id i index site timeout

/-- Dropping a job keeps the configuration and the clock. -/
lemma dropJob_later (w : World) (id : JobId) (job : Job) : Later w (w.dropJob id job) := by
  rw [dropJob.eq_def]
  dsimp only
  split
  · exact .at_once rfl rfl
  · exact .at_once rfl rfl
  · exact .at_once rfl rfl

/-! ## Runs -/

/-- The clock is moved forward. -/
lemma advance_later (w : World) (t : Instant) :
    Later w { w with schedule := w.schedule.advanceTo t } := ⟨rfl, Nat.le_max_left _ _⟩

/-- The clock is moved forward, and alarms ring. -/
lemma ring_later (w : World) (t : Instant) :
    Later w { w with schedule := (w.schedule.advanceTo t).ring } :=
  (w.advance_later t).trans (.of_schedule (Schedule.ring_now _))

/-- Whatever turns a world takes up to a limit, it gets no earlier. -/
lemma runUntil_later (limit : Instant) (fuel : Nat) (active : Option (JobId × Job)) (w : World) :
    Later w (runUntil limit fuel active w) := by
  induction fuel generalizing active w with
  | zero => exact .refl w
  | succ fuel ih =>
    cases active with
    | some x =>
      obtain ⟨id, job⟩ := x
      have turned := w.turn_later id job
      rw [runUntil]
      split
      · next v next e =>
        rw [e] at turned
        exact turned.trans (ih _ _)
      · next v next e =>
        rw [e] at turned
        exact turned.trans ((Later.of_schedule (Schedule.store_now _ _ _)).trans (ih _ _))
      · next v e =>
        rw [e] at turned
        have removed : Later v { v with schedule := v.schedule.remove id } := .of_schedule rfl
        exact turned.trans (removed.trans (ih _ _))
    | none =>
      rw [runUntil]
      split
      · next id cell schedule e =>
        have taken : Later w { w with schedule := schedule } :=
          .of_schedule (Schedule.dequeue?_now e)
        dsimp only
        split
        · exact taken.trans ((dropJob_later _ _ _).trans (ih _ _))
        · exact taken.trans (ih _ _)
      · split
        · next alarm _ =>
          split
          · exact (w.ring_later alarm.time).trans (ih _ _)
          · exact w.advance_later limit
        · exact w.advance_later limit

/-- A stretch of work of a pool that an action calls for. -/
lemma onPool_later (w : World) (i : Nat) (f : Pool → Pool × List PoolEffect) :
    Later w (w.onPool i f) := by
  rw [onPool]
  split
  · exact w.update_later i _
  · exact .refl w

/-- A change of a pool's bookkeeping that an action makes. -/
lemma onState_later (w : World) (i : Nat) (f : PoolState → PoolState) : Later w (w.onState i f) :=
  w.onPool_later i _

/-- A change of the channel that an action makes. -/
lemma onChannel_later {α : Type} (w : World) (absent : α)
    (f : EventChannel → α × EventChannel) : Later w (w.onChannel absent f).2 := by
  rw [onChannel]
  split
  · next channel _ =>
    have begins : Later w { w with source := .events (f channel).2 } := .at_once rfl rfl
    exact begins.trans (Later.foldl wake_later _ _)
  · exact .refl w

/-- No action changes the configuration or turns back the clock. -/
theorem act_later (w : World) (a : Action) : Later w (w.act a).2 := by
  cases a with
  | sleep d => exact w.runUntil_later _ _ none
  | block d => exact w.ring_later _
  | start => exact w.switch_later fun s => s.obey_config .start
  | stop => exact w.switch_later fun s => s.obey_config .stop
  | takeLease =>
    have begins : Later w { w with leases := w.leases.push true } := .at_once rfl rfl
    exact begins.trans (switch_later _ fun s => s.obey_config .lease)
  | dropLease index =>
    have begins : Later w { w with leases := w.leases.set! index false } := .at_once rfl rfl
    show Later w (w.returnLease index)
    rw [returnLease]
    split
    · exact begins.trans (switch_later _ fun s => s.obey_config .release)
    · exact .refl w
  | recordEvent e => exact w.record_later fun s => s.obey_config (.observe (.pushed e w.now))
  | sendEvents es => exact w.onChannel_later (es.map fun _ => false) (·.sendAll es)
  | closeChannel => exact w.onChannel_later () fun c => ((), c.close)
  | run i =>
    show Later w (w.spawnRun i)
    rw [spawnRun]
    split
    · exact .at_once rfl rfl
    · exact .refl w
  | dropRun i index =>
    show Later w (w.dropRun i index)
    rw [dropRun]
    split
    · exact w.cancelAll_later _
    · exact .refl w
  | pause i timeout =>
    show Later w (w.spawnPause i timeout)
    rw [spawnPause]
    split
    · exact .at_once rfl rfl
    · exact .refl w
  | abort i => exact w.onPool_later i (·.abort w.historical)
  | resume i => exact w.onPool_later i (·.resume)
  | notify i => exact w.onPool_later i fun p => (p, p.notify)
  | setMin i value => exact w.onState_later i (·.setMin value)
  | setMax i value => exact w.onState_later i (·.setMax value)
  | setDesired i value => exact w.onState_later i fun s => (s.setDesired value).toOption.getD s
  | _ => exact .at_once rfl rfl

/-- The actions of a scenario keep the configuration, and the clock does not go back. -/
theorem runActions_later (actions : List Action) (w : World) :
    Later w (runActions actions w).2 := by
  induction actions generalizing w with
  | nil => exact .refl w
  | cons a rest ih =>
    have acted := w.act_later a
    have rested := runUntil_later (w.act a).2.now patience none (w.act a).2
    refine (acted.trans rested).trans (Later.trans ?_ (ih _))
    exact .at_once rfl rfl

end World

end Headroom
