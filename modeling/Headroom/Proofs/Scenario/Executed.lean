import Headroom.Proofs.Pool.Finishing
import Headroom.Proofs.Pool.Outcome
import Headroom.Proofs.Scenario.Carrying

/-!
# Executed simulations

`Command.simulation` puts its tasks through a pool on a schedule of jobs, one turn after the other.
Every turn does what happens next in a simulated run, or nothing that the pool would notice
(`World.Follows.turned`). So whenever and however long a world is given turns, its pool and its
tasks are those of a simulated run (`World.Follows.runUntil`), and what is true of all simulated
runs is true of what is executed (`Command.simulation_conserves`).
-/

namespace Headroom

open Pool (Situation Simulation Simulated)

namespace World

variable {tasks : Nat} {span : Duration}

/-- A world has come as far as a simulated run in which no question is open. -/
structure Quiet (tasks : Nat) (span : Duration) (w : World) (turn : Option JobId)
    (job? : Option Job) (ms : List Pool.Moment) (s : Simulation) : Prop where
  sim : Simulated tasks span ms s
  waits : s.Awaits
  carries : Carries span w turn job? s.pool s.work s.toSurroundings s.atWork

/-- A world that goes on as a simulated run. While a question is open, the check that has asked it
has the turn. -/
inductive Follows (tasks : Nat) (span : Duration) (w : World) (turn : Option JobId) :
    Option Job → Prop where
  | quiet {ms s job?} :
    Quiet tasks span w turn job? ms s →
    (∀ job ∈ job?, job.Fits span) →
    Follows tasks span w turn job?
  | ready {ms s q timer} :
    Simulated tasks span ms s →
    s.readyOpen = [q] →
    s.finishOpen = [] →
    Carries span w turn none s.pool s.work.askReady.2 s.toSurroundings s.atWork →
    Follows tasks span w turn (some (.startCheck 0 timer (some ⟨s.work.askReady.1, none⟩)))
  | finish {ms s q} :
    Simulated tasks span ms s →
    s.readyOpen = [] →
    s.finishOpen = [q] →
    Carries span w turn none s.pool s.work.askFinished.2 s.toSurroundings s.atWork →
    Follows tasks span w turn (some (.finishCheck 0 (some ⟨s.work.askFinished.1, none⟩)))

/-- A piece of a turn goes on as a simulated run. A job that waits has nothing open. -/
structure Turned (tasks : Nat) (span : Duration) (id : JobId) (r : World × TurnEnd) : Prop where
  follows : Follows tasks span r.1 (some id) r.2.job?
  waits : ∀ job, r.2 = .wait job → job.Fits span

section

variable {w t : World} {id : JobId} {turn : Option JobId} {job? job1? : Option Job}
variable {ms : List Pool.Moment} {s : Simulation} {p : Pool} {work : Workload}
variable {u : Pool.Surroundings} {atWork : List (Nat × Nat)}

/-- After its turn the job rests with what it is to wait for. -/
lemma Turned.quiet {r : World × TurnEnd} (q : Quiet tasks span r.1 (some id) r.2.job? ms s)
    (fits : ∀ job ∈ r.2.job?, job.Fits span) : Turned tasks span id r := by
  refine ⟨.quiet q fits, ?_⟩
  intro job e
  exact fits job (by rw [e]; rfl)

/-- A job goes on in the same turn. -/
lemma Turned.goOn {job : Job} (f : Follows tasks span w (some id) (some job)) :
    Turned tasks span id (w, .goOn job) := by
  refine ⟨f, ?_⟩
  rintro _ ⟨⟩

/-- A job is done. -/
lemma Turned.done (q : Quiet tasks span w (some id) none ms s) : Turned tasks span id (w, .done) :=
  .quiet q forall_mem_none

/-- A world at rest follows a simulated run. -/
lemma Follows.rests (q : Quiet tasks span w none none ms s) : Follows tasks span w none none :=
  .quiet q forall_mem_none

/-- A turn leaves the pool alone, and nothing is owed for the job that it leaves. -/
lemma Turned.aside {ending : TurnEnd} (q : Quiet tasks span w (some id) job? ms s)
    (idles : Idles span w t) (free : ∀ job ∈ ending.job?, job.Fits span ∧ job.Idle) :
    Turned tasks span id (t, ending) := by
  refine .quiet ⟨q.sim, q.waits, ?_⟩ fun job mem => (free job mem).1
  exact (q.carries.idles idles).idle fun job mem => (free job mem).2

/-- The pool does what an event makes it do. -/
lemma Carries.respond {e : Pool.Event} (c : Carries span w turn job? p work (s.take e) atWork) :
    Carries span (w.update 0 ((s.pool.respond e).pool, (s.pool.respond e).effects)) turn job?
      (s.next e).pool work (s.next e).toSurroundings atWork := c.update _

/-! ## Turns that leave the pool alone -/

/-- Nothing happens. -/
lemma same_idles (w : World) : Idles span w w := .of_alike (.refl _) rfl

/-- Setting an alarm concerns no pool. -/
lemma setAlarm_idles (w : World) (id : JobId) (deadline : Instant) :
    Idles span w { w with schedule := w.schedule.setAlarm id deadline } :=
  .of_alike (w.schedule.setAlarm_alike id deadline) rfl

/-- Recording concerns no pool. -/
lemma record_idles (w : World) (f : Snapshotter → Snapshotter × List SamplingNotice) :
    Idles span w (w.record f) := by
  have begins : Idles span w { w with snapshotter := (f w.snapshotter).1 } :=
    .of_alike (.refl _) rfl
  have logs (n : SamplingNotice) (_ : n ∈ (f w.snapshotter).2) (v : World) :
      Idles span v (v.log n.toLog) := .of_alike (.refl _) rfl
  exact begins.trans (Idles.foldl logs _)

/-- Taking a sample concerns no pool. -/
lemma sampleOnce_idles (w : World) (what : Sampler) : Idles span w (w.sampleOnce what) := by
  cases what with
  | client => exact .of_alike (.refl _) rfl
  | memory =>
    rw [sampleOnce]
    split
    · exact w.record_idles _
    · exact w.same_idles
  | cpu =>
    rw [sampleOnce]
    split
    · next reading source _ =>
      have begins : Idles span w { w with source := source } := .of_alike (.refl _) rfl
      exact begins.trans (record_idles _ _)
    · exact w.same_idles

namespace Quiet

/-- A turn of the lateness job leaves the pool alone. -/
lemma turnEventLoop (q : Quiet tasks span w (some id) job? ms s) (since : Option Instant) :
    Turned tasks span id (w.turnEventLoop id since) := by
  have free {since} : ∀ job ∈ some (Job.eventLoop since), job.Fits span ∧ job.Idle :=
    forall_mem_some ⟨.eventLoop, .eventLoop⟩
  cases since with
  | none => exact .aside q w.same_idles free
  | some since =>
    rw [World.turnEventLoop]
    split
    · exact .aside q (.of_alike (.refl _) rfl) free
    · exact .aside q (w.setAlarm_idles _ _) free

/-- A turn of a sampling job leaves the pool alone. -/
lemma turnSampler (q : Quiet tasks span w (some id) job? ms s) (what : Sampler)
    (deadline : Option Instant) : Turned tasks span id (w.turnSampler id what deadline) := by
  have free {deadline} : ∀ job ∈ some (Job.sampler what deadline), job.Fits span ∧ job.Idle :=
    forall_mem_some ⟨.sampler, .sampler⟩
  cases deadline with
  | none => exact .aside q w.same_idles free
  | some deadline =>
    rw [World.turnSampler]
    split
    · exact .aside q (w.sampleOnce_idles what) free
    · exact .aside q (w.setAlarm_idles _ _) free

/-- A turn of the listener leaves the pool alone. -/
lemma turnListener (q : Quiet tasks span w (some id) job? ms s) (next : Nat) :
    Turned tasks span id (w.turnListener next) := by
  have free {next} : ∀ job ∈ some (Job.listener next), job.Fits span ∧ job.Idle :=
    forall_mem_some ⟨.listener, .listener⟩
  rw [World.turnListener]
  split
  · dsimp only
    split
    · exact .aside q (w.record_idles _) free
    · exact .aside q (w.record_idles _) forall_mem_none
    · exact .aside q (w.record_idles _) free
  · exact .aside q w.same_idles forall_mem_none

/-! ## Timers -/

/-- Somebody other than the callbacks acts on the pool. -/
lemma acts {e : Pool.Event} (q : Quiet tasks span w turn job? ms s) (enabled : s.Enabled e)
    (calls : e.callsBack = false)
    (backed : Backed (w.count turn job1?) (s.take e) s.atWork) :
    Simulated tasks span (⟨s.toSituation, e⟩ :: ms) { s with toSituation := s.next e } ∧
      Carries span (w.update 0 ((s.pool.respond e).pool, (s.pool.respond e).effects)) turn job1?
        (s.next e).pool s.work (s.next e).toSurroundings s.atWork :=
  ⟨q.sim.acts q.waits enabled calls, (q.carries.become (s.take_sent e) backed).respond⟩

/-- A tick of a timer is a tick in the simulated run. -/
lemma tickTimer (q : Quiet tasks span w (some id) job? ms s) {site : PoolSite}
    (e : site.pool = s.pool) (next : Instant) (timer : PoolTimer) :
    Turned tasks span id (w.tickTimer 0 site next timer) := by
  have free {timer} : ∀ job ∈ some (Job.timer 0 timer next), job.Fits span ∧ job.Idle :=
    forall_mem_some ⟨.timer, .timer⟩
  cases timer with
  | autoscale =>
    rw [World.tickTimer, e]
    split
    · next p scaled =>
      obtain ⟨sim, c⟩ := q.acts (e := .autoscale w.current.idle) trivial rfl
        (q.carries.backed_idle fun job mem => (free job mem).2)
      have e1 : (s.pool.respond (.autoscale w.current.idle)).pool = p := by
        rw [Pool.respond, scaled]
        rfl
      rw [e1] at c
      exact .quiet ⟨sim, q.waits.next rfl rfl rfl rfl, c⟩ fun job mem => (free job mem).1
    · exact .aside q w.same_idles forall_mem_none
  | maybeRun => exact .aside q w.same_idles (forall_mem_some ⟨.startCheck, .startCheck⟩)
  | logging => exact .aside q (.of_alike (.refl _) rfl) free

/-- A turn of a timer's job is a tick or a wait. -/
lemma turnTimer (q : Quiet tasks span w (some id) job? ms s) {site : PoolSite}
    (e : site.pool = s.pool) (timer : PoolTimer) (deadline : Option Instant) :
    Turned tasks span id (w.turnTimer id 0 site timer deadline) := by
  have free {deadline} : ∀ job ∈ some (Job.timer 0 timer deadline), job.Fits span ∧ job.Idle :=
    forall_mem_some ⟨.timer, .timer⟩
  rw [World.turnTimer]
  split
  · exact .aside q w.same_idles forall_mem_none
  · split
    · exact .aside q w.same_idles free
    · split
      · exact q.tickTimer e _ timer
      · exact .aside q (w.setAlarm_idles _ _) free

end Quiet

/-! ## Checks -/

/-- A question that is answered at once has no time to wait for. -/
lemma openQuestion_now (w : World) {plan : AnswerPlan} (now : plan.waits = none) :
    w.openQuestion plan = ⟨plan, none⟩ := by
  rw [openQuestion, now]
  rfl

/-- A check for ready tasks goes on after a stretch of work, with a question if there is one. -/
lemma Turned.continueStartCheck {step : Pool.CheckStep} {q? : Option Pool.ReadyQuestion}
    (sim : Simulated tasks span ms s) (asked : s.readyOpen = q?.toList)
    (asking : q?.isSome = step.asking) (alone : s.finishOpen = [])
    (c : Carries span (w.update 0 (step.pool, step.effects)) (some id) none s.pool work
      s.toSurroundings s.atWork) (timer : Option Instant) :
    Turned tasks span id (w.continueStartCheck 0 s.work timer step) := by
  rw [World.continueStartCheck]
  dsimp only
  cases q? with
  | none =>
    rw [if_neg (ne_true_of_eq_false asking.symm)]
    have free : ∀ job ∈ (afterStartCheck 0 timer).job?, job.Fits span ∧ job.Idle := by
      cases timer with
      | none => exact forall_mem_none
      | some deadline => exact forall_mem_some ⟨.timer, .timer⟩
    refine .quiet ⟨sim, ⟨asked, alone⟩, ?_⟩ fun job mem => (free job mem).1
    exact (c.setWork s.work).idle fun job mem => (free job mem).2
  | some q =>
    have asking1 : step.asking = true := asking.symm
    have now : s.work.askReady.1.waits = none := by
      rw [sim.balanced.2.sleeping.askReady]
    rw [if_pos asking1, openQuestion_now _ now]
    exact .goOn (.ready sim asked alone (c.setWork _))

/-- A check for ready tasks that begins a turn begins in the simulated run. -/
lemma Quiet.enterStartCheck (q : Quiet tasks span w (some id) job? ms s) {site : PoolSite}
    (e : site.pool = s.pool) (e1 : site.work = s.work) (timer : Option Instant) :
    Turned tasks span id (w.turnStartCheck id 0 timer site none) := by
  obtain ⟨sim, c⟩ := q.acts (e := .enterStartCheck timer.isSome w.now w.current.idle)
    trivial rfl q.carries.rest
  rw [World.turnStartCheck, e, e1]
  refine .continueStartCheck sim ?_ (Pool.newReady?_isSome rfl) ?_ c timer
  · show (s.next _).readyOpen = _
    rw [Pool.next_readyOpen rfl, q.waits.1, List.nil_append]
  · show (s.next _).finishOpen = _
    rw [Pool.next_finishOpen rfl, q.waits.2]
    rfl

/-- A question for a ready task is answered at once, and the check goes on with its loop. -/
lemma Turned.answerReady {q : Pool.ReadyQuestion} (sim : Simulated tasks span ms s)
    (asked : s.readyOpen = [q]) (alone : s.finishOpen = [])
    (c : Carries span w (some id) none s.pool work s.toSurroundings s.atWork) {site : PoolSite}
    (e : site.pool = s.pool) (e1 : site.work = s.work.askReady.2) (timer : Option Instant) :
    Turned tasks span id
      (w.turnStartCheck id 0 timer site (some ⟨s.work.askReady.1, none⟩)) := by
  have mem : q ∈ s.readyOpen := by
    rw [asked]
    exact List.mem_cons_self
  have enabled : s.Enabled
    (.answerReady q s.work.answerReady.1 w.now w.current.idle w.historical) := mem
  have sim1 := sim.answers w.now w.current.idle w.historical mem
  have c1 := Carries.respond (s := s)
    (e := .answerReady q s.work.answerReady.1 w.now w.current.idle w.historical) c
  rw [World.turnStartCheck, e, e1]
  refine .continueStartCheck sim1 ?_ (Pool.newReady?_isSome rfl) ?_ c1 timer
  · exact sim.balanced.1.slotted.close enabled rfl
  · show (s.next _).finishOpen = _
    rw [Pool.next_finishOpen rfl, alone]
    rfl

/-- A check for the end of the run begins in the simulated run. -/
lemma Quiet.enterFinishCheck {site : PoolSite}
    (q : Quiet tasks span w (some id) (some (.finishCheck 0 none)) ms s)
    (e : site.pool = s.pool) (e1 : site.work = s.work) :
    Turned tasks span id (w.turnFinishCheck id 0 site none) := by
  obtain ⟨enabled, backed⟩ := q.carries.check_begins
  obtain ⟨sim, c⟩ := q.acts (e := .enterFinishCheck) enabled rfl backed
  have quiet : (s.next .enterFinishCheck).readyOpen = [] := by
    rw [Pool.next_readyOpen rfl, q.waits.1]
    rfl
  have asked : (s.next .enterFinishCheck).finishOpen = (s.newFinish? .enterFinishCheck).toList := by
    rw [Pool.next_finishOpen rfl, q.waits.2, List.nil_append]
  rw [Situation.newFinish?] at asked
  rw [World.turnFinishCheck, e, e1]
  dsimp only
  split
  · next asking =>
    have now : s.work.askFinished.1.waits = none := by
      rw [q.sim.balanced.2.sleeping.askFinished]
    rw [if_pos asking] at asked
    rw [openQuestion_now _ now]
    exact .goOn (.finish (s := { s with toSituation := s.next .enterFinishCheck }) sim quiet asked
      (c.setWork _))
  · next asking =>
    rw [if_neg asking] at asked
    exact .done ⟨sim, ⟨quiet, asked⟩, c⟩

/-- A question for the end of the run is answered at once. -/
lemma Turned.answerFinished {q : Pool.FinishQuestion} (sim : Simulated tasks span ms s)
    (alone : s.readyOpen = []) (asked : s.finishOpen = [q])
    (c : Carries span w (some id) none s.pool work s.toSurroundings s.atWork) {site : PoolSite}
    (e : site.pool = s.pool) (e1 : site.work = s.work.askFinished.2) :
    Turned tasks span id (w.turnFinishCheck id 0 site (some ⟨s.work.askFinished.1, none⟩)) := by
  have mem : q ∈ s.finishOpen := by
    rw [asked]
    exact List.mem_cons_self
  have enabled : s.Enabled (.answerFinished q s.work.answerFinished.1 w.historical) := mem
  have sim1 := sim.decides w.historical mem
  have c1 := Carries.respond (s := s)
    (e := .answerFinished q s.work.answerFinished.1 w.historical)
    (c.setWork s.work.answerFinished.2)
  rw [World.turnFinishCheck, e, e1]
  refine .done ⟨sim1, ⟨?_, ?_⟩, c1⟩
  · show (s.next _).readyOpen = _
    rw [Pool.next_readyOpen rfl, alone]
    rfl
  · exact sim.balanced.1.end_traced.close enabled rfl

/-! ## Tasks -/

namespace Quiet

/-- A task that was launched begins in the simulated run. -/
lemma turnTask {site : PoolSite} (q : Quiet tasks span w (some id) (some (.task 0)) ms s)
    (e1 : site.work = s.work) : Turned tasks span id (w.turnTask 0 site) := by
  obtain ⟨run, ba⟩ := q.sim.balanced
  obtain ⟨task, mem, apart⟩ := s.exists_waiting q.carries.few_atWork run.tallied.inFlight_nodup
  have sim1 := q.sim.begins w.now q.waits mem apart
  have plan : (s.work.startTask w.now).2.1 = { works := some span } := by
    rw [Workload.startTask, ba.sleeping.script, ba.sleeping.default]
    rfl
  have c := q.carries.task_begins task (s.work.startTask w.now).1 { works := some span }
    (some (w.now + span))
  rw [World.turnTask, e1]
  dsimp only
  rw [plan]
  exact .quiet ⟨sim1, q.waits, c.setWork _⟩ (forall_mem_some .working)

/-- A task at work sleeps on, or ends in the simulated run. -/
lemma turnWorking {site : PoolSite} {k : Nat} {due : Option Instant}
    (q : Quiet tasks span w (some id) (some (.working 0 k { works := some span } due)) ms s)
    (e : site.pool = s.pool) (e1 : site.work = s.work) :
    Turned tasks span id (w.turnWorking id 0 site k { works := some span } due) := by
  rw [World.turnWorking]
  split
  · refine .quiet ⟨q.sim, q.waits, ?_⟩ (forall_mem_some .working)
    exact q.carries.idles (w.setAlarm_idles _ _)
  · obtain ⟨task, mem⟩ := q.carries.exists_atWork
    have sim1 := q.sim.ends w.now w.historical q.waits mem
    have c := q.carries.task_ends mem (q.sim.balanced.2.inFlight _ mem)
    have c1 := Carries.respond (s := s) (e := .settleTask task .succeeded w.historical)
      (c.setWork (s.work.endTask k w.now))
    rw [settleTask, e, e1]
    exact .done ⟨sim1, q.waits.next rfl rfl rfl rfl, c1⟩

/-! ## Calls to run -/

/-- A call of `run` begins the run and equips it, or is refused. -/
lemma turnRun {site : PoolSite} {index : Nat}
    (q : Quiet tasks span w (some id) (some (.run 0 index)) ms s) (e : site.pool = s.pool) :
    Turned tasks span id (w.turnRun id 0 index site) := by
  rw [World.turnRun, e, Pool.run]
  cases begun : s.pool.beginRun with
  | error fault =>
    have c := q.carries.ended.resolveRun index (.error fault)
    exact .done ⟨q.sim, q.waits, c⟩
  | ok p =>
    have sim1 := q.sim.acts (e := .callRun) q.waits trivial rfl
    have waits1 : (s.next .callRun).Awaits := q.waits.next rfl rfl rfl rfl
    have pool : (s.next .callRun).pool = p := by
      rw [Situation.next, Pool.respond, begun]
      rfl
    have runs : (s.next .callRun).runs = s.runs ++ [.begun] := by
      show s.runs ++ [s.newRunCall] = _
      rw [Situation.newRunCall, begun]
    have enabled : (s.next .callRun).Enabled (.equip s.runs.length) := by
      show (s.next .callRun).runs[s.runs.length]? = _
      rw [runs]
      exact List.getElem?_concat_length
    have sim2 := sim1.acts (e := .equip s.runs.length) waits1 enabled rfl
    have runs1 : ((s.next .callRun).take (.equip s.runs.length)).runs = s.runs ++ [.awaiting] := by
      show (s.next .callRun).runs.set _ _ = _
      rw [runs, List.set_append_right _ _ (Nat.le_refl _), Nat.sub_self]
      rfl
    have c : Carries span w (some id) (some (.awaitOutcome 0 index)) s.pool s.work
        ((s.next .callRun).take (.equip s.runs.length)) s.atWork :=
      q.carries.call_waits index rfl rfl rfl runs1
    have c1 := c.update p.equip
    rw [← pool] at c1 ⊢
    exact .quiet ⟨sim2, waits1.next rfl rfl rfl rfl, c1.modifySite fun _ => rfl⟩
      (forall_mem_some .awaitOutcome)

/-- A call of `run` returns with the outcome that was sent, or waits on. -/
lemma turnAwaitOutcome {site : PoolSite} {index : Nat}
    (q : Quiet tasks span w (some id) (some (.awaitOutcome 0 index)) ms s)
    (e : site.pool = s.pool) (e1 : site.outcome = s.sent) :
    Turned tasks span id (w.turnAwaitOutcome 0 index site) := by
  rw [World.turnAwaitOutcome, e, e1]
  split
  · next outcome sent =>
    obtain ⟨n, waiting⟩ := q.carries.exists_call
    have shut : s.pool.unresolved = false := by
      have sd := q.sim.balanced.1.standing
      rw [sd.unresolved]
      apply eq_false_of_ne_true
      intro active
      rw [(sd.stands.of_active active).2] at sent
      cases sent
    obtain ⟨sim1, c⟩ := q.acts (e := .returnRun n) ⟨waiting, shut⟩ rfl
      (q.carries.call_returns waiting)
    exact .done ⟨sim1, q.waits.next rfl rfl rfl rfl, c.resolveRun index outcome⟩
  · exact .quiet q (forall_mem_some .awaitOutcome)

end Quiet

/-! ## Runs -/

/-- A piece of a turn goes on as a simulated run. -/
lemma Follows.turned {job : Job} (f : Follows tasks span w (some id) (some job)) :
    Turned tasks span id (w.turn id job) := by
  cases f with
  | quiet q fits =>
    obtain ⟨site, here, pool, work, outcome⟩ := q.carries.site
    have turns (f : PoolSite → World × TurnEnd) : w.turnPoolJob 0 f = f site := by
      rw [turnPoolJob, here]
    cases fits job rfl with
    | eventLoop => exact q.turnEventLoop _
    | sampler => exact q.turnSampler _ _
    | listener => exact q.turnListener _
    | timer => rw [World.turn, turns]; exact q.turnTimer pool _ _
    | startCheck => rw [World.turn, turns]; exact q.enterStartCheck pool work _
    | finishCheck => rw [World.turn, turns]; exact q.enterFinishCheck pool work
    | task => rw [World.turn, turns]; exact q.turnTask work
    | working => rw [World.turn, turns]; exact q.turnWorking pool work
    | run => rw [World.turn, turns]; exact q.turnRun pool
    | awaitOutcome => rw [World.turn, turns]; exact q.turnAwaitOutcome pool outcome
  | ready sim asked alone c =>
    obtain ⟨site, here, pool, work, _⟩ := c.site
    rw [World.turn, turnPoolJob, here]
    exact .answerReady sim asked alone c pool work _
  | finish sim alone asked c =>
    obtain ⟨site, here, pool, work, _⟩ := c.site
    rw [World.turn, turnPoolJob, here]
    exact .answerFinished sim alone asked c pool work

/-- After its turn a job is put back. -/
lemma Turned.store {job : Job} (turned : Turned tasks span id (w, .wait job)) :
    Follows tasks span { w with schedule := w.schedule.store id job } none none := by
  have fits := turned.waits job rfl
  obtain ⟨f, _⟩ := turned
  cases f with
  | quiet q _ => exact .rests ⟨q.sim, q.waits, q.carries.store fits⟩
  | ready => cases fits
  | finish => cases fits

/-- After its last turn a job is gone. -/
lemma Turned.remove (turned : Turned tasks span id (w, .done)) :
    Follows tasks span { w with schedule := w.schedule.remove id } none none := by
  obtain ⟨f, _⟩ := turned
  cases f with
  | quiet q _ => exact .rests ⟨q.sim, q.waits, q.carries.remove⟩

/-- A cancelled job is dropped. No check is dropped that waits for an answer. -/
lemma Quiet.dropJob {job : Job} (q : Quiet tasks span w (some id) (some job) ms s)
    (fits : job.Fits span) : Follows tasks span (w.dropJob id job) none none := by
  have removed : Follows tasks span { w with schedule := w.schedule.remove id } none none :=
    .rests ⟨q.sim, q.waits, q.carries.remove⟩
  cases fits with
  | _ => exact removed

/-- However many turns are given out, a simulated run goes on. -/
lemma Follows.runUntil (limit : Instant) (fuel : Nat) (active : Option (JobId × Job))
    (f : Follows tasks span w (active.map Prod.fst) (active.map Prod.snd)) :
    ∃ turn job?, Follows tasks span (World.runUntil limit fuel active w) turn job? := by
  induction fuel generalizing active w with
  | zero => exact ⟨_, _, f⟩
  | succ fuel ih =>
    cases active with
    | some x =>
      obtain ⟨id, job⟩ := x
      have turned := f.turned
      rw [World.runUntil]
      split
      · next w1 job1 e =>
        rw [e] at turned
        exact ih (some (id, job1)) turned.follows
      · next w1 job1 e =>
        rw [e] at turned
        exact ih none turned.store
      · next w1 e =>
        rw [e] at turned
        exact ih none turned.remove
    | none =>
      cases f with
      | @quiet ms s _ q _ =>
        have rests {schedule : Schedule Job} (alike : w.schedule.Alike schedule) :
            Follows tasks span { w with schedule := schedule } none none :=
          .rests ⟨q.sim, q.waits, q.carries.idles (.of_alike alike rfl)⟩
        rw [World.runUntil]
        split
        · next id cell schedule e =>
          obtain ⟨c, fits⟩ := q.carries.dequeue e
          have q1 : Quiet tasks span _ _ _ ms s := ⟨q.sim, q.waits, c⟩
          dsimp only
          split
          · exact ih none (q1.dropJob fits)
          · exact ih (some (id, cell.job)) (.quiet q1 (forall_mem_some fits))
        · split
          · next alarm _ =>
            have rings := (w.schedule.advanceTo_alike alarm.time).trans (Schedule.ring_alike _)
            split
            · exact ih none (rests rings)
            · exact ⟨_, _, rests (w.schedule.advanceTo_alike limit)⟩
          · exact ⟨_, _, rests (w.schedule.advanceTo_alike limit)⟩

/-- A simulation starts as a simulated run. -/
lemma Follows.start {c : Config}
    (e : Command.quietWorld c [⟨c.pool, Command.sleepingTasks tasks span⟩] = .ok w) :
    Follows tasks span (w.spawnRun 0) none none := by
  rw [Command.quietWorld] at e
  dsimp only [Scenario.buildPools] at e
  rw [List.mapM_cons, List.mapM_nil] at e
  cases built : Pool.new c.pool c.snapshotter c.status with
  | error fault =>
    rw [built] at e
    cases e
  | ok p =>
    rw [built] at e
    cases e
    have sim : Simulated tasks span [] _ := .start built
    refine .rests ⟨sim, ⟨rfl, rfl⟩, ?_⟩
    exact (Carries.fresh rfl rfl).idles (.one rfl .run .run rfl)

/-! ## What is true of all simulated runs -/

/-- Every task of a pool is left, in flight or completed, and a run that has finished has completed
them all. -/
structure Conserves (tasks : Nat) (site : PoolSite) : Prop where
  conserved : ∃ left, site.work.remaining = some left ∧
    left + site.pool.state.current + site.work.completed = tasks
  /-- A task that was started is in flight or completed. -/
  started : site.work.started ≤ site.pool.state.current + site.work.completed
  finished : site.pool.phase = .finished → site.work.completed = tasks

/-- What is true of simulated runs is true at the site. -/
lemma Conserves.of_simulated {site : PoolSite} (sim : Simulated tasks span ms s)
    (pool : site.pool = s.pool) (remaining : site.work.remaining = s.work.remaining)
    (times : site.work.tasks = s.work.tasks) (completed : site.work.completed = s.work.completed) :
    Conserves tasks site := by
  obtain ⟨run, ba⟩ := sim.balanced
  obtain ⟨left, more, taken⟩ := ba.taken
  have settled := ba.settled
  have counted := run.tallied.counted
  refine ⟨⟨left, remaining.trans more, ?_⟩, ?_, ?_⟩
  · rw [pool, completed]
    omega
  · have few : s.atWork.length ≤ s.inFlight.length := ba.atWork_le
    have started : s.work.tasks.size = _ := ba.started
    rw [Workload.started, times, pool, completed, started]
    omega
  · intro finished
    rw [completed]
    exact ba.finished (pool ▸ finished)

/-- A world that follows a simulated run conserves its tasks. -/
lemma Follows.conserves (f : Follows tasks span w turn job?) :
    ∃ site, w.pools[0]? = some site ∧ Conserves tasks site := by
  cases f with
  | quiet q _ =>
    obtain ⟨site, here, pool, work, _⟩ := q.carries.site
    refine ⟨site, here, .of_simulated q.sim pool ?_ ?_ ?_⟩ <;> rw [work]
  | ready sim _ _ c =>
    obtain ⟨site, here, pool, work, _⟩ := c.site
    refine ⟨site, here, .of_simulated sim pool ?_ ?_ ?_⟩ <;> rw [work, Workload.askReady]
  | finish sim _ _ c =>
    obtain ⟨site, here, pool, work, _⟩ := c.site
    refine ⟨site, here, .of_simulated sim pool ?_ ?_ ?_⟩ <;> rw [work, Workload.askFinished]

end

end World

/-- However far a simulation is carried out, every task is left, in flight or completed. -/
theorem Command.simulation_conserves {c : Config} {tasks : Nat} {span : Duration} {w : World}
    (e : quietWorld c [⟨c.pool, sleepingTasks tasks span⟩] = .ok w) (limit : Instant) (fuel : Nat) :
    ∃ site, (World.runUntil limit fuel none (w.spawnRun 0)).pools[0]? = some site ∧
      World.Conserves tasks site := by
  obtain ⟨_, _, f⟩ := (World.Follows.start e).runUntil limit fuel none
  exact f.conserves

/-- What is reported of a simulation that has finished is the completion of all tasks. -/
theorem Command.simulation_completes {c : Config} {tasks : Nat} {span : Duration}
    {r : SimulationReport} (e : simulation c tasks span = .ok r) :
    r.completed ≤ tasks ∧ (r.phase = .finished → r.completed = tasks) := by
  rw [simulation] at e
  cases built : quietWorld c [⟨c.pool, sleepingTasks tasks span⟩] with
  | error fault =>
    rw [built] at e
    cases e
  | ok w =>
    rw [built, Except.bind] at e
    obtain ⟨site, here, con⟩ := simulation_conserves built endOfTime World.patience
    dsimp only [World.letPass] at e
    rw [here] at e
    cases e
    obtain ⟨left, _, sum⟩ := con.conserved
    exact ⟨by dsimp only; omega, con.finished⟩

end Headroom
