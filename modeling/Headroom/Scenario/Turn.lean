import Headroom.Scenario.World

/-!
# Turns

What every job does when its turn comes. A turn is cut at the points where the job might have to
wait: `World.turn` goes from one such point to the next and says whether the job goes on at once,
waits, or has ended. `World.dropJob` is the turn of a cancelled job.
-/

namespace Headroom

/-- How a piece of a turn ends. -/
inductive TurnEnd where
  | goOn (job : Job)
  | wait (job : Job)
  | done

/-- The job that a piece of a turn leaves, if it has not ended. -/
def TurnEnd.job? : TurnEnd → Option Job
  | goOn job => some job
  | wait job => some job
  | done => none

namespace World

/-- Waits with an alarm set for a deadline. -/
def waitUntil (w : World) (id : JobId) (deadline : Instant) (job : Job) : World × TurnEnd :=
  ({ w with schedule := w.schedule.setAlarm id deadline }, .wait job)

/-! ## Sampling -/

/-- The time between two ticks of a sampler. -/
def samplerPeriod (w : World) : Sampler → Duration
  | .client => w.snapshotter.config.clientInterval
  | .memory => w.snapshotter.config.memoryInterval
  | .cpu => w.snapshotter.config.cpuInterval

/-- One tick of a sampler. -/
def sampleOnce (w : World) : Sampler → World
  | .client => { w with snapshotter := w.snapshotter.sampleClient w.client.count w.now }
  | .memory =>
    match w.source.readMemory? with
    | some reading => w.record (·.sampleMemory reading w.now)
    | none => w
  | .cpu =>
    match w.source.readCpu? with
    | (some reading, source) => { w with source := source }.record (·.sampleCpu reading w.now)
    | (none, _) => w

/-- A sampler ticks at once and then at its deadlines. -/
def turnSampler (w : World) (id : JobId) (r : Sampler) : Option Instant → World × TurnEnd
  | none => (w, .goOn (.sampler r (some w.now)))
  | some deadline =>
    if deadline.isDue w.now then
      let next := MissedTick.delay.next deadline w.now (w.samplerPeriod r)
      (w.sampleOnce r, .goOn (.sampler r (some next)))
    else w.waitUntil id deadline (.sampler r (some deadline))

/-- Each sleep starts at the wake-up from the one before, so lateness does not add up. -/
def turnEventLoop (w : World) (id : JobId) : Option Instant → World × TurnEnd
  | none => (w, .goOn (.eventLoop (some w.now)))
  | some since =>
    let deadline := since + w.snapshotter.config.eventLoopInterval
    if deadline.isDue w.now then
      ({ w with snapshotter := w.snapshotter.wokenAfterSleep since w.now }, .goOn (.eventLoop none))
    else w.waitUntil id deadline (.eventLoop (some since))

/-- Takes one event at a time until the channel has none. -/
def turnListener (w : World) (next : Nat) : World × TurnEnd :=
  match w.source with
  | .events channel =>
    let (received, next) := channel.receive next
    let w := w.record (·.hear received w.now)
    match received with
    | .pending => (w, .wait (.listener next))
    | .finished => (w, .done)
    | _ => (w, .goOn (.listener next))
  | _ => (w, .done)

/-! ## Checks -/

/-- When the answer to a question comes. -/
def openQuestion (w : World) (plan : AnswerPlan) : OpenQuestion :=
  ⟨plan, plan.waits.map (w.now + ·)⟩

/-- The end of a check for ready tasks: a timer that ran it waits for its next tick. -/
def afterStartCheck (i : Nat) : Option Instant → TurnEnd
  | some deadline => .goOn (.timer i .maybeRun (some deadline))
  | none => .done

/-- Carries on with a check for ready tasks, asking the workload if the pool asks. -/
def continueStartCheck (w : World) (i : Nat) (work : Workload) (timer : Option Instant)
    (step : Pool.CheckStep) : World × TurnEnd :=
  let w := w.update i (step.pool, step.effects)
  if step.asking then
    let (plan, work) := work.askReady
    (w.modifySite i ({ · with work := work }),
      .goOn (.startCheck i timer (some (w.openQuestion plan))))
  else (w.modifySite i ({ · with work := work }), afterStartCheck i timer)

/-- A check for ready tasks, at its beginning or when an answer may have come. -/
def turnStartCheck (w : World) (id : JobId) (i : Nat) (timer : Option Instant) (site : PoolSite) :
    Option OpenQuestion → World × TurnEnd
  | none =>
    w.continueStartCheck i site.work timer (site.pool.enterStartCheck w.now w.current.idle)
  | some q =>
    match q.due.filter (!·.isDue w.now) with
    | some due => w.waitUntil id due (.startCheck i timer (some q))
    | none =>
      let (answer, work) := site.work.answer q.plan
      w.continueStartCheck i work timer
        (site.pool.answerReady answer w.now w.current.idle w.historical)

/-- A check for the end of the run, at its beginning or when an answer may have come. -/
def turnFinishCheck (w : World) (id : JobId) (i : Nat) (site : PoolSite) :
    Option OpenQuestion → World × TurnEnd
  | none =>
    let step := site.pool.enterFinishCheck
    let w := w.update i (step.pool, step.effects)
    if step.asking then
      let (plan, work) := site.work.askFinished
      (w.modifySite i ({ · with work := work }),
        .goOn (.finishCheck i (some (w.openQuestion plan))))
    else (w, .done)
  | some q =>
    match q.due.filter (!·.isDue w.now) with
    | some due => w.waitUntil id due (.finishCheck i (some q))
    | none =>
      let (answer, work) := site.work.answer q.plan
      let step := site.pool.answerFinished answer w.historical
      ((w.modifySite i ({ · with work := work })).update i (step.pool, step.effects), .done)

/-! ## Timers and tasks -/

/-- One tick of a timer, whose next deadline is `next`. An impossible scaling step ends its timer.
-/
def tickTimer (w : World) (i : Nat) (site : PoolSite) (next : Instant) : PoolTimer → World × TurnEnd
  | .autoscale =>
    match site.pool.autoscale w.current.idle with
    | .ok (_, p) => (w.setPool i p, .goOn (.timer i .autoscale (some next)))
    | .error _ => (w, .done)
  | .maybeRun => (w, .goOn (.startCheck i (some next) none))
  | .logging =>
    (w.log (site.pool.report w.current).toLog, .goOn (.timer i .logging (some next)))

/-- A timer of a pool, which first ticks after a full period. -/
def turnTimer (w : World) (id : JobId) (i : Nat) (site : PoolSite) (t : PoolTimer)
    (deadline : Option Instant) : World × TurnEnd :=
  match site.pool.period? t with
  | none => (w, .done)
  | some period =>
    match deadline with
    | none => (w, .goOn (.timer i t (some (w.now + period))))
    | some deadline =>
      if deadline.isDue w.now then
        w.tickTimer i site (MissedTick.skip.next deadline w.now period) t
      else w.waitUntil id deadline (.timer i t (some deadline))

/-- Settles a task of pool `i`. -/
def settleTask (w : World) (i : Nat) (site : PoolSite) (work : Workload) (result : TaskResult) :
    World × TurnEnd :=
  ((w.modifySite i ({ · with work := work })).update i
    (site.pool.taskSettled result w.historical), .done)

/-- The beginning of a task. -/
def turnTask (w : World) (i : Nat) (site : PoolSite) : World × TurnEnd :=
  let (k, plan, work) := site.work.startTask w.now
  match plan.panicsAtOnce with
  | some detail => w.settleTask i site work (.panicked (some detail))
  | none =>
    (w.modifySite i ({ · with work := work }),
      .goOn (.working i k plan (plan.works.map (w.now + ·))))

/-- A task at work, which settles when its time is over. -/
def turnWorking (w : World) (id : JobId) (i : Nat) (site : PoolSite) (k : Nat) (plan : TaskPlan)
    (due : Option Instant) : World × TurnEnd :=
  match due.filter (!·.isDue w.now) with
  | some deadline => w.waitUntil id deadline (.working i k plan due)
  | none => w.settleTask i site (site.work.endTask k w.now) plan.result

/-! ## Calls that wait -/

/-- Notes how a call to run came back. -/
def resolveRun (w : World) (i index : Nat) (outcome : Except PoolError Unit) : World :=
  w.modifySite i fun site =>
    { site with runs := site.runs.modify index fun (id, _) => (id, some ⟨w.now, outcome⟩) }

/-- Notes how a call to pause came back. -/
def resolvePause (w : World) (i index : Nat) (outcome : Except PoolError Unit) : World :=
  w.modifySite i fun site =>
    { site with pauses := site.pauses.modify index fun _ => some ⟨w.now, outcome⟩ }

/-- A call to run. -/
def turnRun (w : World) (id : JobId) (i index : Nat) (site : PoolSite) : World × TurnEnd :=
  match site.pool.run with
  | .error e => (w.resolveRun i index (.error e), .done)
  | .ok result =>
    ((w.update i result).modifySite i ({ · with runJob := some id }), .goOn (.awaitOutcome i index))

/-- A call to run that waits for the outcome. It tears the pool down once more before it returns. -/
def turnAwaitOutcome (w : World) (i index : Nat) (site : PoolSite) : World × TurnEnd :=
  match site.outcome with
  | some outcome => ((w.update i site.pool.teardown).resolveRun i index outcome, .done)
  | none => (w, .wait (.awaitOutcome i index))

/-- Waits until no task is in flight, at most until the deadline. A job that is not among the
registered waiters has been woken, or has its first turn. -/
def turnAwaitDrain (w : World) (id : JobId) (i index : Nat) (site : PoolSite)
    (timeout : Option (Duration × Instant)) : World × TurnEnd :=
  let others := site.drainWaiters.filter (· != id)
  let expired := timeout.any fun (_, deadline) => deadline.isDue w.now
  match site.pool.lookForDrain (others.length == site.drainWaiters.length) expired with
  | .drained => (w.resolvePause i index (.ok ()), .done)
  | .timedOut =>
    let limit := (timeout.map (·.1)).getD 0
    ((w.modifySite i ({ · with drainWaiters := others })).resolvePause i index
      (.error (.pauseTimeout limit)), .done)
  | .waiting =>
    let w := w.modifySite i ({ · with drainWaiters := others ++ [id] })
    let job := Job.awaitDrain i index timeout
    match timeout with
    | some (_, deadline) => w.waitUntil id deadline job
    | none => (w, .wait job)

/-- The turn of a job that belongs to pool `i`. -/
def turnPoolJob (w : World) (i : Nat) (f : PoolSite → World × TurnEnd) : World × TurnEnd :=
  match w.pools[i]? with
  | some site => f site
  | none => (w, .done)

/-- One piece of a job's turn. -/
def turn (w : World) (id : JobId) : Job → World × TurnEnd
  | .eventLoop since => w.turnEventLoop id since
  | .sampler r deadline => w.turnSampler id r deadline
  | .listener next => w.turnListener next
  | .timer i t deadline => w.turnPoolJob i (w.turnTimer id i · t deadline)
  | .startCheck i timer q => w.turnPoolJob i (w.turnStartCheck id i timer · q)
  | .finishCheck i q => w.turnPoolJob i (w.turnFinishCheck id i · q)
  | .task i => w.turnPoolJob i (w.turnTask i ·)
  | .working i k plan due => w.turnPoolJob i (w.turnWorking id i · k plan due)
  | .run i index => w.turnPoolJob i (w.turnRun id i index ·)
  | .awaitOutcome i index => w.turnPoolJob i (w.turnAwaitOutcome i index ·)
  | .pause i index timeout =>
    w.turnPoolJob i fun site =>
      (w.update i site.pool.pause,
        .goOn (.awaitDrain i index (timeout.map fun limit => (limit, w.now + limit))))
  | .awaitDrain i index timeout => w.turnPoolJob i (w.turnAwaitDrain id i index · timeout)

/-- Drops a cancelled job. A check that was under way gives up its slot. -/
def dropJob (w : World) (id : JobId) (job : Job) : World :=
  let w := { w with schedule := w.schedule.remove id }
  match job with
  | .startCheck i _ (some _) =>
    w.modifySite i fun site => { site with pool := site.pool.dropStartCheck }
  | .finishCheck i (some _) =>
    w.modifySite i fun site => { site with pool := site.pool.dropFinishCheck }
  | _ => w

end World

end Headroom
