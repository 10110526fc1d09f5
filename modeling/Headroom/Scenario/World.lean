import Headroom.Clock.Schedule
import Headroom.Load.Status
import Headroom.Scenario.Basic

/-!
# The world of a scenario

Everything that takes part in a scenario, and the jobs on its schedule. `perform` carries out what
pools and the snapshotter ask of their surroundings.
-/

namespace Headroom

/-- A question that a check waits to be answered. -/
structure OpenQuestion where
  plan : AnswerPlan
  /-- When the answer comes, if it does not come at once. -/
  due : Option Instant

/-- What is sampled at ticks of its own. -/
inductive Sampler where
  | client
  | memory
  | cpu
  deriving DecidableEq, Repr

/-- A job between two turns. A missing deadline means that the job has not had its first turn. -/
inductive Job where
  /-- Sleeps one period at a time and records how late it is woken. -/
  | eventLoop (asleepSince : Option Instant)
  | sampler (what : Sampler) (deadline : Option Instant)
  /-- Waits for the event with the given number. -/
  | listener (next : Nat)
  | timer (pool : Nat) (timer : PoolTimer) (deadline : Option Instant)
  /-- A check for ready tasks, spawned on its own or run by a timer with its next deadline. -/
  | startCheck (pool : Nat) (timer : Option Instant) (question : Option OpenQuestion)
  | finishCheck (pool : Nat) (question : Option OpenQuestion)
  | task (pool : Nat)
  | working (pool task : Nat) (plan : TaskPlan) (due : Option Instant)
  | run (pool index : Nat)
  | awaitOutcome (pool index : Nat)
  | pause (pool index : Nat) (timeout : Option Duration)
  | awaitDrain (pool index : Nat) (timeout : Option (Duration × Instant))

/-- A pool with its callbacks and the jobs that belong to it. -/
structure PoolSite where
  pool : Pool
  work : Workload
  timerJobs : List JobId := []
  /-- The job that awaits the outcome of the run. -/
  runJob : Option JobId := none
  outcome : Option (Except PoolError Unit) := none
  /-- The jobs waiting for the last task to settle, in order of registration. -/
  drainWaiters : List JobId := []
  /-- For every call to run, its job and how it resolved. -/
  runs : Array (JobId × Option Resolved) := #[]
  pauses : Array (Option Resolved) := #[]

/-- Everything that takes part in a scenario. -/
structure World where
  snapshotter : Snapshotter
  status : StatusConfig
  source : Source
  client : ClientSource
  pools : Array PoolSite
  schedule : Schedule Job := {}
  samplerJobs : List JobId := []
  /-- The leases that the scenario took, and whether each is still held. -/
  leases : Array Bool := #[]
  /-- Log events since the last report, the latest first. -/
  logs : List LogEvent := []

namespace World

/-- The present instant. -/
def now (w : World) : Instant := w.schedule.now

/-- The load that drives scaling at this moment. -/
def current (w : World) : SystemInfo := w.status.current w.snapshotter w.now

/-- The load over all that is kept, at this moment. -/
def historical (w : World) : SystemInfo := w.status.historical w.snapshotter w.now

/-- Logs an event. -/
def log (w : World) (e : LogEvent) : World := { w with logs := e :: w.logs }

/-- Puts a job on the schedule. -/
def spawn (w : World) (job : Job) : JobId × World :=
  let (id, schedule) := w.schedule.spawn job
  (id, { w with schedule := schedule })

/-- Puts a job on the schedule whose number is of no interest. -/
def spawnJob (w : World) (job : Job) : World := (w.spawn job).2

/-- Lets a waiting job look whether it can go on. -/
def wake (w : World) (id : JobId) : World := { w with schedule := w.schedule.wake id }

/-- Marks jobs to be dropped. -/
def cancelAll (w : World) (ids : List JobId) : World :=
  { w with schedule := ids.foldl .cancel w.schedule }

/-- Changes one pool with what belongs to it. -/
def modifySite (w : World) (i : Nat) (f : PoolSite → PoolSite) : World :=
  { w with pools := w.pools.modify i f }

/-- Replaces one pool. -/
def setPool (w : World) (i : Nat) (p : Pool) : World := w.modifySite i ({ · with pool := p })

/-! ## Effects -/

/-- The jobs that sample, in the order in which they are spawned. -/
def samplerJobBodies (w : World) : List Job :=
  [.eventLoop none, .sampler .client none] ++
    match w.source with
    | .events channel => [.listener channel.sent]
    | _ => [.sampler .memory none, .sampler .cpu none]

/-- Carries out one effect of the snapshotter. -/
def performSampling (w : World) : SamplingEffect → World
  | .spawnSamplers =>
    w.samplerJobBodies.foldl
      (fun w job =>
        let (id, w) := w.spawn job
        { w with samplerJobs := w.samplerJobs ++ [id] })
      { w with samplerJobs := [] }
  | .cancelSamplers => { w.cancelAll w.samplerJobs with samplerJobs := [] }
  | .notice n => w.log n.toLog

/-- Applies a switch of the snapshotter with its effects. -/
def switch (w : World) (f : Snapshotter → Snapshotter × List SamplingEffect) : World :=
  let (s, effects) := f w.snapshotter
  effects.foldl performSampling { w with snapshotter := s }

/-- Applies a recording of the snapshotter with its reports. -/
def record (w : World) (f : Snapshotter → Snapshotter × List SamplingNotice) : World :=
  let (s, notices) := f w.snapshotter
  notices.foldl (fun w n => w.log n.toLog) { w with snapshotter := s }

/-- Carries out one effect of pool `i`. -/
def performOne (i : Nat) (w : World) : PoolEffect → World
  | .takeLease => w.switch Snapshotter.lease
  | .dropLease => w.switch Snapshotter.release
  | .armTimer t =>
    let (id, w) := w.spawn (.timer i t none)
    w.modifySite i fun site => { site with timerJobs := site.timerJobs ++ [id] }
  | .cancelTimers =>
    let ids := (w.pools[i]?.map (·.timerJobs)).getD []
    (w.cancelAll ids).modifySite i ({ · with timerJobs := [] })
  | .spawnStartCheck => w.spawnJob (.startCheck i none none)
  | .spawnFinishCheck => w.spawnJob (.finishCheck i none)
  | .launchTask => w.spawnJob (.task i)
  | .wakeDrained =>
    let ids := (w.pools[i]?.map (·.drainWaiters)).getD []
    ids.foldl wake (w.modifySite i ({ · with drainWaiters := [] }))
  | .resolveRun outcome =>
    let w := w.modifySite i ({ · with outcome := some outcome })
    match w.pools[i]?.bind (·.runJob) with
    | some id => w.wake id
    | none => w
  | .notice n => w.log n.toLog

/-- Carries out the effects of pool `i`, in order. -/
def perform (w : World) (i : Nat) (effects : List PoolEffect) : World :=
  effects.foldl (performOne i) w

/-- Stores pool `i` and carries out its effects. -/
def update (w : World) (i : Nat) (result : Pool × List PoolEffect) : World :=
  (w.setPool i result.1).perform i result.2

end World

end Headroom
