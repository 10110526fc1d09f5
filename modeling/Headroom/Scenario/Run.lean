import Headroom.Scenario.Turn

/-!
# Running a scenario

`World.runUntil` gives jobs their turns until none can go on and no alarm rings up to a given
instant. `Scenario.run` carries out the actions one by one, lets everything come to rest after each,
and reports.
-/

namespace Headroom

namespace World

/-- Gives out turns until everything rests, and moves the clock from alarm to alarm up to `limit`.
`active` is the job in the middle of its turn. A world that does not come to rest is left as it is
when the fuel runs out. -/
def runUntil (limit : Instant) : Nat → Option (JobId × Job) → World → World
  | 0, _, w => w
  | fuel + 1, some (id, job), w =>
    match w.turn id job with
    | (w, .goOn job) => runUntil limit fuel (some (id, job)) w
    | (w, .wait job) => runUntil limit fuel none { w with schedule := w.schedule.store id job }
    | (w, .done) => runUntil limit fuel none { w with schedule := w.schedule.remove id }
  | fuel + 1, none, w =>
    match w.schedule.dequeue? with
    | some (id, cell, schedule) =>
      let w := { w with schedule := schedule }
      if cell.cancelled then runUntil limit fuel none (w.dropJob id cell.job)
      else runUntil limit fuel (some (id, cell.job)) w
    | none =>
      match w.schedule.alarms.head? with
      | some alarm =>
        if alarm.time ≤ limit then
          runUntil limit fuel none { w with schedule := (w.schedule.advanceTo alarm.time).ring }
        else { w with schedule := w.schedule.advanceTo limit }
      | none => { w with schedule := w.schedule.advanceTo limit }

/-- How many pieces of turns a world is given to come to rest. A world that needs more never rests
for all practical purposes. -/
def patience : Nat := Nat.pow 2 40

/-- Lets time pass up to an instant. -/
def letPass (w : World) (limit : Instant) : World := runUntil limit patience none w

/-- Lets everything that can go on now come to rest. -/
def rest (w : World) : World := w.letPass w.now

/-- Moves the clock ahead in one go. -/
def jump (w : World) (d : Duration) : World :=
  { w with schedule := (w.schedule.advanceTo (w.now + d)).ring }

/-! ## Actions -/

/-- The snapshots of a resource within a window. -/
def sampleRows (w : World) (r : Resource) (window : Option Duration) : SampleRows :=
  let s := w.snapshotter
  match r with
  | .memory => .memory (s.memory.sample window w.now)
  | .eventLoop => .eventLoop (s.eventLoop.sample window w.now)
  | .cpu => .cpu (s.cpu.sample window w.now)
  | .client => .client (s.client.sample window w.now)

/-- Applies a function to pool `i`. -/
def onPool (w : World) (i : Nat) (f : Pool → Pool × List PoolEffect) : World :=
  match w.pools[i]? with
  | some site => w.update i (f site.pool)
  | none => w

/-- Applies a function to the bookkeeping of pool `i`. -/
def onState (w : World) (i : Nat) (f : PoolState → PoolState) : World :=
  w.onPool i fun p => ({ p with state := f p.state }, [])

/-- Spawns a job that runs pool `i`. -/
def spawnRun (w : World) (i : Nat) : World :=
  match w.pools[i]? with
  | some site =>
    let (id, w) := w.spawn (.run i site.runs.size)
    w.modifySite i fun site => { site with runs := site.runs.push (id, none) }
  | none => w

/-- Spawns a job that pauses pool `i`. -/
def spawnPause (w : World) (i : Nat) (timeout : Option Duration) : World :=
  match w.pools[i]? with
  | some site =>
    let w := w.spawnJob (.pause i site.pauses.size timeout)
    w.modifySite i fun site => { site with pauses := site.pauses.push none }
  | none => w

/-- Cancels the job of a call to run. -/
def dropRun (w : World) (i index : Nat) : World :=
  match w.pools[i]?.bind (·.runs[index]?) with
  | some (id, _) => w.cancelAll [id]
  | none => w

/-- Returns a lease that the scenario took, once. -/
def returnLease (w : World) (index : Nat) : World :=
  if w.leases[index]?.getD false then
    { w with leases := w.leases.set! index false }.switch Snapshotter.release
  else w

/-- Acts on the channel of pushed readings and wakes its listener. -/
def onChannel {α : Type} (w : World) (absent : α) (f : EventChannel → α × EventChannel) :
    α × World :=
  match w.source with
  | .events channel =>
    let (a, channel) := f channel
    (a, w.samplerJobs.foldl wake { w with source := .events channel })
  | _ => (absent, w)

/-- Carries out an action, up to what it answers at once. -/
def act (w : World) : Action → ActionResult × World
  | .sleep d => (.nothing, w.letPass (w.now + d))
  | .block d => (.nothing, w.jump d)
  | .start => (.nothing, w.switch Snapshotter.start)
  | .stop => (.nothing, w.switch Snapshotter.stop)
  | .takeLease => (.nothing, { w with leases := w.leases.push true }.switch Snapshotter.lease)
  | .dropLease index => (.nothing, w.returnLease index)
  | .recordEvent e => (.nothing, w.record (·.recordEvent e w.now))
  | .sendEvents es =>
    let (oks, w) := w.onChannel (es.map fun _ => false) (·.sendAll es)
    (.sent oks, w)
  | .closeChannel => (.nothing, (w.onChannel () fun c => ((), c.close)).2)
  | .setMemory usage => (.nothing, { w with source := w.source.setMemory usage })
  | .setCpu ratio => (.nothing, { w with source := w.source.setCpu ratio })
  | .setTicks ticks => (.nothing, { w with source := w.source.setTicks ticks })
  | .setFailing kind => (.nothing, { w with source := w.source.setFailing kind })
  | .clientErrors attempt times => (.nothing, { w with client := w.client.record attempt times })
  | .setCounter value => (.nothing, { w with client := w.client.set value })
  | .sample r window => (.rows (w.sampleRows r window), w)
  | .status => (.status w.current w.historical, w)
  | .run i => (.nothing, w.spawnRun i)
  | .dropRun i index => (.nothing, w.dropRun i index)
  | .pause i timeout => (.nothing, w.spawnPause i timeout)
  | .abort i => (.nothing, w.onPool i (·.abort w.historical))
  | .resume i => (.nothing, w.onPool i (·.resume))
  | .notify i => (.nothing, w.onPool i fun p => (p, p.notify))
  | .notifyOutside _ => (.nothing, w)
  | .setMin i value => (.nothing, w.onState i (·.setMin value))
  | .setMax i value => (.nothing, w.onState i (·.setMax value))
  | .setDesired i value =>
    (.nothing, w.onState i fun s => (s.setDesired value).toOption.getD s)
  | .addTasks i n =>
    (.nothing, w.modifySite i fun site => { site with work := site.work.addTasks n })

/-! ## Reports -/

/-- A pool as it is reported. -/
def reportSite (site : PoolSite) : PoolReport where
  state := site.pool.state
  work := site.work
  runs := site.runs.toList.map (·.2)
  pauses := site.pauses.toList

/-- The world as it is reported. -/
def report (w : World) (result : ActionResult) : StepReport where
  now := w.now
  result := result
  sampling := w.snapshotter.running
  leases := w.snapshotter.leases
  pools := w.pools.toList.map reportSite
  logs := w.logs.reverse

/-- Carries out actions one by one, a report for each. -/
def runActions : List Action → World → List StepReport × World
  | [], w => ([], w)
  | a :: rest, w =>
    let (result, w) := w.act a
    let w := w.rest
    let (reports, final) := runActions rest { w with logs := [] }
    (w.report result :: reports, final)

end World

namespace Scenario

/-- The pools of a scenario, or the first error in building them. -/
def buildPools (s : Scenario) : Except PoolError (List PoolSite) :=
  s.pools.mapM fun plan =>
    (Pool.new plan.config s.snapshotter s.status).map fun p => { pool := p, work := plan.work }

/-- The world at the beginning. -/
def world (s : Scenario) (pools : List PoolSite) : World where
  snapshotter := .new s.snapshotter s.source.isPushed
  status := s.status
  source := s.source
  client := s.client
  pools := pools.toArray

/-- Runs a scenario. -/
def run (s : Scenario) : Except PoolError ScenarioReport :=
  s.buildPools.map fun pools =>
    let (steps, final) := World.runActions s.actions (s.world pools)
    { pushed := s.source.isPushed
      steps := steps
      tasks := final.pools.toList.map (·.work.tasks.toList) }

end Scenario

end Headroom
