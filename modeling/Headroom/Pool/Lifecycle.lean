import Headroom.Pool.Basic

/-!
# Beginning, pausing and ending a run

A run begins once, from the idle phase. `settle` is the only way to end it: it fixes the final phase
and the outcome together, and does nothing once the outcome is fixed. Tearing down is idempotent,
and what was torn down never arms a timer.
-/

namespace Headroom.Pool

/-! ## Beginning -/

/-- Enters the running phase from the idle one. -/
def beginRun (p : Pool) : Except PoolError Pool :=
  if p.phase = .idle then
    .ok { p with state := { p.state with phase := .running }, unresolved := true }
  else .error (.notIdle p.phase)

/-- Takes a lease and arms the timers, unless the pool was torn down before. -/
def startTimers (p : Pool) : Pool × List PoolEffect :=
  if p.closed then (p, [])
  else
    let timers := [PoolTimer.autoscale, .maybeRun, .logging].filter fun t => (p.period? t).isSome
    ({ p with timers := timers, leased := true }, .takeLease :: timers.map .armTimer)

/-- Arms the timers of a run that has begun, reports it and checks for ready tasks. -/
def equip (p : Pool) : Pool × List PoolEffect :=
  let (p, effects) := p.startTimers
  let s := p.state
  (p, effects ++
    [.notice (.started s.minConcurrency s.maxConcurrency s.desired), .spawnStartCheck])

/-- Equipping changes the pool as starting the timers does. -/
@[simp]
theorem equip_fst (p : Pool) : p.equip.1 = p.startTimers.1 := rfl

/-- The first stretch of a run: begins it, arms the timers and checks for ready tasks. -/
def run (p : Pool) : Except PoolError (Pool × List PoolEffect) := p.beginRun.map equip

/-! ## Ending -/

/-- Cancels the timers and returns the lease. -/
def teardown (p : Pool) : Pool × List PoolEffect :=
  ({ p with closed := true, timers := [], leased := false },
    .cancelTimers :: if p.leased then [.dropLease] else [])

/-- The report on the end of a run. -/
def closingNotice (outcome : Except PoolError Unit) (phase : Phase) (inFlight : Nat)
    (historical : SystemInfo) : PoolNotice :=
  match outcome with
  | .ok () => .stopped phase inFlight historical
  | .error e => .failed e inFlight historical

/-- Ends the run with an outcome. Nothing happens if no run is open. -/
def settle? (p : Pool) (outcome : Except PoolError Unit) (phase : Phase) (historical : SystemInfo) :
    Option (Pool × List PoolEffect) :=
  if p.unresolved then
    let (q, effects) :=
      { p with unresolved := false, state := { p.state with phase := phase } }.teardown
    some (q, effects ++
      [.notice (closingNotice outcome phase q.state.current historical), .resolveRun outcome])
  else none

/-- Ends the run with an error. A later error is ignored. -/
def fail (p : Pool) (e : PoolError) (historical : SystemInfo) : Pool × List PoolEffect :=
  (p.settle? (.error e) .failed historical).getD (p, [])

/-- Ends the run at once, leaving tasks in flight alone. A pool that never ran is aborted too. -/
def abort (p : Pool) (historical : SystemInfo) : Pool × List PoolEffect :=
  (p.settle? (.ok ()) .aborted historical).getD
    (if p.phase = .idle then { p with state := { p.state with phase := .aborted } } else p, [])

/-! ## Pausing -/

/-- Stops new starts. The caller then waits until `isDrained`. -/
def pause (p : Pool) : Pool × List PoolEffect :=
  if p.phase = .running then
    ({ p with state := { p.state with phase := .paused } }, [.notice (.pausing p.state.current)])
  else (p, [])

/-- No task is in flight. -/
def isDrained (p : Pool) : Bool := p.state.current == 0

/-- Where a pause stands that waits for the last task to settle. -/
inductive DrainWait where
  | drained
  | timedOut
  | waiting
  deriving DecidableEq, Repr

/-- One look of a waiting pause. It looks at the pool at first and after every wake-up, and only
then at its deadline. -/
def lookForDrain (p : Pool) (woken expired : Bool) : DrainWait :=
  if woken && p.isDrained then .drained else if expired then .timedOut else .waiting

/-- Checks for ready tasks now, if another one may start. -/
def notify (p : Pool) : List PoolEffect :=
  if p.state.hasCapacity then [.spawnStartCheck] else []

/-- Allows new starts after a pause. -/
def resume (p : Pool) : Pool × List PoolEffect :=
  if p.phase = .paused then
    let q := { p with state := { p.state with phase := .running } }
    (q, .notice .resuming :: q.notify)
  else (p, [])

/-! ## Scaling and reporting -/

/-- One tick of the scaling timer. -/
def autoscale (p : Pool) (idle : Bool) : Except StateFault (Option ScaleChange × Pool) :=
  if p.phase.isActive then
    (p.state.autoscale idle p.config).map fun (change, state) => (change, { p with state := state })
  else .ok (none, p)

/-- One tick of the reporting timer. -/
def report (p : Pool) (info : SystemInfo) : PoolNotice :=
  .status p.state.current p.state.desired info

end Headroom.Pool
