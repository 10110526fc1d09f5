import Headroom.Pool.Notice
import Headroom.Pool.State

/-!
# The pool

A pool is a value. Every stretch of work between two waits is one function from a pool to a pool and
the effects it has on its surroundings, in order. The functions are in `Pool.Lifecycle` and
`Pool.Check`; who calls them when, and on which clock, is not decided here.
-/

namespace Headroom

/-- A periodic activity of a running pool. -/
inductive PoolTimer where
  | autoscale
  | maybeRun
  | logging
  deriving DecidableEq, Repr

/-- A pool between two stretches of work. -/
structure Pool where
  config : PoolConfig
  state : PoolState
  /-- A check for ready tasks is under way. There is at most one. -/
  startCheckBusy : Bool := false
  /-- A check for the end of the run is under way. There is at most one. -/
  finishCheckBusy : Bool := false
  /-- A run has begun and its outcome is still open. -/
  unresolved : Bool := false
  /-- The pool was torn down, so no timer may be armed any more. -/
  closed : Bool := false
  /-- The armed timers. -/
  timers : List PoolTimer := []
  /-- The pool holds a lease on the snapshotter. -/
  leased : Bool := false
  deriving DecidableEq, Repr

/-- Something a pool asks of its surroundings. -/
inductive PoolEffect where
  | takeLease
  | dropLease
  | armTimer (timer : PoolTimer)
  | cancelTimers
  | spawnStartCheck
  | spawnFinishCheck
  | launchTask
  /-- Wakes everybody who waits for the last task to settle. -/
  | wakeDrained
  | resolveRun (outcome : Except PoolError Unit)
  | notice (n : PoolNotice)

namespace Pool

/-- A pool that evaluates load through a given snapshotter and status. Their configurations are
validated with its own, for all of them have a part in its timing. -/
def new (c : PoolConfig) (snapshotter : SnapshotterConfig) (status : StatusConfig) :
    Except PoolError Pool :=
  match (c.fault?.or snapshotter.fault?).or status.fault? with
  | some fault => .error (.invalidConfig fault)
  | none => .ok { config := c, state := .new c }

/-- A pool with a snapshotter and a status of its own. -/
def ofConfig (c : Config) : Except PoolError Pool :=
  match c.fault? with
  | some fault => .error (.invalidConfig fault)
  | none => new c.pool c.snapshotter c.status

/-- The phase that the pool is in. -/
def phase (p : Pool) : Phase := p.state.phase

/-- The period of a timer, if it is in use. -/
@[simp]
def period? (p : Pool) : PoolTimer → Option Duration
  | .autoscale => some p.config.autoscaleInterval
  | .maybeRun => some p.config.maybeRunInterval
  | .logging => p.config.loggingInterval?

end Pool

end Headroom
