import Mathlib.Tactic.Lemma
import Headroom.Pool.Check

/-!
# Runs of a pool

The functions on a pool say what one stretch of work does; this module says in which order stretches
may come. A `Situation` is a pool with what surrounds it: the tasks in flight, the calls to run and
to pause, and the questions that checks wait on. An `Event` is what happens next, with all that the
pool learns from it, and `Situation.next` is the situation after it. A `Run` is any sequence of
events from a fresh pool, each of them possible when it happens.

Nothing orders the events but what makes them possible: an answer needs its open question, the end
of a task needs the task in flight. Timers tick, and checks for ready tasks begin, whenever they
like, also late ones after the timers were cancelled. A call to run begins and arms its timers in
two events, so that others may fall in between.
-/

namespace Headroom.Pool

/-! ## Surroundings -/

/-- Where a call to run stands. -/
inductive RunCall where
  /-- The run has begun, and its timers are not armed yet. -/
  | begun
  | awaiting
  /-- The caller gave up; the pool goes on without it. -/
  | dropped
  | returned (outcome : Except PoolError Unit)

/-- Where a call to pause stands. -/
inductive PauseCall where
  /-- Registered to be woken when no task is in flight. -/
  | waiting (limit : Option Duration) (woken : Bool)
  | returned (outcome : Except PoolError Unit)

namespace PauseCall

/-- One look of a call to pause at the pool. -/
def look (p : Pool) (limit : Option Duration) (woken expired : Bool) : PauseCall :=
  match p.lookForDrain woken (limit.isSome && expired) with
  | .drained => .returned (.ok ())
  | .timedOut => .returned (.error (.pauseTimeout (limit.getD 0)))
  | .waiting => .waiting limit false

/-- A call that still waits looks once more. -/
def poll (p : Pool) (expired : Bool) : PauseCall → PauseCall
  | waiting limit woken => look p limit woken expired
  | returned outcome => returned outcome

/-- Notifies a call that waits. -/
def wake : PauseCall → PauseCall
  | waiting limit _ => waiting limit true
  | returned outcome => returned outcome

end PauseCall

/-- What a pool's effects act upon. -/
structure Surroundings where
  /-- How many tasks were launched. Tasks are numbered in this order. -/
  launched : Nat := 0
  /-- The tasks that were launched and have not settled. -/
  inFlight : List Nat := []
  /-- Checks for the end of the run that were spawned and have not begun. -/
  finishChecks : Nat := 0
  /-- The outcome that was sent to the call that runs the pool. -/
  sent : Option (Except PoolError Unit) := none
  runs : List RunCall := []
  pauses : List PauseCall := []

/-- Carries out one effect. What leases and timers do is seen outside of the pool. -/
def Surroundings.perform (w : Surroundings) : PoolEffect → Surroundings
  | .launchTask => { w with launched := w.launched + 1, inFlight := w.inFlight ++ [w.launched] }
  | .spawnFinishCheck => { w with finishChecks := w.finishChecks + 1 }
  | .wakeDrained => { w with pauses := w.pauses.map .wake }
  | .resolveRun outcome => { w with sent := some outcome }
  | .takeLease | .dropLease | .armTimer _ | .cancelTimers | .spawnStartCheck | .notice _ => w

/-- A question of a check for ready tasks that waits for its answer. -/
structure ReadyQuestion where
  /-- Questions are numbered as they are asked. -/
  number : Nat
  /-- The check that asks. Checks are numbered as they begin. -/
  check : Nat
  /-- The check is the work of a timer, and falls with it. -/
  timed : Bool
  /-- The system was idle when the question was asked. -/
  idle : Bool
  /-- The floor when the question was asked. -/
  floor : Nat
  deriving DecidableEq, Repr

/-- A question of a check for the end of the run that waits for its answer. -/
structure FinishQuestion where
  number : Nat
  /-- How many tasks had been launched when the question was asked. -/
  launched : Nat
  deriving DecidableEq, Repr

/-- A pool between two stretches of work, with its surroundings. -/
structure Situation extends Surroundings where
  pool : Pool
  /-- How many checks for ready tasks have begun. -/
  startChecks : Nat := 0
  /-- How many questions for a ready task were asked. -/
  readyAsked : Nat := 0
  readyOpen : List ReadyQuestion := []
  /-- How many questions for the end of the run were asked. -/
  finishAsked : Nat := 0
  finishOpen : List FinishQuestion := []

/-! ## Events -/

/-- What happens next to a pool, with what it learns of load and time. -/
inductive Event where
  | callRun
  /-- The call to run with the given number arms the timers. -/
  | equip (call : Nat)
  /-- The call to run with the given number comes back. -/
  | returnRun (call : Nat)
  | dropRun (call : Nat)
  | abort (historical : SystemInfo)
  | callPause (limit : Option Duration) (expired : Bool)
  /-- The call to pause with the given number looks whether it can come back. -/
  | pollPause (call : Nat) (expired : Bool)
  | resume
  | notify
  | setMin (value : Nat)
  | setMax (value : Nat)
  | setDesired (value : Nat)
  | autoscale (idle : Bool)
  | report (info : SystemInfo)
  | enterStartCheck (timed : Bool) (now : Instant) (idle : Bool)
  | answerReady (q : ReadyQuestion) (answer : Except String Bool) (now : Instant) (idle : Bool)
      (historical : SystemInfo)
  | dropStartCheck (q : ReadyQuestion)
  | enterFinishCheck
  | answerFinished (q : FinishQuestion) (answer : Except String Bool) (historical : SystemInfo)
  | settleTask (task : Nat) (result : TaskResult) (historical : SystemInfo)

/-- A stretch of work that leaves no question open. -/
def CheckStep.plain (r : Pool × List PoolEffect) : CheckStep := ⟨r.1, r.2, false⟩

/-- Changes the bookkeeping alone. -/
def withState (p : Pool) (state : PoolState) : CheckStep := ⟨{ p with state := state }, [], false⟩

/-- The stretch of work that an event makes the pool do. A scaling decision that overflows, and a
setter that finds the bounds crossed, leave the pool as it is. -/
def respond (p : Pool) : Event → CheckStep
  | .callRun => ⟨p.beginRun.toOption.getD p, [], false⟩
  | .equip _ => .plain p.equip
  | .returnRun _ => .plain p.teardown
  | .dropRun _ => ⟨p, [], false⟩
  | .abort historical => .plain (p.abort historical)
  | .callPause _ _ => .plain p.pause
  | .pollPause _ _ => ⟨p, [], false⟩
  | .resume => .plain p.resume
  | .notify => ⟨p, p.notify, false⟩
  | .setMin value => p.withState (p.state.setMin value)
  | .setMax value => p.withState (p.state.setMax value)
  | .setDesired value => p.withState ((p.state.setDesired value).toOption.getD p.state)
  | .autoscale idle => ⟨((p.autoscale idle).toOption.map (·.2)).getD p, [], false⟩
  | .report info => ⟨p, [.notice (p.report info)], false⟩
  | .enterStartCheck _ now idle => p.enterStartCheck now idle
  | .answerReady _ answer now idle historical => p.answerReady answer now idle historical
  | .dropStartCheck _ => ⟨p.dropStartCheck, [], false⟩
  | .enterFinishCheck => p.enterFinishCheck
  | .answerFinished _ answer historical => p.answerFinished answer historical
  | .settleTask _ result historical => .plain (p.taskSettled result historical)

namespace Situation

/-- What makes an event possible. A timer's check falls only after the timers were cancelled, and a
call to run comes back once there is nobody left who could send it an outcome. -/
def Enabled (s : Situation) : Event → Prop
  | .equip call => s.runs[call]? = some .begun
  | .returnRun call => s.runs[call]? = some .awaiting ∧ s.pool.unresolved = false
  | .dropRun call => s.runs[call]? = some .awaiting
  | .pollPause call _ => ∃ limit woken, s.pauses[call]? = some (.waiting limit woken)
  | .answerReady q .. => q ∈ s.readyOpen
  | .dropStartCheck q => q ∈ s.readyOpen ∧ q.timed = true ∧ s.pool.closed = true
  | .enterFinishCheck => 0 < s.finishChecks
  | .answerFinished q .. => q ∈ s.finishOpen
  | .settleTask task .. => task ∈ s.inFlight
  | _ => True

/-- A new call to run, which is refused at once unless the pool is idle. -/
def newRunCall (s : Situation) : RunCall :=
  match s.pool.beginRun with
  | .ok _ => .begun
  | .error e => .returned (.error e)

/-- The surroundings once an event has taken what it is about. A call to run that is sent no outcome
returns without an error. -/
def take (s : Situation) : Event → Surroundings
  | .callRun => { s.toSurroundings with runs := s.runs ++ [s.newRunCall] }
  | .equip call => { s.toSurroundings with runs := s.runs.set call .awaiting }
  | .returnRun call =>
    { s.toSurroundings with runs := s.runs.set call (.returned (s.sent.getD (.ok ()))) }
  | .dropRun call => { s.toSurroundings with runs := s.runs.set call .dropped }
  | .callPause limit expired =>
    { s.toSurroundings with pauses := s.pauses ++ [.look s.pool.pause.1 limit true expired] }
  | .pollPause call expired =>
    { s.toSurroundings with pauses := s.pauses.modify call (.poll s.pool expired) }
  | .enterFinishCheck => { s.toSurroundings with finishChecks := s.finishChecks - 1 }
  | .settleTask task .. => { s.toSurroundings with inFlight := s.inFlight.erase task }
  | _ => s.toSurroundings

/-- The question for a ready task that an event leaves open. A check goes on under its number. -/
def newReady? (s : Situation) (e : Event) : Option ReadyQuestion :=
  let step := s.pool.respond e
  let question (check : Nat) (timed idle : Bool) : Option ReadyQuestion :=
    if step.asking then some ⟨s.readyAsked, check, timed, idle, step.pool.state.minConcurrency⟩
    else none
  match e with
  | .enterStartCheck timed _ idle => question s.startChecks timed idle
  | .answerReady q _ _ idle _ => question q.check q.timed idle
  | _ => none

/-- The question for the end of the run that an event leaves open. -/
def newFinish? (s : Situation) : Event → Option FinishQuestion
  | .enterFinishCheck =>
    if s.pool.enterFinishCheck.asking then some ⟨s.finishAsked, s.launched⟩ else none
  | _ => none

end Situation

namespace Event

/-- The event begins a check for ready tasks. -/
@[simp]
def beginsCheck : Event → Bool
  | enterStartCheck .. => true
  | _ => false

/-- The question for a ready task that an event closes. -/
@[simp]
def closesReady? : Event → Option ReadyQuestion
  | answerReady q .. => some q
  | dropStartCheck q => some q
  | _ => none

/-- The question for the end of the run that an event closes. -/
@[simp]
def closesFinish? : Event → Option FinishQuestion
  | answerFinished q .. => some q
  | _ => none

/-- The task that an event settles. -/
@[simp]
def settles? : Event → Option Nat
  | settleTask task .. => some task
  | _ => none

end Event

/-- The situation after an event. -/
def Situation.next (s : Situation) (e : Event) : Situation where
  toSurroundings := (s.pool.respond e).effects.foldl .perform (s.take e)
  pool := (s.pool.respond e).pool
  startChecks := s.startChecks + e.beginsCheck.toNat
  readyAsked := s.readyAsked + (s.newReady? e).isSome.toNat
  readyOpen := e.closesReady?.elim s.readyOpen s.readyOpen.erase ++ (s.newReady? e).toList
  finishAsked := s.finishAsked + (s.newFinish? e).isSome.toNat
  finishOpen := e.closesFinish?.elim s.finishOpen s.finishOpen.erase ++ (s.newFinish? e).toList

/-! ## Runs -/

/-- A situation with the event that happened in it. -/
structure Moment where
  before : Situation
  event : Event

namespace Moment

/-- The situation after the event. -/
def after (m : Moment) : Situation := m.before.next m.event

/-- The effects of the event. -/
def effects (m : Moment) : List PoolEffect := (m.before.pool.respond m.event).effects

end Moment

/-- The moments of a run so far, the latest first, and the situation that it has come to. A run
starts from a pool as it is built. -/
inductive Run : List Moment → Situation → Prop where
  | start {c snapshotter status p} :
    new c snapshotter status = .ok p →
    Run [] { pool := p }
  | step {ms s e} :
    Run ms s →
    s.Enabled e →
    Run (⟨s, e⟩ :: ms) (s.next e)

end Headroom.Pool
