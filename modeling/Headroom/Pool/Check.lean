import Headroom.Pool.Lifecycle

/-!
# The checks that start tasks and finish a run

A check for ready tasks goes on while there is budget: it asks whether a task is ready, waits for
the answer, starts a task for a yes, and looks at the budget again. A check for the end of the run
asks once whether the run is finished. Each kind of check holds a slot, so at most one of a kind is
under way; a check that is refused the slot ends at once and leaves the holder alone.
-/

namespace Headroom.Pool

/-- A stretch of a check: the pool, the effects, and whether a question is now open. -/
structure CheckStep where
  pool : Pool
  effects : List PoolEffect := []
  asking : Bool := false

/-! ## Starting tasks -/

/-- Whether readiness is worth asking now: there is capacity, the cap on starts is not reached, and
the system is idle unless the pool is below its floor. -/
def wantsTask (p : Pool) (now : Instant) (idle : Bool) : Bool × Pool :=
  if p.state.hasCapacity then
    let (allowed, state) := p.state.startAllowed now p.config.maxTasksPerMinute
    (allowed && (state.current < state.minConcurrency || idle), { p with state := state })
  else (false, p)

/-- The head of the check's loop, which either asks for readiness or gives up the slot. -/
def askForTask (p : Pool) (effects : List PoolEffect) (now : Instant) (idle : Bool) : CheckStep :=
  let (wants, p) := p.wantsTask now idle
  ⟨{ p with startCheckBusy := wants }, effects, wants⟩

/-- Begins a check for ready tasks. -/
def enterStartCheck (p : Pool) (now : Instant) (idle : Bool) : CheckStep :=
  if p.startCheckBusy then ⟨p, [], false⟩
  else askForTask { p with startCheckBusy := true } [] now idle

/-- Ends a check without an answer. -/
def dropStartCheck (p : Pool) : Pool := { p with startCheckBusy := false }

/-- Launches one task, which is counted before it first runs. -/
def launch (p : Pool) (now : Instant) : Pool :=
  { p with state := p.state.recordStart now p.config.maxTasksPerMinute }

/-- Takes the answer to the readiness question. The budget is looked at again, for it may have
changed while the question was open. -/
def answerReady (p : Pool) (answer : Except String Bool) (now : Instant) (idle : Bool)
    (historical : SystemInfo) : CheckStep :=
  match answer with
  | .error detail =>
    let (p, effects) := p.fail (.readinessFailed detail) historical
    ⟨p.dropStartCheck, effects, false⟩
  | .ok false => ⟨p.dropStartCheck, if p.isDrained then [.spawnFinishCheck] else [], false⟩
  | .ok true =>
    if p.state.hasCapacity then askForTask (p.launch now) [.launchTask] now idle
    else ⟨p.dropStartCheck, [], false⟩

/-! ## Finishing -/

/-- Begins a check for the end of the run. Only a running pool without tasks in flight is asked. -/
def enterFinishCheck (p : Pool) : CheckStep :=
  if p.finishCheckBusy then ⟨p, [], false⟩
  else if p.phase = .running && p.isDrained then ⟨{ p with finishCheckBusy := true }, [], true⟩
  else ⟨p, [], false⟩

/-- Ends a check without an answer. -/
def dropFinishCheck (p : Pool) : Pool := { p with finishCheckBusy := false }

/-- Takes the answer to the question whether the run is finished. A task that started meanwhile will
ask again when it settles. -/
def answerFinished (p : Pool) (answer : Except String Bool) (historical : SystemInfo) : CheckStep :=
  let (q, effects) :=
    match answer with
    | .error detail => p.fail (.finishFailed detail) historical
    | .ok true =>
      if p.isDrained then (p.settle? (.ok ()) .finished historical).getD (p, []) else (p, [])
    | .ok false => (p, [])
  ⟨q.dropFinishCheck, effects, false⟩

/-! ## Settling tasks -/

/-- Counts a task as settled and acts on how it ended. -/
def taskSettled (p : Pool) (result : TaskResult) (historical : SystemInfo) :
    Pool × List PoolEffect :=
  let (drained, state) := p.state.recordSettled
  let p := { p with state := state }
  let wake := if drained then [PoolEffect.wakeDrained] else []
  match result.error? with
  | some e =>
    let (p, effects) := p.fail e historical
    (p, wake ++ effects)
  | none =>
    (p, wake ++ if p.phase = .running then [.spawnStartCheck, .spawnFinishCheck] else [])

end Headroom.Pool
