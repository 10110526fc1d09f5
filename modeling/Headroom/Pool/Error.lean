import Headroom.Config.Validation
import Headroom.Pool.Phase

/-!
# Errors of a pool

Everything except a pause that times out ends the run, or keeps it from starting.
-/

namespace Headroom

/-- Why a run failed, or a call on the pool. -/
inductive PoolError where
  | invalidConfig (fault : Fault)
  | notIdle (phase : Phase)
  | taskFailed (detail : String)
  | taskPanicked (detail : String)
  | readinessFailed (detail : String)
  | finishFailed (detail : String)
  | pauseTimeout (limit : Duration)
  deriving DecidableEq, Repr

/-- The text of an error. -/
def PoolError.message : PoolError → String
  | invalidConfig fault => "invalid configuration: " ++ fault.message
  | notIdle phase => "pool cannot run from the " ++ phase.name ++ " phase"
  | taskFailed detail => "task failed: " ++ detail
  | taskPanicked detail => "task panicked: " ++ detail
  | readinessFailed detail => "task readiness check failed: " ++ detail
  | finishFailed detail => "finish check failed: " ++ detail
  | pauseTimeout limit =>
    "pause timed out after " ++ Duration.text limit ++ " with tasks still in flight"

/-- How a task ends. A panic may carry a text. -/
inductive TaskResult where
  | succeeded
  | failed (detail : String)
  | panicked (detail : Option String)
  deriving DecidableEq, Repr

/-- The error that a task's end means for the run, if any. -/
def TaskResult.error? : TaskResult → Option PoolError
  | succeeded => none
  | failed detail => some (.taskFailed detail)
  | panicked detail => some (.taskPanicked (detail.getD "non-string panic payload"))

end Headroom
