/-!
# Phases of a pool

A pool is idle until it runs, may pause and resume, and ends in one of three ways.
-/

namespace Headroom

/-- Where a pool is in its life. -/
inductive Phase where
  | idle
  | running
  | paused
  | finished
  | aborted
  | failed
  deriving DecidableEq, Repr

namespace Phase

/-- Every phase once. -/
def all : List Phase := [idle, running, paused, finished, aborted, failed]

/-- The name of a phase in messages. -/
def name : Phase → String
  | idle => "Idle"
  | running => "Running"
  | paused => "Paused"
  | finished => "Finished"
  | aborted => "Aborted"
  | failed => "Failed"

/-- A run is in progress, paused or not. -/
def isActive : Phase → Bool
  | running | paused => true
  | _ => false

/-- The pool has ended. -/
def isTerminal : Phase → Bool
  | finished | aborted | failed => true
  | _ => false

end Phase

end Headroom
