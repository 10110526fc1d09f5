/-!
# Errors by attempt

Counts errors of the service that tasks depend on, by the number of the attempt that failed. A first
attempt that fails may be a passing spike, so the reported count leaves attempt zero out.
-/

namespace Headroom

/-- Error counts, the entry at `n` for attempt number `n`. -/
structure ErrorTracker where
  byAttempt : List Nat := []
  deriving DecidableEq, Repr

namespace ErrorTracker

/-- Adds one to an entry, lengthening the list with zeros as far as needed. -/
def bump : List Nat → Nat → List Nat
  | [], 0 => [1]
  | [], n + 1 => 0 :: bump [] n
  | c :: cs, 0 => (c + 1) :: cs
  | c :: cs, n + 1 => c :: bump cs n

/-- Counts one error on an attempt. -/
def record (t : ErrorTracker) (attempt : Nat) : ErrorTracker := ⟨bump t.byAttempt attempt⟩

/-- All errors. -/
def totalErrors (t : ErrorTracker) : Nat := t.byAttempt.foldr (· + ·) 0

/-- The errors on repeated attempts. -/
def retryErrors (t : ErrorTracker) : Nat := (t.byAttempt.drop 1).foldr (· + ·) 0

end ErrorTracker

end Headroom
