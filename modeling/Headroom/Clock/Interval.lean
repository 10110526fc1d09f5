import Headroom.Time.Duration

/-!
# Periodic ticks

A periodic job waits for a deadline and then chooses the next one. A tick that is noticed more than
five milliseconds late was missed, and a policy says how the job gets back on its feet: `delay`
starts a fresh period at the moment of notice, `skip` goes on with the first multiple of the period
that is still ahead.
-/

namespace Headroom

/-- How a missed tick is made up for. -/
inductive MissedTick where
  | delay
  | skip
  deriving DecidableEq, Repr

/-- Instants at which a clock wakes jobs are whole milliseconds, rounded up. -/
def Instant.wakeTime (t : Instant) : Instant :=
  (t + (Duration.millisecond - 1)) / Duration.millisecond * Duration.millisecond

/-- A job waiting for an instant need not wait at `now`. -/
def Instant.isDue (t now : Instant) : Bool := t.wakeTime ≤ now

namespace MissedTick

/-- The lateness up to which a tick counts as on time. -/
def tolerance : Duration := 5 * Duration.millisecond

/-- The deadline after one that was due at `deadline` and noticed at `now`. -/
def next (policy : MissedTick) (deadline now : Instant) (period : Duration) : Instant :=
  if deadline + tolerance < now then
    match policy with
    | delay => now + period
    | skip => now + period - (now - deadline) % period
  else deadline + period

end MissedTick

end Headroom
