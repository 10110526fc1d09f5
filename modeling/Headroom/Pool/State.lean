import Headroom.Config.Basic
import Headroom.Pool.Phase

/-!
# Concurrency bookkeeping

The phase, the bounds, the desired and the current concurrency of a pool, and the recent task
starts.

* Starting and settling a task move the current concurrency by one.
* Scaling moves the desired concurrency by a rounded part of itself, at least by one, within the
  bounds.
* Setting one bound pushes the other one along where they would cross, and the desired concurrency
  follows into the new range.
-/

namespace Headroom

/-- One change of the desired concurrency. -/
inductive ScaleChange where
  | up (old new : Nat)
  | down (old new : Nat)
  deriving DecidableEq, Repr

/-- What makes an operation on the bookkeeping impossible. -/
inductive StateFault where
  /-- The floor lies above the ceiling, so no value is within the bounds. -/
  | boundsCrossed
  /-- A sum exceeds a 64-bit count. -/
  | countOverflow
  deriving DecidableEq, Repr

/-- The step of a scaling decision: a part of the desired concurrency, rounded, and never below one.
-/
def scaleStep (ratio : Binary64) (desired : Nat) : Nat :=
  max (ratio * Binary64.ofNat desired).roundToCount 1

/-- The bookkeeping of a pool. -/
structure PoolState where
  phase : Phase
  minConcurrency : Nat
  maxConcurrency : Nat
  desired : Nat
  /-- Tasks in flight. -/
  current : Nat
  /-- Instants of recent task starts, oldest first; kept only under a cap on starts. -/
  recentStarts : List Instant
  deriving DecidableEq, Repr

namespace PoolState

/-- The bookkeeping of a pool that has not run. -/
def new (c : PoolConfig) : PoolState where
  phase := .idle
  minConcurrency := c.minConcurrency
  maxConcurrency := c.maxConcurrency
  desired := c.initialDesired
  current := 0
  recentStarts := []

/-! ## Tasks -/

/-- Another task may start, as far as phase and desired concurrency go. -/
def hasCapacity (s : PoolState) : Bool := s.phase == .running && s.current < s.desired

/-- The span over which starts are capped. -/
def rateWindow : Duration := Duration.minute

/-- The starts that still count at `now`: those less than a window ago. -/
def forgetStarts (starts : List Instant) (now : Instant) : List Instant :=
  starts.dropWhile (· + rateWindow ≤ now)

/-- Whether a start at `now` stays within the cap. Forgets starts that no longer count. -/
def startAllowed (s : PoolState) (now : Instant) (cap : Option Nat) : Bool × PoolState :=
  match cap with
  | none => (true, s)
  | some limit =>
    let kept := forgetStarts s.recentStarts now
    (kept.length < limit, { s with recentStarts := kept })

/-- Without a cap every start is allowed, and no start is forgotten. -/
@[simp]
theorem startAllowed_none (s : PoolState) (now : Instant) :
    s.startAllowed now none = (true, s) := rfl

/-- Under a cap a start is allowed if the starts that still count are fewer. -/
@[simp]
theorem startAllowed_some (s : PoolState) (now : Instant) (limit : Nat) :
    s.startAllowed now (some limit) =
      (decide ((forgetStarts s.recentStarts now).length < limit),
        { s with recentStarts := forgetStarts s.recentStarts now }) := rfl

/-- Counts a task as started. -/
def recordStart (s : PoolState) (now : Instant) (cap : Option Nat) : PoolState :=
  { s with
    current := s.current + 1
    recentStarts := if cap.isSome then s.recentStarts ++ [now] else s.recentStarts }

/-- Counts a task as settled, and tells whether none is left in flight. -/
def recordSettled (s : PoolState) : Bool × PoolState :=
  let s := { s with current := s.current - 1 }
  (s.current == 0, s)

/-! ## Scaling -/

/-- Enough of the desired concurrency is in use to raise it. -/
def isFilled (s : PoolState) (c : PoolConfig) : Bool :=
  (Binary64.ofNat s.desired * c.desiredConcurrencyRatio).le (Binary64.ofNat s.current)

/-- Lowers the desired concurrency by one step, not below the floor. -/
def scaledDown (s : PoolState) (c : PoolConfig) : Nat :=
  max (s.desired - scaleStep c.scaleDownStepRatio s.desired) s.minConcurrency

/-- The desired concurrency raised by one step, before the ceiling applies. -/
def raised (s : PoolState) (c : PoolConfig) : Nat :=
  s.desired + scaleStep c.scaleUpStepRatio s.desired

/-- Moves the desired concurrency to a target, and tells the change if there is one. -/
def rescale (s : PoolState) (change : Nat → Nat → ScaleChange) (target : Nat) :
    Option ScaleChange × PoolState :=
  (if target = s.desired then none else some (change s.desired target),
    { s with desired := target })

/-- One scaling decision. Overload scales down; an idle system scales up once the pool is filled. -/
def autoscale (s : PoolState) (idle : Bool) (c : PoolConfig) :
    Except StateFault (Option ScaleChange × PoolState) :=
  if idle then
    if s.isFilled c then
      if s.raised c < Nat.pow 2 64 then .ok (s.rescale .up (min (s.raised c) s.maxConcurrency))
      else .error .countOverflow
    else .ok (none, s)
  else .ok (s.rescale .down (s.scaledDown c))

/-! ## Bounds -/

/-- Brings the desired concurrency into the bounds. -/
def clampDesired (s : PoolState) : PoolState :=
  { s with desired := max s.minConcurrency (min s.desired s.maxConcurrency) }

/-- Sets the floor, at least to one. A ceiling below it rises to it. -/
def setMin (s : PoolState) (value : Nat) : PoolState :=
  let floor := max value 1
  clampDesired { s with minConcurrency := floor, maxConcurrency := max s.maxConcurrency floor }

/-- Sets the ceiling, at least to one. A floor above it sinks to it. -/
def setMax (s : PoolState) (value : Nat) : PoolState :=
  let ceiling := max value 1
  clampDesired { s with maxConcurrency := ceiling, minConcurrency := min s.minConcurrency ceiling }

/-- Sets the desired concurrency to the allowed value nearest to the given one. -/
def setDesired (s : PoolState) (value : Nat) : Except StateFault PoolState :=
  if s.minConcurrency ≤ s.maxConcurrency then .ok (clampDesired { s with desired := value })
  else .error .boundsCrossed

end PoolState

end Headroom
