import Headroom.Sampling.Snapshot

/-!
# Load of one resource

A sample of snapshots is overloaded when the overloaded part of it exceeds a limit. The verdict
depends on the number of snapshots and on how many are overloaded, and on nothing else
(`LoadInfo.ofCounts`).
-/

namespace Headroom

/-- The verdict on one resource, with what it rests on. -/
structure LoadInfo where
  overloaded : Bool
  limitRatio : Binary64
  /-- Overloaded snapshots by all snapshots, zero for an empty sample. -/
  actualRatio : Binary64
  sampleSize : Nat
  deriving DecidableEq, Repr

namespace LoadInfo

/-- The verdict on `busy` overloaded snapshots out of `size`. An empty sample is not overloaded. -/
def ofCounts (busy size : Nat) (limit : Binary64) : LoadInfo :=
  if size = 0 then ⟨false, limit, .zero, 0⟩
  else
    let actual := Binary64.ofNat busy / Binary64.ofNat size
    ⟨limit.lt actual, limit, actual, size⟩

/-- The verdict on a sample. -/
def evaluate {α : Type} [Snapshot α] (sample : List α) (limit : Binary64) : LoadInfo :=
  ofCounts (sample.countP isOverloaded) sample.length limit

end LoadInfo

end Headroom
