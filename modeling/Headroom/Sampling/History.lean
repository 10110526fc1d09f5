import Headroom.Sampling.Snapshot

/-!
# Bounded histories

A history keeps the snapshots of one resource, oldest first. Adding a snapshot drops from the front
everything older than the retention, measured back from the new snapshot. A window reads a suffix,
whose first entry is looked up by halving.
-/

namespace Headroom

/-- The snapshots of one resource, oldest first. -/
structure History (α : Type) where
  retention : Duration
  entries : List α
  deriving DecidableEq, Repr

namespace History

variable {α : Type} [Snapshot α]

/-- A history without snapshots. -/
def empty (retention : Duration) : History α := ⟨retention, []⟩

/-- A snapshot is older than `span` at `now`. None is if the span reaches back before the clock's
zero. -/
def isOlder (now : Instant) (span : Duration) (s : α) : Bool := takenAt s + span < now

/-- The entries from the first one that is no older than `span` at `now`. -/
def since (entries : List α) (now : Instant) (span : Duration) : List α :=
  entries.dropWhile (isOlder now span)

/-- The entry at a place is older than a span. -/
def isOlderAt (h : History α) (now : Instant) (span : Duration) (i : Nat) : Bool :=
  h.entries[i]?.any (isOlder now span)

/-- The first of `size` places from `low` on where a test fails, for a test that fails at all places
after one where it fails. The places are halved until none is left. -/
def border (test : Nat → Bool) (low size : Nat) : Nat :=
  if size = 0 then low
  else
    let half := size / 2
    if test (low + half) then border test (low + half + 1) (size - half - 1)
    else border test low half
termination_by size

/-- Adds a snapshot and forgets what its instant makes too old. -/
def push (h : History α) (s : α) : History α :=
  { h with entries := since (h.entries ++ [s]) (takenAt s) h.retention }

/-- The snapshots within a window before `now`; without a window, all that are kept. -/
def sample (h : History α) (window : Option Duration) (now : Instant) : List α :=
  match window with
  | some w => h.entries.drop (border (h.isOlderAt now w) 0 h.entries.length)
  | none => h.entries

/-- The latest snapshot. -/
def last? (h : History α) : Option α := h.entries.getLast?

/-- The number of snapshots. -/
def size (h : History α) : Nat := h.entries.length

/-- There is no snapshot. -/
def isEmpty (h : History α) : Bool := h.entries.isEmpty

/-- A push keeps the retention. -/
@[simp]
theorem push_retention (h : History α) (s : α) : (h.push s).retention = h.retention := rfl

end History

end Headroom
