import Headroom.Sampling.Snapshotter

/-!
# The channel of pushed readings

A broadcast channel keeps the last events, as many as its capacity, which is a power of two. Events
are numbered from the first one sent; a listener holds the number of the event it wants next. A
listener that has fallen behind what is kept is told once how many events it lost and goes on with
the oldest that is kept.
-/

namespace Headroom

/-- A broadcast channel of pushed readings. -/
structure EventChannel where
  capacity : Nat
  /-- The kept events, the latest first. -/
  kept : List SystemInfoEvent := []
  /-- How many events were ever sent. -/
  sent : Nat := 0
  /-- The sender is gone. -/
  closed : Bool := false
  deriving DecidableEq, Repr

/-- What a listener gets. -/
inductive Received where
  | event (e : SystemInfoEvent)
  | lagged (lost : Nat)
  /-- Nothing has come yet. -/
  | pending
  /-- Nothing will come any more. -/
  | finished
  deriving DecidableEq, Repr

namespace EventChannel

/-- The smallest power of two that is not below `n`. -/
def roundedCapacity (n : Nat) : Nat := if n ≤ 1 then 1 else Nat.pow 2 ((n - 1).log2 + 1)

/-- An empty channel. -/
def new (capacity : Nat) : EventChannel := { capacity := roundedCapacity capacity }

/-- Sends an event, unless the sender is gone. Tells whether it was sent. -/
def send (c : EventChannel) (e : SystemInfoEvent) : Bool × EventChannel :=
  if c.closed then (false, c)
  else (true, { c with kept := (e :: c.kept).take c.capacity, sent := c.sent + 1 })

/-- Sends events one after the other. -/
def sendAll (c : EventChannel) : List SystemInfoEvent → List Bool × EventChannel
  | [] => ([], c)
  | e :: es =>
    let (ok, c) := c.send e
    let (oks, c) := c.sendAll es
    (ok :: oks, c)

/-- Takes the sender away. What is kept can still be received. -/
def close (c : EventChannel) : EventChannel := { c with closed := true }

/-- The number of the oldest event that is kept. -/
def oldest (c : EventChannel) : Nat := c.sent - c.kept.length

/-- What a listener that wants event `next` gets, and the event it wants afterwards. -/
def receive (c : EventChannel) (next : Nat) : Received × Nat :=
  if next < c.oldest then (.lagged (c.oldest - next), c.oldest)
  else
    match if next < c.sent then c.kept[c.sent - 1 - next]? else none with
    | some e => (.event e, next + 1)
    | none => (if c.closed then .finished else .pending, next)

end EventChannel

/-- What a snapshotter does with what its listener gets. -/
def Snapshotter.hear (s : Snapshotter) (received : Received) (now : Instant) :
    Snapshotter × List SamplingNotice :=
  match received with
  | .event e => s.recordEvent e now
  | .lagged lost => (s, [.eventsDropped lost])
  | .pending => (s, [])
  | .finished => (s, [])

end Headroom
