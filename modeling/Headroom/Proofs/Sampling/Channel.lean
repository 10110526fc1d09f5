import Mathlib.Tactic.Lemma
import Headroom.Sampling.EventChannel

/-!
# Broadcast channels

Pushed readings come over a broadcast channel. `Broadcast.Lawful` states what is relied on of such a
channel: it delivers in order, it forgets the oldest events when there are too many of them, which
it reports once, and whoever subscribes sees only what is sent later. `EventChannel.lawful` shows
that the channel that keeps its last events is of this kind.
-/

namespace Headroom

/-- A broadcast channel as it is used. A receiver is known by the number of the event that it wants
next. -/
structure Broadcast where
  Channel : Type
  send : Channel → SystemInfoEvent → Channel
  close : Channel → Channel
  subscribe : Channel → Nat
  receive : Channel → Nat → Received × Nat

/-- What is relied on of a broadcast channel that keeps so many events. That these events were sent
over a channel, in order, and whether its sender is gone, is what `Sent` says. -/
structure Broadcast.Lawful (b : Broadcast) (capacity : Nat)
    (Sent : b.Channel → List SystemInfoEvent → Bool → Prop) : Prop where
  send {c log} (e) : Sent c log false → Sent (b.send c e) (log ++ [e]) false
  sendClosed {c log} (e) : Sent c log true → Sent (b.send c e) log true
  close {c log closed} : Sent c log closed → Sent (b.close c) log true
  /-- Who subscribes sees only what is sent later. -/
  subscribe {c log closed} : Sent c log closed → b.subscribe c = log.length
  /-- Events are delivered in order. -/
  inOrder {c log closed next e} :
    Sent c log closed →
    log[next]? = some e →
    log.length ≤ next + capacity →
    b.receive c next = (.event e, next + 1)
  /-- If there are too many, the oldest are lost. This is reported once. -/
  overflow {c log closed next} :
    Sent c log closed →
    next + capacity < log.length →
    b.receive c next = (.lagged (log.length - capacity - next), log.length - capacity)
  /-- Once all are delivered there is nothing to wait for if the sender is gone. -/
  drained {c log closed next} :
    Sent c log closed →
    log.length ≤ next →
    b.receive c next = (if closed then .finished else .pending, next)

namespace EventChannel

/-- The operations of a channel that keeps its last events. -/
def broadcast : Broadcast where
  Channel := EventChannel
  send c e := (c.send e).2
  close := close
  subscribe := sent
  receive := receive

/-- A channel of a capacity after these events were sent. -/
structure Sent (capacity : Nat) (c : EventChannel) (log : List SystemInfoEvent) (closed : Bool) :
    Prop where
  size : c.capacity = capacity
  count : c.sent = log.length
  kept : c.kept = log.reverse.take capacity
  gone : c.closed = closed

variable {capacity : Nat} {c : EventChannel} {log : List SystemInfoEvent} {closed : Bool}

/-- Over a new channel nothing has been sent. -/
lemma Sent.new (n : Nat) : Sent (roundedCapacity n) (new n) [] false :=
  ⟨rfl, rfl, List.take_nil.symm, rfl⟩

/-- What lies beyond the first elements does not matter for them. -/
lemma take_cons_take {α : Type} (a : α) (l : List α) (n : Nat) :
    (a :: l.take n).take n = (a :: l).take n := by
  cases n with
  | zero => rfl
  | succ n =>
    rw [List.take_succ_cons, List.take_succ_cons, List.take_take, Nat.min_eq_left (Nat.le_succ n)]

/-- An event that is sent over an open channel is logged. -/
lemma Sent.send (h : Sent capacity c log false) (e : SystemInfoEvent) :
    Sent capacity (c.send e).2 (log ++ [e]) false := by
  rw [EventChannel.send, if_neg (ne_true_of_eq_false h.gone)]
  refine ⟨h.size, ?_, ?_, h.gone⟩
  · rw [List.length_append, ← h.count]
    rfl
  · dsimp only
    rw [h.kept, h.size, take_cons_take, List.reverse_append]
    rfl

/-- Nothing is sent over a channel that is closed. -/
lemma Sent.send_closed (h : Sent capacity c log true) (e : SystemInfoEvent) :
    Sent capacity (c.send e).2 log true := by
  rw [EventChannel.send, if_pos h.gone]
  exact h

/-- The oldest event that is kept is a capacity away from the end. -/
lemma Sent.oldest (h : Sent capacity c log closed) :
    c.oldest = log.length - min capacity log.length := by
  rw [EventChannel.oldest, h.count, h.kept, List.length_take, List.length_reverse]

/-- A receiver that is not too far behind gets the event that it wants. -/
lemma Sent.receive_event (h : Sent capacity c log closed) {next : Nat} {e : SystemInfoEvent}
    (wanted : log[next]? = some e) (near : log.length ≤ next + capacity) :
    c.receive next = (.event e, next + 1) := by
  obtain ⟨lt, e1⟩ := List.getElem?_eq_some_iff.mp wanted
  have kept : c.kept[c.sent - 1 - next]? = some e := by
    rw [h.kept, h.count, List.getElem?_take_of_lt (by omega), List.getElem?_reverse (by omega)]
    have place : log.length - 1 - (log.length - 1 - next) = next := by omega
    rw [place]
    exact wanted
  rw [receive, if_neg (by rw [h.oldest]; omega), if_pos (h.count ▸ lt), kept]

/-- Who is too far behind is told how much was lost. -/
lemma Sent.receive_overflow (h : Sent capacity c log closed) {next : Nat}
    (far : next + capacity < log.length) :
    c.receive next = (.lagged (log.length - capacity - next), log.length - capacity) := by
  have oldest : c.oldest = log.length - capacity := by
    rw [h.oldest, Nat.min_eq_left (by omega)]
  rw [receive, oldest, if_pos (by omega)]

/-- Who has received everything waits, or is told of the end. -/
lemma Sent.receive_drained (h : Sent capacity c log closed) {next : Nat}
    (all : log.length ≤ next) :
    c.receive next = (if closed then .finished else .pending, next) := by
  rw [receive, if_neg (by rw [h.oldest]; omega), if_neg (by rw [h.count]; omega), h.gone]

/-- A channel that keeps its last events is lawful. -/
theorem lawful (capacity : Nat) : broadcast.Lawful capacity (Sent capacity) where
  send e h := h.send e
  sendClosed e h := h.send_closed e
  close h := ⟨h.size, h.count, h.kept, rfl⟩
  subscribe h := h.count
  inOrder h := h.receive_event
  overflow h := h.receive_overflow
  drained h := h.receive_drained

/-- Events that are sent together are sent one after the other. -/
theorem sendAll_eq (c : EventChannel) (es : List SystemInfoEvent) :
    (c.sendAll es).2 = es.foldl broadcast.send c := by
  induction es generalizing c with
  | nil => rfl
  | cons e es ih => exact ih (c.send e).2

end EventChannel

end Headroom
