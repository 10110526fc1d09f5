import Headroom.Proofs.Sampling.Channel
import Headroom.Proofs.Sampling.ClientErrors
import Headroom.Scenario.Turn

/-!
# Listening to pushed readings

A snapshotter may listen to a channel of events instead of reading memory and processor itself. Its
listener takes one event at a time and records it in both histories. It comes with a start of
sampling, which subscribes it anew, and goes with a stop or with the end of the channel.

Sends, looks of the listener, starts, stops and the close of the channel interleave in any order.
`Listening.Sound` is what always holds, and `Listening.Move` lists the few things that a signal can
do to the listener. All that is used of the channel is `Broadcast.Lawful`.
`World.turnListener_looks` shows that the listeners of a scenario behave so.
-/

namespace Headroom

/-! ## Listeners -/

/-- What the surroundings have to do for a snapshotter on a call. -/
def SamplingCall.effects (s : Snapshotter) : SamplingCall → List SamplingEffect
  | observe _ => []
  | start => s.start.2
  | stop => s.stop.2
  | lease => s.lease.2
  | release => s.release.2

/-- What happens to a snapshotter that listens to a channel. -/
inductive Signal where
  | send (e : SystemInfoEvent)
  /-- The sender goes away. -/
  | close
  /-- The listener looks for one event. -/
  | poll (now : Instant)
  /-- A call on the snapshotter, or the tick of another sampler. -/
  | call (c : SamplingCall)

/-- A snapshotter that listens to a channel. -/
structure Listening (b : Broadcast) where
  snapshotter : Snapshotter
  channel : b.Channel
  /-- The number of the event that the listener wants next, while there is a listener. -/
  listener : Option Nat := none

namespace Listening

variable {b : Broadcast}

/-- Carries out an effect of the snapshotter on its listener. -/
def perform (l : Listening b) : SamplingEffect → Listening b
  | .spawnSamplers => { l with listener := some (b.subscribe l.channel) }
  | .cancelSamplers => { l with listener := none }
  | .notice _ => l

/-- The listener, which wants an event, looks for it. It ends once nothing will come any more. -/
def look (l : Listening b) (next : Nat) (now : Instant) : Listening b :=
  { l with
    snapshotter := (l.snapshotter.hear (b.receive l.channel next).1 now).1
    listener :=
      if (b.receive l.channel next).1 = .finished then none
      else some (b.receive l.channel next).2 }

/-- What comes of a signal. -/
def after (l : Listening b) : Signal → Listening b
  | .send e => { l with channel := b.send l.channel e }
  | .close => { l with channel := b.close l.channel }
  | .poll now => l.listener.elim l (l.look · now)
  | .call c =>
    (c.effects l.snapshotter).foldl perform { l with snapshotter := l.snapshotter.obey c }

/-- What comes of some signals, one after another. -/
def afterAll (l : Listening b) (signals : List Signal) : Listening b := signals.foldl after l

/-- The event that is recorded by the listener on a signal. -/
def heard? (l : Listening b) : Signal → Option SystemInfoEvent
  | .poll _ =>
    match l.listener.map (b.receive l.channel ·) with
    | some (.event e, _) => some e
    | _ => none
  | _ => none

/-- The events that are recorded by the listener along some signals, in order. -/
def heard (l : Listening b) : List Signal → List SystemInfoEvent
  | [] => []
  | signal :: signals => (l.heard? signal).toList ++ (l.after signal).heard signals

end Listening

/-- The event that is sent on a signal, unless the sender is gone. -/
@[simp]
def Signal.sent? (closed : Bool) : Signal → Option SystemInfoEvent
  | send e => if closed then none else some e
  | _ => none

/-- The signal is the close of the channel. -/
@[simp]
def Signal.closes : Signal → Bool
  | close => true
  | _ => false

/-- The events that are sent along some signals, in order. -/
def sentAlong : Bool → List Signal → List SystemInfoEvent
  | _, [] => []
  | closed, signal :: signals =>
    (signal.sent? closed).toList ++ sentAlong (closed || signal.closes) signals

/-! ## Signals -/

/-- What is sent along two stretches comes one after the other. -/
lemma sentAlong_append (closed : Bool) (before after : List Signal) :
    sentAlong closed (before ++ after) =
      sentAlong closed before ++ sentAlong (closed || before.any (·.closes)) after := by
  induction before generalizing closed with
  | nil =>
    rw [List.any_nil, Bool.or_false]
    rfl
  | cons signal before ih =>
    rw [List.cons_append, sentAlong, sentAlong, ih, List.append_assoc, List.any_cons, Bool.or_assoc]

namespace Listening

section

variable {b : Broadcast}

/-- Two stretches of signals come one after the other. -/
@[simp]
lemma afterAll_append (l : Listening b) (before after : List Signal) :
    l.afterAll (before ++ after) = (l.afterAll before).afterAll after :=
  List.foldl_append

/-- A start subscribes unless sampling runs already. -/
lemma foldl_start (l : Listening b) (s : Snapshotter) :
    s.start.2.foldl perform { l with snapshotter := s.start.1 } =
      { l with
        snapshotter := s.start.1
        listener := if s.running then l.listener else some (b.subscribe l.channel) } := by
  rw [Snapshotter.start]
  split <;> rfl

/-- After a stop there is no listener. -/
lemma foldl_stop (l : Listening b) (s : Snapshotter)
    (idle : s.running = false → l.listener = none) :
    s.stop.2.foldl perform { l with snapshotter := s.stop.1 } =
      { l with snapshotter := s.stop.1, listener := none } := by
  rw [Snapshotter.stop]
  split
  · rfl
  · next rests => rw [← idle (eq_false_of_ne_true rests)]; rfl

/-- What the listener comes to on a call goes by whether sampling runs before and after it. -/
lemma after_call (l : Listening b) (idle : l.snapshotter.running = false → l.listener = none)
    (c : SamplingCall) :
    l.after (.call c) =
      { l with
        snapshotter := l.snapshotter.obey c
        listener :=
          if (l.snapshotter.obey c).running then
            if l.snapshotter.running then l.listener else some (b.subscribe l.channel)
          else none } := by
  -- While sampling goes on, or rests, nothing is done.
  have same (s : Snapshotter) (unswitched : s.running = l.snapshotter.running) :
      { l with snapshotter := s } =
        { l with
          snapshotter := s
          listener :=
            if s.running then
              if l.snapshotter.running then l.listener else some (b.subscribe l.channel)
            else none } := by
    rw [unswitched]
    split
    · rfl
    · next rests => rw [← idle (eq_false_of_ne_true rests)]
  have halts (s : Snapshotter) : s.stop.1.running = false :=
    (s.obey_running .stop).trans (Bool.and_false s.running)
  cases c with
  | observe o => exact same _ (congrArg Prod.fst (l.snapshotter.observe_switch o))
  | start =>
    have runs : (l.snapshotter.obey .start).running = true := l.snapshotter.obey_running .start
    rw [if_pos runs]
    exact l.foldl_start l.snapshotter
  | stop =>
    rw [Snapshotter.obey, halts, if_neg Bool.false_ne_true]
    exact l.foldl_stop l.snapshotter idle
  | lease =>
    have runs : (l.snapshotter.obey .lease).running = true := l.snapshotter.obey_running .lease
    rw [if_pos runs]
    exact l.foldl_start { l.snapshotter with leases := l.snapshotter.leases + 1 }
  | release =>
    rw [after, SamplingCall.effects, Snapshotter.obey, Snapshotter.release]
    dsimp only
    split
    · rw [halts, if_neg Bool.false_ne_true]
      exact l.foldl_stop { l.snapshotter with leases := l.snapshotter.leases - 1 } idle
    · exact same _ rfl

end

/-! ## The listener's place -/

section

variable {b : Broadcast} {capacity : Nat} {Sent : b.Channel → List SystemInfoEvent → Bool → Prop}
variable {l : Listening b} {log heard : List SystemInfoEvent} {closed : Bool} {first next : Nat}

/-- What holds at any time, when these events have been sent. -/
structure Sound (Sent : b.Channel → List SystemInfoEvent → Bool → Prop) (l : Listening b)
    (log : List SystemInfoEvent) (closed : Bool) : Prop where
  sent : Sent l.channel log closed
  idle : l.snapshotter.running = false → l.listener = none
  /-- A listener ends of itself only when nothing can come any more. -/
  ended : l.snapshotter.running = true → l.listener = none → closed = true
  place : ∀ next, l.listener = some next → next ≤ log.length

/-- What a look of the listener does. -/
lemma Sound.poll (lawful : b.Lawful capacity Sent) (sound : Sound Sent l log closed)
    (place : l.listener = some next) (now : Instant) :
    (next = log.length ∧ l.heard? (.poll now) = none ∧
        l.after (.poll now) = { l with listener := if closed then none else some next }) ∨
      (next + capacity < log.length ∧ l.heard? (.poll now) = none ∧
        l.after (.poll now) = { l with listener := some (log.length - capacity) }) ∨
      ∃ e, log[next]? = some e ∧ log.length ≤ next + capacity ∧ l.heard? (.poll now) = some e ∧
        l.after (.poll now) =
          { l with
            snapshotter := (l.snapshotter.recordEvent e now).1
            listener := some (next + 1) } := by
  have within := sound.place next place
  have heard? : l.heard? (.poll now) =
      match some (b.receive l.channel next) with
      | some (.event e, _) => some e
      | _ => none := by rw [Listening.heard?, place]; rfl
  have after : l.after (.poll now) = l.look next now := by rw [Listening.after, place]; rfl
  rw [heard?, after, look]
  rcases Nat.lt_or_ge next log.length with more | all
  · rcases Nat.lt_or_ge (next + capacity) log.length with far | near
    · rw [lawful.overflow sound.sent far]
      exact .inr (.inl ⟨far, rfl, rfl⟩)
    · have wanted : log[next]? = some log[next] := List.getElem?_eq_getElem more
      rw [lawful.inOrder sound.sent wanted near]
      exact .inr (.inr ⟨_, wanted, near, rfl, rfl⟩)
  · rw [lawful.drained sound.sent all]
    refine .inl ⟨Nat.le_antisymm within all, ?_⟩
    cases closed with
    | true => exact ⟨rfl, rfl⟩
    | false => exact ⟨rfl, rfl⟩

/-- What a signal does to the listener, with the event that is sent and the one that is heard. -/
inductive Move (capacity : Nat) (l t : Listening b) (log : List SystemInfoEvent) (closed : Bool)
    (signal : Signal) : Option SystemInfoEvent → Option SystemInfoEvent → Prop where
  | stays :
    t.snapshotter.running = l.snapshotter.running →
    t.listener = l.listener →
    Move capacity l t log closed signal none none
  | sends (e) :
    closed = false →
    t.snapshotter.running = l.snapshotter.running →
    t.listener = l.listener →
    Move capacity l t log closed signal (some e) none
  | subscribes :
    l.snapshotter.running = false →
    t.snapshotter.running = true →
    t.listener = some log.length →
    Move capacity l t log closed signal none none
  | cancels :
    t.snapshotter.running = false →
    t.listener = none →
    Move capacity l t log closed signal none none
  | ends :
    closed = true →
    l.listener = some log.length →
    t.snapshotter.running = l.snapshotter.running →
    t.listener = none →
    Move capacity l t log closed signal none none
  | skips {next : Nat} {now} :
    signal = .poll now →
    l.listener = some next →
    next + capacity < log.length →
    t.snapshotter.running = l.snapshotter.running →
    t.listener = some (log.length - capacity) →
    Move capacity l t log closed signal none none
  | takes {next : Nat} {e} :
    l.listener = some next →
    log[next]? = some e →
    t.snapshotter.running = l.snapshotter.running →
    t.listener = some (next + 1) →
    Move capacity l t log closed signal none (some e)

/-- Every signal makes one of the moves. -/
lemma Sound.move (lawful : b.Lawful capacity Sent) (sound : Sound Sent l log closed)
    (signal : Signal) :
    Move capacity l (l.after signal) log closed signal (signal.sent? closed) (l.heard? signal) := by
  cases signal with
  | send e =>
    cases closed with
    | true => exact .stays rfl rfl
    | false => exact .sends e rfl rfl rfl
  | close => exact .stays rfl rfl
  | poll now =>
    cases place : l.listener with
    | none =>
      have rests : l.after (.poll now) = l := by rw [Listening.after, place]; rfl
      have nothing : l.heard? (.poll now) = none := by rw [heard?, place]; rfl
      rw [rests, nothing]
      exact .stays rfl rfl
    | some next =>
      rcases sound.poll lawful place now with ⟨all, nothing, e1⟩ | ⟨far, nothing, e1⟩ |
        ⟨e, wanted, _, hears, e1⟩
      · rw [e1, nothing]
        subst all
        cases closed with
        | true => exact .ends rfl place rfl rfl
        | false => exact .stays rfl place.symm
      · rw [e1, nothing]
        exact .skips rfl place far rfl rfl
      · rw [e1, hears]
        exact .takes place wanted (congrArg Prod.fst (l.snapshotter.observe_switch (.pushed e now)))
          rfl
  | call c =>
    rw [l.after_call sound.idle c]
    by_cases runs : (l.snapshotter.obey c).running = true
    · rw [if_pos runs]
      by_cases ran : l.snapshotter.running = true
      · rw [if_pos ran]
        exact .stays (runs.trans ran.symm) rfl
      · rw [if_neg ran]
        exact .subscribes (eq_false_of_ne_true ran) runs
          (congrArg some (lawful.subscribe sound.sent))
    · rw [if_neg runs]
      exact .cancels (eq_false_of_ne_true runs) rfl

/-- The channel keeps up with what is sent. -/
lemma Sound.sent_after (lawful : b.Lawful capacity Sent) (sound : Sound Sent l log closed)
    (signal : Signal) :
    Sent (l.after signal).channel (log ++ (signal.sent? closed).toList)
      (closed || signal.closes) := by
  cases signal with
  | send e =>
    cases closed with
    | true =>
      have sent : Sent (l.after (.send e)).channel log true := lawful.sendClosed e sound.sent
      simpa using sent
    | false => exact lawful.send e sound.sent
  | close =>
    have sent : Sent (l.after .close).channel log true := lawful.close sound.sent
    simpa using sent
  | poll now =>
    have same : (l.after (.poll now)).channel = l.channel := by
      rw [Listening.after]
      cases l.listener <;> rfl
    simpa [same] using sound.sent
  | call c =>
    rw [l.after_call sound.idle c]
    simpa using sound.sent

/-- Where there is a listener, sampling runs. -/
lemma Sound.runs (sound : Sound Sent l log closed) (place : l.listener = some next) :
    l.snapshotter.running = true := by
  by_contra rests
  rw [sound.idle (eq_false_of_ne_true rests)] at place
  cases place

/-- After a move there is a listener only while sampling runs. It is missing then only if nothing
can come any more, and it is never ahead of what was sent. -/
lemma Move.keeps {t : Listening b} {signal : Signal} {sent hears : Option SystemInfoEvent}
    (move : Move capacity l t log closed signal sent hears) (sound : Sound Sent l log closed) :
    (t.snapshotter.running = false → t.listener = none) ∧
      (t.snapshotter.running = true → t.listener = none → closed = true) ∧
      ∀ next, t.listener = some next → next ≤ (log ++ sent.toList).length := by
  cases move with
  | stays same kept =>
    rw [same, kept, Option.toList_none, List.append_nil]
    exact ⟨sound.idle, sound.ended, sound.place⟩
  | sends e _ same kept =>
    rw [same, kept, List.length_append]
    exact ⟨sound.idle, sound.ended, fun next place =>
      (sound.place next place).trans (Nat.le_add_right log.length 1)⟩
  | subscribes _ runs begins =>
    rw [runs, begins, Option.toList_none, List.append_nil]
    refine ⟨nofun, nofun, ?_⟩
    rintro next ⟨⟩
    exact Nat.le_refl log.length
  | cancels rests none =>
    rw [rests, none]
    exact ⟨fun _ => rfl, nofun, nofun⟩
  | ends isClosed _ _ none =>
    rw [none]
    exact ⟨fun _ => rfl, fun _ _ => isClosed, nofun⟩
  | skips _ place _ same moved =>
    rw [same, sound.runs place, moved, Option.toList_none, List.append_nil]
    refine ⟨nofun, nofun, ?_⟩
    rintro next ⟨⟩
    exact Nat.sub_le log.length capacity
  | takes place wanted same moved =>
    rw [same, sound.runs place, moved, Option.toList_none, List.append_nil]
    refine ⟨nofun, nofun, ?_⟩
    rintro next ⟨⟩
    exact (List.getElem?_eq_some_iff.mp wanted).1

/-- What always holds is kept by every signal. -/
lemma Sound.after (lawful : b.Lawful capacity Sent) (sound : Sound Sent l log closed)
    (signal : Signal) :
    Sound Sent (l.after signal) (log ++ (signal.sent? closed).toList)
      (closed || signal.closes) := by
  obtain ⟨idle, ended, place⟩ := (sound.move lawful signal).keeps sound
  exact ⟨sound.sent_after lawful signal, idle,
    fun runs none => Bool.or_eq_true_iff.mpr (.inl (ended runs none)), place⟩

/-- What always holds is kept by any signals. -/
lemma Sound.afterAll (lawful : b.Lawful capacity Sent) (sound : Sound Sent l log closed)
    (signals : List Signal) :
    Sound Sent (l.afterAll signals) (log ++ sentAlong closed signals)
      (closed || signals.any (·.closes)) := by
  induction signals generalizing l log closed with
  | nil =>
    rw [sentAlong, List.append_nil, List.any_nil, Bool.or_false]
    exact sound
  | cons signal signals ih =>
    rw [sentAlong, ← List.append_assoc, List.any_cons, ← Bool.or_assoc]
    exact ih (sound.after lawful signal)

end

end Listening

/-! ## Listeners of a scenario -/

/-- The number of the event that a listener's job wants next. -/
def Job.listener? : Job → Option Nat
  | listener next => some next
  | _ => none

namespace World

variable {w : World} {channel : EventChannel}

/-- Sampling begins with one listener, which subscribes to the channel. -/
theorem samplerJobBodies_listeners (pushed : w.source = .events channel) :
    w.samplerJobBodies.filterMap (·.listener?) = [EventChannel.broadcast.subscribe channel] := by
  rw [samplerJobBodies, pushed]
  rfl

/-- Logging changes nothing but the logs. -/
lemma foldl_log (w : World) (notices : List SamplingNotice) :
    ∃ logs, notices.foldl (fun w n => w.log n.toLog) w = { w with logs := logs } := by
  induction notices generalizing w with
  | nil => exact ⟨_, rfl⟩
  | cons n notices ih => exact ih (w.log n.toLog)

/-- Recording changes nothing but the snapshotter and the logs. -/
lemma record_eq (w : World) (f : Snapshotter → Snapshotter × List SamplingNotice) :
    ∃ logs, w.record f = { w with snapshotter := (f w.snapshotter).1, logs := logs } :=
  foldl_log _ _

/-- A turn of the listener's job is a look of the listener. -/
theorem turnListener_looks (pushed : w.source = .events channel) (next : Nat) :
    let l : Listening EventChannel.broadcast := ⟨w.snapshotter, channel, some next⟩
    let t := l.look next w.now
    (w.turnListener next).1.snapshotter = t.snapshotter ∧
      (w.turnListener next).1.source = .events t.channel ∧
      (w.turnListener next).2.job?.bind (·.listener?) = t.listener := by
  obtain ⟨logs, e⟩ := w.record_eq (·.hear (channel.receive next).1 w.now)
  change (w.turnListener next).1.snapshotter =
      (w.snapshotter.hear (channel.receive next).1 w.now).1 ∧
    (w.turnListener next).1.source = .events channel ∧
    (w.turnListener next).2.job?.bind (·.listener?) =
      if (channel.receive next).1 = .finished then none else some (channel.receive next).2
  rw [turnListener, pushed]
  dsimp only
  rw [e]
  cases (channel.receive next).1 with
  | event _ => exact ⟨rfl, pushed, rfl⟩
  | lagged _ => exact ⟨rfl, pushed, rfl⟩
  | pending => exact ⟨rfl, pushed, rfl⟩
  | finished => exact ⟨rfl, pushed, rfl⟩

end World

end Headroom
