import Mathlib.Data.List.Forall2
import Headroom.Proofs.Num.Ratio
import Headroom.Proofs.Sampling.Listening

/-!
# The events that a listener hears

A listener hears the events that were sent since the latest start of sampling, in order and each
at most once (`Snapshotter.hears_in_order`). It leaves out only what it lost where it was overtaken.

The proof looks at what is still ahead of the listener. `Listening.Move.ahead` shows that what a
signal lets it hear is taken from the front of that. So what has been heard since a start, with what
is ahead, is what has been sent since, less what was lost.
-/

namespace Headroom

/-! ## What becomes of events -/

namespace Listening

variable {b : Broadcast}

/-- The events of a log that the listener, if there is one, has not come to. -/
def ahead (l : Listening b) (log : List SystemInfoEvent) : List SystemInfoEvent :=
  l.listener.elim [] log.drop

/-- The signal makes sampling run that did not. -/
def starts (l : Listening b) (signal : Signal) : Bool :=
  !l.snapshotter.running && (l.after signal).snapshotter.running

/-- Nothing starts sampling along some signals. -/
def Unstarted (l : Listening b) (signals : List Signal) : Prop :=
  ∀ between other rest, signals = between ++ other :: rest →
    (l.afterAll between).starts other = false

/-- The events that were sent along some signals and that the listener has not come to. -/
def outstanding (l : Listening b) (signals : List Signal) : List SystemInfoEvent :=
  (l.afterAll signals).ahead (sentAlong false signals)

end Listening

/-- The calls among some signals, in order. -/
def callsAmong (signals : List Signal) : List SamplingCall :=
  signals.filterMap fun
    | .call c => some c
    | _ => none

/-- What is left of a snapshotter without the parts that pushed events are recorded in. -/
def Snapshotter.unheard (s : Snapshotter) :
    SnapshotterConfig × History EventLoopSnapshot × History ClientSnapshot × Option Nat × Bool ×
      Nat :=
  (s.config, s.eventLoop, s.client, s.previousErrors, s.running, s.leases)

/-- The call reads memory or the processor. -/
def SamplingCall.reads : SamplingCall → Bool
  | observe (.memory ..) | observe (.cpu ..) | observe (.pushed ..) => true
  | _ => false

/-- What is kept of an event: a snapshot of the processor, and one of memory unless the limit on it
is zero. -/
structure TellsOf (c : SnapshotterConfig) (e : SystemInfoEvent)
    (r : CpuSnapshot × Option MemorySnapshot) : Prop where
  cpu : r.1 = ⟨r.1.instant, c.maxUsedCpuRatio.lt r.1.usedRatio, e.cpuUsedRatio.clamp 0 1,
    c.maxUsedCpuRatio⟩
  nan : e.cpuUsedRatio.isNaN = true → r.1.usedRatio = .nan
  unit : e.cpuUsedRatio.isNaN = false → ∃ q, r.1.usedRatio.value? = some q ∧ 0 ≤ q ∧ q ≤ 1
  limited : r.2.isSome = true ↔ c.memoryLimit e.memory.totalBytes ≠ 0
  memory : ∀ m, r.2 = some m →
    m.instant = r.1.instant ∧ m.usedBytes = e.memory.usedBytes ∧
      m.limitBytes = c.memoryLimit e.memory.totalBytes ∧ 0 < m.limitBytes

/-- The histories of the processor and of memory have taken in these records, in order. -/
structure TakesIn (s t : Snapshotter) (records : List (CpuSnapshot × Option MemorySnapshot)) :
    Prop where
  cpu : t.cpu = (records.map (·.1)).foldl .push s.cpu
  memory : t.memory = (records.filterMap (·.2)).foldl .push s.memory

/-- What comes of one look of the listener, by the events that are outstanding before it and after
it. -/
inductive Looks {b : Broadcast} (capacity : Nat) (l t : Listening b) (now : Instant) (closed : Bool)
    (before after : List SystemInfoEvent) : Prop where
  /-- There is no listener. -/
  | absent :
    l.listener = none →
    t = l →
    Looks capacity l t now closed before after
  /-- All events have been taken. The listener ends if the sender is gone. -/
  | drained :
    l.listener.isSome = true →
    t.listener.isSome = !closed →
    before = [] →
    after = [] →
    l.heard? (.poll now) = none →
    t.snapshotter = l.snapshotter →
    Looks capacity l t now closed before after
  /-- There are more events than the channel keeps. The oldest are lost. The listener goes on. -/
  | overtaken :
    t.listener.isSome = true →
    capacity < before.length →
    after = before.drop (before.length - capacity) →
    l.heard? (.poll now) = none →
    t.snapshotter = l.snapshotter →
    Looks capacity l t now closed before after
  /-- The oldest event is taken and recorded. -/
  | hears {e r} :
    t.listener.isSome = true →
    before.length ≤ capacity →
    before = e :: after →
    l.heard? (.poll now) = some e →
    TellsOf l.snapshotter.config e r →
    r.1.instant = now →
    TakesIn l.snapshotter t.snapshotter [r] →
    Looks capacity l t now closed before after

/-- A start of sampling that is the latest. -/
structure LatestStart {b : Broadcast} (l : Listening b) (before : List Signal) (signal : Signal)
    (after : List Signal) : Prop where
  starts : (l.afterAll before).starts signal = true
  latest : (l.afterAll (before ++ [signal])).Unstarted after

/-- What becomes of events that are sent to a snapshotter along some signals, of those before them
and of a look of the listener at the end. -/
structure HearsInOrder {b : Broadcast} (capacity : Nat) (l : Listening b) (signals : List Signal) :
    Prop where
  looks : ∀ now, Looks capacity (l.afterAll signals) (l.afterAll (signals ++ [.poll now])) now
    (signals.any (·.closes)) (l.outstanding signals) (l.outstanding (signals ++ [.poll now]))
  /-- The events recorded since the latest start are some of those sent since, in order and each at
  most once. -/
  ordered : ∀ before signal after, signals = before ++ signal :: after →
    LatestStart l before signal after →
    ((l.afterAll (before ++ [signal])).heard after).Sublist
      ((sentAlong false signals).drop (sentAlong false before).length)
  /-- While sampling goes on and the listener is never overtaken, they are all of them but those
  that are still outstanding. -/
  complete : ∀ before signal after, signals = before ++ signal :: after →
    LatestStart l before signal after →
    (∀ between now rest, after = between ++ .poll now :: rest →
      (l.outstanding (before ++ signal :: between)).length ≤ capacity) →
    (l.afterAll signals).snapshotter.running = true →
    (sentAlong false signals).drop (sentAlong false before).length =
      (l.afterAll (before ++ [signal])).heard after ++ l.outstanding signals
  /-- From any time on, as long as nothing else reads memory and the processor, their histories take
  in what tells of the events that are heard, and nothing besides. -/
  recorded : ∀ before after, signals = before ++ after →
    (∀ c ∈ callsAmong after, c.reads = false) →
    ∃ records, TakesIn (l.afterAll before).snapshotter (l.afterAll signals).snapshotter records ∧
      List.Forall₂ (TellsOf l.snapshotter.config) ((l.afterAll before).heard after) records
  /-- A listener is there only while sampling runs. -/
  listens : (l.afterAll signals).listener.isSome = true →
    (l.afterAll signals).snapshotter.running = true
  /-- The event loop, the client and the switch go by the calls alone. -/
  independent : (l.afterAll signals).snapshotter.unheard =
    (l.snapshotter.obeyAll (callsAmong signals)).unheard

/-! ## Recording an event -/

/-- What is taken in by two stretches comes one after the other. -/
lemma TakesIn.append {s t u : Snapshotter} {records more}
    (first : TakesIn s t records) (later : TakesIn t u more) : TakesIn s u (records ++ more) := by
  refine ⟨?_, ?_⟩
  · rw [List.map_append, List.foldl_append, ← first.cpu]
    exact later.cpu
  · rw [List.filterMap_append, List.foldl_append, ← first.memory]
    exact later.memory

namespace Snapshotter

/-- Memory is recorded unless its limit is zero. -/
lemma recordMemory_adds {s : Snapshotter} {usage : MemoryUsage} {now : Instant} {result}
    (e : s.recordMemory usage now = result) :
    ∃ snapshot? : Option MemorySnapshot,
      result.1.memory = s.memory.add snapshot? ∧
        (snapshot?.isSome = true ↔ s.config.memoryLimit usage.totalBytes ≠ 0) ∧
        ∀ m, snapshot? = some m →
          m.instant = now ∧ m.usedBytes = usage.usedBytes ∧
            m.limitBytes = s.config.memoryLimit usage.totalBytes ∧ 0 < m.limitBytes := by
  rcases recordMemory_cases e with ⟨zero, e1⟩ | ⟨some, _, _, _, e1⟩
  · rw [e1]
    exact ⟨none, rfl, ⟨nofun, fun some => absurd zero some⟩, nofun⟩
  · rw [e1]
    refine ⟨.some _, rfl, ⟨fun _ => some, fun _ => rfl⟩, ?_⟩
    intro m e2
    cases e2
    exact ⟨rfl, rfl, rfl, Nat.pos_of_ne_zero some⟩

/-- An event that is recorded leaves one record, which tells of it. -/
lemma recordEvent_takesIn (s : Snapshotter) (e : SystemInfoEvent) (now : Instant) :
    ∃ r, TellsOf s.config e r ∧ r.1.instant = now ∧ TakesIn s (s.recordEvent e now).1 [r] := by
  generalize e1 : s.recordMemory e.memory now = result
  obtain ⟨memory, warning, e2⟩ := recordMemory_eq e1
  obtain ⟨snapshot?, adds⟩ := recordMemory_adds e1
  have cpu : result.1.cpu = s.cpu := by rw [e2]
  have config : result.1.config = s.config := by rw [e2]
  obtain ⟨t, notices⟩ := result
  rw [recordEvent, e1]
  dsimp only at cpu config
  obtain ⟨taken, limited, memory1⟩ := adds
  let ratio := e.cpuUsedRatio.clamp 0 1
  refine ⟨(⟨now, s.config.maxUsedCpuRatio.lt ratio, ratio, s.config.maxUsedCpuRatio⟩, snapshot?),
    ⟨rfl, ?_, Binary64.clamp_unit, limited, memory1⟩, rfl, ?_, ?_⟩
  · intro nan
    cases h : e.cpuUsedRatio with
    | nan =>
      show e.cpuUsedRatio.clamp 0 1 = .nan
      rw [h]
      exact Binary64.clamp_nan 0 1
    | real sign m =>
      rw [h] at nan
      cases nan
  · rw [← cpu, ← config]
    rfl
  · refine taken.trans ?_
    cases snapshot? <;> rfl

/-- What the listener hears leaves all else alone. -/
lemma hear_unheard (s : Snapshotter) (received : Received) (now : Instant) :
    (s.hear received now).1.unheard = s.unheard := by
  cases received with
  | event event =>
    obtain ⟨_, _, _, e⟩ := s.recordEvent_eq event now
    rw [hear, e]
    rfl
  | lagged lost => rfl
  | pending => rfl
  | finished => rfl

/-- A call that reads nothing records no memory and no processor time. -/
lemma obey_unread {s : Snapshotter} {call : SamplingCall} (unread : call.reads = false) :
    (s.obey call).cpu = s.cpu ∧ (s.obey call).memory = s.memory := by
  rcases s.obey_eq call with ⟨o, rfl⟩ | ⟨_, _, _, e⟩
  · cases o with
    | memory _ _ | cpu _ _ | pushed _ _ => cases unread
    | eventLoop _ _ | client _ _ => exact ⟨rfl, rfl⟩
  · rw [e]
    exact ⟨rfl, rfl⟩

/-- What a call does to the parts without pushed events goes by these parts alone. -/
lemma obey_unheard {s t : Snapshotter} (same : s.unheard = t.unheard) (call : SamplingCall) :
    (s.obey call).unheard = (t.obey call).unheard := by
  cases call with
  | observe o =>
    cases o with
    | memory reading now =>
      obtain ⟨_, _, e⟩ := s.sampleMemory_eq reading now
      obtain ⟨_, _, e1⟩ := t.sampleMemory_eq reading now
      rw [obey, obey, observe, observe, e, e1]
      exact same
    | cpu reading now =>
      obtain ⟨_, _, e⟩ := s.sampleCpu_eq reading now
      obtain ⟨_, _, e1⟩ := t.sampleCpu_eq reading now
      rw [obey, obey, observe, observe, e, e1]
      exact same
    | pushed event now =>
      obtain ⟨_, _, _, e⟩ := s.recordEvent_eq event now
      obtain ⟨_, _, _, e1⟩ := t.recordEvent_eq event now
      rw [obey, obey, observe, observe, e, e1]
      exact same
    | eventLoop _ _ | client _ _ =>
      cases s
      cases t
      cases same
      rfl
  | start | stop | lease =>
    obtain ⟨_, _, _, _, _, _, _, _, _, running, _⟩ := s
    cases t
    cases same
    cases running <;> rfl
  | release =>
    obtain ⟨_, _, _, _, _, _, _, _, _, running, _⟩ := s
    cases t
    cases same
    rw [obey, obey, release, release]
    dsimp only
    split
    · cases running <;> rfl
    · rfl

end Snapshotter

/-! ## What is heard -/

namespace Listening

section

variable {b : Broadcast} {capacity : Nat} {Sent : b.Channel → List SystemInfoEvent → Bool → Prop}
variable {l : Listening b} {log heard : List SystemInfoEvent} {closed : Bool} {first next : Nat}

/-- What is ahead of a listener begins at the event that it wants next. -/
lemma ahead_some (place : l.listener = some next) (log : List SystemInfoEvent) :
    l.ahead log = log.drop next := by
  rw [ahead, place]
  rfl

/-- Nothing is ahead where there is no listener. -/
lemma ahead_none (absent : l.listener = none) (log : List SystemInfoEvent) : l.ahead log = [] := by
  rw [ahead, absent]
  rfl

section

variable {t : Listening b} {signal : Signal} {sent? heard? : Option SystemInfoEvent}

/-- A move that starts nothing takes what it takes from the front of what is ahead. Events are lost
only without a listener, or where it is overtaken. -/
lemma Move.ahead (move : Move capacity l t log closed signal sent? heard?)
    (place : ∀ next, l.listener = some next → next ≤ log.length)
    (unstarted : l.snapshotter.running = false → t.snapshotter.running = false) :
    heard?.toList ++ t.ahead (log ++ sent?.toList) = l.ahead log ++ sent?.toList ∨
      (heard? = none ∧ t.listener = none ∧
        (t.snapshotter.running = true →
          l.snapshotter.running = true ∧ l.listener = none ∧ closed = false)) ∨
      ∃ next now, heard? = none ∧ sent? = none ∧ signal = .poll now ∧ l.listener = some next ∧
        next + capacity < log.length ∧ t.listener = some (log.length - capacity) := by
  cases move with
  | stays running same =>
    refine .inl ?_
    rw [ahead, same, Option.toList_none, List.append_nil, List.append_nil]
    rfl
  | sends e opened running same =>
    cases e1 : l.listener with
    | none =>
      refine .inr (.inl ⟨rfl, same.trans e1, ?_⟩)
      intro runs
      exact ⟨running.symm.trans runs, rfl, opened⟩
    | some next =>
      refine .inl ?_
      rw [ahead_some e1, ahead_some (same.trans e1), List.drop_append_of_le_length (place next e1)]
      rfl
  | subscribes rested runs listener =>
    rw [unstarted rested] at runs
    cases runs
  | cancels rests absent =>
    refine .inr (.inl ⟨rfl, absent, ?_⟩)
    intro runs
    rw [rests] at runs
    cases runs
  | ends gone all running absent =>
    refine .inl ?_
    rw [ahead_none absent, ahead_some all, List.drop_length]
    rfl
  | skips polled place far running further =>
    exact .inr (.inr ⟨_, _, rfl, rfl, polled, place, far, further⟩)
  | takes place wanted running further =>
    refine .inl ?_
    obtain ⟨bound, e1⟩ := List.getElem?_eq_some_iff.mp wanted
    rw [ahead_some place, ahead_some further, Option.toList_none, List.append_nil, List.append_nil,
      List.drop_eq_getElem_cons bound, e1]
    rfl

/-- What is heard on a signal comes from the front of what was ahead. -/
lemma Move.ahead_sublist (move : Move capacity l t log closed signal sent? heard?)
    (place : ∀ next, l.listener = some next → next ≤ log.length)
    (unstarted : l.snapshotter.running = false → t.snapshotter.running = false) :
    (heard?.toList ++ t.ahead (log ++ sent?.toList)).Sublist (l.ahead log ++ sent?.toList) := by
  rcases move.ahead place unstarted with all | ⟨nothing, absent, _⟩ |
    ⟨next, now, nothing, unsent, _, place, far, further⟩
  · rw [all]
  · rw [nothing, ahead_none absent]
    exact List.nil_sublist _
  · rw [nothing, unsent, ahead_some place, ahead_some further]
    simpa using List.drop_sublist_drop_left log (show next ≤ log.length - capacity by omega)

/-- While sampling goes on no event is lost that is not too far behind. -/
lemma Move.ahead_eq (move : Move capacity l t log closed signal sent? heard?)
    (place : ∀ next, l.listener = some next → next ≤ log.length)
    (ended : l.snapshotter.running = true → l.listener = none → closed = true)
    (unstarted : l.snapshotter.running = false → t.snapshotter.running = false)
    (near : ∀ now, signal = .poll now → (l.ahead log).length ≤ capacity)
    (running : t.snapshotter.running = true) :
    heard?.toList ++ t.ahead (log ++ sent?.toList) = l.ahead log ++ sent?.toList := by
  rcases move.ahead place unstarted with all | ⟨_, _, lost⟩ |
    ⟨next, now, _, _, polled, place, far, _⟩
  · exact all
  · obtain ⟨ran, absent, opened⟩ := lost running
    rw [ended ran absent] at opened
    cases opened
  · have close := near now polled
    rw [ahead_some place, List.length_drop] at close
    omega

end

/-- Sampling that rests does so until it is started. -/
lemma Unstarted.running {signal : Signal} {signals : List Signal}
    (unstarted : l.Unstarted (signal :: signals)) (rested : l.snapshotter.running = false) :
    (l.after signal).snapshotter.running = false := by
  have e := unstarted [] signal signals rfl
  rw [starts, afterAll, List.foldl_nil, rested] at e
  exact e

/-- No start among some signals is none among the later ones. -/
lemma Unstarted.tail {signal : Signal} {signals : List Signal}
    (unstarted : l.Unstarted (signal :: signals)) : (l.after signal).Unstarted signals := by
  intro between other rest e
  exact unstarted (signal :: between) other rest (congrArg (signal :: ·) e)

/-- From a start on the listener hears, in order, events that have been sent since. -/
lemma Sound.hears_sublist (lawful : b.Lawful capacity Sent) (sound : Sound Sent l log closed)
    {signals : List Signal} (unstarted : l.Unstarted signals) (begun : first ≤ log.length)
    (since : (heard ++ l.ahead log).Sublist (log.drop first)) :
    (heard ++ l.heard signals ++
      (l.afterAll signals).ahead (log ++ sentAlong closed signals)).Sublist
        ((log ++ sentAlong closed signals).drop first) := by
  induction signals generalizing l log closed heard with
  | nil =>
    rw [Listening.heard, sentAlong, List.append_nil, List.append_nil]
    exact since
  | cons signal signals ih =>
    rw [sentAlong, Listening.heard, ← List.append_assoc, ← List.append_assoc]
    -- What has been heard goes with what is ahead, for a move takes from the one to the other.
    have moved := (sound.move lawful signal).ahead_sublist sound.place unstarted.running
    refine ih (sound.after lawful signal) unstarted.tail ?_ ?_
    · rw [List.length_append]
      exact Nat.le_add_right_of_le begun
    · rw [List.drop_append_of_le_length begun, List.append_assoc]
      refine ((moved.append_left heard).trans ?_)
      rw [← List.append_assoc]
      exact since.append_right _

/-- It hears them all while sampling goes on, if it never falls too far behind. -/
lemma Sound.hears_all (lawful : b.Lawful capacity Sent) (sound : Sound Sent l log closed)
    {signals : List Signal} (unstarted : l.Unstarted signals) (begun : first ≤ log.length)
    (near : ∀ between now rest, signals = between ++ .poll now :: rest →
      ((l.afterAll between).ahead (log ++ sentAlong closed between)).length ≤ capacity)
    (runs : (l.afterAll signals).snapshotter.running = true)
    (since : l.snapshotter.running = true → log.drop first = heard ++ l.ahead log) :
    (log ++ sentAlong closed signals).drop first =
      heard ++ l.heard signals ++
        (l.afterAll signals).ahead (log ++ sentAlong closed signals) := by
  induction signals generalizing l log closed heard with
  | nil =>
    rw [Listening.heard, sentAlong, List.append_nil, List.append_nil]
    exact since runs
  | cons signal signals ih =>
    rw [sentAlong, Listening.heard, ← List.append_assoc, ← List.append_assoc]
    refine ih (sound.after lawful signal) unstarted.tail ?_ ?_ runs ?_
    · rw [List.length_append]
      exact Nat.le_add_right_of_le begun
    · intro between now rest e
      have close := near (signal :: between) now rest (congrArg (signal :: ·) e)
      rw [sentAlong, ← List.append_assoc] at close
      exact close
    · intro running
      -- Nothing starts sampling on the way, so it has run all along.
      have ran : l.snapshotter.running = true := by
        by_contra rested
        rw [unstarted.running (eq_false_of_ne_true rested)] at running
        cases running
      have near1 : ∀ now, signal = .poll now → (l.ahead log).length ≤ capacity := by
        intro now polled
        have close := near [] now signals (congrArg (· :: signals) polled)
        rw [sentAlong, List.append_nil] at close
        exact close
      have moved := (sound.move lawful signal).ahead_eq sound.place sound.ended unstarted.running
        near1 running
      rw [List.drop_append_of_le_length begun, since ran, List.append_assoc, ← moved,
        List.append_assoc]

/-- A look takes the first event ahead, finds none, or skips what was lost. -/
lemma Sound.looks (lawful : b.Lawful capacity Sent) (sound : Sound Sent l log closed)
    (now : Instant) :
    Looks capacity l (l.after (.poll now)) now closed (l.ahead log)
      ((l.after (.poll now)).ahead log) := by
  cases place : l.listener with
  | none => exact .absent place (by rw [Listening.after, place]; rfl)
  | some next =>
    have listens : l.listener.isSome = true := by rw [place]; rfl
    have ahead := ahead_some place log
    rcases sound.poll lawful place now with ⟨all, nothing, e1⟩ | ⟨far, nothing, e1⟩ |
      ⟨e, wanted, near, hears, e1⟩
    · rw [all, List.drop_length] at ahead
      refine .drained listens ?_ ahead ?_ nothing (by rw [e1])
      · rw [e1]
        cases closed <;> rfl
      · rw [e1]
        cases closed with
        | true => rfl
        | false => exact all ▸ List.drop_length
    · refine .overtaken (by rw [e1]; rfl) ?_ ?_ nothing (by rw [e1])
      · rw [ahead, List.length_drop]
        omega
      · have further : (l.after (.poll now)).listener = some (log.length - capacity) := by rw [e1]
        have sum : next + (log.length - next - capacity) = log.length - capacity := by omega
        rw [ahead_some further, ahead, List.length_drop, List.drop_drop, sum]
    · obtain ⟨bound, e2⟩ := List.getElem?_eq_some_iff.mp wanted
      have further : (l.after (.poll now)).listener = some (next + 1) := by rw [e1]
      obtain ⟨r, tells, time, takes⟩ := l.snapshotter.recordEvent_takesIn e now
      refine .hears (by rw [e1]; rfl) ?_ ?_ hears tells time (by rw [e1]; exact takes)
      · rw [ahead, List.length_drop]
        omega
      · rw [ahead_some further, ahead, List.drop_eq_getElem_cons bound, e2]

/-- At a start the listener has nothing ahead. -/
lemma Sound.started (lawful : b.Lawful capacity Sent) (sound : Sound Sent l log closed)
    {signal : Signal} (starts : l.starts signal = true) :
    signal.sent? closed = none ∧ (l.after signal).ahead log = [] := by
  have move := sound.move lawful signal
  rw [Listening.starts, Bool.and_eq_true, Bool.not_eq_true'] at starts
  obtain ⟨rested, runs⟩ := starts
  generalize e1 : l.after signal = t at move runs ⊢
  generalize signal.sent? closed = sent? at move ⊢
  generalize l.heard? signal = heard? at move
  cases move with
  | subscribes _ _ listener => exact ⟨rfl, (ahead_some listener log).trans List.drop_length⟩
  | cancels rests _ => rw [rests] at runs; cases runs
  | stays same _ => rw [same, rested] at runs; cases runs
  | sends _ _ same _ => rw [same, rested] at runs; cases runs
  | ends _ _ same _ => rw [same, rested] at runs; cases runs
  | skips _ _ _ same _ => rw [same, rested] at runs; cases runs
  | takes _ _ same _ => rw [same, rested] at runs; cases runs

/-- What a signal lets the listener hear is recorded. -/
lemma Sound.takesIn_after (lawful : b.Lawful capacity Sent) (sound : Sound Sent l log closed)
    {signal : Signal} (quiet : ∀ c ∈ callsAmong [signal], c.reads = false) :
    ∃ records, TakesIn l.snapshotter (l.after signal).snapshotter records ∧
      List.Forall₂ (TellsOf l.snapshotter.config) (l.heard? signal).toList records := by
  cases signal with
  | send e => exact ⟨[], ⟨rfl, rfl⟩, .nil⟩
  | close => exact ⟨[], ⟨rfl, rfl⟩, .nil⟩
  | poll now =>
    cases sound.looks lawful now with
    | absent absent same =>
      have nothing : l.heard? (.poll now) = none := by rw [heard?, absent]; rfl
      rw [same, nothing]
      exact ⟨[], ⟨rfl, rfl⟩, .nil⟩
    | drained _ _ _ _ nothing same =>
      rw [same, nothing]
      exact ⟨[], ⟨rfl, rfl⟩, .nil⟩
    | overtaken _ _ _ nothing same =>
      rw [same, nothing]
      exact ⟨[], ⟨rfl, rfl⟩, .nil⟩
    | hears _ _ _ hears tells _ takes =>
      rw [hears]
      exact ⟨_, takes, .cons tells .nil⟩
  | call c =>
    obtain ⟨cpu, memory⟩ := Snapshotter.obey_unread (s := l.snapshotter)
      (quiet c List.mem_cons_self)
    rw [l.after_call sound.idle c]
    exact ⟨[], ⟨cpu, memory⟩, .nil⟩

/-- No signal changes the configuration. -/
lemma Sound.config_after (sound : Sound Sent l log closed) (signal : Signal) :
    (l.after signal).snapshotter.config = l.snapshotter.config := by
  cases signal with
  | send e => rfl
  | close => rfl
  | poll now =>
    rw [Listening.after]
    cases l.listener with
    | none => rfl
    | some next => exact congrArg (·.1) (l.snapshotter.hear_unheard _ now)
  | call c =>
    rw [l.after_call sound.idle c]
    exact l.snapshotter.obey_config c

/-- No signals change the configuration. -/
lemma Sound.config_afterAll (lawful : b.Lawful capacity Sent) (sound : Sound Sent l log closed)
    (signals : List Signal) : (l.afterAll signals).snapshotter.config = l.snapshotter.config := by
  induction signals generalizing l log closed with
  | nil => rfl
  | cons signal signals ih =>
    exact (ih (sound.after lawful signal)).trans (sound.config_after signal)

/-- As long as nothing else is read, each event that is heard is recorded. -/
lemma Sound.takesIn (lawful : b.Lawful capacity Sent) (sound : Sound Sent l log closed)
    {signals : List Signal} (quiet : ∀ c ∈ callsAmong signals, c.reads = false) :
    ∃ records, TakesIn l.snapshotter (l.afterAll signals).snapshotter records ∧
      List.Forall₂ (TellsOf l.snapshotter.config) (l.heard signals) records := by
  induction signals generalizing l log closed with
  | nil => exact ⟨[], ⟨rfl, rfl⟩, .nil⟩
  | cons signal signals ih =>
    have split : callsAmong (signal :: signals) = callsAmong [signal] ++ callsAmong signals :=
      List.filterMap_append (l := [signal])
    rw [split, List.forall_mem_append] at quiet
    obtain ⟨records, takes, tells⟩ := sound.takesIn_after lawful quiet.1
    obtain ⟨records1, takes1, tells1⟩ := ih (sound.after lawful signal) quiet.2
    rw [sound.config_after signal] at tells1
    exact ⟨records ++ records1, takes.append takes1, List.rel_append tells tells1⟩

/-- Signals act on all else as the calls among them. -/
lemma Sound.unheard (lawful : b.Lawful capacity Sent) (sound : Sound Sent l log closed)
    {s : Snapshotter} (same : l.snapshotter.unheard = s.unheard) (signals : List Signal) :
    (l.afterAll signals).snapshotter.unheard = (s.obeyAll (callsAmong signals)).unheard := by
  induction signals generalizing l log closed s with
  | nil => exact same
  | cons signal signals ih =>
    have sound1 := sound.after lawful signal
    cases signal with
    | send e => exact ih sound1 same
    | close => exact ih sound1 same
    | poll now =>
      refine ih sound1 ?_
      rw [Listening.after]
      cases l.listener with
      | none => exact same
      | some next => exact (l.snapshotter.hear_unheard _ now).trans same
    | call c =>
      refine ih (s := s.obey c) sound1 ?_
      rw [l.after_call sound.idle c]
      exact Snapshotter.obey_unheard same c

end

end Listening

/-! ## Events are recorded in order -/

section

variable {b : Broadcast} {capacity : Nat} {Sent : b.Channel → List SystemInfoEvent → Bool → Prop}

/-- After a start the listener is where the sender is. -/
lemma LatestStart.sound {l : Listening b} {before after : List Signal} {signal : Signal}
    (lawful : b.Lawful capacity Sent) (sound : l.Sound Sent [] false)
    (start : LatestStart l before signal after) :
    ∃ closed, (l.afterAll (before ++ [signal])).Sound Sent (sentAlong false before) closed ∧
      (l.afterAll (before ++ [signal])).ahead (sentAlong false before) = [] ∧
      ∀ between, sentAlong false (before ++ signal :: between) =
        sentAlong false before ++ sentAlong closed between := by
  have sound1 := sound.afterAll lawful before
  obtain ⟨unsent, ahead⟩ := sound1.started lawful start.starts
  have sound2 := sound1.after lawful signal
  rw [unsent, Option.toList_none, List.append_nil] at sound2
  rw [l.afterAll_append]
  refine ⟨_, sound2, ahead, ?_⟩
  intro between
  rw [sentAlong_append, sentAlong, unsent]
  rfl

/-- Pushed events are recorded in order and at most once. -/
theorem Snapshotter.hears_in_order (lawful : b.Lawful capacity Sent) {c : b.Channel}
    (fresh : Sent c [] false) (config : SnapshotterConfig) (signals : List Signal) :
    HearsInOrder capacity { snapshotter := .new config true, channel := c } signals := by
  generalize e1 : ({ snapshotter := .new config true, channel := c } : Listening b) = l
  have sound : l.Sound Sent [] false := by
    subst e1
    exact ⟨fresh, fun _ => rfl, nofun, nofun⟩
  have sound1 := sound.afterAll lawful signals
  rw [List.nil_append, Bool.false_or] at sound1
  -- From a start on the listener is in the state that the start left.
  have resumes (before : List Signal) (signal : Signal) (after : List Signal) :
      l.afterAll (before ++ signal :: after) =
        (l.afterAll (before ++ [signal])).afterAll after := by
    rw [List.append_cons, l.afterAll_append]
  refine ⟨?_, ?_, ?_, ?_, ?_, ?_⟩
  · intro now
    have unsent : sentAlong false (signals ++ [.poll now]) = sentAlong false signals := by
      rw [sentAlong_append]
      exact List.append_nil _
    rw [Listening.outstanding, Listening.outstanding, unsent, l.afterAll_append]
    exact sound1.looks lawful now
  · intro before signal after e start
    obtain ⟨closed, sound2, ahead, sent⟩ := start.sound lawful sound
    have begun : ([] ++ (l.afterAll (before ++ [signal])).ahead (sentAlong false before)).Sublist
        ((sentAlong false before).drop (sentAlong false before).length) := by
      rw [ahead]
      exact List.nil_sublist _
    rw [e, sent]
    exact (List.sublist_append_left _ _).trans
      (sound2.hears_sublist lawful start.latest (Nat.le_refl _) begun)
  · intro before signal after e start near running
    obtain ⟨closed, sound2, ahead, sent⟩ := start.sound lawful sound
    have begun : (sentAlong false before).drop (sentAlong false before).length =
        [] ++ (l.afterAll (before ++ [signal])).ahead (sentAlong false before) := by
      rw [ahead]
      exact List.drop_length
    subst e
    rw [resumes] at running
    rw [Listening.outstanding, resumes before signal after, sent]
    refine sound2.hears_all lawful start.latest (Nat.le_refl _) ?_ running fun _ => begun
    intro between now rest e
    have close := near between now rest e
    rw [Listening.outstanding, resumes, sent] at close
    exact close
  · intro before after e quiet
    have sound2 := sound.afterAll lawful before
    have takes := sound2.takesIn lawful quiet
    rw [sound.config_afterAll lawful before] at takes
    rw [e, l.afterAll_append]
    exact takes
  · intro listens
    by_contra rests
    rw [sound1.idle (eq_false_of_ne_true rests)] at listens
    cases listens
  · subst e1
    exact sound.unheard lawful rfl signals

/-- A listener is overtaken once. It loses the older of the events that it has not taken, and hears
those after it. One of them is refused by the history of memory. Nothing is heard of an event that
is sent between a stop and a start. -/
theorem Snapshotter.hears_in_order_of_lag :
    ∃ signals : List Signal, ∃ l : Listening EventChannel.broadcast,
      l = { snapshotter := .new {} true, channel := .new 2 } ∧
      EventChannel.broadcast.Lawful 2 (EventChannel.Sent 2) ∧
      EventChannel.Sent 2 (.new 2) [] false ∧
      HearsInOrder 2 l signals ∧
      (l.heard signals).map (·.cpuUsedRatio) = [0.5, 2, 0.25] ∧
      (l.afterAll signals).snapshotter.cpu.entries.map (fun s => (s.instant, s.usedRatio)) =
        [(1, 0.5), (3, 1), (4, 0.25)] ∧
      (l.afterAll signals).snapshotter.memory.entries.map (fun s => (s.instant, s.limitBytes)) =
        [(1, 100), (4, 100)] ∧
      (l.afterAll signals).listener = none ∧
      (l.afterAll signals).snapshotter.running = true := by
  let event (ratio : Binary64) (total : Nat) : Signal := .send ⟨ratio, ⟨10, total⟩⟩
  let signals : List Signal :=
    [event 0.75 400, .call .start, event 0.5 400, .poll 1, event 0.75 400, event 2 0,
      event 0.25 400, .poll 2, .poll 3, .poll 4, .call .stop, event 0.75 400, .call .start, .close,
      .poll 5]
  have lawful := EventChannel.lawful 2
  have fresh : EventChannel.Sent 2 (.new 2) [] false := .new 2
  exact ⟨signals, _, rfl, lawful, fresh, hears_in_order lawful fresh {} signals, by decide +kernel⟩

end

end Headroom
