import Headroom.Proofs.Pool.Fitting
import Headroom.Proofs.Pool.Holding

/-!
# The cap on starts

Under a cap, a pool keeps the times of its recent starts. A check for ready tasks forgets those that
are a minute old and asks for a task if fewer are left than the cap admits. The start follows later,
when the answer comes. `Run.rate_capped` shows that no minute has more starts than the cap, however
long the answers take, and that a check is refused only where the cap is reached.

Two facts carry it. What was forgotten stays a minute old, for the clock never goes back
(`PoolState.Remembers`). And from the look at the starts to the start that it admits nobody else
starts a task, for the check holds its slot (`Admitted`).
-/

namespace Headroom

/-- A list is filtered from its head on. -/
lemma filterMap_cons_toList {α β : Type} (f : α → Option β) (a : α) (l : List α) :
    (a :: l).filterMap f = (f a).toList ++ l.filterMap f := by
  rw [List.filterMap_cons]
  cases f a with
  | none => rfl
  | some b => rfl

namespace PoolState

/-! ## What the bookkeeping remembers -/

/-- How many starts lie within the minute up to a time. A start a full minute before it is out. -/
def startsWithin (starts : List Instant) (t : Instant) : Nat :=
  starts.countP fun u => u ≤ t && t < u + rateWindow

/-- The bookkeeping holds the starts so far except for some that are a minute old at one of the
times at which it was called. -/
structure Remembers (s : PoolState) (starts times : List Instant) : Prop where
  timely : starts.Sublist times
  kept : ∃ forgotten, starts = forgotten ++ s.recentStarts ∧
    ∀ u ∈ forgotten, ∃ t ∈ times, u + rateWindow ≤ t

/-- Forgetting splits starts in order into those that are too old and those that still count. -/
lemma forgetStarts_split {starts : List Instant} (ordered : starts.Pairwise (· ≤ ·))
    (now : Instant) :
    ∃ old, starts = old ++ forgetStarts starts now ∧ (∀ u ∈ old, u + rateWindow ≤ now) ∧
      ∀ u ∈ forgetStarts starts now, now < u + rateWindow := by
  induction starts with
  | nil => exact ⟨[], rfl, nofun, nofun⟩
  | cons u us ih =>
    obtain ⟨le, ordered1⟩ := List.pairwise_cons.mp ordered
    rw [forgetStarts, List.dropWhile_cons]
    split
    · next old =>
      obtain ⟨past, e, h1, h2⟩ := ih ordered1
      refine ⟨u :: past, congrArg (u :: ·) e, ?_, h2⟩
      exact List.forall_mem_cons.mpr ⟨of_decide_eq_true old, h1⟩
    · next recent =>
      rw [decide_eq_true_eq, Nat.not_le] at recent
      refine ⟨[], rfl, nofun, ?_⟩
      intro v mem
      cases List.mem_cons.mp mem with
      | inl e => rw [e]; exact recent
      | inr mem1 => exact Nat.lt_of_lt_of_le recent (Nat.add_le_add_right (le v mem1) _)

namespace Remembers

variable {s t : PoolState} {starts times : List Instant} {now : Instant}

/-- Only the starts that are kept matter. -/
lemma congr (re : s.Remembers starts times) (e : t.recentStarts = s.recentStarts) :
    t.Remembers starts times := by
  refine ⟨re.timely, ?_⟩
  rw [e]
  exact re.kept

/-- What is remembered stays so as time passes. -/
lemma wait (re : s.Remembers starts times) (later : List Instant) :
    s.Remembers starts (times ++ later) := by
  obtain ⟨timely, forgotten, e, old⟩ := re
  refine ⟨timely.trans (List.sublist_append_left _ _), forgotten, e, ?_⟩
  intro u mem
  obtain ⟨t, mem1, le⟩ := old u mem
  exact ⟨t, List.mem_append_left _ mem1, le⟩

/-- The starts that are kept are in order of time. -/
lemma ordered (re : s.Remembers starts times) (clock : times.Pairwise (· ≤ ·)) :
    s.recentStarts.Pairwise (· ≤ ·) := by
  obtain ⟨timely, forgotten, e, _⟩ := re
  have sub : s.recentStarts.Sublist starts := by
    rw [e]
    exact List.sublist_append_right _ _
  exact clock.sublist (sub.trans timely)

/-- A look at the cap forgets only what is a minute old. -/
lemma look (re : s.Remembers starts times) (clock : times.Pairwise (· ≤ ·)) (mem : now ∈ times)
    (cap : Option Nat) : (s.startAllowed now cap).2.Remembers starts times := by
  cases cap with
  | none => exact re
  | some limit =>
    obtain ⟨old, e1, h1, _⟩ := forgetStarts_split (re.ordered clock) now
    obtain ⟨timely, forgotten, e, h⟩ := re
    refine ⟨timely, forgotten ++ old, ?_, ?_⟩
    · rw [List.append_assoc, startAllowed_some, ← e1]
      exact e
    · intro u mem1
      cases List.mem_append.mp mem1 with
      | inl mem2 => exact h u mem2
      | inr mem2 => exact ⟨now, mem, h1 u mem2⟩

/-- A start that is recorded is remembered. -/
lemma record (re : s.Remembers starts times) (limit : Nat) :
    (s.recordStart now (some limit)).Remembers (starts ++ [now]) (times ++ [now]) := by
  obtain ⟨timely, forgotten, e, old⟩ := re.wait [now]
  refine ⟨re.timely.append_right _, forgotten, ?_, old⟩
  rw [e, List.append_assoc]
  rfl

/-- The starts of the last minute are all kept. -/
lemma startsWithin_le (re : s.Remembers starts times) (past : ∀ u ∈ times, u ≤ now) :
    startsWithin starts now ≤ s.recentStarts.length := by
  obtain ⟨_, forgotten, e, old⟩ := re
  have out : forgotten.countP (fun u => u ≤ now && now < u + rateWindow) = 0 := by
    rw [List.countP_eq_zero]
    intro u mem within
    obtain ⟨t, mem1, le⟩ := old u mem
    rw [Bool.and_eq_true, decide_eq_true_eq, decide_eq_true_eq] at within
    exact absurd (Nat.le_trans le (past t mem1)) (Nat.not_le_of_lt within.2)
  rw [startsWithin, e, List.countP_append, out, Nat.zero_add]
  exact List.countP_le_length

/-- A look leaves just the starts within the last minute. -/
lemma startsWithin_eq (re : s.Remembers starts times) (clock : (times ++ [now]).Pairwise (· ≤ ·)) :
    startsWithin starts now = (forgetStarts s.recentStarts now).length := by
  have re1 := re.wait [now]
  obtain ⟨old, e1, h1, h2⟩ := forgetStarts_split (re1.ordered clock) now
  obtain ⟨timely, forgotten, e, h⟩ :=
    re1.look clock (List.mem_append_right _ List.mem_cons_self) (some 0)
  have past : ∀ u ∈ times ++ [now], u ≤ now := by
    intro u mem
    cases List.mem_append.mp mem with
    | inl mem1 =>
      exact (List.pairwise_append.mp clock).2.2 u mem1 now List.mem_cons_self
    | inr mem1 => exact Nat.le_of_eq (List.mem_singleton.mp mem1)
  apply Nat.le_antisymm
  · exact startsWithin_le ⟨timely, forgotten, e, h⟩ past
  · rw [startsWithin, e, List.countP_append, ← List.countP_eq_length.mpr]
    · exact Nat.le_add_left _ _
    · intro u mem
      have mem1 : u ∈ times ++ [now] := by
        refine timely.subset ?_
        rw [e]
        exact List.mem_append_right _ mem
      rw [Bool.and_eq_true, decide_eq_true_eq, decide_eq_true_eq]
      exact ⟨past u mem1, h2 u mem⟩

/-- A start is refused just if the starts within the last minute have reached the cap. -/
lemma refuses_iff (re : s.Remembers starts times) (clock : (times ++ [now]).Pairwise (· ≤ ·))
    (limit : Nat) :
    (s.startAllowed now (some limit)).1 = false ↔ limit ≤ startsWithin starts now := by
  rw [re.startsWithin_eq clock, startAllowed_some, decide_eq_false_iff_not, Nat.not_lt]

end Remembers

/-! ## Sequences of operations -/

namespace Op

/-- The time that an operation is told. -/
def time? : Op → Option Instant
  | startAllowed now _ => some now
  | recordStart now _ => some now
  | _ => none

/-- The start that an operation records. -/
def recorded? : Op → Option Instant
  | recordStart now (some _) => some now
  | _ => none

end Op

/-- An operation that records no start and forgets none only lets time go by. -/
lemma Remembers.quiet {s t : PoolState} {starts times : List Instant} (op : Op)
    (re : s.Remembers starts times) (h : op.recorded? = none)
    (e : t.recentStarts = s.recentStarts) :
    t.Remembers (starts ++ op.recorded?.toList) (times ++ op.time?.toList) := by
  rw [h, Option.toList_none, List.append_nil]
  exact (re.congr e).wait _

/-- What is remembered is kept up by every operation. -/
lemma Remembers.apply {s t : PoolState} {starts times : List Instant} {c : PoolConfig} {op : Op}
    (re : s.Remembers starts times) (clock : (times ++ op.time?.toList).Pairwise (· ≤ ·))
    (e : s.apply c op = .ok t) :
    t.Remembers (starts ++ op.recorded?.toList) (times ++ op.time?.toList) := by
  cases op with
  | setPhase phase => cases e; exact re.quiet (.setPhase phase) rfl rfl
  | startAllowed now cap =>
    cases e
    have re1 := re.quiet (.startAllowed now cap) rfl rfl
    exact re1.look clock (List.mem_append_right _ List.mem_cons_self) cap
  | recordStart now cap =>
    cases e
    cases cap with
    | some limit => exact re.record limit
    | none => exact re.quiet (.recordStart now none) rfl rfl
  | recordSettled => cases e; exact re.quiet .recordSettled rfl rfl
  | autoscale idle =>
    rw [PoolState.apply] at e
    cases e1 : s.autoscale idle c with
    | error fault => rw [e1] at e; cases e
    | ok r =>
      rw [e1] at e
      cases e
      exact re.quiet (.autoscale idle) rfl (autoscale_recentStarts e1)
  | setMin value => cases e; exact re.quiet (.setMin value) rfl rfl
  | setMax value => cases e; exact re.quiet (.setMax value) rfl rfl
  | setDesired value => exact re.quiet (.setDesired value) rfl (setDesired_recentStarts e)

/-- What is remembered is kept up by any sequence of operations. -/
lemma Remembers.applyAll {s t : PoolState} {starts times : List Instant} {c : PoolConfig}
    {ops : List Op} (re : s.Remembers starts times)
    (clock : (times ++ ops.filterMap (·.time?)).Pairwise (· ≤ ·))
    (e : s.applyAll c ops = .ok t) :
    t.Remembers (starts ++ ops.filterMap (·.recorded?)) (times ++ ops.filterMap (·.time?)) := by
  induction ops generalizing s starts times with
  | nil =>
    cases e
    rw [List.filterMap_nil, List.filterMap_nil, List.append_nil, List.append_nil]
    exact re
  | cons op ops ih =>
    rw [filterMap_cons_toList, ← List.append_assoc] at clock ⊢
    rw [filterMap_cons_toList, ← List.append_assoc]
    rw [PoolState.applyAll] at e
    cases e1 : s.apply c op with
    | error fault => rw [e1] at e; cases e
    | ok u =>
      rw [e1] at e
      have clock1 := clock.sublist (List.sublist_append_left _ _)
      exact ih (re.apply clock1 e1) clock e

end PoolState

namespace Pool

/-! ## Times along a run -/

/-- The time that an event tells the pool. -/
def Event.time? : Event → Option Instant
  | enterStartCheck _ now _ => some now
  | answerReady _ _ now _ _ => some now
  | _ => none

/-- The time at which a task is launched in a moment. -/
def Moment.start? (m : Moment) : Option Instant :=
  if 0 < launches m.effects then m.event.time? else none

/-- The times that a pool was told, in order. -/
def times (ms : List Moment) : List Instant := ms.reverse.filterMap (·.event.time?)

/-- The times at which tasks were launched, in order. -/
def startTimes (ms : List Moment) : List Instant := ms.reverse.filterMap (·.start?)

/-- The clock never goes back. -/
def Clocked (ms : List Moment) : Prop := (times ms).Pairwise (· ≤ ·)

/-- How a cap on starts shows along a run so far. -/
structure RateCapped (limit : Nat) (ms : List Moment) (s : Situation) : Prop where
  /-- Every launch has its time. -/
  timed : (startTimes ms).length = launchCount ms
  /-- No minute has more starts than the cap. -/
  window : ∀ t, PoolState.startsWithin (startTimes ms) t ≤ limit
  /-- No more starts are kept than the cap, also where the next one has just been recorded. -/
  held : s.pool.state.recentStarts.length ≤ limit
  recorded : ∀ e now, s.Enabled e → 0 < launches (s.pool.respond e).effects →
    (s.pool.launch now).state.recentStarts.length ≤ limit
  /-- Whatever is done with the bookkeeping from here on, a start is refused just if the recorded
  starts within the last minute reach the cap that is asked for. -/
  exact : ∀ ops now t cap,
    (times ms ++ ops.filterMap (·.time?) ++ [now]).Pairwise (· ≤ ·) →
    s.pool.state.applyAll s.pool.config ops = .ok t →
    ((t.startAllowed now (some cap)).1 = false ↔
      cap ≤ PoolState.startsWithin (startTimes ms ++ ops.filterMap (·.recorded?)) now)

/-- The time of the latest event comes last. -/
@[simp]
lemma times_cons (m : Moment) (ms : List Moment) :
    times (m :: ms) = times ms ++ m.event.time?.toList := by
  rw [times, List.reverse_cons, List.filterMap_append, filterMap_cons_toList, List.filterMap_nil,
    List.append_nil]
  rfl

/-- The start of the latest event comes last. -/
@[simp]
lemma startTimes_cons (m : Moment) (ms : List Moment) :
    startTimes (m :: ms) = startTimes ms ++ m.start?.toList := by
  rw [startTimes, List.reverse_cons, List.filterMap_append, filterMap_cons_toList,
    List.filterMap_nil, List.append_nil]
  rfl

/-! ## One moment -/

/-- Whatever becomes of timers and lease, the configuration stays. -/
lemma Refit.config {p e r} (refit : Refit p e r) : r.pool.config = p.config := by
  cases refit with
  | stays _ _ same => exact congrArg Prod.fst same
  | equips _ _ _ fitted => exact congrArg Prod.fst fitted
  | strips _ bare => exact congrArg Prod.fst bare

/-- Only checks for ready tasks touch the starts that are kept. -/
lemma respond_recentStarts (p : Pool) {e : Event} (h : e.reading? = none) :
    (p.respond e).pool.state.recentStarts = p.state.recentStarts := by
  cases c : e.isCheck with
  | false => exact congrArg Prod.snd (respond_checkState p c)
  | true =>
    cases e with
    | enterStartCheck => cases h
    | answerReady => cases h
    | dropStartCheck => rfl
    | enterFinishCheck =>
      cases p.enterFinishCheck_cases with
      | inl asks => rw [respond, asks.1]
      | inr refused => rw [respond, refused]
    | answerFinished q answer historical =>
      exact (answerFinished_starts p answer historical).2
    | _ => cases c

/-- A look at the budget is told the time, and comes after the launch that an answer makes. -/
lemma Moment.looks?_inv {m : Moment} {p now idle} (h : m.looks? = some (p, now, idle)) :
    m.event.time? = some now ∧
      m.after.pool.state.recentStarts = (p.wantsTask now idle).2.state.recentStarts ∧
      ((p = m.before.pool ∧ launches m.effects = 0) ∨
        (p = m.before.pool.launch now ∧ launches m.effects = 1 ∧
          m.event.closesReady?.isSome = true)) := by
  obtain ⟨s, e⟩ := m
  simp only [looks?] at h
  split at h
  · next timed now1 idle1 =>
    split at h
    · cases h
    · next free =>
      cases h
      have e1 : s.pool.respond (.enterStartCheck timed now idle) =
          askForTask { s.pool with startCheckBusy := true } [] now idle := by
        rw [respond, enterStartCheck, if_neg free]
      refine ⟨rfl, ?_, .inl ⟨rfl, ?_⟩⟩
      · rw [after, Situation.next, e1, askForTask]
        dsimp only [wantsTask]
        split <;> rfl
      · rw [effects, e1]
        rfl
  · next q now1 idle1 historical =>
    split at h
    · next capacity =>
      cases h
      have e1 : s.pool.respond (.answerReady q (.ok true) now idle historical) =
          askForTask (s.pool.launch now) [.launchTask] now idle := by
        rw [respond, answerReady, if_pos capacity]
      refine ⟨rfl, ?_, .inr ⟨rfl, ?_, rfl⟩⟩
      · rw [after, Situation.next, e1]
        rfl
      · rw [effects, e1]
        rfl
    · cases h
  · cases h

/-- Where no check looks at the budget, nothing is launched and no start is forgotten. -/
lemma Moment.still_of_not_looks {m : Moment} (h : m.looks? = none) :
    m.after.pool.state.recentStarts = m.before.pool.state.recentStarts ∧
      launches m.effects = 0 := by
  obtain ⟨s, e⟩ := m
  constructor
  · cases r : e.reading? with
    | none => exact respond_recentStarts s.pool r
    | some reading =>
      cases e with
      | enterStartCheck timed now idle =>
        simp only [looks?] at h
        split at h
        · next busy => rw [after, Situation.next, respond, enterStartCheck_busy busy]
        · cases h
      | answerReady q answer now idle historical =>
        cases answer with
        | error detail => exact congrArg Prod.snd (fail_checkState s.pool _ _)
        | ok ready =>
          cases ready with
          | false => rfl
          | true =>
            simp only [looks?] at h
            split at h
            · cases h
            · next none =>
              rw [after, Situation.next, respond, answerReady, if_neg none]
              rfl
      | _ => cases r
  · cases Nat.eq_zero_or_pos (launches (Moment.mk s e).effects) with
    | inl zero => exact zero
    | inr pos =>
      -- What launches a task is an answer that looks at the budget again.
      obtain ⟨_, capacity, ⟨q, now, idle, historical, e1⟩, _⟩ :=
        (respond_reaction s.pool e).of_launch pos
      subst e1
      simp only [looks?, capacity, if_true] at h
      cases h

/-- Without a launch there is no start. -/
lemma Moment.start?_eq_none {m : Moment} (h : launches m.effects = 0) : m.start? = none := by
  rw [start?, h]
  rfl

/-- A launch is a start at the time of its event. -/
lemma Moment.start?_eq_some {m : Moment} {now} (h : launches m.effects = 1)
    (time : m.event.time? = some now) : m.start? = some now := by
  rw [start?, h, time]
  rfl

/-- The head of a check's loop keeps up what is remembered. -/
lemma wantsTask_remembers {p : Pool} {starts times : List Instant} {now : Instant} {idle : Bool}
    (re : p.state.Remembers starts times) (clock : times.Pairwise (· ≤ ·)) (mem : now ∈ times) :
    (p.wantsTask now idle).2.state.Remembers starts times := by
  rw [wantsTask]
  split
  · exact re.look clock mem _
  · exact re

/-- A moment adds its launch to the starts and its time to the times. -/
lemma Moment.remembers {m : Moment} {starts times : List Instant} {limit : Nat}
    (re : m.before.pool.state.Remembers starts times)
    (capped : m.before.pool.config.maxTasksPerMinute = some limit)
    (clock : (times ++ m.event.time?.toList).Pairwise (· ≤ ·)) :
    m.after.pool.state.Remembers (starts ++ m.start?.toList)
      (times ++ m.event.time?.toList) := by
  cases h : m.looks? with
  | none =>
    obtain ⟨e, l⟩ := still_of_not_looks h
    rw [start?_eq_none l, Option.toList_none, List.append_nil]
    exact (re.congr e).wait _
  | some look =>
    obtain ⟨p, now, idle⟩ := look
    obtain ⟨time, e, from_⟩ := looks?_inv h
    rw [time] at clock ⊢
    have looked : p.state.Remembers (starts ++ m.start?.toList) (times ++ [now]) := by
      cases from_ with
      | inl begins =>
        obtain ⟨e1, l⟩ := begins
        rw [start?_eq_none l, Option.toList_none, List.append_nil, e1]
        exact re.wait _
      | inr launched =>
        obtain ⟨e1, l, _⟩ := launched
        rw [start?_eq_some l time, e1, launch, capped]
        exact re.record limit
    have mem : now ∈ times ++ [now] := List.mem_append_right _ List.mem_cons_self
    exact (wantsTask_remembers looked clock mem).congr e

/-! ## From the look to the start -/

/-- No more starts are kept than the cap, and fewer while a check waits for its answer. -/
structure Admitted (limit : Nat) (s : Situation) : Prop where
  held : s.pool.state.recentStarts.length ≤ limit
  room : s.pool.startCheckBusy = true → s.pool.state.recentStarts.length < limit

/-- A look at the budget at most forgets starts, and leaves room for one more if it admits it. -/
lemma wantsTask_room {p : Pool} {limit : Nat} (capped : p.config.maxTasksPerMinute = some limit)
    (now : Instant) (idle : Bool) :
    (p.wantsTask now idle).2.state.recentStarts.length ≤ p.state.recentStarts.length ∧
      ((p.wantsTask now idle).1 = true →
        (p.wantsTask now idle).2.state.recentStarts.length < limit) := by
  rw [wantsTask, capped]
  split
  · refine ⟨(List.dropWhile_sublist _).length_le, ?_⟩
    intro wants
    dsimp only [PoolState.startAllowed_some] at wants ⊢
    rw [Bool.and_eq_true, decide_eq_true_eq] at wants
    exact wants.1
  · refine ⟨Nat.le_refl _, ?_⟩
    intro wants
    cases wants

/-- Under a cap, a launch adds one start to those that are kept. -/
lemma length_launch {p : Pool} {limit : Nat} (capped : p.config.maxTasksPerMinute = some limit)
    (now : Instant) :
    (p.launch now).state.recentStarts.length = p.state.recentStarts.length + 1 := by
  rw [launch, capped]
  exact List.length_append

/-- A question for a ready task that gets its answer held the slot. -/
lemma Slotted.busy {s : Situation} {e : Event} (sl : Slotted s) (enabled : s.Enabled e)
    (h : e.closesReady?.isSome = true) : s.pool.startCheckBusy = true := by
  obtain ⟨q, closes⟩ := Option.isSome_iff_exists.mp h
  exact (eq_singleton_of_slot sl.slot (enabled.closes closes)).2

/-- Every event keeps the starts within the cap, for whoever starts a task held the slot. -/
lemma Admitted.next {s e limit} (ad : Admitted limit s) (sl : Slotted s) (enabled : s.Enabled e)
    (capped : s.pool.config.maxTasksPerMinute = some limit) : Admitted limit (s.next e) := by
  cases h : (Moment.mk s e).looks? with
  | none =>
    have same : (s.next e).pool.state.recentStarts = s.pool.state.recentStarts :=
      (Moment.still_of_not_looks h).1
    constructor
    · rw [same]; exact ad.held
    · intro busy
      rw [same]
      apply ad.room
      cases closes : e.closesReady? with
      | some q =>
        have free : (s.next e).pool.startCheckBusy = false :=
          (Moment.ends_of_closes (m := ⟨s, e⟩) closes h).2
        rw [busy] at free
        cases free
      | none =>
        have away : ¬ (Moment.mk s e).AtStartSlot := by
          rw [Moment.AtStartSlot, h, closes]
          exact not_or.mpr ⟨Bool.false_ne_true, Bool.false_ne_true⟩
        exact (Moment.start_kept away).1.symm.trans busy
  | some look =>
    obtain ⟨p, now, idle⟩ := look
    obtain ⟨_, same, from_⟩ := Moment.looks?_inv h
    have same1 : (s.next e).pool.state.recentStarts = _ := same
    have slot : (s.next e).pool.startCheckBusy = _ := Moment.slot_of_looks h
    -- The pool that is looked at keeps no more than the cap, also after a launch.
    have held : p.config.maxTasksPerMinute = some limit ∧ p.state.recentStarts.length ≤ limit := by
      cases from_ with
      | inl begins => rw [begins.1]; exact ⟨capped, ad.held⟩
      | inr launched =>
        obtain ⟨e1, _, closes⟩ := launched
        refine ⟨e1 ▸ capped, ?_⟩
        rw [e1, length_launch capped]
        exact ad.room (sl.busy enabled closes)
    obtain ⟨le, room⟩ := wantsTask_room held.1 now idle
    constructor
    · rw [same1]
      exact Nat.le_trans le held.2
    · rw [same1, slot]
      exact room

/-! ## Along a run -/

/-- No event changes the configuration. -/
lemma Run.config {ms s e} (_ : Run ms s) : (s.next e).pool.config = s.pool.config :=
  (respond_refit s.pool e).config

/-- Along a run, every open question may be followed by a start. -/
lemma Run.admitted {ms s limit} (run : Run ms s)
    (capped : s.pool.config.maxTasksPerMinute = some limit) : Admitted limit s := by
  induction run with
  | start e =>
    obtain ⟨_, e1⟩ := new_inv e
    subst e1
    exact ⟨Nat.zero_le _, nofun⟩
  | step run enabled ih =>
    rw [run.config] at capped
    exact (ih capped).next run.slotted enabled capped

/-- The starts that are kept are those of the run, up to some that are a minute old. -/
lemma Run.remembers {ms s limit} (run : Run ms s)
    (capped : s.pool.config.maxTasksPerMinute = some limit) (clock : Clocked ms) :
    s.pool.state.Remembers (startTimes ms) (times ms) := by
  induction run with
  | start e =>
    obtain ⟨_, e1⟩ := new_inv e
    subst e1
    exact ⟨.slnil, [], rfl, nofun⟩
  | @step ms s e run _ ih =>
    rw [run.config] at capped
    rw [Clocked, times_cons] at clock
    rw [startTimes_cons, times_cons]
    have re := ih capped (clock.sublist (List.sublist_append_left _ _))
    exact Moment.remembers (m := ⟨s, e⟩) re capped clock

/-- Every launch of a run is a start with a time. -/
lemma Run.length_startTimes {ms s} (run : Run ms s) : (startTimes ms).length = launchCount ms := by
  induction run with
  | start => rfl
  | @step ms s e _ _ ih =>
    rw [startTimes_cons, launchCount_cons, List.length_append, ih, Nat.add_comm]
    cases Nat.eq_zero_or_pos (launches (Moment.mk s e).effects) with
    | inl zero => rw [Moment.start?_eq_none zero, zero]; rfl
    | inr pos =>
      obtain ⟨one, _, ⟨q, now, idle, historical, e1⟩, _⟩ :=
        (respond_reaction s.pool e).of_launch pos
      subst e1
      have one1 : launches (Moment.mk s (.answerReady q (.ok true) now idle historical)).effects =
        1 := one
      rw [Moment.start?_eq_some one1 rfl, one1]
      rfl

/-- A launch finds fewer starts than the cap admits. -/
lemma Run.room {ms s e limit} (run : Run ms s) (enabled : s.Enabled e)
    (capped : s.pool.config.maxTasksPerMinute = some limit)
    (pos : 0 < launches (s.pool.respond e).effects) :
    s.pool.state.recentStarts.length < limit := by
  obtain ⟨_, _, ⟨q, now, idle, historical, e1⟩, _⟩ := (respond_reaction s.pool e).of_launch pos
  subst e1
  exact (run.admitted capped).room (run.slotted.busy enabled rfl)

/-- No minute has more starts than the cap. -/
lemma Run.startsWithin_le {ms s limit} (run : Run ms s)
    (capped : s.pool.config.maxTasksPerMinute = some limit) (clock : Clocked ms) (t : Instant) :
    PoolState.startsWithin (startTimes ms) t ≤ limit := by
  induction run with
  | start => exact Nat.zero_le _
  | @step ms s e run enabled ih =>
    rw [run.config] at capped
    rw [Clocked, times_cons] at clock
    have clock1 : Clocked ms := clock.sublist (List.sublist_append_left _ _)
    have le := ih capped clock1
    rw [startTimes_cons]
    cases h : (Moment.mk s e).start? with
    | none =>
      rw [Option.toList_none, List.append_nil]
      exact le
    | some now =>
      rw [Moment.start?] at h
      split at h
      · next pos =>
        rw [h] at clock
        have past : ∀ u ∈ times ms, u ≤ now := fun u mem =>
          (List.pairwise_append.mp clock).2.2 u mem now List.mem_cons_self
        rw [Option.toList_some, PoolState.startsWithin, List.countP_append, List.countP_singleton]
        split
        · next within =>
          -- A minute that takes the new start in has only kept ones besides, and there is room.
          rw [Bool.and_eq_true, decide_eq_true_eq] at within
          have kept := (run.remembers capped clock1).startsWithin_le
            (fun u mem => Nat.le_trans (past u mem) within.1)
          have room := run.room enabled capped pos
          exact Nat.lt_of_le_of_lt kept room
        · exact le
      · cases h

/-- Along a run under a cap on starts, with a clock that never goes back, no minute has more starts
than the cap, no more are kept, and a start is refused just if the last minute has reached the cap.
-/
theorem Run.rate_capped {ms s limit} (run : Run ms s)
    (capped : s.pool.config.maxTasksPerMinute = some limit) (clock : Clocked ms) :
    RateCapped limit ms s where
  timed := run.length_startTimes
  window := run.startsWithin_le capped clock
  held := (run.admitted capped).held
  recorded e now enabled pos := by
    rw [length_launch capped]
    exact run.room enabled capped pos
  exact ops now t cap clock1 e := by
    have re := (run.remembers capped clock).applyAll
      (clock1.sublist (List.sublist_append_left _ _)) e
    exact re.refuses_iff clock1 cap

/-- One start a minute is admitted. The first one comes five seconds after its look at the budget. A
check a second later is refused, and so is one just short of a minute after the start. -/
theorem Run.rate_capped_of_delay :
    ∃ ms s, Run ms s ∧ s.pool.config.maxTasksPerMinute = some 1 ∧ Clocked ms ∧
      RateCapped 1 ms s ∧ startTimes ms = [5 * Duration.second, 65 * Duration.second] ∧
      s.readyAsked = 2 ∧ s.startChecks = 4 := by
  let h := Classical.choice nonempty_systemInfo
  have run0 := Run.fresh (c := { loggingSecs := .zero, maxTasksPerMinute := some 1 })
    (by decide +kernel)
  have run1 := run0.step (e := .callRun) trivial
  have run2 := run1.step (e := .enterStartCheck false 0 true) trivial
  have run3 := run2.step
    (e := .answerReady ⟨0, 0, false, true, 1⟩ (.ok true) (5 * Duration.second) true h)
    List.mem_cons_self
  have run4 := run3.step (e := .settleTask 0 .succeeded h) List.mem_cons_self
  have run5 := run4.step (e := .enterStartCheck true (6 * Duration.second) true) trivial
  have run6 := run5.step (e := .enterStartCheck true (65 * Duration.second - 1) true) trivial
  -- The start leaves the window a full minute after it.
  have run7 := run6.step (e := .enterStartCheck true (65 * Duration.second) true) trivial
  have run8 := run7.step
    (e := .answerReady ⟨1, 3, true, true, 1⟩ (.ok true) (65 * Duration.second) true h)
    List.mem_cons_self
  refine ⟨_, _, run8, ?cap, ?clock, run8.rate_capped ?cap ?clock, ?counts⟩
  case cap => decide +kernel
  case clock =>
    rw [Clocked]
    decide +kernel
  case counts => decide +kernel

end Pool

end Headroom
