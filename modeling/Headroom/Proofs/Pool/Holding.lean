import Headroom.Proofs.Pool.Finishing
import Headroom.Proofs.Pool.Starting

/-!
# How long checks hold their slots

A check takes its slot as it begins and holds it while its question is open. `Run.slots_held` shows
that the slot is taken for exactly that long: a slot is taken just if one check waits for an answer,
a check that finds it taken changes nothing, and each way on which a check ends gives it up. The
ways are listed by `StartCheckEnds` and `FinishCheckEnds`, and there are no others.
-/

namespace Headroom.Pool

namespace Moment

/-- The pool, the time and the verdict on the load that a check for ready tasks goes by as it looks
at the budget. It does so once it has got the slot, and again for each task that it launches. -/
def looks? (m : Moment) : Option (Pool × Instant × Bool) :=
  match m.event with
  | .enterStartCheck _ now idle =>
    if m.before.pool.startCheckBusy then none else some (m.before.pool, now, idle)
  | .answerReady _ (.ok true) now idle _ =>
    if m.before.pool.state.hasCapacity then some (m.before.pool.launch now, now, idle) else none
  | _ => none

/-- The check that holds the slot for ready tasks, or gets it, is at work. -/
def AtStartSlot (m : Moment) : Prop :=
  m.looks?.isSome = true ∨ m.event.closesReady?.isSome = true

/-- The check that holds the slot for the end of the run, or gets it, is at work. -/
def AtFinishSlot (m : Moment) : Prop :=
  (m.event = .enterFinishCheck ∧ m.before.pool.finishCheckBusy = false) ∨
    m.event.closesFinish?.isSome = true

end Moment

/-- The ways on which a check for ready tasks ends. -/
inductive StartCheckEnds (m : Moment) : Prop where
  /-- The pool does not run, or no further task is desired. -/
  | noBudget {p now idle} :
    m.looks? = some (p, now, idle) →
    p.state.hasCapacity = false →
    StartCheckEnds m
  /-- The cap on starts is reached. -/
  | capped {p now idle} :
    m.looks? = some (p, now, idle) →
    (p.state.startAllowed now p.config.maxTasksPerMinute).1 = false →
    StartCheckEnds m
  /-- The system is overloaded, and the pool is not below its floor. -/
  | overloaded {p now} :
    m.looks? = some (p, now, false) →
    p.state.minConcurrency ≤ p.state.current →
    StartCheckEnds m
  /-- No task is ready. -/
  | dry {q now idle historical} :
    m.event = .answerReady q (.ok false) now idle historical →
    StartCheckEnds m
  /-- The question fails, and the run with it. -/
  | failed {q detail now idle historical} :
    m.event = .answerReady q (.error detail) now idle historical →
    StartCheckEnds m
  /-- A task is ready, but there is no capacity for it any more. -/
  | turnedAway {q now idle historical} :
    m.event = .answerReady q (.ok true) now idle historical →
    m.before.pool.state.hasCapacity = false →
    StartCheckEnds m
  /-- The timer at whose tick the check began was cancelled. -/
  | dropped {q} :
    m.event = .dropStartCheck q →
    StartCheckEnds m

/-- The ways on which a check for the end of the run ends. -/
inductive FinishCheckEnds (m : Moment) : Prop where
  /-- The pool does not run, or tasks are in flight. -/
  | unasked :
    m.event = .enterFinishCheck →
    m.before.pool.finishCheckBusy = false →
    (m.before.pool.phase ≠ .running ∨ 0 < m.before.pool.state.current) →
    FinishCheckEnds m
  /-- The answer comes, whatever it is. -/
  | answered {q answer historical} :
    m.event = .answerFinished q answer historical →
    FinishCheckEnds m

/-- The slots are held exactly while checks wait for their answers. -/
structure SlotsHeld (ms : List Moment) (s : Situation) : Prop where
  /-- A slot is taken just if a question is open, and then it is the only one of its kind. -/
  start : s.readyOpen.length = s.pool.startCheckBusy.toNat
  finish : s.finishOpen.length = s.pool.finishCheckBusy.toNat
  /-- A check that finds its slot taken changes nothing. -/
  startRefused : ∀ m ∈ ms, ∀ timed now idle, m.event = .enterStartCheck timed now idle →
    m.before.pool.startCheckBusy = true →
    m.after.pool = m.before.pool ∧ m.after.readyOpen = m.before.readyOpen
  finishRefused : ∀ m ∈ ms, m.event = .enterFinishCheck → m.before.pool.finishCheckBusy = true →
    m.after.pool = m.before.pool ∧ m.after.finishOpen = m.before.finishOpen
  /-- Nobody moves a slot but the check that holds it or gets it. -/
  startKept : ∀ m ∈ ms, ¬ m.AtStartSlot →
    m.after.pool.startCheckBusy = m.before.pool.startCheckBusy ∧
      m.after.readyOpen = m.before.readyOpen
  finishKept : ∀ m ∈ ms, ¬ m.AtFinishSlot →
    m.after.pool.finishCheckBusy = m.before.pool.finishCheckBusy ∧
      m.after.finishOpen = m.before.finishOpen
  /-- A check gives its slot up just as it ends. -/
  startEnds : ∀ m ∈ ms, m.AtStartSlot → (m.after.pool.startCheckBusy = false ↔ StartCheckEnds m)
  finishEnds : ∀ m ∈ ms, m.AtFinishSlot →
    (m.after.pool.finishCheckBusy = false ↔ FinishCheckEnds m)
  /-- Once the pool was torn down, a check that a timer began can be dropped, freeing the slot. -/
  cancelled : s.pool.closed = true → ∀ q ∈ s.readyOpen, q.timed = true →
    s.Enabled (.dropStartCheck q) ∧ (s.next (.dropStartCheck q)).readyOpen = [] ∧
      (s.next (.dropStartCheck q)).pool.startCheckBusy = false

/-! ## The slot for ready tasks -/

/-- A look at the cap touches nothing but the starts that are kept. -/
lemma startAllowed_state (s : PoolState) (now : Instant) (cap : Option Nat) :
    ∃ starts, (s.startAllowed now cap).2 = { s with recentStarts := starts } := by
  cases cap with
  | none => exact ⟨_, rfl⟩
  | some limit => exact ⟨_, rfl⟩

/-- No task is wanted just if there is no capacity, the cap on starts is reached, or the system is
overloaded and the pool is not below its floor. -/
lemma wantsTask_eq_false {p : Pool} {now : Instant} {idle : Bool} :
    (p.wantsTask now idle).1 = false ↔
      p.state.hasCapacity = false ∨
        (p.state.startAllowed now p.config.maxTasksPerMinute).1 = false ∨
        (p.state.minConcurrency ≤ p.state.current ∧ idle = false) := by
  obtain ⟨starts, e⟩ := startAllowed_state p.state now p.config.maxTasksPerMinute
  rw [wantsTask]
  split
  · next capacity =>
    rw [capacity]
    simp only [e, Bool.and_eq_false_iff, Bool.or_eq_false_iff, decide_eq_false_iff_not, Nat.not_lt,
      Bool.true_eq_false, false_or]
  · next none => exact ⟨fun _ => .inl (eq_false_of_ne_true none), fun _ => rfl⟩

/-- Whether a task is wanted does not depend on the slot. -/
lemma wantsTask_busy (p : Pool) (busy : Bool) (now : Instant) (idle : Bool) :
    (wantsTask { p with startCheckBusy := busy } now idle).1 = (p.wantsTask now idle).1 := by
  rw [wantsTask, wantsTask]
  split <;> rfl

/-- A check that looks at the budget holds the slot afterwards just if it wants a task. -/
lemma Moment.slot_of_looks {m : Moment} {p now idle} (h : m.looks? = some (p, now, idle)) :
    m.after.pool.startCheckBusy = (p.wantsTask now idle).1 := by
  obtain ⟨s, e⟩ := m
  simp only [Moment.looks?] at h
  split at h
  · split at h
    · cases h
    · next free =>
      cases h
      have e1 : (s.pool.enterStartCheck now idle).pool.startCheckBusy =
          (wantsTask { s.pool with startCheckBusy := true } now idle).1 := by
        rw [enterStartCheck, if_neg free]
        rfl
      exact e1.trans (wantsTask_busy _ _ _ _)
  · next q now1 idle1 historical =>
    split at h
    · next capacity =>
      cases h
      have e1 : (s.pool.answerReady (.ok true) now idle historical).pool.startCheckBusy =
          ((s.pool.launch now).wantsTask now idle).1 := by
        simp only [answerReady, if_pos capacity]
        rfl
      exact e1
    · cases h
  · cases h

/-- A check that looks at the budget ends just if it wants no task. -/
lemma Moment.ends_of_looks {m : Moment} {p now idle} (h : m.looks? = some (p, now, idle)) :
    StartCheckEnds m ↔ (p.wantsTask now idle).1 = false := by
  rw [wantsTask_eq_false]
  constructor
  · intro ends
    cases ends with
    | noBudget h1 none => rw [h] at h1; cases h1; exact .inl none
    | capped h1 capped => rw [h] at h1; cases h1; exact .inr (.inl capped)
    | overloaded h1 full => rw [h] at h1; cases h1; exact .inr (.inr ⟨full, rfl⟩)
    -- A check that ends on one of the other ways does not look.
    | dry e => rw [looks?, e] at h; cases h
    | failed e => rw [looks?, e] at h; cases h
    | turnedAway e none =>
      simp only [looks?, e, none] at h
      cases h
    | dropped e => rw [looks?, e] at h; cases h
  · intro unwanted
    rcases unwanted with none | capped | ⟨full, overload⟩
    · exact .noBudget h none
    · exact .capped h capped
    · subst overload
      exact .overloaded h full

/-- A check that closes its question without another look at the budget ends and frees the slot. -/
lemma Moment.ends_of_closes {m : Moment} {q} (h1 : m.event.closesReady? = some q)
    (h2 : m.looks? = none) : StartCheckEnds m ∧ m.after.pool.startCheckBusy = false := by
  obtain ⟨s, e⟩ := m
  cases e with
  | answerReady q1 answer now idle historical =>
    cases answer with
    | error detail => exact ⟨.failed rfl, rfl⟩
    | ok ready =>
      cases ready with
      | false => exact ⟨.dry rfl, rfl⟩
      | true =>
        simp only [looks?] at h2
        split at h2
        · cases h2
        · next none =>
          refine ⟨.turnedAway rfl (eq_false_of_ne_true none), ?_⟩
          rw [after, Situation.next, respond, answerReady, if_neg none]
          rfl
  | dropStartCheck q1 => exact ⟨.dropped rfl, rfl⟩
  | _ => cases h1

/-- A check at work gives up the slot just as it ends. -/
lemma Moment.start_ends_iff {m : Moment} (work : m.AtStartSlot) :
    m.after.pool.startCheckBusy = false ↔ StartCheckEnds m := by
  cases h : m.looks? with
  | some look =>
    obtain ⟨p, now, idle⟩ := look
    rw [slot_of_looks h, ends_of_looks h]
  | none =>
    cases work with
    | inl looks => rw [h] at looks; cases looks
    | inr closes =>
      obtain ⟨q, closes1⟩ := Option.isSome_iff_exists.mp closes
      obtain ⟨ends, free⟩ := ends_of_closes closes1 h
      exact ⟨fun _ => ends, fun _ => free⟩

/-- A check for ready tasks that finds the slot taken changes nothing. -/
lemma start_refused {s : Situation} (timed : Bool) (now : Instant) (idle : Bool)
    (busy : s.pool.startCheckBusy = true) :
    (s.next (.enterStartCheck timed now idle)).pool = s.pool ∧
      (s.next (.enterStartCheck timed now idle)).readyOpen = s.readyOpen := by
  have e : s.pool.respond (.enterStartCheck timed now idle) = ⟨s.pool, [], false⟩ :=
    enterStartCheck_busy busy
  have none : s.newReady? (.enterStartCheck timed now idle) = none := by
    simp only [Situation.newReady?, e]
    rfl
  refine ⟨?_, ?_⟩
  · rw [Situation.next, e]
  · rw [next_readyOpen rfl, none]
    exact List.append_nil _

/-- Nothing but the work of a check touches the slot for ready tasks or its question. -/
lemma Moment.start_kept {m : Moment} (h : ¬ m.AtStartSlot) :
    m.after.pool.startCheckBusy = m.before.pool.startCheckBusy ∧
      m.after.readyOpen = m.before.readyOpen := by
  obtain ⟨s, e⟩ := m
  rw [AtStartSlot, not_or, Option.not_isSome_iff_eq_none, Option.not_isSome_iff_eq_none] at h
  obtain ⟨looks, closes⟩ := h
  cases r : e.reading? with
  | none =>
    refine ⟨respond_startSlot _ r closes, ?_⟩
    rw [after, next_readyOpen closes, newReady?_none r]
    exact List.append_nil _
  | some idle =>
    cases e with
    | enterStartCheck timed now idle =>
      simp only [looks?] at looks
      split at looks
      · next busy =>
        obtain ⟨e1, e2⟩ := start_refused timed now idle busy
        exact ⟨congrArg (·.startCheckBusy) e1, e2⟩
      · cases looks
    | answerReady => cases closes
    | _ => cases r

/-! ## The slot for the end of the run -/

/-- A check for the end of the run takes the free slot just if the pool runs with no task in flight.
-/
lemma enterFinishCheck_slot {p : Pool} (free : p.finishCheckBusy = false) :
    p.enterFinishCheck.pool.finishCheckBusy = false ↔ p.phase ≠ .running ∨ 0 < p.state.current := by
  rw [enterFinishCheck, if_neg (ne_true_of_eq_false free)]
  by_cases h : p.phase = .running ∧ p.state.current = 0
  · have asks : (p.phase = .running && p.isDrained) = true := by
      simp only [isDrained, h, decide_true, beq_self_eq_true, Bool.and_self]
    rw [if_pos asks]
    refine ⟨?_, ?_⟩
    · intro free1
      cases free1
    · intro other
      cases other with
      | inl still => exact absurd h.1 still
      | inr busy => omega
  · have unasked : ¬ (p.phase = .running && p.isDrained) = true := by
      rw [Bool.and_eq_true, decide_eq_true_eq, isDrained, beq_iff_eq]
      exact h
    rw [if_neg unasked]
    refine ⟨fun _ => ?_, fun _ => free⟩
    by_cases running : p.phase = .running
    · exact .inr (Nat.pos_of_ne_zero fun zero => h ⟨running, zero⟩)
    · exact .inl running

/-- The slot for the end is free after the work of a check just if the check ends. -/
lemma Moment.finish_ends_iff {m : Moment} (work : m.AtFinishSlot) :
    m.after.pool.finishCheckBusy = false ↔ FinishCheckEnds m := by
  obtain ⟨s, e⟩ := m
  cases work with
  | inl enters =>
    obtain ⟨e1, free⟩ := enters
    cases e1
    have slot : (s.next .enterFinishCheck).pool.finishCheckBusy = false ↔ _ :=
      enterFinishCheck_slot free
    refine slot.trans ⟨.unasked rfl free, ?_⟩
    intro ends
    cases ends with
    | unasked _ _ h => exact h
    | answered e1 => cases e1
  | inr closes =>
    obtain ⟨q, closes1⟩ := Option.isSome_iff_exists.mp closes
    cases e with
    | answerFinished => exact ⟨fun _ => .answered rfl, fun _ => rfl⟩
    | _ => cases closes1

/-- Nothing but the work of a check touches the slot for the end or its question. -/
lemma Moment.finish_kept {m : Moment} (h : ¬ m.AtFinishSlot) :
    m.after.pool.finishCheckBusy = m.before.pool.finishCheckBusy ∧
      m.after.finishOpen = m.before.finishOpen := by
  obtain ⟨s, e⟩ := m
  rw [AtFinishSlot, not_or, Option.not_isSome_iff_eq_none] at h
  obtain ⟨refused, closes⟩ := h
  have none : s.newFinish? e = none := by
    cases asks : s.newFinish? e with
    | none => rfl
    | some q =>
      obtain ⟨enters, free, _⟩ := newFinish?_inv asks
      exact absurd ⟨enters, free⟩ refused
  refine ⟨next_finishSlot none closes, ?_⟩
  rw [after, next_finishOpen closes, none]
  exact List.append_nil _

/-! ## Along a run -/

/-- Once the pool is torn down, the check of a timer can be dropped, which frees the slot. -/
lemma Run.drops {ms s q} (run : Run ms s) (closed : s.pool.closed = true) (mem : q ∈ s.readyOpen)
    (timed : q.timed = true) :
    s.Enabled (.dropStartCheck q) ∧ (s.next (.dropStartCheck q)).readyOpen = [] ∧
      (s.next (.dropStartCheck q)).pool.startCheckBusy = false := by
  have enabled : s.Enabled (.dropStartCheck q) := ⟨mem, timed, closed⟩
  exact ⟨enabled, run.slotted.close enabled rfl, rfl⟩

/-- Along a run, the slot of a check is taken exactly while its question is open, a check that is
refused changes nothing, and a check gives up its slot on every way on which it ends. -/
theorem Run.slots_held {ms s} (run : Run ms s) : SlotsHeld ms s where
  start := run.slotted.slot
  finish := run.end_traced.slot
  startRefused m _ timed now idle e busy := by
    rw [Moment.after, e]
    exact start_refused _ _ _ busy
  finishRefused m _ e busy := by
    have none : m.before.newFinish? .enterFinishCheck = none := by
      cases asks : m.before.newFinish? .enterFinishCheck with
      | none => rfl
      | some q =>
        obtain ⟨_, free, _⟩ := newFinish?_inv asks
        rw [busy] at free
        cases free
    refine ⟨?_, ?_⟩
    · rw [Moment.after, e, Situation.next, respond, newFinish?_none none]
    · rw [Moment.after, e, next_finishOpen rfl, none]
      exact List.append_nil _
  startKept m _ h := m.start_kept h
  finishKept m _ h := m.finish_kept h
  startEnds m _ work := m.start_ends_iff work
  finishEnds m _ work := m.finish_ends_iff work
  cancelled closed _ mem timed := run.drops closed mem timed

/-- A check that a timer began waits for its answer when a second one is refused. The pool is
aborted, the check is dropped, and its slot is free. -/
theorem Run.slots_held_of_drop :
    ∃ ms s, Run ms s ∧ SlotsHeld ms s ∧ s.startChecks = 2 ∧ s.readyAsked = 1 ∧
      s.pool.startCheckBusy = false ∧ s.pool.phase = .aborted := by
  obtain ⟨h⟩ := nonempty_systemInfo
  have run0 := Run.fresh (c := { loggingSecs := .zero }) (by decide +kernel)
  have run1 := run0.step (e := .callRun) trivial
  have run2 := run1.step (e := .equip 0) rfl
  have run3 := run2.step (e := .enterStartCheck true 0 true) trivial
  have run4 := run3.step (e := .enterStartCheck false 0 true) trivial
  have run5 := run4.step (e := .abort h) trivial
  have run6 := run5.step (e := .dropStartCheck ⟨0, 0, true, true, 1⟩)
    ⟨List.mem_cons_self, rfl, rfl⟩
  exact ⟨_, _, run6, run6.slots_held, rfl, rfl, rfl, rfl⟩

end Headroom.Pool
