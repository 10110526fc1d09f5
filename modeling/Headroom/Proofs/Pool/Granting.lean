import Headroom.Proofs.Pool.Starting

/-!
# What becomes of the tasks that are handed out

A yes to the question for a ready task hands a task out. One task is launched for it at once if the
pool has capacity when the yes comes; otherwise the yes is turned away, and the task handed out is
lost to the pool. `Run.granted` shows that nothing else happens to a yes: the tasks handed out are
those launched and those turned away.

A check asks only where there is capacity, and nobody else starts a task while its question is open.
So a yes is turned away only if capacity was withdrawn meanwhile (`Moment.Withdraws`), and where it
never is, every task that is handed out is launched.
-/

namespace Headroom.Pool

namespace Moment

/-- A yes comes to a question for a ready task. It hands a task out. -/
def grants (m : Moment) : Bool :=
  match m.event with
  | .answerReady _ (.ok true) .. => true
  | _ => false

/-- A yes comes to a pool that has no capacity any more. -/
def turnsAway (m : Moment) : Bool := m.grants && !m.before.pool.state.hasCapacity

/-- The pool stops running, or lowers its desired concurrency. -/
def Withdraws (m : Moment) : Prop :=
  (m.before.pool.phase = .running ∧ m.after.pool.phase ≠ .running) ∨
    m.after.pool.state.desired < m.before.pool.state.desired

/-- A question for a ready task is open before and after a moment. -/
def Awaits (m : Moment) (q : ReadyQuestion) : Prop :=
  q ∈ m.before.readyOpen ∧ m.event.closesReady? = none

end Moment

/-- How many tasks were handed out. -/
def grantCount (ms : List Moment) : Nat := ms.countP (·.grants)

/-- How many of the tasks handed out were turned away. -/
def turnedAwayCount (ms : List Moment) : Nat := ms.countP (·.turnsAway)

/-- A question was asked in a moment and has been open since. -/
structure Pending (q : ReadyQuestion) (since : List Moment) (asked : Moment) : Prop where
  asks : asked.asks? = some q
  awaited : ∀ m ∈ since, m.Awaits q

/-- What has become of the tasks handed out in a run so far. -/
structure Granted (ms : List Moment) : Prop where
  /-- A yes that finds capacity launches one task at once. Nothing else ever launches one. -/
  launched : ∀ m ∈ ms,
    launches m.effects = if m.grants = true ∧ m.before.pool.state.hasCapacity = true then 1 else 0
  /-- The tasks handed out are those launched and those turned away. -/
  balanced : grantCount ms = launchCount ms + turnedAwayCount ms
  /-- A yes is turned away only after a withdrawal of capacity while its question was open. -/
  withdrawn : ∀ later m earlier q now idle historical,
    ms = later ++ m :: earlier →
    m.event = .answerReady q (.ok true) now idle historical →
    m.before.pool.state.hasCapacity = false →
    ∃ since asked rest, earlier = since ++ asked :: rest ∧ Pending q since asked ∧
      ∃ w ∈ since, w.Withdraws
  /-- Where no capacity is withdrawn from an open question, all tasks handed out are launched. -/
  kept : (∀ m ∈ ms, ∀ q, m.Awaits q → ¬ m.Withdraws) → grantCount ms = launchCount ms

/-! ## One moment -/

/-- A yes launches one task if there is capacity, and none otherwise. -/
lemma launches_answerReady (p : Pool) (now : Instant) (idle : Bool) (historical : SystemInfo) :
    launches (p.answerReady (.ok true) now idle historical).effects =
      p.state.hasCapacity.toNat := by
  simp only [answerReady]
  split
  · next capacity =>
    obtain ⟨starts, wants, e⟩ := askForTask_step (p.launch now) [.launchTask] now idle
    rw [e, capacity]
    rfl
  · next capacity =>
    rw [eq_false_of_ne_true capacity]
    rfl

/-- The launches of a moment are due to a yes that finds capacity. -/
lemma Moment.launches_eq (m : Moment) :
    launches m.effects = (m.grants && m.before.pool.state.hasCapacity).toNat := by
  cases g : m.grants with
  | true =>
    rw [Moment.grants] at g
    split at g
    · next q now idle historical e =>
      rw [Moment.effects, e]
      exact launches_answerReady m.before.pool now idle historical
    · cases g
  | false =>
    -- A launch would need a yes.
    cases Nat.eq_zero_or_pos (launches m.effects) with
    | inl zero => exact zero
    | inr pos =>
      obtain ⟨_, _, ⟨_, _, _, _, e⟩, _⟩ := m.reaction.of_launch pos
      rw [Moment.grants, e] at g
      cases g

/-- A moment that turns a yes away holds the question and finds no capacity. -/
lemma Moment.turnsAway_inv {m : Moment} (h : m.turnsAway = true) :
    ∃ q now idle historical, m.event = .answerReady q (.ok true) now idle historical ∧
      m.before.pool.state.hasCapacity = false := by
  rw [Moment.turnsAway, Bool.and_eq_true, Bool.not_eq_true', Moment.grants] at h
  obtain ⟨g, capacity⟩ := h
  split at g
  · next e => exact ⟨_, _, _, _, e, capacity⟩
  · cases g

/-- Every yes either launches a task or is turned away. -/
lemma grantCount_eq (ms : List Moment) : grantCount ms = launchCount ms + turnedAwayCount ms := by
  induction ms with
  | nil => rfl
  | cons m ms ih =>
    rw [grantCount, turnedAwayCount, List.countP_cons, List.countP_cons, launchCount_cons,
      ← grantCount, ← turnedAwayCount, ih, m.launches_eq, Moment.turnsAway]
    cases m.grants <;> cases m.before.pool.state.hasCapacity <;> simp <;> omega

/-! ## Capacity -/

/-- A check asks only where there is capacity. -/
lemma askForTask_capacity {p : Pool} {effects now idle}
    (asking : (p.askForTask effects now idle).asking = true) :
    (p.askForTask effects now idle).pool.state.hasCapacity = true := by
  have wants : (p.wantsTask now idle).1 = true := asking
  have capacity : p.state.hasCapacity = true := by
    rw [wantsTask] at wants
    split at wants
    · assumption
    · cases wants
  obtain ⟨starts, _, e⟩ := askForTask_step p effects now idle
  rw [e]
  exact capacity

/-- A check asks only where there is capacity. -/
lemma next_capacity {s : Situation} {e : Event} {q} (h : s.newReady? e = some q) :
    (s.next e).pool.state.hasCapacity = true := by
  obtain ⟨asking, _, _, reading, _⟩ := newReady?_inv h
  obtain ⟨p, effects, now, e1⟩ := respond_asks asking reading
  rw [Situation.next, e1]
  rw [e1] at asking
  exact askForTask_capacity asking

/-- While a question stays open, capacity stays unless it is withdrawn. -/
lemma capacity_or_withdraws {s : Situation} {e : Event}
    (capacity : s.pool.state.hasCapacity = true) (h : e.closesReady? = none) :
    (s.next e).pool.state.hasCapacity = true ∨ (Moment.mk s e).Withdraws := by
  have le := s.next_current_le h
  rw [PoolState.hasCapacity_iff] at capacity
  obtain ⟨running, lt⟩ := capacity
  by_cases runs : (s.next e).pool.phase = .running
  · cases Nat.lt_or_ge (s.next e).pool.state.desired s.pool.state.desired with
    | inl lowered => exact .inr (.inr lowered)
    | inr ge =>
      refine .inl (PoolState.hasCapacity_iff.mpr ⟨runs, ?_⟩)
      calc (s.next e).pool.state.current
        _ ≤ s.pool.state.current := le
        _ < s.pool.state.desired := lt
        _ ≤ (s.next e).pool.state.desired := ge
  · exact .inr (.inl ⟨running, runs⟩)

/-- There is capacity for every open question, unless it was withdrawn since the question was asked.
-/
structure Backed (ms : List Moment) (s : Situation) : Prop where
  backed : ∀ q ∈ s.readyOpen, ∃ since asked rest, ms = since ++ asked :: rest ∧
    Pending q since asked ∧ (s.pool.state.hasCapacity = true ∨ ∃ w ∈ since, w.Withdraws)

/-- An event keeps capacity for the open question, or withdraws it. -/
lemma Backed.next {ms s e} (ba : Backed ms s) (sl : Slotted s) (enabled : s.Enabled e) :
    Backed (⟨s, e⟩ :: ms) (s.next e) := by
  constructor
  intro q mem
  cases sl.mem_next enabled mem with
  | inl old =>
    obtain ⟨mem1, h⟩ := old
    obtain ⟨since, asked, rest, e1, pending, backed⟩ := ba.backed q mem1
    refine ⟨⟨s, e⟩ :: since, asked, rest, congrArg _ e1, ⟨pending.asks, ?_⟩, ?_⟩
    · exact List.forall_mem_cons.mpr ⟨⟨mem1, h⟩, pending.awaited⟩
    · -- Once capacity is withdrawn, the withdrawal stays in the past of the question.
      cases backed with
      | inl capacity =>
        cases capacity_or_withdraws capacity h with
        | inl kept => exact .inl kept
        | inr withdraws => exact .inr ⟨_, List.mem_cons_self, withdraws⟩
      | inr before =>
        obtain ⟨w, mem2, withdraws⟩ := before
        exact .inr ⟨w, List.mem_cons_of_mem _ mem2, withdraws⟩
  | inr fresh =>
    refine ⟨[], ⟨s, e⟩, ms, rfl, ⟨fresh, ?_⟩, .inl (next_capacity fresh)⟩
    intro m mem1
    cases mem1

/-- Along a run, open questions are backed by capacity unless it was withdrawn. -/
lemma Run.backed {ms s} (run : Run ms s) : Backed ms s := by
  induction run with
  | start e =>
    constructor
    exact nofun
  | step run enabled ih => exact ih.next run.slotted enabled

/-! ## Along a run -/

/-- A yes is turned away only after a withdrawal of capacity while its question was open. -/
lemma Run.turned_away {later m earlier s q now idle historical}
    (run : Run (later ++ m :: earlier) s)
    (e : m.event = .answerReady q (.ok true) now idle historical)
    (full : m.before.pool.state.hasCapacity = false) :
    ∃ since asked rest, earlier = since ++ asked :: rest ∧ Pending q since asked ∧
      ∃ w ∈ since, w.Withdraws := by
  obtain ⟨run1, enabled⟩ := run.split
  rw [e] at enabled
  obtain ⟨since, asked, rest, e1, pending, backed⟩ := run1.backed.backed q enabled
  refine ⟨since, asked, rest, e1, pending, ?_⟩
  cases backed with
  | inl capacity => rw [full] at capacity; cases capacity
  | inr withdrawn => exact withdrawn

/-- Along a run, one task is launched for a yes, at once, if there is capacity when it comes, and
none otherwise. The latter takes a withdrawal of capacity while the question was open. -/
theorem Run.granted {ms s} (run : Run ms s) : Granted ms where
  launched m _ := by
    rw [m.launches_eq]
    cases m.grants <;> cases m.before.pool.state.hasCapacity <;> rfl
  balanced := grantCount_eq ms
  withdrawn later m earlier q now idle historical e e1 full := by
    subst e
    exact run.turned_away e1 full
  kept calm := by
    have none : turnedAwayCount ms = 0 := by
      rw [turnedAwayCount, List.countP_eq_zero]
      intro m mem away
      obtain ⟨q, now, idle, historical, e1, full⟩ := Moment.turnsAway_inv away
      obtain ⟨later, earlier, e⟩ := List.append_of_mem mem
      subst e
      -- A yes turned away tells of a withdrawal from its open question, which there is none of.
      obtain ⟨since, asked, rest, e2, pending, w, mem1, withdraws⟩ := run.turned_away e1 full
      refine calm w ?_ q (pending.awaited w mem1) withdraws
      subst e2
      exact List.mem_append_right _ (List.mem_cons_of_mem _ (List.mem_append_left _ mem1))
    rw [grantCount_eq, none, Nat.add_zero]

/-- A first yes launches its task. A pause comes while the next question is open, and the yes to it
is turned away. -/
theorem Run.granted_of_pause :
    ∃ ms s, Run ms s ∧ Granted ms ∧ grantCount ms = 2 ∧ launchCount ms = 1 ∧
      turnedAwayCount ms = 1 ∧ s.inFlight = [0] := by
  obtain ⟨h⟩ := nonempty_systemInfo
  have run0 := Run.fresh (c := { minConcurrency := 2 }) (by decide +kernel)
  have run1 := run0.step (e := .callRun) trivial
  have run2 := run1.step (e := .enterStartCheck false 0 true) trivial
  have run3 := run2.step (e := .answerReady ⟨0, 0, false, true, 2⟩ (.ok true) 5 true h)
    List.mem_cons_self
  have run4 := run3.step (e := .callPause none false) trivial
  have run5 := run4.step (e := .answerReady ⟨1, 0, false, true, 2⟩ (.ok true) 8 true h)
    List.mem_cons_self
  exact ⟨_, _, run5, run5.granted, rfl, rfl, rfl, rfl⟩

/-- A task is handed out to a paused pool. The pool resumes, no question is open, and no task was
launched; nor is one launched later, if no other task is handed out. -/
theorem Run.lost_by_pause :
    ∃ ms s, Run ms s ∧ s.pool.phase = .running ∧ s.readyOpen = [] ∧ grantCount ms = 1 ∧
      launchCount ms = 0 ∧
      ∀ later t, Run (later ++ ms) t → grantCount later = 0 → launchCount (later ++ ms) = 0 := by
  obtain ⟨h⟩ := nonempty_systemInfo
  have run0 := Run.fresh (c := { loggingSecs := .zero }) (by decide +kernel)
  have run1 := run0.step (e := .callRun) trivial
  have run2 := run1.step (e := .equip 0) rfl
  have run3 := run2.step (e := .enterStartCheck false 0 true) trivial
  have run4 := run3.step (e := .callPause none false) trivial
  have run5 := run4.step (e := .answerReady ⟨0, 0, false, true, 1⟩ (.ok true) 50 true h)
    List.mem_cons_self
  have run6 := run5.step (e := .resume) trivial
  refine ⟨_, _, run6, rfl, rfl, rfl, rfl, ?_⟩
  -- Only a yes launches a task.
  intro later t _ none
  rw [grantCount_eq] at none
  rw [launchCount, List.flatMap_append, launches_append]
  exact (Nat.add_eq_zero_iff.mp none).1

end Headroom.Pool
