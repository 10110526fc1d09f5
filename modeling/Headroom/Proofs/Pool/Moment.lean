import Headroom.Proofs.Pool.Reaction

/-!
# What one event does to a situation

The effects of an event act upon the surroundings of a pool one after the other. This module tells
what is left of them: how many tasks were launched and which are in flight
(`Situation.next_inFlight`), and the outcome that was sent (`Situation.next_sent`). It also takes
runs apart: every moment of a run is the end of a run itself (`Run.split`), from a pool whose bounds
are in order (`Run.bounded`).
-/

namespace Headroom.Pool

/-! ## Effects one after the other -/

namespace Surroundings

/-- Effects launch the tasks that are among them. -/
lemma foldl_launched (fx : List PoolEffect) (w : Surroundings) :
    (fx.foldl perform w).launched = w.launched + launches fx := by
  induction fx generalizing w with
  | nil => rfl
  | cons f fx ih =>
    rw [List.foldl_cons, ih, launches, launches, List.countP_cons]
    cases f with
    | launchTask => exact Nat.add_right_comm _ _ _
    | _ => rfl

/-- Launched tasks are in flight, each under the next number. -/
lemma foldl_inFlight (fx : List PoolEffect) (w : Surroundings) :
    (fx.foldl perform w).inFlight = w.inFlight ++ List.range' w.launched (launches fx) := by
  induction fx generalizing w with
  | nil => exact (List.append_nil _).symm
  | cons f fx ih =>
    rw [List.foldl_cons, ih, launches, launches, List.countP_cons]
    cases f with
    | launchTask => exact List.append_assoc _ _ _
    | _ => rfl

/-- The last outcome that a run is resolved with is the one that was sent. -/
lemma foldl_sent (fx : List PoolEffect) (w : Surroundings) :
    (fx.foldl perform w).sent = (resolutions fx).getLast?.or w.sent := by
  induction fx generalizing w with
  | nil => rfl
  | cons f fx ih =>
    rw [List.foldl_cons, ih]
    cases f with
    | resolveRun outcome =>
      have e : resolutions (.resolveRun outcome :: fx) = outcome :: resolutions fx := rfl
      rw [e, List.getLast?_cons]
      cases (resolutions fx).getLast? with
      | none => rfl
      | some last => rfl
    | _ => rfl

/-- Effects leave the calls of `run` as they are. -/
@[simp]
lemma foldl_runs (fx : List PoolEffect) (w : Surroundings) :
    (fx.foldl perform w).runs = w.runs := by
  induction fx generalizing w with
  | nil => rfl
  | cons f fx ih =>
    rw [List.foldl_cons, ih]
    cases f with
    | _ => rfl

end Surroundings

/-! ## The next situation -/

namespace Situation

variable (s : Situation) (e : Event)

/-- Taking up an event launches no task. -/
@[simp]
lemma take_launched : (s.take e).launched = s.launched := by
  cases e with
  | _ => rfl

/-- Taking up an event sends no outcome. -/
@[simp]
lemma take_sent : (s.take e).sent = s.sent := by
  cases e with
  | _ => rfl

/-- Taking up the end of a task takes it out of flight. -/
lemma take_inFlight : (s.take e).inFlight = e.settles?.elim s.inFlight s.inFlight.erase := by
  cases e with
  | _ => rfl

/-- An event launches the tasks that its effects do. -/
lemma next_launched :
    (s.next e).launched = s.launched + launches (s.pool.respond e).effects := by
  rw [next, Surroundings.foldl_launched, take_launched]

/-- A task that settles is not in flight any more, and a task that was launched is. -/
lemma next_inFlight :
    (s.next e).inFlight = e.settles?.elim s.inFlight s.inFlight.erase ++
      List.range' s.launched (launches (s.pool.respond e).effects) := by
  rw [next, Surroundings.foldl_inFlight, take_inFlight, take_launched]

/-- The outcome that was sent last is the one that an event resolves the run with, if it does. -/
lemma next_sent :
    (s.next e).sent = (resolutions (s.pool.respond e).effects).getLast?.or s.sent := by
  rw [next, Surroundings.foldl_sent, take_sent]

/-- Only what an event takes at first changes the calls to run. -/
lemma next_runs : (s.next e).runs = (s.take e).runs := Surroundings.foldl_runs _ _

end Situation

/-! ## What an event means for the counts and the bounds -/

/-- A change of the phase settles no task. -/
lemma Turn.settles? {e a b} (t : Turn e a b) : e.settles? = none := by
  cases t with
  | _ => rfl

/-- The end of a task is counted, and so is every launch. -/
lemma Reaction.current {p e r} (re : Reaction p e r) :
    r.pool.state.current = (e.counted p.state).current + Pool.launches r.effects := by
  cases re with
  | ends _ _ _ e1 _ l => rw [e1, l]; rfl
  | launches h _ e1 _ l => subst h; rw [e1, l]; rfl
  | begins h _ e1 _ silent => subst h; rw [e1, silent.1]; rfl
  | turns t _ e1 _ silent =>
    rw [Event.counted_of_not_settles t.settles?, e1, silent.1]
    rfl
  | scales _ _ h _ e1 _ _ silent =>
    rw [Event.counted_of_not_settles h, e1, silent.1]
    rfl
  | goesOn _ _ e1 _ silent => rw [e1, silent.1]; rfl

/-- Where nothing is launched, the count does not grow. -/
lemma Reaction.resting {p e r} (re : Reaction p e r) (h : Pool.launches r.effects = 0) :
    r.pool.state.current ≤ p.state.current := by
  rw [re.current, h]
  cases e with
  | settleTask => exact Nat.sub_le _ _
  | _ => exact Nat.le_refl _

/-- Only a yes to an open question launches, and only one task within the capacity. -/
lemma Reaction.of_launch {p e r} (re : Reaction p e r) (h : 0 < Pool.launches r.effects) :
    Pool.launches r.effects = 1 ∧ p.state.hasCapacity = true ∧
      (∃ q now idle historical, e = .answerReady q (.ok true) now idle historical) ∧
      ∃ starts, r.pool.state =
        { p.state with current := p.state.current + 1, recentStarts := starts } := by
  cases re with
  | ends _ _ _ _ _ l => rw [l] at h; cases h
  | launches e1 capacity e2 _ l => exact ⟨l, capacity, ⟨_, _, _, _, e1⟩, _, e2⟩
  | begins _ _ _ _ silent => rw [silent.1] at h; cases h
  | turns _ _ _ _ silent => rw [silent.1] at h; cases h
  | scales _ _ _ _ _ _ _ silent => rw [silent.1] at h; cases h
  | goesOn _ _ _ _ silent => rw [silent.1] at h; cases h

/-- Counting a task as settled keeps the phase and the bounds. -/
lemma Event.counted_frame (e : Event) (s : PoolState) :
    (e.counted s).phase = s.phase ∧ (e.counted s).minConcurrency = s.minConcurrency ∧
      (e.counted s).maxConcurrency = s.maxConcurrency ∧ (e.counted s).desired = s.desired := by
  cases e with
  | _ => exact ⟨rfl, rfl, rfl, rfl⟩

/-- Counting a task as settled keeps the bounds in order. -/
lemma Event.counted_bounded {s : PoolState} (bd : s.Bounded) (e : Event) :
    (e.counted s).Bounded := by
  obtain ⟨_, e1, e2, e3⟩ := e.counted_frame s
  exact bd.congr e1 e2 e3

/-- Whatever an event does, it keeps the bounds in order. -/
lemma Reaction.bounded {p e r} (re : Reaction p e r) (bd : p.state.Bounded) :
    r.pool.state.Bounded := by
  cases re with
  | ends _ _ _ e1 => rw [e1]; exact (e.counted_bounded bd).congr rfl rfl rfl
  | launches _ _ e1 => rw [e1]; exact bd.congr rfl rfl rfl
  | begins _ _ e1 => rw [e1]; exact bd.congr rfl rfl rfl
  | turns _ _ e1 => rw [e1]; exact bd.congr rfl rfl rfl
  | scales _ _ _ _ _ h => exact h bd
  | goesOn _ _ e1 => rw [e1]; exact (e.counted_bounded bd).congr rfl rfl rfl

/-! ## Taking runs apart -/

/-- Every moment is one of the reactions. -/
lemma Moment.reaction (m : Moment) :
    Reaction m.before.pool m.event (m.before.pool.respond m.event) := respond_reaction _ _

/-- Each moment of a run ends a run, is possible, and goes on to the run. -/
lemma Run.split {later m earlier s} (run : Run (later ++ m :: earlier) s) :
    Run earlier m.before ∧ m.before.Enabled m.event := by
  induction later generalizing s with
  | nil =>
    cases run with
    | step run enabled => exact ⟨run, enabled⟩
  | cons m1 later ih =>
    cases run with
    | step run _ => exact ih run

/-- Induction along what comes after a moment of a run. -/
lemma Run.onward {m : Moment} {earlier : List Moment}
    {motive : (later : List Moment) → (s : Situation) → Run (later ++ m :: earlier) s → Prop}
    (here : ∀ run, motive [] m.after run)
    (step : ∀ {later s e} (run : Run (later ++ m :: earlier) s) (enabled : s.Enabled e),
      motive later s run → motive (⟨s, e⟩ :: later) (s.next e) (run.step enabled))
    {later : List Moment} {s : Situation} (run : Run (later ++ m :: earlier) s) :
    motive later s run := by
  induction later generalizing s with
  | nil =>
    cases run with
    | step run1 enabled => exact here (run1.step enabled)
  | cons w later ih =>
    cases run with
    | step run1 enabled => exact step run1 enabled (ih run1)

/-- A run up to a moment of it. -/
lemma Run.of_mem {ms s m} (run : Run ms s) (mem : m ∈ ms) :
    ∃ earlier, Run earlier m.before ∧ m.before.Enabled m.event := by
  obtain ⟨later, earlier, e⟩ := List.append_of_mem mem
  subst e
  exact ⟨earlier, run.split⟩

/-- A pool is built only if nothing is wrong with its configuration, and starts out as such. -/
lemma new_inv {c snapshotter status p} (e : new c snapshotter status = .ok p) :
    c.fault? = none ∧ p = { config := c, state := .new c } := by
  rw [new] at e
  split at e
  · cases e
  · next h =>
    cases e
    rw [Option.or_eq_none_iff, Option.or_eq_none_iff] at h
    exact ⟨h.1.1, rfl⟩

/-- An accepted configuration makes a pool. -/
lemma new_ok {c s t} (e : (c.fault?.or s.fault?).or t.fault? = none) :
    new c s t = .ok { config := c, state := .new c } := by
  rw [new, e]

/-- A run starts from a pool with a sound configuration. -/
lemma Run.fresh {c : PoolConfig} (sound : c.fault? = none) :
    Run [] { pool := { config := c, state := .new c } } := by
  have others : (SnapshotterConfig.fault? {}).or (StatusConfig.fault? {}) = none := by
    decide +kernel
  refine .start (new_ok (s := {}) (t := {}) ?_)
  rw [sound, Option.none_or, others]

/-- There is some verdict for an event to carry. -/
lemma nonempty_systemInfo : Nonempty SystemInfo := by
  have load : LoadInfo := .ofCounts 0 0 .zero
  exact ⟨.ofLoads load load load load⟩

/-- The bounds of a pool are in order all along its runs. -/
lemma Run.bounded {ms s} (run : Run ms s) : s.pool.state.Bounded := by
  induction run with
  | start e =>
    obtain ⟨e1, e2⟩ := new_inv e
    subst e2
    exact PoolState.new_bounded e1
  | step _ _ ih => exact (respond_reaction _ _).bounded ih

end Headroom.Pool
