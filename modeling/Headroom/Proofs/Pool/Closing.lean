import Headroom.Proofs.Pool.Capping
import Headroom.Proofs.Pool.Consulting
import Headroom.Proofs.Pool.Outcome

/-!
# From a drained pool to the end of its run

A pool without a task in flight must not run forever. `Run.leads_to_end` follows the way to the end:
the next check for ready tasks asks its question even under overload, a no spawns a check for the
end of the run, this one asks in turn, and a yes finishes the run.

The first step rests on the floor. It is at least one, so a drained pool is below it: there is
capacity, and overload holds nothing back. On the way the two checks hand over to each other, and
each of them keeps the count at zero while its question is open.
-/

namespace Headroom

/-! ## Statements -/

namespace Pool

/-- The event begins a check for the end of the run. -/
def Event.beginsEndCheck : Event → Bool
  | enterFinishCheck => true
  | _ => false

/-- An event finishes the run. It is resolved with a success, and the call that waits gets it. -/
structure Finishes (s : Situation) (e : Event) : Prop where
  phase : (s.next e).pool.phase = .finished
  resolves : resolutions (s.pool.respond e).effects = [.ok ()]
  returns : ∀ call, s.runs[call]? = some .awaiting →
    (s.next e).Enabled (.returnRun call) ∧
      ((s.next e).next (.returnRun call)).runs[call]? = some (.returned (.ok ()))

/-- Whenever a yes to a question for the end of the run comes, it finishes the run if the pool still
runs with no task in flight. -/
def YesFinishes (ms : List Moment) (q : FinishQuestion) : Prop :=
  ∀ later s historical,
    Run (later ++ ms) s →
    q ∈ s.finishOpen →
    s.pool.phase = .running →
    s.pool.state.current = 0 →
    Finishes s (.answerFinished q (.ok true) historical)

/-- The answer to a question for a ready task hands over to a check for the end of the run. -/
structure HandsOver (ms : List Moment) (s : Situation) (e : Event) : Prop where
  drained : s.pool.state.current = 0
  spawns : (s.pool.respond e).effects = [.spawnFinishCheck]
  /-- The check can begin until as many have begun as were spawned before it, and one more. -/
  waits : ∀ later t,
    Run (later ++ ⟨s, e⟩ :: ms) t →
    later.countP (·.event.beginsEndCheck) ≤ s.finishChecks →
    t.Enabled .enterFinishCheck
  /-- It asks if no task has started, the pool runs, and no other such check waits for an answer. -/
  asks : ∀ later t,
    Run (later ++ ⟨s, e⟩ :: ms) t →
    launchCount later = 0 →
    t.pool.phase = .running →
    t.finishOpen = [] →
    ∃ q, t.newFinish? .enterFinishCheck = some q ∧
      (t.next .enterFinishCheck).finishOpen = [q] ∧
      YesFinishes (⟨t, .enterFinishCheck⟩ :: later ++ ⟨s, e⟩ :: ms) q

/-- The next check for ready tasks that begins in the running pool, at a time or after it, asks its
question, whatever the load. Whenever a no comes, it hands over. -/
def LeadsToEnd (ms : List Moment) (now : Instant) : Prop :=
  ∀ later s timed now1 idle,
    Run (later ++ ms) s →
    (∀ m ∈ later, m.event.beginsCheck = false) →
    s.pool.phase = .running →
    now ≤ now1 →
    ∃ q, s.newReady? (.enterStartCheck timed now1 idle) = some q ∧
      (s.next (.enterStartCheck timed now1 idle)).readyOpen = [q] ∧
      ∀ since t now2 idle2 historical,
        Run (since ++ ⟨s, .enterStartCheck timed now1 idle⟩ :: (later ++ ms)) t →
        q ∈ t.readyOpen →
        HandsOver (since ++ ⟨s, .enterStartCheck timed now1 idle⟩ :: (later ++ ms)) t
          (.answerReady q (.ok false) now2 idle2 historical)

end Pool

/-! ## Waiting for the next check for ready tasks -/

namespace PoolState

/-- A weaker test drops no fewer elements. -/
lemma length_dropWhile_le {α : Type} {p q : α → Bool} (h : ∀ a, p a = true → q a = true)
    (l : List α) : (l.dropWhile q).length ≤ (l.dropWhile p).length := by
  induction l with
  | nil => exact Nat.le_refl _
  | cons a l ih =>
    rw [List.dropWhile_cons, List.dropWhile_cons]
    cases e : p a with
    | true =>
      rw [h a e]
      exact ih
    | false =>
      cases q a with
      | true => exact Nat.le_succ_of_le (List.dropWhile_sublist q).length_le
      | false => exact Nat.le_refl _

/-- What the cap allows now it allows later, if nobody starts a task meanwhile. -/
lemma startAllowed_mono {s : PoolState} {cap : Option Nat} {now now1 : Instant} (le : now ≤ now1)
    (allowed : (s.startAllowed now cap).1 = true) : (s.startAllowed now1 cap).1 = true := by
  cases cap with
  | none => rfl
  | some limit =>
    rw [startAllowed_some, decide_eq_true_eq] at allowed ⊢
    refine Nat.lt_of_le_of_lt (length_dropWhile_le ?_ s.recentStarts) allowed
    intro u old
    rw [decide_eq_true_eq] at old ⊢
    exact Nat.le_trans old le

/-- Whether the cap allows a start goes by the starts that are kept. -/
lemma startAllowed_congr {s t : PoolState} (e : t.recentStarts = s.recentStarts) (now : Instant)
    (cap : Option Nat) : (t.startAllowed now cap).1 = (s.startAllowed now cap).1 := by
  cases cap with
  | none => rfl
  | some limit =>
    rw [startAllowed_some, startAllowed_some, e]

end PoolState

namespace Pool

/-- Only checks for ready tasks look at the starts. -/
lemma Event.reading?_none {e : Event} (h1 : e.beginsCheck = false) (h2 : e.closesReady? = none) :
    e.reading? = none := by
  cases e with
  | enterStartCheck => cases h1
  | answerReady => cases h2
  | _ => rfl

/-- While the slot is free and no check begins, a pool stays drained and keeps its starts. -/
lemma Run.lies_idle {later m earlier s} (run : Run (later ++ m :: earlier) s)
    (quiet : ∀ w ∈ later, w.event.beginsCheck = false)
    (free : m.after.pool.startCheckBusy = false) (drained : m.after.pool.state.current = 0) :
    s.pool.startCheckBusy = false ∧ s.pool.state.current = 0 ∧
      s.pool.state.recentStarts = m.after.pool.state.recentStarts ∧
      s.pool.config = m.after.pool.config := by
  induction run using Run.onward with
  | here => exact ⟨free, drained, rfl, rfl⟩
  | @step later s e run1 enabled ih =>
    obtain ⟨still, quiet1⟩ := List.forall_mem_cons.mp quiet
    obtain ⟨free1, drained1, starts, config⟩ := ih quiet1
    -- No question is open that the event could close.
    have closes : e.closesReady? = none := by
      cases h : e.closesReady? with
      | none => rfl
      | some q =>
        have busy := run1.slotted.busy enabled (by rw [h]; rfl)
        rw [free1] at busy
        cases busy
    have r := Event.reading?_none still closes
    refine ⟨?_, ?_, ?_, ?_⟩
    · exact (respond_startSlot s.pool r closes).trans free1
    · have le := s.next_current_le closes
      rw [drained1] at le
      exact Nat.eq_zero_of_le_zero le
    · exact (respond_recentStarts s.pool r).trans starts
    · exact run1.config.trans config

/-- A running pool without a task in flight wants one, whatever the load. -/
lemma wantsTask_drained {p : Pool} {now : Instant} (bounded : p.state.Bounded)
    (running : p.phase = .running) (drained : p.state.current = 0)
    (allowed : (p.state.startAllowed now p.config.maxTasksPerMinute).1 = true) (idle : Bool) :
    (p.wantsTask now idle).1 = true := by
  have floor := bounded.one_le_floor
  have le := bounded.floor_le
  apply eq_true_of_ne_false
  intro unwanted
  rcases wantsTask_eq_false.mp unwanted with none | capped | ⟨full, _⟩
  · have capacity : p.state.hasCapacity = true := by
      rw [PoolState.hasCapacity_iff]
      exact ⟨running, by omega⟩
    rw [capacity] at none
    cases none
  · rw [allowed] at capped
    cases capped
  · omega

/-- In a drained and running pool, the next check that enters asks for a task. -/
lemma Run.asks_drained {ms s now} (run : Run ms s) (free : s.pool.startCheckBusy = false)
    (running : s.pool.phase = .running) (drained : s.pool.state.current = 0)
    (allowed : (s.pool.state.startAllowed now s.pool.config.maxTasksPerMinute).1 = true)
    (timed idle : Bool) :
    ∃ q, s.newReady? (.enterStartCheck timed now idle) = some q ∧
      (s.next (.enterStartCheck timed now idle)).readyOpen = [q] := by
  have enabled : s.Enabled (.enterStartCheck timed now idle) := trivial
  have none : s.readyOpen = [] := by
    apply List.eq_nil_of_length_eq_zero
    rw [run.slotted.slot, free]
    rfl
  have looks : (Moment.mk s (.enterStartCheck timed now idle)).looks? =
      some (s.pool, now, idle) := by
    rw [Moment.looks?]
    exact if_neg (ne_true_of_eq_false free)
  have busy : (s.next (.enterStartCheck timed now idle)).pool.startCheckBusy = true := by
    have slot := Moment.slot_of_looks looks
    rw [wantsTask_drained run.bounded running drained allowed] at slot
    exact slot
  have one := run.slotted.next_slot enabled
  rw [busy] at one
  obtain ⟨q, e⟩ := List.length_eq_one_iff.mp one
  refine ⟨q, ?_, e⟩
  cases run.slotted.mem_next enabled (e ▸ List.mem_cons_self) with
  | inl old => rw [none] at old; cases old.1
  | inr new => exact new

/-! ## While the question for a ready task is open -/

/-- Questions that were asked have numbers below the count of questions. -/
lemma Run.number_lt {ms s m q} (run : Run ms s) (mem : m ∈ ms) (asks : m.asks? = some q) :
    q.number < s.readyAsked := by
  induction run with
  | start => cases mem
  | @step ms s e _ _ ih =>
    have le : s.readyAsked ≤ (s.next e).readyAsked := Nat.le_add_right _ _
    cases List.mem_cons.mp mem with
    | inl e1 =>
      subst e1
      have new : s.newReady? e = some q := asks
      obtain ⟨_, number, _⟩ := newReady?_inv new
      rw [number, Situation.next, new]
      exact Nat.lt_succ_self _
    | inr mem1 => exact Nat.lt_of_lt_of_le (ih mem1) le

/-- While the question for a ready task is open, no task is started. -/
lemma Run.current_le_open {since m earlier s q} (run : Run (since ++ m :: earlier) s)
    (asks : m.asks? = some q) (mem : q ∈ s.readyOpen) :
    s.pool.state.current ≤ m.after.pool.state.current := by
  induction run using Run.onward with
  | here => exact Nat.le_refl _
  | @step since s e run1 enabled ih =>
    cases run1.slotted.mem_next enabled mem with
    | inl old => exact Nat.le_trans (s.next_current_le old.2) (ih old.1)
    | inr new =>
      -- The question was asked before, so its number was given away.
      obtain ⟨_, number, _⟩ := newReady?_inv new
      have lt := run1.number_lt (List.mem_append_right _ List.mem_cons_self) asks
      rw [number] at lt
      exact absurd lt (Nat.lt_irrefl _)

/-! ## While a check for the end of the run is about to begin -/

/-- Spawned checks leave only by beginning. -/
lemma Situation.finishChecks_le_take (s : Situation) (e : Event) :
    s.finishChecks ≤ (s.take e).finishChecks + e.beginsEndCheck.toNat := by
  cases e with
  | enterFinishCheck => exact Nat.le_add_of_sub_le (Nat.le_refl _)
  | _ => exact Nat.le_refl _

/-- A check for the end that was spawned is there until it begins. -/
lemma Run.finishChecks_le {later m earlier s} (run : Run (later ++ m :: earlier) s) :
    m.after.finishChecks ≤ s.finishChecks + later.countP (·.event.beginsEndCheck) := by
  induction run using Run.onward with
  | here => exact Nat.le_refl _
  | @step later s e _ _ ih =>
    have taken := s.finishChecks_le_take e
    rw [s.next_finishChecks, List.countP_cons]
    cases h : e.beginsEndCheck with
    | true =>
      rw [h, Bool.toNat_true] at taken
      rw [if_pos rfl]
      omega
    | false =>
      rw [h, Bool.toNat_false] at taken
      rw [if_neg Bool.false_ne_true]
      omega

/-- Without a launch the tasks in flight do not grow in number. -/
lemma Run.current_le_unlaunched {later m earlier s} (run : Run (later ++ m :: earlier) s)
    (none : launchCount later = 0) :
    s.pool.state.current ≤ m.after.pool.state.current := by
  induction run using Run.onward with
  | here => exact Nat.le_refl _
  | @step later s e _ _ ih =>
    rw [launchCount_cons, Nat.add_eq_zero_iff] at none
    have le := (respond_reaction s.pool e).resting none.1
    exact Nat.le_trans le (ih none.2)

/-- In a drained and running pool, the next check for the end asks. -/
lemma newFinish?_drained {s : Situation} (none : s.finishOpen = [])
    (free : s.pool.finishCheckBusy = false) (running : s.pool.phase = .running)
    (drained : s.pool.state.current = 0) :
    ∃ q, s.newFinish? .enterFinishCheck = some q ∧
      (s.next .enterFinishCheck).finishOpen = [q] := by
  cases h : s.newFinish? .enterFinishCheck with
  | some q =>
    refine ⟨q, rfl, ?_⟩
    rw [next_finishOpen rfl, none, h]
    rfl
  | none =>
    -- A check that does not ask would find the pool at rest or busy.
    have slot := newFinish?_none h
    have unasked := (enterFinishCheck_slot free).mp (by rw [slot]; exact free)
    cases unasked with
    | inl other => exact absurd running other
    | inr busy => rw [drained] at busy; cases busy

/-! ## The yes -/

/-- A yes to the question for the end finishes a drained run. -/
lemma Run.yes_finishes {ms s q historical} (run : Run ms s) (mem : q ∈ s.finishOpen)
    (running : s.pool.phase = .running) (drained : s.pool.state.current = 0) :
    Finishes s (.answerFinished q (.ok true) historical) := by
  have enabled : s.Enabled (.answerFinished q (.ok true) historical) := mem
  have active : s.pool.phase.isActive = true := by
    rw [running]
    rfl
  have none : s.pool.isDrained = true := by
    rw [isDrained, drained]
    rfl
  have run1 := run.step enabled
  obtain ⟨sent, finished⟩ :=
    Situation.next_of_ending run.standing.unresolved (e := .answerFinished q (.ok true) historical)
      rfl active (fun _ => none)
  refine ⟨finished, ?_, ?_⟩
  · have before := (run.standing.stands.of_active active).2
    have all := run1.resolutions_eq
    rw [List.flatMap_cons, resolutions_append, run.resolutions_eq, sent, before] at all
    exact (List.append_nil _).symm.trans all
  · intro call waiting
    have waits : (s.next (.answerFinished q (.ok true) historical)).runs[call]? =
        some .awaiting := by
      rw [s.next_runs]
      exact waiting
    refine ⟨⟨waits, ?_⟩, ?_⟩
    · rw [(run1.awaiting waits).1, finished]
      rfl
    · obtain ⟨lt, _⟩ := List.getElem?_eq_some_iff.mp waits
      rw [Situation.next_runs, Situation.take, sent]
      exact List.getElem?_set_self lt

/-! ## The way to the end -/

/-- A no to a question that a drained pool asked spawns a check for the end. -/
lemma Run.hands_over {since m earlier s q now idle historical}
    (run : Run (since ++ m :: earlier) s) (asks : m.asks? = some q) (mem : q ∈ s.readyOpen)
    (drained : m.after.pool.state.current = 0) :
    HandsOver (since ++ m :: earlier) s (.answerReady q (.ok false) now idle historical) := by
  have le := run.current_le_open asks mem
  rw [drained] at le
  have zero := Nat.eq_zero_of_le_zero le
  have dry : s.pool.isDrained = true := by
    rw [isDrained, zero]
    rfl
  refine ⟨zero, ?_, ?_, ?_⟩
  · rw [respond, answerReady, dry]
    rfl
  · intro later t run1 few
    have spawned : (s.next (.answerReady q (.ok false) now idle historical)).finishChecks =
        s.finishChecks + 1 := by
      rw [s.next_finishChecks, Moment.runsDry, dry]
      rfl
    have kept := run1.finishChecks_le
    rw [Moment.after, spawned] at kept
    show 0 < t.finishChecks
    omega
  · intro later t run1 none running unasked
    have le1 := run1.current_le_unlaunched none
    have same : (Moment.mk s (.answerReady q (.ok false) now idle historical)).after.pool.state =
      s.pool.state := rfl
    rw [same, zero] at le1
    have free : t.pool.finishCheckBusy = false := by
      have slot := run1.end_traced.slot
      rw [unasked] at slot
      cases busy : t.pool.finishCheckBusy with
      | false => rfl
      | true => rw [busy] at slot; cases slot
    obtain ⟨r, e1, e2⟩ := newFinish?_drained unasked free running (Nat.eq_zero_of_le_zero le1)
    refine ⟨r, e1, e2, ?_⟩
    intro later1 u historical1 run2 mem1 running1 drained1
    exact run2.yes_finishes mem1 running1 drained1

/-- Once a running pool has no task in flight, with the slot for ready tasks free and the cap on
starts not reached, the next check for ready tasks leads on to the end of the run. -/
theorem Run.leads_to_end {ms s now} (run : Run ms s) (running : s.pool.phase = .running)
    (drained : s.pool.state.current = 0) (free : s.pool.startCheckBusy = false)
    (allowed : (s.pool.state.startAllowed now s.pool.config.maxTasksPerMinute).1 = true) :
    LeadsToEnd ms now := by
  intro later t timed now1 idle run1 quiet running1 le
  cases run with
  | start e =>
    obtain ⟨_, e1⟩ := new_inv e
    subst e1
    cases running
  | @step ms s e _ _ =>
    obtain ⟨free1, drained1, starts, config⟩ := run1.lies_idle quiet free drained
    have allowed1 : (t.pool.state.startAllowed now1 t.pool.config.maxTasksPerMinute).1 = true := by
      rw [PoolState.startAllowed_congr starts, config]
      exact PoolState.startAllowed_mono le allowed
    obtain ⟨q, new, only⟩ := run1.asks_drained free1 running1 drained1 allowed1 timed idle
    refine ⟨q, new, only, ?_⟩
    intro since u now2 idle2 historical run2 mem
    refine run2.hands_over new mem ?_
    have le1 : (t.next (.enterStartCheck timed now1 idle)).pool.state.current ≤
        t.pool.state.current := t.next_current_le rfl
    rw [drained1] at le1
    exact Nat.eq_zero_of_le_zero le1

/-- An overloaded pool that has nothing to do gets to its end. -/
theorem Run.leads_to_end_of_overload :
    ∃ ms s, Run ms s ∧ s.pool.phase = .running ∧ s.pool.state.current = 0 ∧
      s.pool.startCheckBusy = false ∧
      (s.pool.state.startAllowed 0 s.pool.config.maxTasksPerMinute).1 = true ∧
      LeadsToEnd ms 0 ∧
      ∃ later t, Run (later ++ ms) t ∧
        (∀ m ∈ later, ∀ idle, m.event.reading? = some idle → idle = false) ∧
        t.pool.phase = .finished ∧ t.runs = [.returned (.ok ())] := by
  obtain ⟨h⟩ := nonempty_systemInfo
  have run0 := Run.fresh (c := { loggingSecs := .zero, maxTasksPerMinute := some 1 })
    (by decide +kernel)
  have run1 := run0.step (e := .callRun) trivial
  have run2 := run1.step (e := .equip 0) rfl
  have run3 := run2.step (e := .enterStartCheck true 5 false) trivial
  have run4 := run3.step (e := .answerReady ⟨0, 0, true, false, 1⟩ (.ok false) 7 false h)
    List.mem_cons_self
  have run5 := run4.step (e := .enterFinishCheck) Nat.one_pos
  have run6 := run5.step (e := .answerFinished ⟨0, 0⟩ (.ok true) h) List.mem_cons_self
  have run7 := run6.step (e := .returnRun 0) ⟨rfl, rfl⟩
  refine ⟨_, _, run2, rfl, rfl, rfl, rfl, run2.leads_to_end rfl rfl rfl rfl,
    [_, _, _, _, _], _, run7, ?_, rfl, rfl⟩
  intro m mem idle reads
  simp only [List.mem_cons, List.not_mem_nil, or_false] at mem
  rcases mem with rfl | rfl | rfl | rfl | rfl
  all_goals cases reads
  all_goals rfl

end Pool

end Headroom
