import Headroom.Proofs.Pool.Accounting
import Headroom.Proofs.Pool.Slots

/-!
# When a run finishes

A check for the end of the run asks whether the run is finished. A yes finishes it if no task is in
flight when it comes. `Run.finished_by` tells what the yes was given to: a question that was asked
while the pool ran and no task was in flight either, and the only one since.

The pool looks at the tasks in flight only at both ends of the question. So the yes may be out of
date: tasks may have started while the question was open, if all of them have settled before the
yes comes. Their ends spawn checks too, but these are refused the slot, which the open question
holds (`Run.finished_late`).
-/

namespace Headroom.Pool

/-- The question for the end of the run that is asked in a moment. -/
def Moment.asksEnd? (m : Moment) : Option FinishQuestion := m.before.newFinish? m.event

/-- A run finishes in a moment, by a yes to a question that was asked in an earlier one. -/
structure FinishedBy (q : FinishQuestion) (m : Moment) (since : List Moment) (asked : Moment) :
    Prop where
  asks : asked.asksEnd? = some q
  /-- No other question for the end of the run was asked since. -/
  alone : ∀ w ∈ since, w.asksEnd? = none
  running : asked.before.pool.phase = .running
  /-- No task was in flight when the question was asked, and none is when the yes comes. -/
  drained : asked.before.inFlight = [] ∧ m.before.inFlight = []
  /-- The tasks that settled since are those that started since, each of them once. -/
  settled : ∀ task, (settlements since).count task =
    if asked.before.launched ≤ task ∧ task < m.before.launched then 1 else 0
  /-- No task started since if none settled since. -/
  fresh : settlements since = [] → m.before.launched = asked.before.launched

/-! ## Asking -/

/-- A question for the end of the run is asked by a check that finds the slot free, the pool running
and no task in flight. It takes the slot. -/
lemma newFinish?_inv {s : Situation} {e : Event} {q} (h : s.newFinish? e = some q) :
    e = .enterFinishCheck ∧ s.pool.finishCheckBusy = false ∧ s.pool.phase = .running ∧
      s.pool.isDrained = true ∧ (s.next e).pool.finishCheckBusy = true := by
  cases e with
  | enterFinishCheck =>
    simp only [Situation.newFinish?] at h
    cases s.pool.enterFinishCheck_cases with
    | inl asks =>
      obtain ⟨e1, free, running, drained⟩ := asks
      refine ⟨rfl, free, running, drained, ?_⟩
      rw [Situation.next, respond, e1]
    | inr refused => rw [refused] at h; cases h
  | _ => cases h

/-- A check for the end that asks nothing does nothing. -/
lemma newFinish?_none {s : Situation} (h : s.newFinish? .enterFinishCheck = none) :
    s.pool.enterFinishCheck = ⟨s.pool, [], false⟩ := by
  simp only [Situation.newFinish?] at h
  cases s.pool.enterFinishCheck_cases with
  | inl asks => rw [asks.1] at h; cases h
  | inr refused => exact refused

/-- What asks for the end of the run closes no question for it. -/
lemma newFinish?_of_closes {s : Situation} {e : Event} {q} (h : e.closesFinish? = some q) :
    s.newFinish? e = none := by
  cases e with
  | answerFinished => rfl
  | _ => cases h

/-- The question for the end of the run that an event closes was open. -/
lemma Situation.Enabled.closesEnd {s : Situation} {e : Event} {q} (enabled : s.Enabled e)
    (h : e.closesFinish? = some q) : q ∈ s.finishOpen := by
  cases e with
  | answerFinished => cases h; exact enabled
  | _ => cases h

/-- The answer to a question for the end frees the slot. -/
lemma respond_closesFinish {p : Pool} {e : Event} {q} (h : e.closesFinish? = some q) :
    (p.respond e).pool.finishCheckBusy = false := by
  cases e with
  | answerFinished => rfl
  | _ => cases h

/-! ## Open questions -/

/-- The slot is held for the one open question, which was asked in a moment of the run. -/
structure EndTraced (ms : List Moment) (s : Situation) : Prop where
  slot : s.finishOpen.length = s.pool.finishCheckBusy.toNat
  asked : ∀ q ∈ s.finishOpen, ∃ since asked rest, ms = since ++ asked :: rest ∧
    asked.asksEnd? = some q ∧ ∀ w ∈ since, w.asksEnd? = none

/-- An open question for the end is the only one, and holds the slot. -/
lemma EndTraced.only {ms s q} (tr : EndTraced ms s) (mem : q ∈ s.finishOpen) :
    s.finishOpen = [q] ∧ s.pool.finishCheckBusy = true := eq_singleton_of_slot tr.slot mem

/-- While a question for the end is open, no other one is asked. -/
lemma EndTraced.asks_none {ms s q} (tr : EndTraced ms s) (mem : q ∈ s.finishOpen) (e : Event) :
    s.newFinish? e = none := by
  cases h : s.newFinish? e with
  | none => rfl
  | some r =>
    obtain ⟨_, free, _⟩ := newFinish?_inv h
    rw [(tr.only mem).2] at free
    cases free

/-- The answer to a question for the end leaves none open. -/
lemma EndTraced.close {ms s e q} (tr : EndTraced ms s) (enabled : s.Enabled e)
    (h : e.closesFinish? = some q) : (s.next e).finishOpen = [] := by
  have only := (tr.only (enabled.closesEnd h)).1
  rw [Situation.next, h, newFinish?_of_closes h, only]
  dsimp only [Option.elim]
  rw [List.erase_cons_head]
  rfl

/-- Open questions stay open until their answers come. -/
lemma next_finishOpen {s : Situation} {e : Event} (h : e.closesFinish? = none) :
    (s.next e).finishOpen = s.finishOpen ++ (s.newFinish? e).toList := by
  rw [Situation.next, h]
  rfl

/-- The slot changes only with a question or its answer. -/
lemma next_finishSlot {s : Situation} {e : Event} (h1 : s.newFinish? e = none)
    (h2 : e.closesFinish? = none) :
    (s.next e).pool.finishCheckBusy = s.pool.finishCheckBusy := by
  by_cases enters : e = .enterFinishCheck
  · subst enters
    rw [Situation.next, respond, newFinish?_none h1]
  · exact respond_finishSlot _ enters h2

/-- The slot is held for the open question after an event if it was before. -/
lemma EndTraced.next_slot {ms s e} (tr : EndTraced ms s) (enabled : s.Enabled e) :
    (s.next e).finishOpen.length = (s.next e).pool.finishCheckBusy.toNat := by
  cases h : e.closesFinish? with
  | some q =>
    have free : (s.next e).pool.finishCheckBusy = false := respond_closesFinish h
    rw [tr.close enabled h, free]
    rfl
  | none =>
    rw [next_finishOpen h, List.length_append, tr.slot]
    cases h1 : s.newFinish? e with
    | none => rw [next_finishSlot h1 h]; rfl
    | some q =>
      obtain ⟨_, free, _, _, busy⟩ := newFinish?_inv h1
      rw [free, busy]
      rfl

/-- Every event keeps track of the open question. -/
lemma EndTraced.next {ms s e} (tr : EndTraced ms s) (enabled : s.Enabled e) :
    EndTraced (⟨s, e⟩ :: ms) (s.next e) := by
  refine ⟨tr.next_slot enabled, ?_⟩
  intro q mem
  -- A question that is closed was the only one.
  cases h : e.closesFinish? with
  | some r => rw [tr.close enabled h] at mem; cases mem
  | none =>
    rw [next_finishOpen h] at mem
    cases List.mem_append.mp mem with
    | inl old =>
      obtain ⟨since, asked, rest, e1, e2, alone⟩ := tr.asked q old
      refine ⟨⟨s, e⟩ :: since, asked, rest, congrArg _ e1, e2, ?_⟩
      exact List.forall_mem_cons.mpr ⟨tr.asks_none old e, alone⟩
    | inr new =>
      rw [Option.mem_toList] at new
      refine ⟨[], ⟨s, e⟩, ms, rfl, new, ?_⟩
      intro w mem1
      cases mem1

/-- The open question for the end of the run is traced all along a run. -/
lemma Run.end_traced {ms s} (run : Run ms s) : EndTraced ms s := by
  induction run with
  | start e =>
    obtain ⟨_, e1⟩ := new_inv e
    subst e1
    exact ⟨rfl, nofun⟩
  | step _ enabled ih => exact ih.next enabled

/-! ## Finishing -/

/-- Only a yes to the question for the end of the run finishes it. -/
lemma Event.ending_finished {e : Event} {outcome} (h : e.ending? = some (outcome, .finished)) :
    ∃ q historical, e = .answerFinished q (.ok true) historical := by
  cases e with
  | answerReady q answer =>
    cases answer with
    | error detail => cases h
    | ok ready => cases h
  | answerFinished q answer historical =>
    cases answer with
    | error detail => cases h
    | ok finished =>
      cases finished with
      | false => cases h
      | true => exact ⟨q, historical, rfl⟩
  | settleTask task result =>
    cases result with
    | _ => cases h
  | _ => cases h

/-- No change of the phase but the end of a run finishes it. -/
lemma Turn.not_finished {e a b} (t : Turn e a b) : b ≠ .finished := by
  cases t with
  | _ => nofun

/-- A pool finishes by a yes alone, with no task in flight. -/
lemma Reaction.finishes {p e r} (re : Reaction p e r) (h1 : p.phase ≠ .finished)
    (h2 : r.pool.phase = .finished) :
    p.isDrained = true ∧ ∃ q historical, e = .answerFinished q (.ok true) historical := by
  cases re with
  | @ends outcome phase ending _ drained e1 =>
    rw [Pool.phase, e1] at h2
    cases h2
    exact ⟨drained rfl, Event.ending_finished ending⟩
  | launches _ _ e1 => rw [Pool.phase, e1] at h2; exact absurd h2 h1
  | begins _ _ e1 => rw [Pool.phase, e1] at h2; cases h2
  | turns t _ e1 => rw [Pool.phase, e1] at h2; exact absurd h2 t.not_finished
  | scales _ _ _ e1 => rw [e1] at h2; exact absurd h2 h1
  | goesOn _ _ e1 =>
    rw [Pool.phase, e1] at h2
    exact absurd ((e.counted_frame p.state).1.symm.trans h2) h1

/-- A pool without a task in flight has none along a run. -/
lemma Run.drained {ms s} (run : Run ms s) (h : s.pool.isDrained = true) : s.inFlight = [] := by
  rw [isDrained, beq_iff_eq, run.tallied.counted] at h
  exact List.eq_nil_of_length_eq_zero h

/-- With no task in flight, the tasks that settled are those that were launched, each of them once.
-/
lemma Run.count_settlements {ms s} (run : Run ms s) (h : s.inFlight = []) (task : Nat) :
    (settlements ms).count task = if task < s.launched then 1 else 0 := by
  have once := run.tallied.once task
  rw [h, ← run.tallied.launched] at once
  exact once

/-- Settlements of two stretches come one after the other. -/
@[simp]
lemma settlements_append (ms ns : List Moment) :
    settlements (ms ++ ns) = settlements ms ++ settlements ns := List.filterMap_append

/-- Between two times without a task in flight, the tasks that settle are those that are launched,
each of them once. -/
lemma Run.count_between {since rest : List Moment} {m : Moment} {s : Situation}
    (run : Run (since ++ m :: rest) s) (h1 : m.before.inFlight = []) (h2 : s.inFlight = [])
    (still : m.event.settles? = none) (task : Nat) :
    (settlements since).count task =
      if m.before.launched ≤ task ∧ task < s.launched then 1 else 0 := by
  -- The tasks settled up to either time are known, so those in between are their difference.
  have before := run.split.1.count_settlements h1 task
  have after := run.count_settlements h2 task
  rw [settlements_append, settlements_cons, still, List.count_append] at after
  have le : m.before.launched ≤ s.launched := by
    rw [run.split.1.tallied.launched, run.tallied.launched, launchCount, launchCount,
      List.flatMap_append, launches_append, List.flatMap_cons, launches_append]
    omega
  have e : (Option.toList (none : Option Nat) ++ settlements rest).count task =
      (settlements rest).count task := rfl
  rw [e, before] at after
  split at after <;> split at after <;> split <;> omega

/-- A run finishes by a yes to a question that was asked while it ran with no task in flight. The
tasks that started since have all settled. -/
theorem Run.finished_by {later m earlier s} (run : Run (later ++ m :: earlier) s)
    (before : m.before.pool.phase ≠ .finished) (after : m.after.pool.phase = .finished) :
    ∃ q historical since asked rest, m.event = .answerFinished q (.ok true) historical ∧
      earlier = since ++ asked :: rest ∧ FinishedBy q m since asked := by
  obtain ⟨run1, enabled⟩ := run.split
  obtain ⟨drained, q, historical, e⟩ := m.reaction.finishes before after
  rw [e] at enabled
  obtain ⟨since, asked, rest, e1, e2, alone⟩ := run1.end_traced.asked q enabled
  subst e1
  obtain ⟨enters, _, running, drained1, _⟩ := newFinish?_inv e2
  have none1 := run1.split.1.drained drained1
  have none2 := run1.drained drained
  have settled := run1.count_between none1 none2 (by rw [enters]; rfl)
  refine ⟨q, historical, since, asked, rest, e, rfl,
    ⟨e2, alone, running, ⟨none1, none2⟩, settled, ?_⟩⟩
  intro nobody
  -- If more tasks were launched, the first of them would have settled.
  have first := settled asked.before.launched
  rw [nobody] at first
  have e3 := run1.tallied.launched
  have e4 := run1.split.1.tallied.launched
  rw [launchCount, List.flatMap_append, launches_append, List.flatMap_cons, launches_append] at e3
  rw [launchCount] at e4
  split at first
  · cases first
  · omega

/-- A run finishes by a yes that comes with nothing started since it was asked for. -/
theorem Run.finished_by_idle :
    ∃ m earlier s, Run ([] ++ m :: earlier) s ∧ m.before.pool.phase ≠ .finished ∧
      m.after.pool.phase = .finished ∧
      ∃ q historical since asked rest, m.event = .answerFinished q (.ok true) historical ∧
        earlier = since ++ asked :: rest ∧ FinishedBy q m since asked := by
  obtain ⟨h⟩ := nonempty_systemInfo
  have run0 := Run.fresh (c := { loggingSecs := .zero }) (by decide +kernel)
  have run1 := run0.step (e := .callRun) trivial
  have run2 := run1.step (e := .enterStartCheck false 0 true) trivial
  have run3 := run2.step (e := .answerReady ⟨0, 0, false, true, 1⟩ (.ok false) 0 true h)
    List.mem_cons_self
  have run4 := run3.step (e := .enterFinishCheck) Nat.one_pos
  have run5 := run4.step (e := .answerFinished ⟨0, 0⟩ (.ok true) h) List.mem_cons_self
  exact ⟨_, _, _, run5, nofun, rfl, @Run.finished_by [] _ _ _ run5 nofun rfl⟩

/-- A task starts and settles while the question for the end of the run is open. The check that its
end spawns is refused, and the run finishes by the yes that was asked for before the task. -/
theorem Run.finished_late :
    ∃ m since asked rest s q historical, Run (m :: since ++ asked :: rest) s ∧
      asked.asksEnd? = some q ∧ m.event = .answerFinished q (.ok true) historical ∧
      m.before.pool.phase = .running ∧ s.pool.phase = .finished ∧
      asked.before.launched = 0 ∧ m.before.launched = 1 ∧ s.finishAsked = 1 := by
  obtain ⟨h⟩ := nonempty_systemInfo
  have run0 := Run.fresh (c := { loggingSecs := .zero }) (by decide +kernel)
  have run1 := run0.step (e := .callRun) trivial
  have run2 := run1.step (e := .equip 0) rfl
  have run3 := run2.step (e := .enterStartCheck false 0 true) trivial
  have run4 := run3.step (e := .answerReady ⟨0, 0, false, true, 1⟩ (.ok false) 0 true h)
    List.mem_cons_self
  have run5 := run4.step (e := .enterFinishCheck) Nat.one_pos
  -- A task starts and settles while the question is open.
  have run6 := run5.step (e := .enterStartCheck false 0 true) trivial
  have run7 := run6.step (e := .answerReady ⟨1, 1, false, true, 1⟩ (.ok true) 0 true h)
    List.mem_cons_self
  have run8 := run7.step (e := .settleTask 0 .succeeded h) List.mem_cons_self
  -- The check of its end is refused the slot.
  have run9 := run8.step (e := .enterFinishCheck) Nat.one_pos
  have run10 := run9.step (e := .answerFinished ⟨0, 0⟩ (.ok true) h) List.mem_cons_self
  exact ⟨_, [_, _, _, _], _, _, _, ⟨0, 0⟩, h, run10, rfl, rfl, rfl, rfl, rfl, rfl, rfl⟩

end Headroom.Pool
