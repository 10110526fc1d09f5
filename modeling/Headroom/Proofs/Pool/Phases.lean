import Headroom.Proofs.Pool.Finishing
import Headroom.Proofs.Pool.Outcome

/-!
# The phases of a pool

A pool goes from phase to phase along the steps of `PhaseStep`, with one exception: `Run.phases`
shows that it may also finish from a pause. It does so only by a yes to a question for the end of
the run that was asked before the pause and was still open when the pool paused (`LateFinish`).
-/

namespace Headroom.Pool

/-- The steps from phase to phase. -/
inductive PhaseStep : Phase → Phase → Prop where
  | begin : PhaseStep .idle .running
  | withdraw : PhaseStep .idle .aborted
  | pause : PhaseStep .running .paused
  | resume : PhaseStep .paused .running
  | finish : PhaseStep .running .finished
  | abort {phase} : phase.isActive = true → PhaseStep phase .aborted
  | fail {phase} : phase.isActive = true → PhaseStep phase .failed

/-- A paused pool finishes. The yes is to a question that was asked while the pool ran, and the pool
paused since. -/
structure LateFinish (m : Moment) (earlier : List Moment) : Prop where
  change : m.before.pool.phase = .paused ∧ m.after.pool.phase = .finished
  answers : ∃ q historical since asked rest,
    m.event = .answerFinished q (.ok true) historical ∧
      earlier = since ++ asked :: rest ∧
      asked.asksEnd? = some q ∧
      asked.before.pool.phase = .running ∧
      ∃ w ∈ since, w.before.pool.phase = .running ∧ w.after.pool.phase = .paused

/-- A change of phase by a call is a step. -/
lemma Turn.phase_step {e a b} (t : Turn e a b) : PhaseStep a b := by
  cases t with
  | abort => exact .withdraw
  | pause => exact .pause
  | resume => exact .resume

/-- The end of an active run is a step, unless a paused pool finishes. -/
lemma Stands.phase_step {outcome phase other} (st : Stands true (some outcome) other)
    (active : phase.isActive = true) :
    PhaseStep phase other ∨ (phase = .paused ∧ other = .finished) := by
  cases st with
  | finished =>
    cases phase with
    | running => exact .inl .finish
    | paused => exact .inr ⟨rfl, rfl⟩
    | _ => cases active
  | aborted => exact .inl (.abort active)
  | failed => exact .inl (.fail active)

/-- An event leaves the phase as it is or changes it by a step, unless a paused pool finishes. -/
lemma Situation.phase_step {s : Situation} (h : s.pool.unresolved = s.pool.phase.isActive)
    (e : Event) :
    s.pool.phase = (s.next e).pool.phase ∨ PhaseStep s.pool.phase (s.next e).pool.phase ∨
      (s.pool.phase = .paused ∧ (s.next e).pool.phase = .finished) := by
  cases s.fate h e with
  | ends active ending => exact .inr ((Stands.of_ending ending).1.phase_step active)
  | begins _ idle e1 =>
    rw [idle, e1]
    exact .inr (.inl .begin)
  | goesOn _ turn =>
    cases turn with
    | inl same => exact .inl same
    | inr t => exact .inr (.inl t.phase_step)

/-- A pool that ran and is paused has paused in between. -/
lemma Run.pauses_between {since rest : List Moment} {m : Moment} {s : Situation}
    (run : Run (since ++ m :: rest) s) (running : m.after.pool.phase = .running)
    (paused : s.pool.phase = .paused) :
    ∃ w ∈ since, w.before.pool.phase = .running ∧ w.after.pool.phase = .paused := by
  induction since generalizing s with
  | nil =>
    cases run with
    | step => cases running.symm.trans paused
  | cons w since ih =>
    cases run with
    | @step _ s e run1 _ =>
      cases s.phase_step run1.standing.unresolved e with
      | inl same =>
        obtain ⟨v, mem, pauses⟩ := ih run1 (same.trans paused)
        exact ⟨v, List.mem_cons_of_mem _ mem, pauses⟩
      | inr change =>
        rw [paused] at change
        cases change with
        | inr finish => cases finish.2
        | inl step =>
          -- The only step into a pause is from running.
          have ran : s.pool.phase = .running := by
            generalize s.pool.phase = phase at step
            cases step
            rfl
          exact ⟨_, List.mem_cons_self, ran, paused⟩

/-- A paused pool that finishes does so by a yes to a question from before the pause. -/
lemma Run.late_finish {later m earlier s} (run : Run (later ++ m :: earlier) s)
    (before : m.before.pool.phase = .paused) (after : m.after.pool.phase = .finished) :
    LateFinish m earlier := by
  obtain ⟨run1, enabled⟩ := run.split
  obtain ⟨_, q, historical, e⟩ := m.reaction.finishes (by rw [before]; nofun) after
  rw [e] at enabled
  obtain ⟨since, asked, rest, e1, e2, _⟩ := run1.end_traced.asked q enabled
  subst e1
  obtain ⟨enters, _, running, _⟩ := newFinish?_inv e2
  refine ⟨⟨before, after⟩, q, historical, since, asked, rest, e, rfl, e2, running, ?_⟩
  -- Asking leaves the phase alone.
  have still : asked.after.pool.phase = .running := by
    rw [Moment.after, enters, Situation.next, respond]
    cases asked.before.pool.enterFinishCheck_cases with
    | inl asks => rw [asks.1]; exact running
    | inr refused => rw [refused]; exact running
  exact run1.pauses_between still before

/-- Along a run, each change of phase is a step, but for a pool that finishes from a pause by a yes
to a question from before it. -/
theorem Run.phases {later m earlier s} (run : Run (later ++ m :: earlier) s)
    (changes : m.before.pool.phase ≠ m.after.pool.phase) :
    PhaseStep m.before.pool.phase m.after.pool.phase ∨ LateFinish m earlier := by
  cases m.before.phase_step run.split.1.standing.unresolved m.event with
  | inl same => exact absurd same changes
  | inr change =>
    cases change with
    | inl step => exact .inl step
    | inr finish => exact .inr (run.late_finish finish.1 finish.2)

/-- A pause is a step. -/
theorem Run.phases_of_pause :
    ∃ m earlier s, Run ([] ++ m :: earlier) s ∧ m.before.pool.phase ≠ m.after.pool.phase ∧
      (PhaseStep m.before.pool.phase m.after.pool.phase ∨ LateFinish m earlier) := by
  have run0 := Run.fresh (c := { loggingSecs := .zero }) (by decide +kernel)
  have run1 := run0.step (e := .callRun) trivial
  have run2 := run1.step (e := .callPause none false) trivial
  exact ⟨_, _, _, run2, nofun, @Run.phases [] _ _ _ run2 nofun⟩

/-- A pool pauses while the question for the end of the run is open. The yes to it finishes the
run, and the call to run is sent a success, though nobody resumed or aborted the pool. -/
theorem Run.finished_from_pause :
    ∃ m earlier s, Run (m :: earlier) s ∧ m.before.pool.phase = .paused ∧
      m.after.pool.phase = .finished ∧ ¬ PhaseStep .paused .finished ∧ s.sent = some (.ok ()) ∧
      ∀ w ∈ m :: earlier, w.event ≠ .resume ∧ ∀ historical, w.event ≠ .abort historical := by
  obtain ⟨h⟩ := nonempty_systemInfo
  have run0 := Run.fresh (c := { loggingSecs := .zero }) (by decide +kernel)
  have run1 := run0.step (e := .callRun) trivial
  have run2 := run1.step (e := .equip 0) rfl
  have run3 := run2.step (e := .enterStartCheck false 0 true) trivial
  have run4 := run3.step (e := .answerReady ⟨0, 0, false, true, 1⟩ (.ok false) 0 true h)
    List.mem_cons_self
  have run5 := run4.step (e := .enterFinishCheck) Nat.one_pos
  have run6 := run5.step (e := .callPause none false) trivial
  have run7 := run6.step (e := .answerFinished ⟨0, 0⟩ (.ok true) h) List.mem_cons_self
  refine ⟨_, _, _, run7, rfl, rfl, nofun, rfl, ?_⟩
  simp

end Headroom.Pool
