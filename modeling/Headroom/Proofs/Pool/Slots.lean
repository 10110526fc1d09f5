import Headroom.Proofs.Pool.Reaction

/-!
# The slots of the checks

A pool has one slot for a check for ready tasks and one for a check for the end of the run. Only the
work of a check moves its own slot (`respond_startSlot`, `respond_finishSlot`). A check that is
refused the slot asks nothing; one that gets it holds it just while its question is open. The starts
that the pool keeps are written by checks only, too (`respond_checkState`).
-/

namespace Headroom

namespace PoolState

/-- Scaling does not touch the starts that are kept. -/
lemma autoscale_recentStarts {s t : PoolState} {idle : Bool} {c : PoolConfig} {change}
    (e : s.autoscale idle c = .ok (change, t)) : t.recentStarts = s.recentStarts := by
  unfold PoolState.autoscale at e
  split at e
  · split at e
    · split at e
      · cases e; rfl
      · cases e
    · cases e; rfl
  · cases e; rfl

/-- A setter does not touch the starts that are kept. -/
lemma setDesired_recentStarts {s t : PoolState} {value : Nat} (e : s.setDesired value = .ok t) :
    t.recentStarts = s.recentStarts := by
  rw [setDesired] at e
  split at e
  · cases e; rfl
  · cases e

end PoolState

namespace Pool

/-- Whether the slot for ready tasks and the one for the end of the run are taken. -/
def slots (p : Pool) : Bool × Bool := (p.startCheckBusy, p.finishCheckBusy)

/-- What only checks write: the slots, and the starts that are kept. -/
def checkState (p : Pool) : (Bool × Bool) × List Instant := (p.slots, p.state.recentStarts)

/-- The verdict on the current load that a check for ready tasks gets as it looks at the budget. -/
def Event.reading? : Event → Option Bool
  | .enterStartCheck _ _ idle => some idle
  | .answerReady _ _ _ idle _ => some idle
  | _ => none

/-- The event is the work of a check, of either kind. -/
def Event.isCheck : Event → Bool
  | .enterStartCheck .. | .answerReady .. | .dropStartCheck _ => true
  | .enterFinishCheck | .answerFinished .. => true
  | _ => false

/-- If a slot is taken just while a question is open, an open question is the only one. -/
lemma eq_singleton_of_slot {α : Type} {questions : List α} {busy : Bool} {q : α}
    (slot : questions.length = busy.toNat) (mem : q ∈ questions) :
    questions = [q] ∧ busy = true := by
  cases busy with
  | false =>
    rw [List.eq_nil_of_length_eq_zero slot] at mem
    cases mem
  | true =>
    obtain ⟨r, e⟩ := List.length_eq_one_iff.mp slot
    rw [e] at mem
    cases List.mem_singleton.mp mem
    exact ⟨e, rfl⟩

/-! ## What is no work of a check -/

/-- The end of a run touches no slot and no start. -/
lemma settle?_checkState {p : Pool} {outcome phase historical r}
    (e : p.settle? outcome phase historical = some r) : r.1.checkState = p.checkState := by
  cases u : p.unresolved with
  | true => rw [settle?_open u] at e; cases e; rfl
  | false => rw [settle?_shut u] at e; cases e

/-- A failure touches no slot and no start. -/
lemma fail_checkState (p : Pool) (e historical) :
    (p.fail e historical).1.checkState = p.checkState := by
  cases u : p.unresolved with
  | true => rw [fail_open u]; rfl
  | false => rw [fail_shut u]

/-- What is no work of a check leaves the slots and the starts alone. -/
lemma respond_checkState (p : Pool) {e : Event} (h : e.isCheck = false) :
    (p.respond e).pool.checkState = p.checkState := by
  -- The calls write other fields, so each way through them is an equation by computation. What may
  -- end the run is covered by the lemmas above.
  cases e with
  | callRun =>
    rw [respond, beginRun]
    split <;> rfl
  | equip call =>
    rw [respond, CheckStep.plain, equip_fst, startTimers]
    split <;> rfl
  | abort historical =>
    rw [respond, CheckStep.plain, abort]
    cases e : p.settle? (.ok ()) .aborted historical with
    | some r => exact settle?_checkState e
    | none => dsimp only [Option.getD]; split <;> rfl
  | callPause =>
    rw [respond, CheckStep.plain, pause]
    split <;> rfl
  | resume =>
    rw [respond, CheckStep.plain, resume]
    split <;> rfl
  | setDesired value =>
    cases e : p.state.setDesired value with
    | error fault => rw [respond, e]; rfl
    | ok state =>
      rw [respond, e]
      exact congrArg (p.slots, ·) (PoolState.setDesired_recentStarts e)
  | autoscale idle =>
    rw [respond, autoscale]
    split
    · cases e : p.state.autoscale idle p.config with
      | error fault => rfl
      | ok r => exact congrArg (p.slots, ·) (PoolState.autoscale_recentStarts e)
    · rfl
  | settleTask task result historical =>
    simp only [respond, CheckStep.plain, taskSettled]
    cases result.error? with
    | some e => exact fail_checkState _ _ _
    | none => rfl
  | enterStartCheck => cases h
  | answerReady => cases h
  | dropStartCheck => cases h
  | enterFinishCheck => cases h
  | answerFinished => cases h
  | _ => rfl

/-! ## The slot for ready tasks -/

/-- The answer to a check for the end touches neither the slot for ready tasks nor the starts. -/
lemma answerFinished_starts (p : Pool) (answer : Except String Bool) (historical) :
    (p.answerFinished answer historical).pool.startCheckBusy = p.startCheckBusy ∧
      (p.answerFinished answer historical).pool.state.recentStarts = p.state.recentStarts := by
  cases answer with
  | error detail =>
    have same := fail_checkState p (.finishFailed detail) historical
    exact ⟨congrArg (·.1.1) same, congrArg Prod.snd same⟩
  | ok finished =>
    cases finished with
    | false => exact ⟨rfl, rfl⟩
    | true =>
      simp only [answerFinished]
      split
      · cases e : p.settle? (.ok ()) .finished historical with
        | some r =>
          have same := settle?_checkState e
          exact ⟨congrArg (·.1.1) same, congrArg Prod.snd same⟩
        | none => exact ⟨rfl, rfl⟩
      · exact ⟨rfl, rfl⟩

/-- What is no work of a check for ready tasks leaves its slot alone. -/
lemma respond_startSlot (p : Pool) {e : Event} (h1 : e.reading? = none)
    (h2 : e.closesReady? = none) :
    (p.respond e).pool.startCheckBusy = p.startCheckBusy := by
  cases c : e.isCheck with
  | false => exact congrArg (·.1.1) (respond_checkState p c)
  | true =>
    cases e with
    | enterStartCheck => cases h1
    | answerReady => cases h1
    | dropStartCheck => cases h2
    | enterFinishCheck =>
      rw [respond, enterFinishCheck]
      split
      · rfl
      · split <;> rfl
    | answerFinished q answer historical =>
      exact (answerFinished_starts p answer historical).1
    | _ => cases c

/-- A check that is refused the slot asks nothing and leaves the pool alone. -/
lemma enterStartCheck_busy {p : Pool} {now idle} (busy : p.startCheckBusy = true) :
    p.enterStartCheck now idle = ⟨p, [], false⟩ := by
  rw [enterStartCheck, if_pos busy]

/-- A check that gets the slot holds it while it asks. -/
lemma enterStartCheck_free {p : Pool} {now idle} (free : p.startCheckBusy = false) :
    (p.enterStartCheck now idle).pool.startCheckBusy = (p.enterStartCheck now idle).asking := by
  obtain ⟨starts, wants, e⟩ := askForTask_step { p with startCheckBusy := true } [] now idle
  rw [enterStartCheck, if_neg (ne_true_of_eq_false free), e]

/-- A check that got its answer holds the slot while it asks again. -/
lemma answerReady_slot (p : Pool) (answer now idle historical) :
    (p.answerReady answer now idle historical).pool.startCheckBusy =
      (p.answerReady answer now idle historical).asking := by
  cases answer with
  | error detail => rfl
  | ok ready =>
    cases ready with
    | false => rfl
    | true =>
      simp only [answerReady]
      split
      · obtain ⟨starts, wants, e⟩ := askForTask_step (p.launch now) [.launchTask] now idle
        rw [e]
      · rfl

/-- A check for ready tasks asks at the head of its loop and nowhere else. -/
lemma respond_asks {p : Pool} {e : Event} {idle} (asking : (p.respond e).asking = true)
    (h : e.reading? = some idle) :
    ∃ q effects now, p.respond e = askForTask q effects now idle := by
  cases e with
  | enterStartCheck timed now idle =>
    cases h
    simp only [respond, enterStartCheck] at asking ⊢
    split
    · next busy =>
      rw [if_pos busy] at asking
      cases asking
    · exact ⟨_, _, _, rfl⟩
  | answerReady q answer now idle historical =>
    cases h
    cases answer with
    | error detail => cases asking
    | ok ready =>
      cases ready with
      | false => cases asking
      | true =>
        simp only [respond, answerReady] at asking ⊢
        split
        · exact ⟨_, _, _, rfl⟩
        · next capacity =>
          rw [if_neg capacity] at asking
          cases asking
  | _ => cases h

/-! ## The slot for the end of the run -/

/-- Only the work of a check for the end touches its slot. -/
lemma respond_finishSlot (p : Pool) {e : Event} (h1 : e ≠ .enterFinishCheck)
    (h2 : e.closesFinish? = none) :
    (p.respond e).pool.finishCheckBusy = p.finishCheckBusy := by
  cases c : e.isCheck with
  | false => exact congrArg (·.1.2) (respond_checkState p c)
  | true =>
    cases e with
    | enterFinishCheck => exact absurd rfl h1
    | answerFinished => cases h2
    | dropStartCheck => rfl
    | enterStartCheck timed now idle =>
      obtain ⟨starts, wants, e⟩ := askForTask_step { p with startCheckBusy := true } [] now idle
      rw [respond, enterStartCheck, e]
      split <;> rfl
    | answerReady q answer now idle historical =>
      cases answer with
      | error detail => exact congrArg (·.1.2) (fail_checkState p _ _)
      | ok ready =>
        cases ready with
        | false => rfl
        | true =>
          simp only [respond, answerReady]
          split
          · obtain ⟨starts, wants, e⟩ := askForTask_step (p.launch now) [.launchTask] now idle
            rw [e]
            rfl
          · rfl
    | _ => cases c

/-- A check for the end of the run asks if the slot is free, the pool runs and no task is in flight.
Otherwise it leaves the pool alone. -/
lemma enterFinishCheck_cases (p : Pool) :
    (p.enterFinishCheck = ⟨{ p with finishCheckBusy := true }, [], true⟩ ∧
      p.finishCheckBusy = false ∧ p.phase = .running ∧ p.isDrained = true) ∨
      p.enterFinishCheck = ⟨p, [], false⟩ := by
  rw [enterFinishCheck]
  split
  · exact .inr rfl
  · next free =>
    split
    · next h =>
      rw [Bool.and_eq_true, decide_eq_true_eq] at h
      exact .inl ⟨rfl, eq_false_of_ne_true free, h⟩
    · exact .inr rfl

end Pool

end Headroom
