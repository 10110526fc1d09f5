import Mathlib.Data.List.Perm.Subperm
import Headroom.Cli.Execute
import Headroom.Proofs.Pool.Holding

/-!
# Simulated runs

A simulated run puts a number of sleeping tasks through a pool. Its callbacks hand the tasks out one
by one and count those that are completed; they answer without a wait, and only the tasks sleep.
`Simulated` lets everything happen in any order that respects this: while a question is open, nobody
else has a turn. `Simulated.runs_each_once` shows that every task is left, in flight or completed at
all times, and that a run that finishes has completed them all.

A task that is handed out must be launched, or it would be lost. This holds since nothing happens
between a question and its answer: the capacity that the check has seen as it asked is still there
when the answer comes (`Balanced.capable`).

What is executed as a simulation is such a run (`Proofs.Scenario.Executed`).
-/

namespace Headroom

namespace Workload

/-- The answer to a question for a ready task that is asked now and answered without a wait. -/
def answerReady (w : Workload) : Except String Bool × Workload := w.askReady.2.answer w.askReady.1

/-- The answer to a question for the end of the run that is asked now and answered without a wait.
-/
def answerFinished (w : Workload) : Except String Bool × Workload :=
  w.askFinished.2.answer w.askFinished.1

end Workload

namespace Pool

/-- The event brings an answer or the end of a task. -/
def Event.callsBack : Event → Bool
  | answerReady .. | answerFinished .. | settleTask .. => true
  | _ => false

/-- A pool with what surrounds it, and the tasks that are put through it. -/
structure Simulation extends Situation where
  work : Workload
  /-- The tasks at work, by their numbers with the pool and with the workload. -/
  atWork : List (Nat × Nat) := []

/-- No check is under way. -/
def Situation.Awaits (s : Situation) : Prop := s.readyOpen = [] ∧ s.finishOpen = []

/-- The simulated runs of a number of tasks that each take a while. -/
inductive Simulated (tasks : Nat) (span : Duration) : List Moment → Simulation → Prop where
  | start {c snapshotter status p} :
    new c snapshotter status = .ok p →
    Simulated tasks span [] { pool := p, work := Command.sleepingTasks tasks span }
  /-- Somebody calls the pool, a timer ticks, or a check begins. -/
  | acts {ms s e} :
    Simulated tasks span ms s →
    s.Awaits →
    s.Enabled e →
    e.callsBack = false →
    Simulated tasks span (⟨s.toSituation, e⟩ :: ms) { s with toSituation := s.next e }
  /-- A question for a ready task is answered. -/
  | answers {ms s q} (now idle historical) :
    Simulated tasks span ms s →
    q ∈ s.readyOpen →
    Simulated tasks span
      (⟨s.toSituation, .answerReady q s.work.answerReady.1 now idle historical⟩ :: ms)
      { s with
        toSituation := s.next (.answerReady q s.work.answerReady.1 now idle historical)
        work := s.work.answerReady.2 }
  /-- A question for the end of the run is answered. -/
  | decides {ms s q} (historical) :
    Simulated tasks span ms s →
    q ∈ s.finishOpen →
    Simulated tasks span
      (⟨s.toSituation, .answerFinished q s.work.answerFinished.1 historical⟩ :: ms)
      { s with
        toSituation := s.next (.answerFinished q s.work.answerFinished.1 historical)
        work := s.work.answerFinished.2 }
  /-- A task that was launched starts, and sleeps. -/
  | begins {ms s task} (now) :
    Simulated tasks span ms s →
    s.Awaits →
    task ∈ s.inFlight →
    task ∉ s.atWork.map Prod.fst →
    Simulated tasks span ms
      { s with
        work := (s.work.startTask now).2.2
        atWork := s.atWork ++ [(task, (s.work.startTask now).1)] }
  /-- A task wakes up, is completed, and settles. -/
  | ends {ms s task k} (now historical) :
    Simulated tasks span ms s →
    s.Awaits →
    (task, k) ∈ s.atWork →
    Simulated tasks span (⟨s.toSituation, .settleTask task .succeeded historical⟩ :: ms)
      { s with
        toSituation := s.next (.settleTask task .succeeded historical)
        work := s.work.endTask k now
        atWork := s.atWork.erase (task, k) }

/-- Every task of a simulated run so far is run once, if it was taken at all. -/
structure RunsEachOnce (tasks : Nat) (span : Duration) (s : Simulation) : Prop where
  /-- Every task is left, in flight or completed. -/
  conserved : ∃ left, s.work.remaining = some left ∧
    left + s.inFlight.length + s.work.completed = tasks
  counted : s.pool.state.current = s.inFlight.length
  /-- A task that was taken was launched, and one that was started is at work or completed. -/
  taken : ∃ left, s.work.remaining = some left ∧ left + s.launched = tasks
  started : s.work.started = s.atWork.length + s.work.completed ∧ s.work.started ≤ s.launched
  /-- A run that has finished has completed all tasks. -/
  finished : s.pool.phase = .finished →
    s.work.completed = tasks ∧ s.work.remaining = some 0 ∧ s.pool.state.current = 0
  /-- The callbacks do as they are scripted: no answer waits, and every task sleeps and succeeds. -/
  scripted : s.work.askReady.1.waits = none ∧ s.work.askFinished.1.waits = none ∧
    ∀ now, (s.work.startTask now).2.1 = { works := some span }

end Pool

/-! ## The callbacks -/

namespace Workload

/-- A workload of sleeping tasks, however far it has come. -/
structure Sleeping (tasks : Nat) (span : Duration) (w : Workload) : Prop where
  total : w.total = some tasks
  default : w.default = { works := some span }
  script : w.script = []
  ready : w.ready = [{ verdict := .takeTask }]
  finish : w.finish = [{ verdict := .allCompleted }]

/-- A single plan answers every question. -/
lemma nth_singleton (plan : AnswerPlan) (k : Nat) : AnswerPlan.nth [plan] k = plan := by
  cases k with
  | zero => rfl
  | succ k => rfl

namespace Sleeping

variable {tasks : Nat} {span : Duration} {w v : Workload}

/-- Only the script and the total matter. -/
lemma congr (sl : Sleeping tasks span w) (e1 : v.total = w.total) (e2 : v.default = w.default)
    (e3 : v.script = w.script) (e4 : v.ready = w.ready) (e5 : v.finish = w.finish) :
    Sleeping tasks span v :=
  ⟨e1.trans sl.total, e2.trans sl.default, e3.trans sl.script, e4.trans sl.ready,
    e5.trans sl.finish⟩

/-- The plan of every readiness question is to take a task at once. -/
lemma askReady (sl : Sleeping tasks span w) : w.askReady.1 = { verdict := .takeTask } := by
  rw [Workload.askReady, sl.ready, nth_singleton]

/-- The plan of every question for the end is to compare the counts at once. -/
lemma askFinished (sl : Sleeping tasks span w) :
    w.askFinished.1 = { verdict := .allCompleted } := by
  rw [Workload.askFinished, sl.finish, nth_singleton]

/-- Without a task left the answer is no. -/
lemma answerReady_zero (sl : Sleeping tasks span w) (none : w.remaining = some 0) :
    w.answerReady = (.ok false, { w with readyCalls := w.readyCalls + 1 }) := by
  rw [answerReady, sl.askReady, Workload.askReady, answer]
  simp only [decide, none]

/-- With a task left the answer is yes, and it is taken. -/
lemma answerReady_succ (sl : Sleeping tasks span w) {left : Nat}
    (more : w.remaining = some (left + 1)) :
    w.answerReady =
      (.ok true, { w with remaining := some left, readyCalls := w.readyCalls + 1 }) := by
  rw [answerReady, sl.askReady, Workload.askReady, answer]
  simp only [decide, more]

/-- The run is finished just if all tasks are completed. -/
lemma answerFinished (sl : Sleeping tasks span w) :
    w.answerFinished =
      (.ok (w.completed == tasks), { w with finishCalls := w.finishCalls + 1 }) := by
  rw [Workload.answerFinished, sl.askFinished, Workload.askFinished, answer]
  simp only [decide, sl.total]
  rfl

end Sleeping

end Workload

namespace Pool

/-! ## The balance of tasks -/

/-- What holds at all times in a simulated run. -/
structure Balanced (tasks : Nat) (span : Duration) (s : Simulation) : Prop where
  sleeping : s.work.Sleeping tasks span
  taken : ∃ left, s.work.remaining = some left ∧ left + s.launched = tasks
  settled : s.inFlight.length + s.work.completed = s.launched
  /-- A check that waits for an answer is alone, and there is capacity for a task. -/
  capable : ∀ q ∈ s.readyOpen, s.pool.state.hasCapacity = true ∧ s.finishOpen = []
  finished : s.pool.phase = .finished → s.work.completed = tasks
  inFlight : ∀ x ∈ s.atWork, x.1 ∈ s.inFlight
  apart : (s.atWork.map Prod.fst).Nodup
  started : s.work.started = s.atWork.length + s.work.completed

/-- A check that asks for a task has capacity for one. -/
lemma respond_capacity {p : Pool} {e : Event} {idle} (asking : (p.respond e).asking = true)
    (h : e.reading? = some idle) : (p.respond e).pool.state.hasCapacity = true := by
  obtain ⟨q, effects, now, e1⟩ := respond_asks asking h
  obtain ⟨starts, wants, e2⟩ := askForTask_step q effects now idle
  have wants1 : (q.wantsTask now idle).1 = true := by
    rw [e1] at asking
    exact asking
  rw [e1, e2]
  apply eq_true_of_ne_false
  intro none
  have none1 : q.state.hasCapacity = false := none
  rw [wantsTask_eq_false.mpr (.inl none1)] at wants1
  cases wants1

/-- A question that was not open before is asked with capacity for a task, and asks for no end of
the run. -/
lemma newReady?_capable {s : Situation} {e : Event} {q} (new : s.newReady? e = some q) :
    (s.next e).pool.state.hasCapacity = true ∧ (s.next e).finishOpen = s.finishOpen := by
  obtain ⟨asking, _, _, reads, _⟩ := newReady?_inv new
  refine ⟨respond_capacity asking reads, ?_⟩
  cases e with
  | enterStartCheck => exact List.append_nil _
  | answerReady => exact List.append_nil _
  | _ => cases reads

/-- An event that asks nothing and answers nothing leaves no check under way. -/
lemma Situation.Awaits.next {s : Situation} {e : Event} (waits : s.Awaits)
    (closes : e.closesReady? = none) (decides : e.closesFinish? = none)
    (asks : s.newReady? e = none) (doubts : s.newFinish? e = none) : (s.next e).Awaits := by
  refine ⟨?_, ?_⟩
  · rw [next_readyOpen closes, asks, waits.1]
    rfl
  · rw [next_finishOpen decides, doubts, waits.2]
    rfl

/-- If some tasks in flight are not at work, there is one that may begin. -/
lemma Simulation.exists_waiting {s : Simulation} (few : s.atWork.length < s.inFlight.length)
    (once : s.inFlight.Nodup) : ∃ task ∈ s.inFlight, task ∉ s.atWork.map Prod.fst := by
  by_contra none
  push Not at none
  have le := (List.subperm_of_subset once none).length_le
  rw [List.length_map] at le
  omega

/-- Nothing but a yes launches a task. -/
lemma launches_of_unanswered (p : Pool) {e : Event}
    (h : ∀ q now idle historical, e ≠ .answerReady q (.ok true) now idle historical) :
    launches (p.respond e).effects = 0 := by
  cases Nat.eq_zero_or_pos (launches (p.respond e).effects) with
  | inl zero => exact zero
  | inr pos =>
    obtain ⟨_, _, ⟨q, now, idle, historical, e1⟩, _⟩ := (respond_reaction p e).of_launch pos
    exact absurd e1 (h q now idle historical)

/-- What launches no task and settles none leaves the tasks as they are. -/
lemma Situation.next_tasks {s : Situation} {e : Event} (settles : e.settles? = none)
    (none : launches (s.pool.respond e).effects = 0) :
    (s.next e).launched = s.launched ∧ (s.next e).inFlight = s.inFlight := by
  refine ⟨?_, ?_⟩
  · rw [s.next_launched, none]
    rfl
  · rw [(s.next_of_no_settles settles).1, none]
    exact List.append_nil _

/-- A yes for which there is capacity launches a task. -/
lemma Situation.next_yes {s : Situation} (capacity : s.pool.state.hasCapacity = true)
    (q now idle historical) :
    (s.next (.answerReady q (.ok true) now idle historical)).launched = s.launched + 1 ∧
      (s.next (.answerReady q (.ok true) now idle historical)).inFlight =
        s.inFlight ++ [s.launched] := by
  have one : launches (s.pool.respond (.answerReady q (.ok true) now idle historical)).effects =
      1 := by
    have e : s.pool.respond (.answerReady q (.ok true) now idle historical) =
        askForTask (s.pool.launch now) [.launchTask] now idle := if_pos capacity
    rw [e]
    rfl
  refine ⟨?_, ?_⟩
  · rw [s.next_launched, one]
  · rw [(s.next_of_no_settles rfl).1, one]
    rfl

/-- A pool is finished from the answer on that says so. -/
lemma Situation.finished_before {s : Situation} {e : Event}
    (finished : (s.next e).pool.phase = .finished) :
    s.pool.phase = .finished ∨ ∃ q historical, e = .answerFinished q (.ok true) historical := by
  by_cases before : s.pool.phase = .finished
  · exact .inl before
  · exact .inr ((respond_reaction s.pool e).finishes before finished).2

/-- Without an answer to a question for the end, a finished pool was finished before. -/
lemma Situation.finished_of_unanswered {s : Situation} {e : Event} (h : e.closesFinish? = none)
    (finished : (s.next e).pool.phase = .finished) : s.pool.phase = .finished := by
  rcases finished_before finished with before | ⟨q, historical, e1⟩
  · exact before
  · rw [e1] at h
    cases h

section Steps

variable {tasks : Nat} {span : Duration} {ms : List Moment} {s : Simulation}

/-- Calls, ticks and checks that begin keep the balance. -/
lemma Balanced.acts {e} (ba : Balanced tasks span s) (run : Run ms s.toSituation)
    (waits : s.Awaits) (enabled : s.Enabled e) (h : e.callsBack = false) :
    Balanced tasks span { s with toSituation := s.next e } := by
  have settles : e.settles? = none := by
    cases e with
    | settleTask => cases h
    | _ => rfl
  have unanswered : e.closesFinish? = none := by
    cases e with
    | answerFinished => cases h
    | _ => rfl
  have none : launches (s.pool.respond e).effects = 0 := by
    apply launches_of_unanswered
    rintro q now idle historical rfl
    cases h
  obtain ⟨launched, inFlight⟩ := Situation.next_tasks settles none
  refine ⟨ba.sleeping, ?_, ?_, ?_, ?_, ?_, ba.apart, ba.started⟩
  · rw [launched]
    exact ba.taken
  · rw [launched, inFlight]
    exact ba.settled
  · intro q mem
    cases run.slotted.mem_next enabled mem with
    | inl old =>
      rw [waits.1] at old
      cases old.1
    | inr new =>
      obtain ⟨capacity, same⟩ := newReady?_capable new
      exact ⟨capacity, same.trans waits.2⟩
  · intro finished
    exact ba.finished (Situation.finished_of_unanswered unanswered finished)
  · rw [inFlight]
    exact ba.inFlight

/-- The answer to a question for a ready task keeps the balance. -/
lemma Balanced.answers {q now idle historical} (ba : Balanced tasks span s)
    (run : Run ms s.toSituation) (mem : q ∈ s.readyOpen) :
    Balanced tasks span
      { s with
        toSituation := s.next (.answerReady q s.work.answerReady.1 now idle historical)
        work := s.work.answerReady.2 } := by
  obtain ⟨capacity, alone⟩ := ba.capable q mem
  have capable : ∀ answer, ∀ r ∈ (s.next (.answerReady q answer now idle historical)).readyOpen,
      (s.next (.answerReady q answer now idle historical)).pool.state.hasCapacity = true ∧
        (s.next (.answerReady q answer now idle historical)).finishOpen = [] := by
    intro answer r mem1
    have enabled : s.Enabled (.answerReady q answer now idle historical) := mem
    cases run.slotted.mem_next enabled mem1 with
    | inl old => cases old.2
    | inr new =>
      obtain ⟨capacity1, same⟩ := newReady?_capable new
      exact ⟨capacity1, same.trans alone⟩
  have finished : ∀ answer,
      (s.next (.answerReady q answer now idle historical)).pool.phase = .finished →
        s.work.completed = tasks := fun _ finished =>
    ba.finished (Situation.finished_of_unanswered rfl finished)
  obtain ⟨left, remaining, taken⟩ := ba.taken
  cases left with
  | zero =>
    have none := launches_of_unanswered s.pool (e := .answerReady q (.ok false) now idle historical)
      (by rintro _ _ _ _ ⟨⟩)
    obtain ⟨launched, inFlight⟩ := Situation.next_tasks rfl none
    have capable := capable (.ok false)
    have finished := finished (.ok false)
    rw [ba.sleeping.answerReady_zero remaining]
    dsimp only
    generalize s.next (.answerReady q (.ok false) now idle historical) = t at *
    refine ⟨ba.sleeping.congr rfl rfl rfl rfl rfl, ⟨0, remaining, ?_⟩, ?_, capable, finished, ?_,
      ba.apart, ba.started⟩
    · rw [launched]
      exact taken
    · rw [launched, inFlight]
      exact ba.settled
    · rw [inFlight]
      exact ba.inFlight
  | succ left =>
    obtain ⟨launched, inFlight⟩ := Situation.next_yes capacity q now idle historical
    have capable := capable (.ok true)
    have finished := finished (.ok true)
    rw [ba.sleeping.answerReady_succ remaining]
    dsimp only
    generalize s.next (.answerReady q (.ok true) now idle historical) = t at *
    refine ⟨ba.sleeping.congr rfl rfl rfl rfl rfl, ⟨left, rfl, ?_⟩, ?_, capable, finished, ?_,
      ba.apart, ba.started⟩
    · rw [launched, ← taken]
      exact (Nat.succ_add_eq_add_succ _ _).symm
    · rw [launched, inFlight, ← ba.settled, List.length_append]
      exact Nat.add_right_comm _ _ _
    · intro x mem1
      rw [inFlight]
      exact List.mem_append_left _ (ba.inFlight x mem1)

/-- The answer to a question for the end keeps the balance. -/
lemma Balanced.decides {q historical} (ba : Balanced tasks span s) (run : Run ms s.toSituation)
    (mem : q ∈ s.finishOpen) :
    Balanced tasks span
      { s with
        toSituation := s.next (.answerFinished q s.work.answerFinished.1 historical)
        work := s.work.answerFinished.2 } := by
  rw [ba.sleeping.answerFinished]
  dsimp only
  generalize answer : (s.work.completed == tasks) = yes
  have enabled : s.Enabled (.answerFinished q (.ok yes) historical) := mem
  have none := launches_of_unanswered s.pool (e := .answerFinished q (.ok yes) historical)
    (by rintro _ _ _ _ ⟨⟩)
  obtain ⟨launched, inFlight⟩ := Situation.next_tasks rfl none
  -- While a question for the end of the run is open, no task is asked for.
  have unasked : ∀ r, r ∉ (s.next (.answerFinished q (.ok yes) historical)).readyOpen := by
    intro r mem1
    cases run.slotted.mem_next enabled mem1 with
    | inl old =>
      rw [(ba.capable r old.1).2] at mem
      cases mem
    | inr new => cases new
  have finished : (s.next (.answerFinished q (.ok yes) historical)).pool.phase = .finished →
      s.work.completed = tasks := by
    intro finished
    rcases Situation.finished_before finished with before | ⟨_, _, e⟩
    · exact ba.finished before
    · cases e
      exact of_decide_eq_true answer
  generalize s.next (.answerFinished q (.ok yes) historical) = t at *
  refine ⟨ba.sleeping.congr rfl rfl rfl rfl rfl, ?_, ?_, ?_, finished, ?_, ba.apart, ba.started⟩
  · rw [launched]
    exact ba.taken
  · rw [launched, inFlight]
    exact ba.settled
  · intro r mem1
    exact absurd mem1 (unasked r)
  · rw [inFlight]
    exact ba.inFlight

/-- A task that begins keeps the balance. -/
lemma Balanced.begins {task now} (ba : Balanced tasks span s) (mem : task ∈ s.inFlight)
    (apart : task ∉ s.atWork.map Prod.fst) :
    Balanced tasks span
      { s with
        work := (s.work.startTask now).2.2
        atWork := s.atWork ++ [(task, (s.work.startTask now).1)] } := by
  refine ⟨ba.sleeping.congr rfl rfl rfl rfl rfl, ba.taken, ba.settled, ba.capable, ba.finished, ?_,
    ?_, ?_⟩
  · intro x mem1
    cases List.mem_append.mp mem1 with
    | inl old => exact ba.inFlight x old
    | inr new =>
      rw [List.mem_singleton.mp new]
      exact mem
  · show ((s.atWork ++ [_]).map Prod.fst).Nodup
    rw [List.map_append, List.nodup_append]
    refine ⟨ba.apart, List.pairwise_singleton _ _, ?_⟩
    rintro k mem1 _ new rfl
    rw [List.mem_singleton.mp new] at mem1
    exact apart mem1
  · show (s.work.tasks.push _).size = (s.atWork ++ [_]).length + s.work.completed
    have started : s.work.tasks.size = _ := ba.started
    rw [Array.size_push, started, List.length_append]
    exact Nat.add_right_comm _ _ _

/-- A task that ends keeps the balance. -/
lemma Balanced.ends {task k now historical} (ba : Balanced tasks span s)
    (run : Run ms s.toSituation) (waits : s.Awaits) (mem : (task, k) ∈ s.atWork) :
    Balanced tasks span
      { s with
        toSituation := s.next (.settleTask task .succeeded historical)
        work := s.work.endTask k now
        atWork := s.atWork.erase (task, k) } := by
  have mem1 : task ∈ s.inFlight := ba.inFlight _ mem
  have enabled : s.Enabled (.settleTask task .succeeded historical) := mem1
  have none := launches_of_unanswered s.pool (e := .settleTask task .succeeded historical)
    (by rintro _ _ _ _ ⟨⟩)
  have launched : (s.next (.settleTask task .succeeded historical)).launched = s.launched := by
    rw [s.next_launched, none]
    rfl
  have inFlight : (s.next (.settleTask task .succeeded historical)).inFlight =
      s.inFlight.erase task := (Situation.next_of_settles rfl).2.1
  have unasked : ∀ q, q ∉ (s.next (.settleTask task .succeeded historical)).readyOpen := by
    intro q mem2
    cases run.slotted.mem_next enabled mem2 with
    | inl old =>
      rw [waits.1] at old
      cases old.1
    | inr new => cases new
  have finished : (s.next (.settleTask task .succeeded historical)).pool.phase = .finished →
      s.pool.phase = .finished := Situation.finished_of_unanswered rfl
  generalize s.next (.settleTask task .succeeded historical) = t at *
  have pos := List.length_pos_of_mem mem1
  have pos1 := List.length_pos_of_mem mem
  -- No other task at work goes by the same number.
  have perm := (List.perm_cons_erase mem).map Prod.fst
  obtain ⟨away, apart⟩ := List.nodup_cons.mp (perm.nodup_iff.mp ba.apart)
  refine ⟨ba.sleeping.congr rfl rfl rfl rfl rfl, ?_, ?_, ?_, ?_, ?_, ?_, ?_⟩
  · rw [launched]
    exact ba.taken
  · rw [launched, inFlight, ← ba.settled, List.length_erase_of_mem mem1]
    show _ + (s.work.completed + 1) = _
    omega
  · intro q mem2
    exact absurd mem2 (unasked q)
  · intro finished1
    have completed := ba.finished (finished finished1)
    obtain ⟨left, _, taken⟩ := ba.taken
    have settled := ba.settled
    omega
  · intro x mem2
    have mem3 : x.1 ∈ (s.atWork.erase (task, k)).map Prod.fst := List.mem_map_of_mem mem2
    have other : x.1 ≠ task := fun e => away (e ▸ mem3)
    rw [inFlight, List.mem_erase_of_ne other]
    exact ba.inFlight x (List.mem_of_mem_erase mem2)
  · exact apart
  · show (s.work.tasks.modify _ _).size = _ + (s.work.completed + 1)
    have started : s.work.tasks.size = _ := ba.started
    rw [Array.size_modify, started, List.length_erase_of_mem mem]
    omega

/-- Tasks at work are in flight, each under a number of its own. -/
lemma Balanced.atWork_le (ba : Balanced tasks span s) : s.atWork.length ≤ s.inFlight.length := by
  rw [← List.length_map Prod.fst]
  refine (List.subperm_of_subset ba.apart ?_).length_le
  intro task mem
  obtain ⟨x, mem1, rfl⟩ := List.mem_map.mp mem
  exact ba.inFlight x mem1

end Steps

/-- The tasks are in balance all along a simulated run. -/
lemma Simulated.balanced {tasks span ms s} (sim : Simulated tasks span ms s) :
    Run ms s.toSituation ∧ Balanced tasks span s := by
  induction sim with
  | start e =>
    refine ⟨.start e, ⟨rfl, rfl, rfl, rfl, rfl⟩, ⟨_, rfl, rfl⟩, rfl, nofun, ?_, nofun, .nil, rfl⟩
    obtain ⟨_, e1⟩ := new_inv e
    subst e1
    nofun
  | acts _ waits enabled h ih => exact ⟨ih.1.step enabled, ih.2.acts ih.1 waits enabled h⟩
  | answers _ _ _ _ mem ih => exact ⟨ih.1.step mem, ih.2.answers ih.1 mem⟩
  | decides _ _ mem ih => exact ⟨ih.1.step mem, ih.2.decides ih.1 mem⟩
  | begins _ _ _ mem apart ih => exact ⟨ih.1, ih.2.begins mem apart⟩
  | ends _ _ _ waits mem ih =>
    exact ⟨ih.1.step (ih.2.inFlight _ mem), ih.2.ends ih.1 waits mem⟩

/-- In a simulated run, whatever the order of events, every task is left, in flight or completed,
and is run at most once. Once the pool has finished, all tasks are completed. -/
theorem Simulated.runs_each_once {tasks span ms s} (sim : Simulated tasks span ms s) :
    RunsEachOnce tasks span s := by
  obtain ⟨run, ba⟩ := sim.balanced
  obtain ⟨left, remaining, taken⟩ := ba.taken
  have settled := ba.settled
  have counted := run.tallied.counted
  constructor
  case conserved => exact ⟨left, remaining, by omega⟩
  case counted => exact counted
  case taken => exact ⟨left, remaining, taken⟩
  case started =>
    refine ⟨ba.started, ?_⟩
    have few := ba.atWork_le
    rw [ba.started]
    omega
  case finished =>
    intro finished
    have completed := ba.finished finished
    have none : left = 0 := by omega
    refine ⟨completed, none ▸ remaining, ?_⟩
    omega
  case scripted =>
    refine ⟨?_, ?_, ?_⟩
    · rw [ba.sleeping.askReady]
    · rw [ba.sleeping.askFinished]
    · intro now
      rw [Workload.startTask, ba.sleeping.script, ba.sleeping.default]
      rfl

/-- One of two tasks that run side by side is completed while the other one is in flight, and later
the run finishes with both. -/
theorem Simulated.runs_each_once_of_two :
    ∃ ms s ms1 s1,
      (Simulated 2 7 ms s ∧ RunsEachOnce 2 7 s ∧ s.inFlight = [1] ∧ s.work.completed = 1) ∧
      Simulated 2 7 ms1 s1 ∧ RunsEachOnce 2 7 s1 ∧ s1.pool.phase = .finished ∧
        s1.runs = [.returned (.ok ())] := by
  obtain ⟨h⟩ := nonempty_systemInfo
  have sim0 : Simulated 2 7 [] _ :=
    .start (new_ok (c := { loggingSecs := .zero, desiredConcurrency := some 2 }) (s := {})
      (t := {}) (by decide +kernel))
  have sim1 := sim0.acts (e := .callRun) ⟨rfl, rfl⟩ trivial rfl
  have sim2 := sim1.acts (e := .equip 0) ⟨rfl, rfl⟩ rfl rfl
  have sim3 := sim2.acts (e := .enterStartCheck false 0 true) ⟨rfl, rfl⟩ trivial rfl
  have sim4 := sim3.answers (q := ⟨0, 0, false, true, 1⟩) 0 true h List.mem_cons_self
  have sim5 := sim4.answers (q := ⟨1, 0, false, true, 1⟩) 0 true h List.mem_cons_self
  have sim6 := sim5.begins 0 ⟨rfl, rfl⟩ (show 0 ∈ [0, 1] by decide) List.not_mem_nil
  have sim7 := sim6.begins 0 ⟨rfl, rfl⟩ (show 1 ∈ [0, 1] by decide) (show 1 ∉ [0] by decide)
  have sim8 := sim7.ends 7 h ⟨rfl, rfl⟩ (show (0, 0) ∈ [(0, 0), (1, 1)] by decide)
  have sim9 := sim8.ends 7 h ⟨rfl, rfl⟩ (show (1, 1) ∈ [(1, 1)] by decide)
  have sim10 := sim9.acts (e := .enterFinishCheck) ⟨rfl, rfl⟩ Nat.two_pos rfl
  have sim11 := sim10.decides (q := ⟨0, 2⟩) h List.mem_cons_self
  have sim12 := sim11.acts (e := .returnRun 0) ⟨rfl, rfl⟩ ⟨rfl, rfl⟩ rfl
  exact ⟨_, _, _, _, ⟨sim8, sim8.runs_each_once, rfl, rfl⟩, sim12, sim12.runs_each_once, rfl, rfl⟩

end Pool

end Headroom
