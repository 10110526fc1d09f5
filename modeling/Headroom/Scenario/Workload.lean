import Headroom.Pool.Check

/-!
# Scripted workloads

What a pool's callbacks do in a scenario: how each task goes, and how the questions for a ready task
and for the end of the run are answered. A workload also counts what its callbacks did.
-/

namespace Headroom

/-- How one task goes. -/
structure TaskPlan where
  /-- Panics at once with this text. -/
  panicsAtOnce : Option String := none
  /-- How long the task works; absent means that it ends without waiting. -/
  works : Option Duration := none
  /-- How the task ends. -/
  result : TaskResult := .succeeded
  deriving DecidableEq, Repr

/-- How a question is decided. -/
inductive Verdict where
  | constant (value : Bool)
  /-- Yes if a task is left, which is then taken. -/
  | takeTask
  /-- Yes if all tasks are completed. -/
  | allCompleted
  /-- Yes if no task is left. -/
  | noneLeft
  deriving DecidableEq, Repr

/-- How one question is answered: after a wait, by an error or by a verdict. -/
structure AnswerPlan where
  verdict : Verdict
  waits : Option Duration := none
  error : Option String := none
  deriving DecidableEq, Repr

/-- The item for the `k`-th call, the last one repeating. -/
def AnswerPlan.nth (plans : List AnswerPlan) (k : Nat) : AnswerPlan :=
  (plans[k]?.or plans.getLast?).getD { verdict := .constant false }

/-- When a task started and when its work ended. -/
structure TaskTimes where
  started : Instant
  ended : Option Instant := none
  deriving DecidableEq, Repr

/-- A script for the callbacks of a pool, and how far it has come. -/
structure Workload where
  /-- How many tasks there are; absent means no end of them. -/
  total : Option Nat := none
  /-- The plan of tasks beyond the script. -/
  default : TaskPlan := {}
  /-- The plans of the first tasks. -/
  script : List TaskPlan := []
  ready : List AnswerPlan
  finish : List AnswerPlan
  /-- Tasks not yet taken. -/
  remaining : Option Nat := total
  /-- Start and end of every task, in order of starting. -/
  tasks : Array TaskTimes := #[]
  /-- Tasks that reached their end, however they ended. -/
  completed : Nat := 0
  /-- Tasks at work. -/
  working : Nat := 0
  /-- The most tasks at work at once. -/
  peak : Nat := 0
  readyCalls : Nat := 0
  finishCalls : Nat := 0
  deriving DecidableEq, Repr

namespace Workload

/-- How many tasks were started. -/
def started (w : Workload) : Nat := w.tasks.size

/-- Decides a question. Taking a task changes the workload. -/
def decide (w : Workload) : Verdict → Bool × Workload
  | .constant value => (value, w)
  | .takeTask =>
    match w.remaining with
    | none => (true, w)
    | some 0 => (false, w)
    | some (n + 1) => (true, { w with remaining := some n })
  | .allCompleted => (some w.completed == w.total, w)
  | .noneLeft => (w.remaining == some 0, w)

/-- The answer to a question whose wait is over. -/
def answer (w : Workload) (plan : AnswerPlan) : Except String Bool × Workload :=
  match plan.error with
  | some detail => (.error detail, w)
  | none =>
    let (value, w) := w.decide plan.verdict
    (.ok value, w)

/-- Counts a readiness question and gives its plan. -/
def askReady (w : Workload) : AnswerPlan × Workload :=
  (AnswerPlan.nth w.ready w.readyCalls, { w with readyCalls := w.readyCalls + 1 })

/-- Counts a question for the end of the run and gives its plan. -/
def askFinished (w : Workload) : AnswerPlan × Workload :=
  (AnswerPlan.nth w.finish w.finishCalls, { w with finishCalls := w.finishCalls + 1 })

/-- Starts the next task: its number, its plan, and the workload with the task at work. -/
def startTask (w : Workload) (now : Instant) : Nat × TaskPlan × Workload :=
  let k := w.started
  let working := w.working + 1
  (k, (w.script[k]?).getD w.default,
    { w with
      tasks := w.tasks.push ⟨now, none⟩
      working := working
      peak := max w.peak working })

/-- Ends the work of a task. -/
def endTask (w : Workload) (k : Nat) (now : Instant) : Workload :=
  { w with
    tasks := w.tasks.modify k fun t => { t with ended := some now }
    completed := w.completed + 1
    working := w.working - 1 }

/-- Adds tasks, unless there is no end of them. -/
def addTasks (w : Workload) (n : Nat) : Workload := { w with remaining := w.remaining.map (· + n) }

end Workload

end Headroom
