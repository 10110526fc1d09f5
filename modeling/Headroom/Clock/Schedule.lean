import Std.Data.TreeMap
import Headroom.Clock.Interval

/-!
# A schedule of jobs on a virtual clock

Jobs that can go on wait in one first-in first-out queue; a job is in it at most once. A waiting job
is put back by a wake-up, or by its alarm. Alarms ring only when the queue is empty, ordered by
their millisecond and, within one, by the order in which they were set. A cancelled job is put into
the queue so that it is dropped when its turn comes.

The schedule is generic in what a job is; `J` is the type of a job's state between two turns.
-/

namespace Headroom

/-- The number of a job. Numbers are not used twice. -/
abbrev JobId := Nat

/-- A wake-up call at an instant. -/
structure Alarm where
  time : Instant
  /-- Alarms set earlier have smaller numbers. -/
  order : Nat
  job : JobId
  deriving Repr

/-- A job with its standing in the schedule. -/
structure JobCell (J : Type) where
  job : J
  queued : Bool := true
  cancelled : Bool := false

/-- A virtual clock with the jobs on it. -/
structure Schedule (J : Type) where
  now : Instant := 0
  jobs : Std.TreeMap JobId (JobCell J) := {}
  /-- The jobs that can go on, the next one first. -/
  queue : List JobId := []
  /-- The alarms that are set, the next one first. -/
  alarms : List Alarm := []
  jobsMade : Nat := 0
  alarmsMade : Nat := 0

namespace Schedule

variable {J : Type}

/-- Adds a job at the end of the queue. -/
def spawn (s : Schedule J) (job : J) : JobId × Schedule J :=
  let id := s.jobsMade
  (id, { s with
    jobsMade := id + 1
    jobs := s.jobs.insert id { job := job }
    queue := s.queue ++ [id] })

/-- Puts a job into the queue unless it is there or has ended. -/
def wake (s : Schedule J) (id : JobId) : Schedule J :=
  match s.jobs.get? id with
  | some cell =>
    if cell.queued then s
    else { s with
      jobs := s.jobs.insert id { cell with queued := true }
      queue := s.queue ++ [id] }
  | none => s

/-- Marks a job to be dropped at its next turn. -/
def cancel (s : Schedule J) (id : JobId) : Schedule J :=
  match s.jobs.get? id with
  | some cell => { s with jobs := s.jobs.insert id { cell with cancelled := true } }.wake id
  | none => s

/-- Places an alarm behind those that ring no later. -/
def insertAlarm (a : Alarm) : List Alarm → List Alarm
  | [] => [a]
  | b :: rest => if b.time ≤ a.time then b :: insertAlarm a rest else a :: b :: rest

/-- Sets a job's alarm, unless it has one already. -/
def setAlarm (s : Schedule J) (id : JobId) (deadline : Instant) : Schedule J :=
  if s.alarms.any (·.job == id) then s
  else { s with
    alarmsMade := s.alarmsMade + 1
    alarms := insertAlarm ⟨deadline.wakeTime, s.alarmsMade, id⟩ s.alarms }

/-- Takes a job off the schedule with its alarm, so that the queue holds only jobs that exist. -/
def remove (s : Schedule J) (id : JobId) : Schedule J :=
  { s with
    jobs := s.jobs.erase id
    queue := s.queue.filter (· != id)
    alarms := s.alarms.filter (·.job != id) }

/-- Stores what a job is between this turn and the next. -/
def store (s : Schedule J) (id : JobId) (job : J) : Schedule J :=
  match s.jobs.get? id with
  | some cell => { s with jobs := s.jobs.insert id { cell with job := job } }
  | none => s

/-- The job whose turn it is, taken out of the queue. -/
def dequeue? (s : Schedule J) : Option (JobId × JobCell J × Schedule J) :=
  match s.queue with
  | [] => none
  | id :: rest =>
    (s.jobs.get? id).map fun cell =>
      let cell := { cell with queued := false }
      (id, cell, { s with queue := rest, jobs := s.jobs.insert id cell })

/-- Rings every alarm that is due. -/
def ring (s : Schedule J) : Schedule J :=
  let (due, later) := s.alarms.span (·.time ≤ s.now)
  due.foldl (fun s a => s.wake a.job) { s with alarms := later }

/-- Moves the clock, never backwards. -/
def advanceTo (s : Schedule J) (t : Instant) : Schedule J := { s with now := max s.now t }

end Schedule

end Headroom
