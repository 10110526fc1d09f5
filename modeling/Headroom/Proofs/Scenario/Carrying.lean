import Mathlib.Data.List.Count
import Headroom.Proofs.Clock.Jobs
import Headroom.Proofs.Scenario.Simulation

/-!
# Worlds that carry a pool

Jobs stand for what the surroundings of a pool owe it: a task that was launched has a job of its
own, and so has a check that was spawned. `World.Carries` says that a world has a pool in it with
its callbacks, and that there are no more jobs than are owed. Some may have been cancelled, which
does no harm here. Carrying out the effects of the pool keeps this up (`World.Carries.perform`).
-/

namespace Headroom

/-! ## Jobs of a simulated run -/

namespace Job

/-- The job is a task that has not begun. -/
def isTask : Job → Bool
  | task _ => true
  | _ => false

/-- The job is the task with the given number, at work. -/
def worksOn (k : Nat) : Job → Bool
  | working _ other _ _ => other == k
  | _ => false

/-- The job is a check for the end of the run that has not begun. -/
def isFinishCheck : Job → Bool
  | finishCheck _ none => true
  | _ => false

/-- The job is a call to run that waits for the outcome. -/
def awaits : Job → Bool
  | awaitOutcome .. => true
  | _ => false

/-- A job of a simulated run between two turns. It belongs to the one pool, and no check is left
waiting for an answer. -/
inductive Fits (span : Duration) : Job → Prop where
  | eventLoop {since} : Fits span (eventLoop since)
  | sampler {what deadline} : Fits span (sampler what deadline)
  | listener {next} : Fits span (listener next)
  | timer {t deadline} : Fits span (timer 0 t deadline)
  | startCheck {deadline} : Fits span (startCheck 0 deadline none)
  | finishCheck : Fits span (finishCheck 0 none)
  | task : Fits span (task 0)
  | working {k due} : Fits span (working 0 k { works := some span } due)
  | run {index} : Fits span (run 0 index)
  | awaitOutcome {index} : Fits span (awaitOutcome 0 index)

attribute [simp] Fits.eventLoop Fits.sampler Fits.listener

/-- Nothing is owed to the pool for the job. -/
structure Idle (job : Job) : Prop where
  isTask : job.isTask = false
  worksOn : ∀ k, job.worksOn k = false
  isFinishCheck : job.isFinishCheck = false
  awaits : job.awaits = false

namespace Idle

variable {i : Nat}

/-- Nothing is owed for the job that measures lateness. -/
@[simp]
lemma eventLoop {since} : (Job.eventLoop since).Idle := ⟨rfl, fun _ => rfl, rfl, rfl⟩

/-- Nothing is owed for a sampling job. -/
@[simp]
lemma sampler {what deadline} : (Job.sampler what deadline).Idle := ⟨rfl, fun _ => rfl, rfl, rfl⟩

/-- Nothing is owed for the listener's job. -/
@[simp]
lemma listener {next} : (Job.listener next).Idle := ⟨rfl, fun _ => rfl, rfl, rfl⟩

/-- Nothing is owed for the job of a timer. -/
@[simp]
lemma timer {t deadline} : (Job.timer i t deadline).Idle := ⟨rfl, fun _ => rfl, rfl, rfl⟩

/-- Nothing is owed for a check for ready tasks. -/
@[simp]
lemma startCheck {deadline q} : (Job.startCheck i deadline q).Idle := ⟨rfl, fun _ => rfl, rfl, rfl⟩

/-- Nothing is owed for a call of `run` that has not had its turn. -/
@[simp]
lemma run {index} : (Job.run i index).Idle := ⟨rfl, fun _ => rfl, rfl, rfl⟩

/-- Nothing is owed for a check for the end of the run that has asked. -/
@[simp]
lemma finishCheck {q} : (Job.finishCheck i (some q)).Idle := ⟨rfl, fun _ => rfl, rfl, rfl⟩

end Idle

end Job

/-- The call to run waits for the outcome. -/
def Pool.RunCall.isAwaiting : Pool.RunCall → Bool
  | awaiting => true
  | _ => false

open Pool (Surroundings)

/-! ## No more jobs than are owed -/

/-- There are no more jobs of any kind than are owed to the pool. -/
structure Backed (count : (Job → Bool) → Nat) (u : Surroundings) (atWork : List (Nat × Nat)) :
    Prop where
  tasks : count Job.isTask + atWork.length ≤ u.inFlight.length
  works : ∀ k, count (Job.worksOn k) ≤ atWork.countP (·.2 == k)
  checks : count Job.isFinishCheck ≤ u.finishChecks
  calls : count Job.awaits ≤ u.runs.countP (·.isAwaiting)

namespace Backed

variable {count fewer : (Job → Bool) → Nat} {u : Surroundings} {atWork : List (Nat × Nat)}

/-- What is owed still covers fewer jobs. -/
lemma mono (backed : Backed count u atWork) (le : ∀ kind, fewer kind ≤ count kind) :
    Backed fewer u atWork where
  tasks := Nat.le_trans (Nat.add_le_add_right (le _) _) backed.tasks
  works k := Nat.le_trans (le _) (backed.works k)
  checks := Nat.le_trans (le _) backed.checks
  calls := Nat.le_trans (le _) backed.calls

/-- Idle jobs may be added to what is owed. -/
lemma add_idle {jobs : List Job} (backed : Backed count u atWork) (idle : ∀ job ∈ jobs, job.Idle) :
    Backed (fun kind => count kind + jobs.countP kind) u atWork := by
  have none {kind : Job → Bool} (h : ∀ job ∈ jobs, kind job = false) :
      count kind + jobs.countP kind = count kind := by
    rw [List.countP_eq_zero.mpr fun job mem => ne_true_of_eq_false (h job mem), Nat.add_zero]
  refine ⟨?_, ?_, ?_, ?_⟩
  · rw [none fun job mem => (idle job mem).isTask]
    exact backed.tasks
  · intro k
    rw [none fun job mem => (idle job mem).worksOn k]
    exact backed.works k
  · rw [none fun job mem => (idle job mem).isFinishCheck]
    exact backed.checks
  · rw [none fun job mem => (idle job mem).awaits]
    exact backed.calls

end Backed

namespace World

/-- What the pool of a simulated run, its callbacks and its callers have come to. -/
def core (w : World) : Option (Pool × Workload × Option (Except PoolError Unit)) :=
  w.pools[0]?.map fun site => (site.pool, site.work, site.outcome)

/-- The jobs that do not have the turn. -/
def resting (w : World) : Option JobId → List (Option Job)
  | some id => w.schedule.bodies.set id none
  | none => w.schedule.bodies

/-- How many jobs there are of a kind, with the job that has the turn. -/
def count (w : World) (turn : Option JobId) (job? : Option Job) (kind : Job → Bool) : Nat :=
  (w.resting turn).countP (·.any kind) + job?.toList.countP kind

/-- A world with a pool, its callbacks and its surroundings. One job may have the turn, and is by
now what `job?` says. -/
structure Carries (span : Duration) (w : World) (turn : Option JobId) (job? : Option Job) (p : Pool)
    (work : Workload) (u : Surroundings) (atWork : List (Nat × Nat)) : Prop where
  core : w.core = some (p, work, u.sent)
  numbered : w.schedule.Numbered
  known : ∀ id, turn = some id → id < w.schedule.jobsMade
  fits : ∀ job, some job ∈ w.resting turn → job.Fits span
  backed : Backed (w.count turn job?) u atWork

/-- Anything holds of what is not there. -/
lemma forall_mem_none {α : Type} {P : α → Prop} : ∀ x ∈ (none : Option α), P x := by
  rintro _ ⟨⟩

/-- What holds of a value holds of all that is there. -/
lemma forall_mem_some {α : Type} {P : α → Prop} {a : α} (h : P a) : ∀ x ∈ some a, P x := by
  rintro _ ⟨⟩
  exact h

/-! ## More jobs -/

/-- A world has more jobs than before, and they are the same otherwise. -/
structure Spawns (w t : World) (jobs : List Job) : Prop where
  bodies : t.schedule.bodies = w.schedule.bodies ++ jobs.map some
  numbered : w.schedule.Numbered → t.schedule.Numbered

variable {w t v : World}

namespace Spawns

/-- Jobs that are spawned in two steps. -/
lemma trans {jobs more : List Job} (first : Spawns w t jobs) (second : Spawns t v more) :
    Spawns w v (jobs ++ more) where
  bodies := by rw [second.bodies, first.bodies, List.append_assoc, List.map_append]
  numbered h := second.numbered (first.numbered h)

/-- Schedules that differ in no job spawn none. -/
lemma of_alike (alike : w.schedule.Alike t.schedule) : Spawns w t [] where
  bodies := alike.bodies.trans (List.append_nil _).symm
  numbered := alike.numbered

/-- A step of the schedule that spawns one job. -/
lemma one {job : Job} (e : t.schedule = (w.schedule.spawn job).2) : Spawns w t [job] where
  bodies := by rw [e]; exact w.schedule.spawn_bodies job
  numbered h := by rw [e]; exact h.spawn job

/-- The number of jobs that were made never falls. -/
lemma made_le {jobs : List Job} (spawns : Spawns w t jobs) :
    w.schedule.jobsMade ≤ t.schedule.jobsMade := by
  have lengths := congrArg List.length spawns.bodies
  rw [List.length_append, Schedule.length_bodies, Schedule.length_bodies] at lengths
  omega

/-- New jobs rest behind those that rested before. -/
lemma resting {jobs : List Job} {turn : Option JobId} (spawns : Spawns w t jobs)
    (known : ∀ id, turn = some id → id < w.schedule.jobsMade) :
    t.resting turn = w.resting turn ++ jobs.map some := by
  cases turn with
  | none => exact spawns.bodies
  | some id =>
    have lt : id < w.schedule.bodies.length := by
      rw [Schedule.length_bodies]
      exact known id rfl
    rw [World.resting, World.resting, spawns.bodies, List.set_append_left _ _ lt]

end Spawns

section

variable {span : Duration} {turn : Option JobId} {job? job1? : Option Job} {p : Pool}
variable {work : Workload} {u u1 : Surroundings} {atWork atWork1 : List (Nat × Nat)}

/-- The pool that is carried is at the first site, with its callbacks and its outcome. -/
lemma Carries.site (c : Carries span w turn job? p work u atWork) :
    ∃ site, w.pools[0]? = some site ∧ site.pool = p ∧ site.work = work ∧ site.outcome = u.sent := by
  obtain ⟨site, e, e1⟩ := Option.map_eq_some_iff.mp c.core
  obtain ⟨e2, e3⟩ := Prod.mk.inj e1
  exact ⟨site, e, e2, Prod.mk.inj e3⟩

/-- A world without jobs owes nothing. -/
lemma Carries.fresh (schedule : w.schedule = {}) (core : w.core = some (p, work, none)) :
    Carries span w none none p work {} [] := by
  have bodies : w.schedule.bodies = [] := by
    rw [schedule]
    rfl
  have none (kind : Job → Bool) : w.count none none kind = 0 := by
    rw [count, resting, bodies]
    rfl
  refine ⟨core, ?_, forall_mem_none, ?_, ?_, ?_, ?_, ?_⟩
  · intro id job here
    rw [schedule] at here
    cases here
  · intro job mem
    rw [resting, bodies] at mem
    cases mem
  · rw [none]
    exact Nat.le_refl _
  · intro k
    rw [none]
    exact Nat.le_refl _
  · exact Nat.le_of_eq (none _)
  · exact Nat.le_of_eq (none _)

/-- Jobs that fit and are owed may be spawned. -/
lemma Carries.spawns {jobs : List Job} (c : Carries span w turn job? p work u atWork)
    (spawns : Spawns w t jobs) (core : t.core = some (p, work, u1.sent))
    (fits : ∀ job ∈ jobs, job.Fits span)
    (backed : Backed (fun kind => w.count turn job? kind + jobs.countP kind) u1 atWork) :
    Carries span t turn job? p work u1 atWork := by
  have resting := spawns.resting c.known
  refine ⟨core, spawns.numbered c.numbered, ?_, ?_, ?_⟩
  · intro id e
    exact Nat.lt_of_lt_of_le (c.known id e) spawns.made_le
  · intro job mem
    rw [resting] at mem
    cases List.mem_append.mp mem with
    | inl old => exact c.fits job old
    | inr new =>
      obtain ⟨_, mem1, e⟩ := List.mem_map.mp new
      cases e
      exact fits job mem1
  · refine backed.mono ?_
    intro kind
    rw [count, count, resting, List.countP_append, List.countP_map, Nat.add_right_comm]
    exact Nat.le_refl _

/-- The job that has the turn goes on as another one, or ends. -/
lemma Carries.become (c : Carries span w turn job? p work u atWork) (sent : u1.sent = u.sent)
    (backed : Backed (w.count turn job1?) u1 atWork1) :
    Carries span w turn job1? p work u1 atWork1 :=
  ⟨sent ▸ c.core, c.numbered, c.known, c.fits, backed⟩

/-- The pool and its callbacks may change as long as no job does. -/
lemma Carries.of_core {p1 : Pool} {work1 : Workload} (c : Carries span w turn job? p work u atWork)
    (schedule : t.schedule = w.schedule) (core : t.core = some (p1, work1, u.sent)) :
    Carries span t turn job? p1 work1 u atWork := by
  have resting : t.resting turn = w.resting turn := by
    cases turn with
    | none => exact congrArg Schedule.bodies schedule
    | some id => exact congrArg (·.bodies.set id none) schedule
  refine ⟨core, schedule ▸ c.numbered, schedule ▸ c.known, ?_, ?_⟩
  · rw [resting]
    exact c.fits
  · refine c.backed.mono ?_
    intro kind
    exact Nat.le_of_eq (by rw [count, count, resting])

/-! ## Changes of the pool -/

/-- A change of the first site is a change of the core. -/
lemma modifySite_core (w : World) {f : PoolSite → PoolSite}
    {g : Pool × Workload × Option (Except PoolError Unit) →
      Pool × Workload × Option (Except PoolError Unit)}
    (h : ∀ site, ((f site).pool, (f site).work, (f site).outcome) =
      g (site.pool, site.work, site.outcome)) : (w.modifySite 0 f).core = w.core.map g := by
  rw [core, core, modifySite]
  dsimp only
  rw [Array.getElem?_modify, if_pos rfl, Option.map_map]
  cases w.pools[0]? with
  | none => rfl
  | some site => exact congrArg some (h site)

/-- A change of the first site that spares its pool, callbacks and outcome leaves the core alone. -/
lemma modifySite_same (w : World) {f : PoolSite → PoolSite}
    (h : ∀ site, ((f site).pool, (f site).work, (f site).outcome) =
      (site.pool, site.work, site.outcome)) : (w.modifySite 0 f).core = w.core := by
  rw [w.modifySite_core (g := id) h, Option.map_id]
  rfl

/-- The carried pool is replaced. -/
lemma Carries.setPool (c : Carries span w turn job? p work u atWork) (q : Pool) :
    Carries span (w.setPool 0 q) turn job? q work u atWork := by
  refine c.of_core rfl ?_
  rw [World.setPool, w.modifySite_core (g := fun x => (q, x.2)) fun _ => rfl, c.core]
  rfl

/-- The carried callbacks are replaced. -/
lemma Carries.setWork (c : Carries span w turn job? p work u atWork) (work1 : Workload) :
    Carries span (w.modifySite 0 ({ · with work := work1 })) turn job? p work1 u atWork := by
  refine c.of_core rfl ?_
  rw [w.modifySite_core (g := fun x => (x.1, work1, x.2.2)) fun _ => rfl, c.core]
  rfl

/-- A change of the first site that spares its pool, callbacks and outcome does no harm. -/
lemma Carries.modifySite {f : PoolSite → PoolSite} (c : Carries span w turn job? p work u atWork)
    (h : ∀ site, ((f site).pool, (f site).work, (f site).outcome) =
      (site.pool, site.work, site.outcome)) :
    Carries span (w.modifySite 0 f) turn job? p work u atWork :=
  c.of_core rfl ((w.modifySite_same h).trans c.core)

/-! ## What effects do -/

/-- A world has some more jobs, for which nothing is owed. Its pool is the same. -/
def Idles (span : Duration) (w t : World) : Prop :=
  ∃ jobs, Spawns w t jobs ∧ (∀ job ∈ jobs, job.Fits span ∧ job.Idle) ∧ t.core = w.core

namespace Idles

/-- A step that changes no job and no pool. -/
lemma of_alike (alike : w.schedule.Alike t.schedule) (core : t.core = w.core) :
    Idles span w t := ⟨[], .of_alike alike, List.forall_mem_nil _, core⟩

/-- A step that spawns one idle job. -/
lemma one {job : Job} (e : t.schedule = (w.schedule.spawn job).2) (fits : job.Fits span)
    (idle : job.Idle) (core : t.core = w.core) : Idles span w t :=
  ⟨[job], .one e, List.forall_mem_singleton.mpr ⟨fits, idle⟩, core⟩

/-- Two such steps, one after the other. -/
lemma trans (first : Idles span w t) (second : Idles span t v) : Idles span w v := by
  obtain ⟨jobs, spawns, idle, core⟩ := first
  obtain ⟨more, spawns1, idle1, core1⟩ := second
  exact ⟨jobs ++ more, spawns.trans spawns1, List.forall_mem_append.mpr ⟨idle, idle1⟩,
    core1.trans core⟩

/-- Such steps along a list. -/
lemma foldl {α : Type} {f : World → α → World} {as : List α}
    (h : ∀ a ∈ as, ∀ w, Idles span w (f w a)) (w : World) : Idles span w (as.foldl f w) := by
  induction as generalizing w with
  | nil => exact .of_alike (.refl _) rfl
  | cons a as ih =>
    obtain ⟨first, rest⟩ := List.forall_mem_cons.mp h
    exact (first w).trans (ih rest _)

end Idles

/-- The jobs that sample work for no pool. -/
lemma samplerJobBodies_idle (w : World) : ∀ job ∈ w.samplerJobBodies, job.Fits span ∧ job.Idle := by
  rw [samplerJobBodies]
  split
  · simp
  · simp

/-- Effects of the snapshotter concern no pool. -/
lemma performSampling_idles (w : World) (fx : SamplingEffect) :
    Idles span w (w.performSampling fx) := by
  cases fx with
  | spawnSamplers =>
    have begins : Idles span w { w with samplerJobs := [] } := .of_alike (.refl _) rfl
    refine begins.trans (Idles.foldl ?_ _)
    intro job mem v
    obtain ⟨fits, idle⟩ := w.samplerJobBodies_idle job mem
    exact .one rfl fits idle rfl
  | cancelSamplers =>
    exact .of_alike (Schedule.foldl_alike Schedule.cancel_alike w.samplerJobs w.schedule) rfl
  | notice n => exact .of_alike (.refl _) rfl

/-- Starting and stopping of sampling concerns no pool. -/
lemma switch_idles (w : World) (f : Snapshotter → Snapshotter × List SamplingEffect) :
    Idles span w (w.switch f) := by
  have begins : Idles span w { w with snapshotter := (f w.snapshotter).1 } :=
    .of_alike (.refl _) rfl
  exact begins.trans (Idles.foldl (fun fx _ v => v.performSampling_idles fx) _)

/-- Waking a job changes no job. -/
lemma wake_idles (w : World) (id : JobId) : Idles span w (w.wake id) :=
  .of_alike (w.schedule.wake_alike id) rfl

/-- A step that adds none but idle jobs keeps the pool carried. -/
lemma Carries.idles (c : Carries span w turn job? p work u atWork) (idles : Idles span w t) :
    Carries span t turn job? p work u atWork := by
  obtain ⟨jobs, spawns, idle, core⟩ := idles
  exact c.spawns spawns (core.trans c.core) (fun job mem => (idle job mem).1)
    (c.backed.add_idle fun job mem => (idle job mem).2)

/-- An effect of the pool is carried out as its surroundings have it. -/
lemma Carries.performOne (c : Carries span w turn job? p work u atWork) (fx : PoolEffect) :
    Carries span (w.performOne 0 fx) turn job? p work (u.perform fx) atWork := by
  have backed := c.backed
  cases fx with
  | takeLease => exact c.idles (w.switch_idles Snapshotter.lease)
  | dropLease => exact c.idles (w.switch_idles Snapshotter.release)
  | armTimer timer =>
    refine c.idles (.one rfl .timer .timer ?_)
    exact modifySite_same _ fun _ => rfl
  | cancelTimers =>
    refine c.idles (.of_alike (Schedule.foldl_alike Schedule.cancel_alike _ w.schedule) ?_)
    exact modifySite_same _ fun _ => rfl
  | spawnStartCheck => exact c.idles (.one rfl .startCheck .startCheck rfl)
  | spawnFinishCheck =>
    have spawned : Spawns w (w.performOne 0 .spawnFinishCheck) [.finishCheck 0 none] := .one rfl
    refine c.spawns spawned c.core ?_ ?_
    · exact List.forall_mem_singleton.mpr .finishCheck
    · exact ⟨backed.tasks, backed.works, Nat.succ_le_succ backed.checks, backed.calls⟩
  | launchTask =>
    have spawned : Spawns w (w.performOne 0 .launchTask) [.task 0] := .one rfl
    refine c.spawns spawned c.core ?_ ?_
    · exact List.forall_mem_singleton.mpr .task
    · refine ⟨?_, backed.works, backed.checks, backed.calls⟩
      show _ + 1 + atWork.length ≤ (u.inFlight ++ [u.launched]).length
      rw [List.length_append, Nat.add_right_comm]
      exact Nat.succ_le_succ backed.tasks
  | wakeDrained =>
    have c1 : Carries span w turn job? p work (u.perform .wakeDrained) atWork :=
      c.become rfl ⟨backed.tasks, backed.works, backed.checks, backed.calls⟩
    have c2 := c1.modifySite (f := ({ · with drainWaiters := [] })) fun _ => rfl
    exact c2.idles (Idles.foldl (fun id _ v => v.wake_idles id) _)
  | resolveRun outcome =>
    have c1 : Carries span (w.modifySite 0 ({ · with outcome := some outcome })) turn job? p work
        (u.perform (.resolveRun outcome)) atWork := by
      refine c.spawns (.of_alike (.refl _)) ?_ (List.forall_mem_nil _) ?_
      · rw [w.modifySite_core (g := fun x => (x.1, x.2.1, some outcome)) fun _ => rfl, c.core]
        rfl
      · exact ⟨backed.tasks, backed.works, backed.checks, backed.calls⟩
    rw [World.performOne]
    split
    · exact c1.idles (wake_idles _ _)
    · exact c1
  | notice n => exact c.idles (.of_alike (.refl _) rfl)

/-- Carrying out the effects of the pool adds the jobs that its surroundings come to owe. -/
lemma Carries.perform (c : Carries span w turn job? p work u atWork) (effects : List PoolEffect) :
    Carries span (w.perform 0 effects) turn job? p work (effects.foldl .perform u) atWork := by
  induction effects generalizing w u with
  | nil => exact c
  | cons fx effects ih => exact ih (c.performOne fx)

/-- What the pool does next is stored and carried out. -/
lemma Carries.update (c : Carries span w turn job? p work u atWork)
    (result : Pool × List PoolEffect) :
    Carries span (w.update 0 result) turn job? result.1 work (result.2.foldl .perform u) atWork :=
  (c.setPool result.1).perform result.2

/-- The answer to a call is noted at the site and nowhere else. -/
lemma Carries.resolveRun (c : Carries span w turn job? p work u atWork) (index : Nat)
    (outcome : Except PoolError Unit) :
    Carries span (w.resolveRun 0 index outcome) turn job? p work u atWork :=
  c.modifySite fun _ => rfl

/-! ## Another job in the turn -/

/-- The job in its turn counts beside those that rest. -/
lemma count_some (w : World) (turn : Option JobId) (job : Job) (kind : Job → Bool) :
    w.count turn (some job) kind = w.count turn none kind + if kind job then 1 else 0 := by
  rw [count, Option.toList_some, List.countP_singleton]
  rfl

namespace Carries

variable {k task n : Nat} {plan : TaskPlan} {due : Option Instant}

/-- Nothing is owed for the job that has the turn by now. -/
lemma backed_idle (c : Carries span w turn job? p work u atWork)
    (idle : ∀ job ∈ job1?, job.Idle) : Backed (w.count turn job1?) u atWork := by
  have resting : Backed (fun kind => (w.resting turn).countP (·.any kind)) u atWork :=
    c.backed.mono fun _ => Nat.le_add_right _ _
  exact resting.add_idle fun job mem => idle job (Option.mem_toList.mp mem)

/-- The job in its turn may become an idle one. -/
lemma idle (c : Carries span w turn job? p work u atWork) (idle : ∀ job ∈ job1?, job.Idle) :
    Carries span w turn job1? p work u atWork := c.become rfl (c.backed_idle idle)

/-- The job in its turn may end. -/
lemma ended (c : Carries span w turn job? p work u atWork) :
    Carries span w turn none p work u atWork := c.idle forall_mem_none

/-- The jobs that rest are owed. -/
lemma rest (c : Carries span w turn job? p work u atWork) :
    Backed (w.count turn none) u atWork := c.ended.backed

/-- A check that begins was spawned, and is no longer among those that have not begun. -/
lemma check_begins (c : Carries span w turn (some (.finishCheck 0 none)) p work u atWork) :
    0 < u.finishChecks ∧
      Backed (w.count turn none) { u with finishChecks := u.finishChecks - 1 } atWork := by
  have owed : w.count turn none Job.isFinishCheck + 1 ≤ u.finishChecks := c.backed.checks
  refine ⟨Nat.lt_of_lt_of_le (Nat.succ_pos _) owed, ?_⟩
  exact ⟨c.rest.tasks, c.rest.works, Nat.le_sub_of_add_le owed, c.rest.calls⟩

/-- A task that has not begun is in flight and not at work. -/
lemma few_atWork (c : Carries span w turn (some (.task 0)) p work u atWork) :
    atWork.length < u.inFlight.length := by
  have owed : w.count turn none Job.isTask + 1 + atWork.length ≤ u.inFlight.length :=
    c.backed.tasks
  omega

/-- The job of a task that was launched goes to work. -/
lemma task_begins (c : Carries span w turn (some (.task 0)) p work u atWork) (task k : Nat)
    (plan : TaskPlan) (due : Option Instant) :
    Carries span w turn (some (.working 0 k plan due)) p work u (atWork ++ [(task, k)]) := by
  have owed : w.count turn none Job.isTask + 1 + atWork.length ≤ u.inFlight.length :=
    c.backed.tasks
  refine c.become rfl ⟨?_, ?_, c.rest.checks, c.rest.calls⟩
  · show w.count turn none Job.isTask + _ ≤ _
    rw [List.length_append, List.length_singleton]
    omega
  · intro other
    rw [count_some, List.countP_append, List.countP_singleton]
    exact Nat.add_le_add_right (c.rest.works other) _

/-- The job at work is one of those that are owed. -/
lemma works_owed (c : Carries span w turn (some (.working 0 k plan due)) p work u atWork) :
    w.count turn none (Job.worksOn k) + 1 ≤ atWork.countP (·.2 == k) := by
  have works := c.backed.works k
  rw [count_some, Job.worksOn, if_pos (beq_self_eq_true k)] at works
  exact works

/-- The job at work works on a task. -/
lemma exists_atWork (c : Carries span w turn (some (.working 0 k plan due)) p work u atWork) :
    ∃ task, (task, k) ∈ atWork := by
  have pos := Nat.lt_of_lt_of_le (Nat.succ_pos _) c.works_owed
  obtain ⟨⟨task, other⟩, mem, here⟩ := List.countP_pos_iff.mp pos
  obtain rfl : other = k := beq_iff_eq.mp here
  exact ⟨task, mem⟩

/-- A task that has settled is no longer owed. -/
lemma task_ends (c : Carries span w turn (some (.working 0 k plan due)) p work u atWork)
    (mem : (task, k) ∈ atWork) (mem1 : task ∈ u.inFlight) :
    Carries span w turn none p work { u with inFlight := u.inFlight.erase task }
      (atWork.erase (task, k)) := by
  refine c.become rfl ⟨?_, ?_, c.rest.checks, c.rest.calls⟩
  · have tasks := c.rest.tasks
    have pos := List.length_pos_of_mem mem
    show _ ≤ (u.inFlight.erase task).length
    rw [List.length_erase_of_mem mem, List.length_erase_of_mem mem1]
    omega
  · intro other
    rw [List.countP_erase]
    split
    · next ends =>
      obtain rfl : k = other := beq_iff_eq.mp ends.2
      exact Nat.le_sub_of_add_le c.works_owed
    · exact c.rest.works other

/-- A call of `run` goes on to wait for the outcome. -/
lemma call_waits (c : Carries span w turn job? p work u atWork) (index : Nat)
    (sent : u1.sent = u.sent) (inFlight : u1.inFlight = u.inFlight)
    (checks : u1.finishChecks = u.finishChecks) (runs : u1.runs = u.runs ++ [.awaiting]) :
    Carries span w turn (some (.awaitOutcome 0 index)) p work u1 atWork := by
  refine c.become sent ⟨inFlight ▸ c.rest.tasks, c.rest.works, checks ▸ c.rest.checks, ?_⟩
  rw [count_some, runs, List.countP_append]
  exact Nat.add_le_add_right c.rest.calls 1

/-- The job that awaits the outcome is one of those that are owed. -/
lemma calls_owed {index : Nat}
    (c : Carries span w turn (some (.awaitOutcome 0 index)) p work u atWork) :
    w.count turn none Job.awaits + 1 ≤ u.runs.countP (·.isAwaiting) := c.backed.calls

/-- The job that awaits the outcome stands for an open call. -/
lemma exists_call {index : Nat}
    (c : Carries span w turn (some (.awaitOutcome 0 index)) p work u atWork) :
    ∃ n : Nat, u.runs[n]? = some .awaiting := by
  have pos := Nat.lt_of_lt_of_le (Nat.succ_pos _) c.calls_owed
  obtain ⟨call, mem, awaits⟩ := List.countP_pos_iff.mp pos
  obtain ⟨n, here⟩ := List.getElem?_of_mem mem
  refine ⟨n, here.trans ?_⟩
  cases call with
  | awaiting => rfl
  | _ => cases awaits

/-- A call that has returned is no longer owed. -/
lemma call_returns {index : Nat} {outcome : Except PoolError Unit}
    (c : Carries span w turn (some (.awaitOutcome 0 index)) p work u atWork)
    (waiting : u.runs[n]? = some .awaiting) :
    Backed (w.count turn none) { u with runs := u.runs.set n (.returned outcome) } atWork := by
  refine ⟨c.rest.tasks, c.rest.works, c.rest.checks, ?_⟩
  obtain ⟨lt, here⟩ := List.getElem?_eq_some_iff.mp waiting
  show _ ≤ (u.runs.set n _).countP _
  rw [List.countP_set lt, here]
  exact Nat.le_sub_of_add_le c.calls_owed

end Carries

/-! ## The turn -/

/-- A job is counted with the others, or apart from them. -/
lemma countP_rest {jobs : List (Option Job)} {id : JobId} {job : Job}
    (e : jobs[id]? = some (some job)) (kind : Job → Bool) :
    (jobs.set id none).countP (·.any kind) + [job].countP kind = jobs.countP (·.any kind) := by
  induction jobs generalizing id with
  | nil => cases e
  | cons first jobs ih =>
    cases id with
    | zero =>
      cases e
      rw [List.set_cons_zero, List.countP_singleton, List.countP_cons, List.countP_cons]
      rfl
    | succ id =>
      rw [List.set_cons_succ, List.countP_cons, List.countP_cons (l := jobs), ← ih e]
      exact Nat.add_right_comm _ _ _

/-- A job gets the turn. -/
lemma Carries.dequeue {id : JobId} {cell : JobCell Job} {schedule : Schedule Job}
    (c : Carries span w none none p work u atWork)
    (e : w.schedule.dequeue? = some (id, cell, schedule)) :
    Carries span { w with schedule := schedule } (some id) (some cell.job) p work u atWork ∧
      cell.job.Fits span := by
  obtain ⟨alike, body⟩ := Schedule.dequeue?_alike e
  have at_id := Schedule.getElem?_bodies c.numbered body
  refine ⟨⟨c.core, alike.numbered c.numbered, ?_, ?_, ?_⟩, c.fits _ (List.mem_of_getElem? at_id)⟩
  · rintro _ ⟨⟩
    show id < schedule.jobsMade
    rw [alike.made]
    exact c.numbered id _ body
  · intro job mem
    have mem1 : some job ∈ w.schedule.bodies.set id none := alike.bodies ▸ mem
    cases List.mem_or_eq_of_mem_set mem1 with
    | inl old => exact c.fits job old
    | inr here => cases here
  · refine c.backed.mono ?_
    intro kind
    show (schedule.bodies.set id none).countP _ + _ ≤ w.schedule.bodies.countP _ + 0
    rw [alike.bodies]
    exact Nat.le_of_eq (countP_rest at_id kind)

/-- The job that has the turn ends. -/
lemma Carries.remove {id : JobId} (c : Carries span w (some id) job? p work u atWork) :
    Carries span { w with schedule := w.schedule.remove id } none none p work u atWork := by
  have bodies := w.schedule.remove_bodies id
  refine ⟨c.core, c.numbered.remove id, by rintro _ ⟨⟩, ?_, ?_⟩
  · intro job mem
    have mem1 : some job ∈ (w.schedule.remove id).bodies := mem
    rw [bodies] at mem1
    exact c.fits job mem1
  · refine c.backed.mono ?_
    intro kind
    show (w.schedule.remove id).bodies.countP _ + 0 ≤ _
    rw [bodies]
    exact Nat.le_add_right _ _

/-- The job that has the turn waits for the next one. -/
lemma Carries.store {id : JobId} {job : Job}
    (c : Carries span w (some id) (some job) p work u atWork) (fits : job.Fits span) :
    Carries span { w with schedule := w.schedule.store id job } none none p work u atWork := by
  obtain ⟨body, or, bodies⟩ := w.schedule.store_bodies id job
  refine ⟨c.core, c.numbered.store id job, by rintro _ ⟨⟩, ?_, ?_⟩
  · intro other mem
    have mem1 : some other ∈ w.schedule.bodies.set id body := bodies ▸ mem
    rw [← List.set_set (a := none)] at mem1
    cases List.mem_or_eq_of_mem_set mem1 with
    | inl old => exact c.fits other old
    | inr here =>
      subst here
      cases or with
      | inl e => cases e
      | inr e =>
        cases e
        exact fits
  · refine c.backed.mono ?_
    intro kind
    show (w.schedule.store id job).bodies.countP _ + 0 ≤
      (w.schedule.bodies.set id none).countP _ + _
    rw [bodies]
    rcases or with rfl | rfl
    · exact Nat.le_add_right _ _
    · have lt : id < w.schedule.bodies.length := by
        rw [Schedule.length_bodies]
        exact c.known id rfl
      have here := List.getElem?_set_self (a := some job) lt
      rw [← countP_rest here kind, List.set_set]
      exact Nat.le_refl _

end

end World

end Headroom
