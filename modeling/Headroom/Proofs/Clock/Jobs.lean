import Mathlib.Tactic.Lemma
import Headroom.Clock.Schedule

/-!
# The jobs on a schedule

What the jobs on a schedule are, by number (`Schedule.bodies`). Waking and cancelling them, setting
alarms and moving the clock leave that alone (`Schedule.Alike`). It changes where a job is added,
where one has had its turn, and where one ends.
-/

namespace Headroom.Schedule

variable {J : Type} {s t u : Schedule J}

/-- What a job is, by its number. -/
def body? (s : Schedule J) (id : JobId) : Option J := (s.jobs.get? id).map (·.job)

/-- What the jobs are, in order of their numbers. One that has ended leaves a gap. -/
def bodies (s : Schedule J) : List (Option J) := (List.range s.jobsMade).map s.body?

/-- No job has a number that was not given out. -/
def Numbered (s : Schedule J) : Prop := ∀ id job, s.body? id = some job → id < s.jobsMade

/-- There is one place for each job that was made. -/
@[simp]
lemma length_bodies (s : Schedule J) : s.bodies.length = s.jobsMade := by
  rw [bodies, List.length_map, List.length_range]

/-- A job on the schedule is at the place of its number. -/
lemma getElem?_bodies {id : JobId} {job : J} (numbered : s.Numbered) (e : s.body? id = some job) :
    s.bodies[id]? = some (some job) := by
  rw [bodies, List.getElem?_map, List.getElem?_range (numbered id job e), Option.map_some, e]

/-- The jobs of two schedules are the same, apart from their standing. -/
structure Alike (s t : Schedule J) : Prop where
  made : t.jobsMade = s.jobsMade
  same : ∀ id, t.body? id = s.body? id

namespace Alike

/-- A schedule has the jobs that it has. -/
lemma refl (s : Schedule J) : Alike s s := ⟨rfl, fun _ => rfl⟩

/-- Jobs that are the same in two steps are the same. -/
lemma trans (first : Alike s t) (second : Alike t u) : Alike s u :=
  ⟨second.made.trans first.made, fun id => (second.same id).trans (first.same id)⟩

/-- Schedules that are alike list the same jobs. -/
lemma bodies (alike : Alike s t) : t.bodies = s.bodies := by
  rw [Schedule.bodies, Schedule.bodies, alike.made]
  exact List.map_congr_left fun id _ => alike.same id

/-- A schedule is numbered if one like it is. -/
lemma numbered (alike : Alike s t) (numbered : s.Numbered) : t.Numbered := by
  intro id job e
  rw [alike.made]
  exact numbered id job ((alike.same id).symm.trans e)

end Alike

/-! ## What leaves the jobs alone -/

/-- Putting a cell into the map changes the lookup of its number only. -/
@[simp]
lemma get?_insert (s : Schedule J) (id other : JobId) (cell : JobCell J) :
    (s.jobs.insert id cell).get? other = if id = other then some cell else s.jobs.get? other := by
  rw [Std.TreeMap.get?_eq_getElem?, Std.TreeMap.getElem?_insert, Std.TreeMap.get?_eq_getElem?]
  simp only [Std.LawfulEqCmp.compare_eq_iff_eq]

/-- Taking a cell from the map changes the lookup of its number only. -/
@[simp]
lemma get?_erase (s : Schedule J) (id other : JobId) :
    (s.jobs.erase id).get? other = if id = other then none else s.jobs.get? other := by
  rw [Std.TreeMap.get?_eq_getElem?, Std.TreeMap.getElem?_erase, Std.TreeMap.get?_eq_getElem?]
  simp only [Std.LawfulEqCmp.compare_eq_iff_eq]

/-- A cell may be replaced by one with the same job. -/
lemma Alike.of_insert {id : JobId} {cell new : JobCell J} (found : s.jobs.get? id = some cell)
    (made : t.jobsMade = s.jobsMade) (e : t.jobs = s.jobs.insert id new)
    (same : new.job = cell.job) : Alike s t := by
  refine ⟨made, ?_⟩
  intro other
  rw [body?, e, get?_insert]
  split
  · next here =>
    rw [← here, body?, found, Option.map_some, Option.map_some, same]
  · rfl

/-- Waking a job changes no job. -/
lemma wake_alike (s : Schedule J) (id : JobId) : Alike s (s.wake id) := by
  rw [wake]
  split
  · next cell found =>
    split
    · exact .refl s
    · exact .of_insert found rfl rfl rfl
  · exact .refl s

/-- Cancelling a job leaves it to be dropped in its turn. -/
lemma cancel_alike (s : Schedule J) (id : JobId) : Alike s (s.cancel id) := by
  rw [cancel]
  split
  · next cell found =>
    have marked : Alike s { s with jobs := s.jobs.insert id { cell with cancelled := true } } :=
      .of_insert found rfl rfl rfl
    exact marked.trans (wake_alike _ id)
  · exact .refl s

/-- Setting an alarm changes no job. -/
lemma setAlarm_alike (s : Schedule J) (id : JobId) (deadline : Instant) :
    Alike s (s.setAlarm id deadline) := by
  rw [setAlarm]
  split
  · exact .refl s
  · exact ⟨rfl, fun _ => rfl⟩

/-- Moving the clock changes no job. -/
lemma advanceTo_alike (s : Schedule J) (now : Instant) : Alike s (s.advanceTo now) :=
  ⟨rfl, fun _ => rfl⟩

/-- Steps that change no job change none along a list. -/
lemma foldl_alike {α : Type} {f : Schedule J → α → Schedule J} (h : ∀ s a, Alike s (f s a))
    (as : List α) (s : Schedule J) : Alike s (as.foldl f s) := by
  induction as generalizing s with
  | nil => exact .refl s
  | cons a as ih => exact (h s a).trans (ih _)

/-- Ringing the alarms changes no job. -/
lemma ring_alike (s : Schedule J) : Alike s s.ring := by
  have later : Alike s { s with alarms := (s.alarms.span (·.time ≤ s.now)).2 } :=
    ⟨rfl, fun _ => rfl⟩
  exact later.trans (foldl_alike (fun s (a : Alarm) => s.wake_alike a.job) _ _)

/-- Taking the next job for its turn changes no job, and it is one of them. -/
lemma dequeue?_alike {id : JobId} {cell : JobCell J} (e : s.dequeue? = some (id, cell, t)) :
    Alike s t ∧ s.body? id = some cell.job := by
  rw [dequeue?] at e
  split at e
  · cases e
  · next first rest queue =>
    obtain ⟨found, got, e1⟩ := Option.map_eq_some_iff.mp e
    cases e1
    refine ⟨.of_insert got rfl rfl rfl, ?_⟩
    rw [body?, got]
    rfl

/-! ## What changes them -/

/-- A job that is spawned gets the next number. -/
lemma spawn_body? (s : Schedule J) (job : J) (id : JobId) :
    (s.spawn job).2.body? id = if s.jobsMade = id then some job else s.body? id := by
  rw [spawn, body?]
  dsimp only
  rw [get?_insert, apply_ite (Option.map _)]
  rfl

/-- A job that is spawned comes last. -/
@[simp]
lemma spawn_bodies (s : Schedule J) (job : J) :
    (s.spawn job).2.bodies = s.bodies ++ [some job] := by
  have made : (s.spawn job).2.jobsMade = s.jobsMade + 1 := rfl
  rw [bodies, made, List.range_succ, List.map_append, List.map_singleton, spawn_body?, if_pos rfl]
  congr 1
  refine List.map_congr_left ?_
  intro id mem
  rw [spawn_body?, if_neg (Nat.ne_of_gt (List.mem_range.mp mem))]

/-- Spawning keeps the jobs numbered. -/
lemma Numbered.spawn (numbered : s.Numbered) (job : J) : (s.spawn job).2.Numbered := by
  intro id body e
  rw [spawn_body?] at e
  split at e
  · next last => exact last ▸ Nat.lt_succ_self _
  · exact Nat.lt_succ_of_lt (numbered id body e)

/-- One job has become another, or has ended. -/
lemma bodies_set {id : JobId} {body : Option J} (made : t.jobsMade = s.jobsMade)
    (set : ∀ other, t.body? other = if id = other then body else s.body? other) :
    t.bodies = s.bodies.set id body := by
  apply List.ext_getElem?
  intro other
  rw [List.getElem?_set, bodies, bodies, made, List.getElem?_map, List.getElem?_map,
    List.length_map, List.length_range]
  rcases Nat.lt_or_ge other s.jobsMade with lt | ge
  · rw [List.getElem?_range lt, Option.map_some, Option.map_some, set]
    by_cases here : id = other
    · subst here
      rw [if_pos rfl, if_pos rfl, if_pos lt]
    · rw [if_neg here, if_neg here]
  · have none : (List.range s.jobsMade)[other]? = none := by
      rw [List.getElem?_eq_none_iff, List.length_range]
      exact ge
    rw [none, Option.map_none, Option.map_none]
    split
    · next here =>
      rw [if_neg]
      exact here ▸ Nat.not_lt_of_le ge
    · rfl

/-- Removing a job empties its place. -/
@[simp]
lemma remove_bodies (s : Schedule J) (id : JobId) :
    (s.remove id).bodies = s.bodies.set id none := by
  refine bodies_set rfl ?_
  intro other
  rw [remove, body?, get?_erase, apply_ite (Option.map _)]
  rfl

/-- Removing keeps the jobs numbered. -/
lemma Numbered.remove (numbered : s.Numbered) (id : JobId) : (s.remove id).Numbered := by
  intro other job e
  rw [Schedule.remove, body?, get?_erase] at e
  split at e
  · cases e
  · exact numbered other job e

/-- A turn is stored unless the job has been taken off. -/
lemma store_bodies (s : Schedule J) (id : JobId) (job : J) :
    ∃ body, (body = none ∨ body = some job) ∧ (s.store id job).bodies = s.bodies.set id body := by
  rw [store]
  split
  · refine ⟨some job, .inr rfl, bodies_set rfl ?_⟩
    intro other
    rw [body?, get?_insert, apply_ite (Option.map _)]
    rfl
  · next gone =>
    refine ⟨none, .inl rfl, bodies_set rfl ?_⟩
    intro other
    split
    · next here => rw [← here, body?, gone]; rfl
    · rfl

/-- Putting a job back keeps the jobs numbered. -/
lemma Numbered.store (numbered : s.Numbered) (id : JobId) (job : J) :
    (s.store id job).Numbered := by
  rw [Schedule.store]
  split
  · next cell found =>
    intro other body e
    rw [body?, get?_insert] at e
    split at e
    · next here =>
      subst here
      exact numbered id cell.job (by rw [body?, found]; rfl)
    · exact numbered other body e
  · exact numbered

end Headroom.Schedule
