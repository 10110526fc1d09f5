import Mathlib.Data.ENat.Lattice
import Mathlib.Data.List.DropRight
import Headroom.Proofs.Pool.Closing

/-!
# Checks whose answers come at once

A check for ready tasks whose questions are answered without a wait goes from its beginning to its
end in one instant, and nothing else happens on the way. `Run.greedy` tells how far it gets: it
starts as many tasks as the budget has room for, or as there are yeses before the first other
answer, whichever is less.

The budget is that of the beginning. Every start takes one off it (`PoolState.room_launch`), as
every yes takes one off the answers, and the check asks again just while there is room left
(`Poised`).
-/

namespace Headroom

namespace PoolState

/-- How many more tasks may start in an instant: those that are desired and not in flight, at most
what the starts of the last minute leave of the cap, and under overload at most what is missing to
the floor. -/
noncomputable def room (s : PoolState) (cap : Option ℕ) (starts : ℕ) (idle : Bool) : ℕ∞ :=
  min (s.desired - s.current : ℕ) (min (cap.elim ⊤ fun limit => (limit - starts : ℕ))
    (if idle then ⊤ else (s.minConcurrency - s.current : ℕ)))

end PoolState

namespace Pool

/-- The room for more tasks at a time, by the starts of the run so far. -/
noncomputable def budget (ms : List Moment) (s : Situation) (now : Instant) (idle : Bool) : ℕ∞ :=
  s.pool.state.room s.pool.config.maxTasksPerMinute
    (PoolState.startsWithin (startTimes ms) now) idle

/-- How many answers are yes before the first other one. -/
noncomputable def leadingYes (answers : ℕ → Except String Bool) : ℕ∞ :=
  ⨅ (n : ℕ) (_ : answers n ≠ .ok true), (n : ℕ∞)

/-- The next answer of a sequence, and the answers after it. -/
def draw (answers : ℕ → Except String Bool) : Except String Bool × (ℕ → Except String Bool) :=
  (answers 0, fun n => answers (n + 1))

/-- The answers to a check for ready tasks, latest first, from the situation in which it has asked
its first question, if any, to the one in which it is over. They come from `ask`, each at once. -/
inductive Answered {σ : Type} (ask : σ → Except String Bool × σ) (now : Instant) (idle : Bool)
    (historical : SystemInfo) : σ → Situation → List Moment → σ → Situation → Prop where
  | rests {w s} :
    s.readyOpen = [] →
    Answered ask now idle historical w s [] w s
  | answer {w s q ms v t} :
    q ∈ s.readyOpen →
    Answered ask now idle historical (ask w).2
      (s.next (.answerReady q (ask w).1 now idle historical)) ms v t →
    Answered ask now idle historical w s
      (ms ++ [⟨s, .answerReady q (ask w).1 now idle historical⟩]) v t

/-- The effects of moments, in order. The moments are given latest first. -/
def effectsOf (ms : List Moment) : List PoolEffect := ms.reverse.flatMap (·.effects)

/-- The pool once tasks were launched and no check for ready tasks is under way. -/
def grown (p : Pool) (count : ℕ) (starts : List Instant) : Pool :=
  { p with
    state := { p.state with current := p.state.current + count, recentStarts := starts }
    startCheckBusy := false }

/-- How a check ends that launched `count` tasks and asked `asked` questions, from the pool before
it and the pool after it. -/
inductive CheckEnds (answers : ℕ → Except String Bool) (room : ℕ∞) (historical : SystemInfo)
    (p q : Pool) (fx : List PoolEffect) (count asked : ℕ) : Prop where
  /-- The budget is spent, and no further question is asked. -/
  | spent {starts} :
    room ≤ leadingYes answers →
    asked = count →
    fx = .replicate count .launchTask →
    q = p.grown count starts →
    CheckEnds answers room historical p q fx count asked
  /-- One more question is answered with a no. A pool without a task in flight then looks for the
  end of the run. -/
  | dry {starts} :
    leadingYes answers < room →
    answers count = .ok false →
    asked = count + 1 →
    fx = .replicate count .launchTask ++
      (if p.state.current + count = 0 then [.spawnFinishCheck] else []) →
    q = p.grown count starts →
    CheckEnds answers room historical p q fx count asked
  /-- One more question fails, and the run with it. -/
  | failed {starts detail} :
    leadingYes answers < room →
    answers count = .error detail →
    asked = count + 1 →
    fx = .replicate count .launchTask ++
      (p.grown count starts).farewell (.error (.readinessFailed detail)) .failed historical →
    q = (p.grown count starts).ended .failed →
    CheckEnds answers room historical p q fx count asked

/-- A check for ready tasks that begins now and whose answers come at once is greedy. -/
structure Greedy (ms : List Moment) (s : Situation) (timed : Bool) (now : Instant) (idle : Bool)
    (historical : SystemInfo) (answers : ℕ → Except String Bool) : Prop where
  /-- The check comes to its end. -/
  ends : ∃ later rest t, Answered draw now idle historical answers
    (s.next (.enterStartCheck timed now idle)) later rest t
  /-- By then the run has gone on by its answers, and it has launched just as many tasks as the
  budget of the beginning and the answers admit. -/
  exact : ∀ later rest t,
    Answered draw now idle historical answers (s.next (.enterStartCheck timed now idle))
      later rest t →
    ∃ (count : ℕ) (fx : List PoolEffect),
      Run (later ++ ⟨s, .enterStartCheck timed now idle⟩ :: ms) t ∧
        t.readyOpen = [] ∧
        t.readyAsked = s.readyAsked + later.length ∧
        effectsOf (later ++ [⟨s, .enterStartCheck timed now idle⟩]) = fx ∧
        t.toSurroundings = fx.foldl .perform s.toSurroundings ∧
        count = min (budget ms s now idle) (leadingYes answers) ∧
        CheckEnds answers (budget ms s now idle) historical s.pool t.pool fx count later.length

end Pool

/-! ## The budget -/

namespace PoolState

/-- There is room just if a check would ask for a task. -/
lemma room_pos {s : PoolState} {cap : Option ℕ} {starts : ℕ} {idle : Bool} :
    0 < s.room cap starts idle ↔
      s.current < s.desired ∧ (∀ limit, cap = some limit → starts < limit) ∧
        (s.current < s.minConcurrency ∨ idle = true) := by
  rw [room, lt_min_iff, lt_min_iff, Nat.cast_pos', Nat.sub_pos_iff_lt]
  refine and_congr_right' (and_congr ?_ ?_)
  · cases cap with
    | none => simp
    | some limit => simp
  · cases idle with
    | true => simp
    | false => simp

/-- A difference of counts is one more than the next smaller one. -/
lemma cast_sub_eq_add_one {a b : ℕ} (h : b < a) :
    ((a - b : ℕ) : ℕ∞) = ((a - (b + 1) : ℕ) : ℕ∞) + 1 := by
  rw [← Nat.cast_succ]
  congr 1
  omega

/-- A start takes one off the room. -/
lemma room_launch {s : PoolState} {cap : Option ℕ} {starts : ℕ} {idle : Bool}
    (pos : 0 < s.room cap starts idle) (recent : List Instant) :
    s.room cap starts idle =
      { s with
        current := s.current + 1
        recentStarts := recent }.room cap (starts + 1) idle + 1 := by
  obtain ⟨capacity, uncapped, floor⟩ := room_pos.mp pos
  rw [room, room, ← min_add_add_right, ← min_add_add_right]
  congr 1
  · exact cast_sub_eq_add_one capacity
  congr 1
  · cases cap with
    | none => rfl
    | some limit => exact cast_sub_eq_add_one (uncapped limit rfl)
  · cases idle with
    | true => rfl
    | false =>
      cases floor with
      | inl below => exact cast_sub_eq_add_one below
      | inr idle => cases idle

/-- The starts that count now, and one now. -/
lemma forgetStarts_record (starts : List Instant) (now : Instant) :
    forgetStarts (starts ++ [now]) now = forgetStarts starts now ++ [now] := by
  have recent : [now].dropWhile (fun u => decide (u + rateWindow ≤ now)) = [now] := by
    have pos : 0 < rateWindow := by decide
    rw [List.dropWhile_cons_of_neg]
    rw [decide_eq_true_eq]
    exact Nat.not_le_of_lt (Nat.lt_add_of_pos_right pos)
  rw [forgetStarts, List.dropWhile_append, recent, forgetStarts]
  split
  · next none =>
    rw [List.isEmpty_iff.mp none]
    rfl
  · rfl

end PoolState

namespace Pool

/-! ## The answers -/

/-- A yes in front is one more than the leading yeses behind it. -/
lemma leadingYes_yes {answers : ℕ → Except String Bool} (yes : answers 0 = .ok true) :
    leadingYes answers = leadingYes (draw answers).2 + 1 := by
  rw [leadingYes, leadingYes, ENat.iInf₂_add]
  apply le_antisymm
  · refine le_iInf₂ fun n other => ?_
    exact iInf₂_le (n + 1) other
  · refine le_iInf₂ fun n other => ?_
    cases n with
    | zero => exact absurd yes other
    | succ n => exact iInf₂_le n other

/-- Another answer in front leaves no leading yes. -/
lemma leadingYes_other {answers : ℕ → Except String Bool} (other : answers 0 ≠ .ok true) :
    leadingYes answers = 0 := nonpos_iff_eq_zero.mp (iInf₂_le 0 other)

/-! ## The head of the check -/

/-- The room that a check finds as it looks at the budget. -/
noncomputable def room (p : Pool) (now : Instant) (idle : Bool) : ℕ∞ :=
  p.state.room p.config.maxTasksPerMinute
    (PoolState.forgetStarts p.state.recentStarts now).length idle

/-- A check asks for a task just if there is room for one. -/
lemma wantsTask_iff {p : Pool} (running : p.phase = .running) (now : Instant) (idle : Bool) :
    (p.wantsTask now idle).1 = true ↔ 0 < p.room now idle := by
  have running1 : p.state.phase = .running := running
  rw [← not_iff_not, Bool.not_eq_true, wantsTask_eq_false, room, PoolState.room_pos, not_and_or,
    not_and_or, ← Bool.not_eq_true, PoolState.hasCapacity_iff]
  refine or_congr ?_ (or_congr ?_ ?_)
  · rw [running1]
    simp
  · cases p.config.maxTasksPerMinute with
    | none => simp
    | some limit => simp
  · simp

/-- After a look, the slot is taken just if there is room. -/
structure Poised (s : Situation) (now : Instant) (idle : Bool) : Prop where
  running : s.pool.phase = .running
  busy : s.pool.startCheckBusy = true ↔ 0 < s.pool.room now idle

/-- A look forgets starts that do not count, so it leaves the room as it is. -/
lemma askForTask_looked {p : Pool} (running : p.phase = .running) (fx : List PoolEffect)
    (now : Instant) (idle : Bool) :
    ∃ starts, (p.askForTask fx now idle).effects = fx ∧
      (p.askForTask fx now idle).pool =
        { p with
          state := { p.state with recentStarts := starts }
          startCheckBusy := (p.askForTask fx now idle).pool.startCheckBusy } ∧
      (p.askForTask fx now idle).pool.room now idle = p.room now idle ∧
      ((p.askForTask fx now idle).pool.startCheckBusy = true ↔ 0 < p.room now idle) := by
  have wants := wantsTask_iff running now idle
  have same : (p.wantsTask now idle).2.room now idle = p.room now idle := by
    rw [wantsTask]
    split
    · cases h : p.config.maxTasksPerMinute with
      | none => rfl
      | some limit =>
        simp only [PoolState.startAllowed_some, room, PoolState.forgetStarts,
          List.dropWhile_idempotent]
        rfl
    · rfl
  obtain ⟨starts, e⟩ := wantsTask_pool p now idle
  refine ⟨starts, rfl, ?_, same, wants⟩
  rw [askForTask]
  simp only [e]

/-- A start takes one off the room that a check finds. -/
lemma room_launched {p : Pool} {now : Instant} {idle : Bool} (pos : 0 < p.room now idle) :
    p.room now idle = (p.launch now).room now idle + 1 := by
  rw [room, PoolState.room_launch pos (p.launch now).state.recentStarts, room, launch]
  cases p.config.maxTasksPerMinute with
  | none => rfl
  | some limit =>
    have counted := congrArg List.length (PoolState.forgetStarts_record p.state.recentStarts now)
    rw [List.length_append] at counted
    exact congrArg (PoolState.room _ (some limit) · idle + 1) counted.symm

/-- A question is open only where there is room. -/
lemma Poised.room_pos {s : Situation} {now : Instant} {idle : Bool} {q}
    (poised : Poised s now idle) (sl : Slotted s) (mem : q ∈ s.readyOpen) :
    0 < s.pool.room now idle := poised.busy.mp (eq_singleton_of_slot sl.slot mem).2

/-- A check that enters finds the room there is, and launches nothing yet. -/
lemma Poised.enter {s : Situation} (running : s.pool.phase = .running)
    (free : s.pool.startCheckBusy = false) (timed : Bool) (now : Instant) (idle : Bool) :
    Poised (s.next (.enterStartCheck timed now idle)) now idle ∧
      (s.next (.enterStartCheck timed now idle)).pool.room now idle = s.pool.room now idle ∧
      (s.pool.respond (.enterStartCheck timed now idle)).effects = [] ∧
      ∃ starts busy, (s.next (.enterStartCheck timed now idle)).pool =
        { s.pool with
          state := { s.pool.state with recentStarts := starts }
          startCheckBusy := busy } := by
  have e : s.pool.respond (.enterStartCheck timed now idle) =
      askForTask { s.pool with startCheckBusy := true } [] now idle :=
    if_neg (ne_true_of_eq_false free)
  obtain ⟨starts, fx, look, same, busy⟩ :=
    askForTask_looked (p := { s.pool with startCheckBusy := true }) running [] now idle
  rw [← e] at fx look same busy
  refine ⟨⟨?_, ?_⟩, same, fx, starts, _, look⟩
  · rw [Situation.next, look]
    exact running
  · rw [← same] at busy
    exact busy

/-- A yes launches one task and takes one off the room. -/
lemma Poised.yes {s : Situation} {now : Instant} {idle : Bool} {q} (poised : Poised s now idle)
    (sl : Slotted s) (mem : q ∈ s.readyOpen) (historical : SystemInfo) :
    Poised (s.next (.answerReady q (.ok true) now idle historical)) now idle ∧
      s.pool.room now idle =
        (s.next (.answerReady q (.ok true) now idle historical)).pool.room now idle + 1 ∧
      (s.pool.respond (.answerReady q (.ok true) now idle historical)).effects = [.launchTask] ∧
      ∃ starts busy, (s.next (.answerReady q (.ok true) now idle historical)).pool =
        { s.pool with
          state := { s.pool.state with
            current := s.pool.state.current + 1
            recentStarts := starts }
          startCheckBusy := busy } := by
  have pos := poised.room_pos sl mem
  have capacity : s.pool.state.hasCapacity = true :=
    PoolState.hasCapacity_iff.mpr ⟨poised.running, (PoolState.room_pos.mp pos).1⟩
  have e : s.pool.respond (.answerReady q (.ok true) now idle historical) =
      askForTask (s.pool.launch now) [.launchTask] now idle := if_pos capacity
  obtain ⟨starts, fx, look, same, busy⟩ :=
    askForTask_looked (p := s.pool.launch now) poised.running [.launchTask] now idle
  rw [← e] at fx look same busy
  refine ⟨⟨?_, ?_⟩, ?_, fx, starts, _, look⟩
  · rw [Situation.next, look]
    exact poised.running
  · rw [← same] at busy
    exact busy
  · rw [room_launched pos, ← same]
    rfl

/-! ## From the first question to the end -/

/-- A check whose question is not answered with a yes is over. -/
lemma Slotted.over {s : Situation} {q} {answer : Except String Bool} {now : Instant} {idle : Bool}
    {historical : SystemInfo} (sl : Slotted s) (mem : q ∈ s.readyOpen) (other : answer ≠ .ok true) :
    (s.next (.answerReady q answer now idle historical)).readyOpen = [] := by
  have enabled : s.Enabled (.answerReady q answer now idle historical) := mem
  have unasked : (s.pool.respond (.answerReady q answer now idle historical)).asking = false := by
    match answer with
    | .error detail => rfl
    | .ok false => rfl
    | .ok true => exact absurd rfl other
  have none := newReady?_isSome (s := s) (e := .answerReady q answer now idle historical) rfl
  rw [unasked, Option.isSome_eq_false_iff, Option.isNone_iff_eq_none] at none
  rw [sl.close enabled rfl, none]
  rfl

/-- Where no question is open, the check is over. -/
lemma Answered.of_closed {σ : Type} {ask : σ → Except String Bool × σ} {now idle historical w s ms}
    {v t} (course : Answered ask now idle historical w s ms v t) (none : s.readyOpen = []) :
    ms = [] ∧ v = w ∧ t = s := by
  cases course with
  | rests => exact ⟨rfl, rfl, rfl⟩
  | answer mem =>
    rw [none] at mem
    cases mem

/-- The answers to a check are part of the run, and leave no question open. -/
lemma Answered.run {σ : Type} {ask : σ → Except String Bool × σ} {now idle historical w s later}
    {v t} (course : Answered ask now idle historical w s later v t) {ms} (run : Run ms s) :
    Run (later ++ ms) t ∧ t.readyOpen = [] := by
  induction course generalizing ms with
  | rests none => exact ⟨run, none⟩
  | @answer w s q later v t mem _ ih =>
    rw [List.append_assoc]
    exact ih (run.step mem)

/-- The effects of two stretches come one after the other. -/
@[simp]
lemma effectsOf_append (later earlier : List Moment) :
    effectsOf (later ++ earlier) = effectsOf earlier ++ effectsOf later := by
  rw [effectsOf, List.reverse_append, List.flatMap_append]
  rfl

/-- The effects of a single moment. -/
@[simp]
lemma effectsOf_singleton (m : Moment) : effectsOf [m] = m.effects := List.append_nil _

/-- Answers take nothing from the surroundings, so only their effects act upon these. -/
lemma Answered.surroundings {σ : Type} {ask : σ → Except String Bool × σ}
    {now idle historical w s later v t} (course : Answered ask now idle historical w s later v t) :
    t.toSurroundings = (effectsOf later).foldl .perform s.toSurroundings := by
  induction course with
  | rests => rfl
  | @answer w s q later v t _ _ ih =>
    rw [ih, effectsOf_append, effectsOf_singleton, List.foldl_append]
    rfl

/-- An optional value has one element or none. -/
@[simp]
lemma length_toList {α : Type} (o : Option α) : o.toList.length = o.isSome.toNat := by
  cases o with
  | none => rfl
  | some a => rfl

/-- Every question that a check asks is answered. -/
lemma Answered.readyAsked {σ : Type} {ask : σ → Except String Bool × σ}
    {now idle historical w s later v t} (course : Answered ask now idle historical w s later v t)
    (sl : Slotted s) : t.readyAsked + s.readyOpen.length = s.readyAsked + later.length := by
  induction course with
  | rests none =>
    rw [none]
    rfl
  | @answer w s q later v t mem _ ih =>
    have enabled : s.Enabled (.answerReady q (ask w).1 now idle historical) := mem
    have asked := ih (sl.next enabled)
    rw [sl.close enabled rfl, length_toList, Situation.next] at asked
    rw [sl.only mem, List.length_append]
    dsimp only [List.length_singleton] at asked ⊢
    omega

section Ends

variable {answers : ℕ → Except String Bool} {room : ℕ∞} {historical : SystemInfo} {p q : Pool}
variable {fx : List PoolEffect} {count asked : ℕ}

/-- A look at the cap before the check does not matter for its end. -/
lemma CheckEnds.of_look {starts busy}
    (ends : CheckEnds answers room historical
      { p with state := { p.state with recentStarts := starts }, startCheckBusy := busy }
      q fx count asked) :
    CheckEnds answers room historical p q fx count asked := by
  cases ends with
  | spent enough asked fx rest => exact .spent enough asked fx rest
  | dry more no asked fx rest => exact .dry more no asked fx rest
  | failed more error asked fx rest => exact .failed more error asked fx rest

/-- A check that goes on after a yes ends with one more launch. -/
lemma CheckEnds.of_yes {starts busy} (yes : answers 0 = .ok true)
    (ends : CheckEnds (draw answers).2 room historical
      { p with
        state := { p.state with current := p.state.current + 1, recentStarts := starts }
        startCheckBusy := busy }
      q fx count asked) :
    CheckEnds answers (room + 1) historical p q (.launchTask :: fx) (count + 1) (asked + 1) := by
  have shift : p.state.current + 1 + count = p.state.current + (count + 1) := by
    rw [Nat.add_assoc, Nat.add_comm 1 count]
  have grown : ∀ starts1, grown { p with
      state := { p.state with current := p.state.current + 1, recentStarts := starts }
      startCheckBusy := busy } count starts1 = p.grown (count + 1) starts1 := by
    intro starts1
    rw [Pool.grown, shift]
    rfl
  have more : ∀ {a b : ℕ∞}, a < b → a + 1 < b + 1 := fun lt =>
    (ENat.add_lt_add_iff_right ENat.one_ne_top).mpr lt
  cases ends with
  | spent enough asked fx rest =>
    subst fx
    rw [grown] at rest
    refine .spent ?_ (congrArg (· + 1) asked) rfl rest
    rw [leadingYes_yes yes]
    exact add_le_add_left enough 1
  | dry less no asked fx rest =>
    subst fx
    rw [grown] at rest
    refine .dry ?_ no (congrArg (· + 1) asked) ?_ rest
    · rw [leadingYes_yes yes]
      exact more less
    · rw [← shift]
      rfl
  | failed less error asked fx rest =>
    subst fx
    rw [grown] at rest ⊢
    refine .failed ?_ error (congrArg (· + 1) asked) rfl rest
    rw [leadingYes_yes yes]
    exact more less

end Ends

/-- Without a launch a pool does not grow. -/
lemma grown_zero {p : Pool} (free : p.startCheckBusy = false) :
    p = p.grown 0 p.state.recentStarts := by
  rw [grown, ← free]
  rfl

/-- A check that asks no further has left the slot, for it has found no room. -/
lemma Poised.spent {s : Situation} {now : Instant} {idle : Bool} (poised : Poised s now idle)
    (sl : Slotted s) (none : s.readyOpen = []) :
    s.pool.startCheckBusy = false ∧ s.pool.room now idle = 0 := by
  have free : s.pool.startCheckBusy = false := by
    have slot := sl.slot
    rw [none] at slot
    cases busy : s.pool.startCheckBusy with
    | false => rfl
    | true => rw [busy] at slot; cases slot
  refine ⟨free, ?_⟩
  rw [← nonpos_iff_eq_zero, ← not_lt, ← poised.busy, free]
  exact Bool.false_ne_true

/-- An answer other than a yes ends the check with nothing launched. -/
lemma Poised.other {ms s now idle q} {answers : ℕ → Except String Bool} (run : Run ms s)
    (poised : Poised s now idle) (mem : q ∈ s.readyOpen) (other : answers 0 ≠ .ok true)
    (historical : SystemInfo) :
    CheckEnds answers (s.pool.room now idle) historical s.pool
      (s.next (.answerReady q (answers 0) now idle historical)).pool
      (s.pool.respond (.answerReady q (answers 0) now idle historical)).effects 0 1 := by
  have few : leadingYes answers < s.pool.room now idle := by
    rw [leadingYes_other other]
    exact poised.room_pos run.slotted mem
  cases h : answers 0 with
  | error detail =>
    have u : s.pool.unresolved = true := by
      rw [run.standing.unresolved, poised.running]
      rfl
    have e : s.pool.respond (.answerReady q (.error detail) now idle historical) =
        ⟨((s.pool.grown 0 s.pool.state.recentStarts).ended .failed),
          (s.pool.grown 0 s.pool.state.recentStarts).farewell
            (.error (.readinessFailed detail)) .failed historical, false⟩ := by
      rw [respond, answerReady, fail_open u]
      rfl
    rw [Situation.next, e]
    exact .failed few h rfl rfl rfl
  | ok ready =>
    cases ready with
    | true => exact absurd h other
    | false =>
      refine .dry few h rfl ?_ rfl
      simp [respond, answerReady, isDrained]

/-- From the first question of a check to its end, each yes takes one off the room and one off the
answers. -/
lemma Answered.counts {now idle historical answers s later rest t}
    (course : Answered draw now idle historical answers s later rest t) {ms} (run : Run ms s)
    (poised : Poised s now idle) :
    ∃ count : ℕ, count = min (s.pool.room now idle) (leadingYes answers) ∧
      CheckEnds answers (s.pool.room now idle) historical s.pool t.pool (effectsOf later) count
        later.length := by
  induction course generalizing ms with
  | @rests answers s none =>
    obtain ⟨free, spent⟩ := poised.spent run.slotted none
    refine ⟨0, ?_, .spent ?_ rfl rfl (grown_zero free)⟩
    · rw [spent, zero_min]
      rfl
    · rw [spent]
      exact zero_le
  | @answer answers s q later rest t mem course ih =>
    by_cases yes : answers 0 = .ok true
    · have first : (draw answers).1 = .ok true := yes
      rw [first] at ih
      obtain ⟨poised1, shrinks, launches, starts, busy, launched⟩ :=
        poised.yes run.slotted mem historical
      obtain ⟨count, count_eq, ends⟩ := ih (run.step mem) poised1
      refine ⟨count + 1, ?_, ?_⟩
      · rw [shrinks, leadingYes_yes yes, min_add_add_right, ← count_eq, Nat.cast_succ]
      · have fx : effectsOf (later ++ [⟨s, .answerReady q (.ok true) now idle historical⟩]) =
            .launchTask :: effectsOf later := by
          rw [effectsOf_append, effectsOf_singleton, Moment.effects, launches]
          rfl
        rw [launched] at ends
        rw [first, fx, shrinks, List.length_append, launched]
        exact ends.of_yes yes
    · -- Another answer than a yes is the last one.
      obtain ⟨rfl, _, rfl⟩ := course.of_closed (run.slotted.over mem yes)
      refine ⟨0, ?_, ?_⟩
      · rw [leadingYes_other yes]
        exact (min_eq_right zero_le).symm
      · rw [List.nil_append, effectsOf_singleton]
        exact poised.other run mem yes historical

/-- A check whose answers come at once comes to its end, for each yes leaves less room. -/
lemma Answered.exists {now idle historical n} {answers : ℕ → Except String Bool} {ms s}
    (run : Run ms s) (poised : Poised s now idle) (finite : s.pool.room now idle < (n : ℕ)) :
    ∃ later rest t, Answered draw now idle historical answers s later rest t := by
  -- The answers may go on forever, so the induction is on a bound of the room.
  induction n generalizing answers ms s with
  | zero => exact absurd finite not_lt_zero
  | succ n ih =>
    cases h : s.readyOpen with
    | nil => exact ⟨_, _, _, .rests h⟩
    | cons q open1 =>
      have mem : q ∈ s.readyOpen := h ▸ List.mem_cons_self
      by_cases yes : answers 0 = .ok true
      · obtain ⟨poised1, shrinks, _⟩ := poised.yes run.slotted mem historical
        rw [shrinks, Nat.cast_succ, ENat.add_lt_add_iff_right ENat.one_ne_top] at finite
        have first : (draw answers).1 = .ok true := yes
        have run1 := run.step (e := .answerReady q (.ok true) now idle historical) mem
        obtain ⟨later, rest, t, course⟩ := ih run1 poised1 finite
        exact ⟨_, _, _, .answer mem (first ▸ course)⟩
      · exact ⟨_, _, _, .answer mem (.rests (run.slotted.over mem yes))⟩

/-! ## The check as a whole -/

/-- The starts that a pool keeps tell those of the run within the last minute, where they matter. -/
lemma Run.room_eq {ms s now} (run : Run ms s) (clock : (times ms ++ [now]).Pairwise (· ≤ ·))
    (idle : Bool) :
    s.pool.room now idle = budget ms s now idle := by
  rw [Pool.room, budget]
  cases h : s.pool.config.maxTasksPerMinute with
  | none => rfl
  | some limit =>
    have re := run.remembers h (clock.sublist (List.sublist_append_left _ _))
    rw [re.startsWithin_eq clock]

/-- A check for ready tasks in a running pool, with the slot free and its answers coming at once,
launches as many tasks as the budget and the yeses admit, asks once for each, and once more if and
only if the budget is not spent. It changes nothing besides, unless an answer is an error. -/
theorem Run.greedy {ms s now} (run : Run ms s) (running : s.pool.phase = .running)
    (free : s.pool.startCheckBusy = false) (clock : (times ms ++ [now]).Pairwise (· ≤ ·))
    (timed idle : Bool) (historical : SystemInfo) (answers : ℕ → Except String Bool) :
    Greedy ms s timed now idle historical answers := by
  have begins : s.Enabled (.enterStartCheck timed now idle) := trivial
  obtain ⟨poised, same, still, starts, busy, looked⟩ :=
    Poised.enter running free timed now idle
  have run1 := run.step begins
  rw [run.room_eq clock idle] at same
  constructor
  · refine Answered.exists (n := s.pool.state.desired - s.pool.state.current + 1) run1 poised ?_
    rw [same, Nat.cast_succ]
    refine lt_of_le_of_lt (min_le_left _ _) ?_
    exact (ENat.lt_add_one_iff (ENat.natCast_ne_top _)).mpr le_rfl
  · intro later rest t course
    obtain ⟨run2, closed⟩ := course.run run1
    obtain ⟨count, count_eq, ends⟩ := course.counts run1 poised
    have asked := course.readyAsked run1.slotted
    have none : s.readyOpen = [] := by
      apply List.eq_nil_of_length_eq_zero
      rw [run.slotted.slot, free]
      rfl
    rw [same] at count_eq ends
    rw [looked] at ends
    have silent : effectsOf [⟨s, .enterStartCheck timed now idle⟩] = [] := by
      rw [effectsOf_singleton, Moment.effects, still]
    refine ⟨count, effectsOf later, run2, closed, ?_, ?_, ?_, count_eq, ends.of_look⟩
    · rw [next_readyOpen rfl, none, List.nil_append, length_toList, Situation.next] at asked
      dsimp only at asked
      omega
    · rw [effectsOf_append, silent]
      rfl
    · rw [course.surroundings, Situation.next, still]
      rfl

/-- Of tasks without end, an overloaded pool launches as many as its floor, and asks no further. -/
theorem Run.greedy_of_floor :
    ∃ ms s historical, Run ms s ∧ s.pool.phase = .running ∧ s.pool.startCheckBusy = false ∧
      (times ms ++ [5]).Pairwise (· ≤ ·) ∧
      Greedy ms s true 5 false historical (fun _ => .ok true) ∧
      ∃ later rest t, Answered draw 5 false historical (fun _ => .ok true)
        (s.next (.enterStartCheck true 5 false)) later rest t ∧
        t.inFlight = [0, 1] ∧ t.readyAsked = 2 := by
  obtain ⟨h⟩ := nonempty_systemInfo
  have run0 := Run.fresh (c := { minConcurrency := 2, maxTasksPerMinute := some 10 })
    (by decide +kernel)
  have run1 := run0.step (e := .callRun) trivial
  refine ⟨_, _, h, run1, rfl, rfl, ?clock, run1.greedy rfl rfl ?clock true false h _, _, _, _,
    .answer (q := ⟨0, 0, true, false, 2⟩) ?first
      (.answer (q := ⟨1, 0, true, false, 2⟩) ?second (.rests ?ended)), ?tasks, ?asked⟩
  case clock => exact List.pairwise_singleton _ _
  case first => exact List.mem_cons_self
  case second => exact List.mem_cons_self
  case ended => rfl
  case tasks => rfl
  case asked => rfl

end Pool

end Headroom
