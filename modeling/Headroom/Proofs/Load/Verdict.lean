import Headroom.Load.Ratio
import Headroom.Config.Validation
import Headroom.Proofs.Num.Closest

/-!
# The verdict on a sample

The part of the snapshots that are overloaded is rounded to a double and held against a limit, which
is a rounded number itself. Rounding keeps order, so that of two samples the one with the larger
part is not judged more mildly (`LoadInfo.evaluate_mono`), and equal numbers are rounded alike, so
that a sample just at its limit is not overloaded. `LoadInfo.weighs` has what follows for the
verdict when a snapshot is changed or added, or when the limit is raised.
-/

namespace Headroom

/-! ## Order -/

namespace Binary64

/-- What is at most as large as something less is less. -/
lemma lt_of_le_of_lt' {a b c : Binary64} (h : a.le b = true) (h1 : b.lt c = true) :
    a.lt c = true := by
  rw [le] at h
  rw [lt] at h1 ⊢
  cases ea : a.place? with
  | none => rw [ea] at h; cases h
  | some i =>
    cases eb : b.place? with
    | none => rw [eb] at h1; cases h1
    | some j =>
      cases ec : c.place? with
      | none => rw [eb, ec] at h1; cases h1
      | some k =>
        rw [ea, eb] at h
        rw [eb, ec] at h1
        simp only [decide_eq_true_eq] at h h1 ⊢
        omega

/-- What is below a magnitude is below larger ones. -/
lemma lt_unsigned_mono {x : Binary64} {m n : Magnitude} (le : m.rank ≤ n.rank)
    (h : x.lt (.real false m) = true) : x.lt (.real false n) = true := by
  rw [lt] at h ⊢
  cases e : x.place? with
  | none => rw [e] at h; cases h
  | some i =>
    rw [e] at h
    simp only [place?, decide_eq_true_eq] at h ⊢
    exact Int.lt_of_lt_of_le h (Int.ofNat_le.mpr le)

/-- A part of a count is one at most. -/
lemma part_steps_le {a b : Nat} (pos : 0 < b) (le : a ≤ b) :
    (Magnitude.nearest (a * stepsPerOne) b).steps ≤ stepsPerOne := by
  have one : Magnitude.stepsAt (1023 * Nat.pow 2 52) = stepsPerOne := by decide +kernel
  exact (Magnitude.stepsAt_strictMono.monotone (part_rank_le pos le)).trans_eq one

/-- Only an empty part is rounded to zero. -/
lemma part_rank_pos {a b : Nat} (pos : 0 < b) (few : b ≤ 2 ^ 53) :
    0 < (Magnitude.nearest (a * stepsPerOne) b).rank ↔ 0 < a := by
  refine ⟨?_, ?_⟩
  · intro some
    by_contra none
    obtain rfl : a = 0 := by omega
    have zero : Magnitude.nearest (0 * stepsPerOne) b = .zero := by
      rw [Nat.zero_mul]
      exact Magnitude.nearest_eq_zero pos
    rw [zero] at some
    cases some
  · intro some
    have least : 0 < (Magnitude.nearest (1 * stepsPerOne) (2 ^ 53)).rank := by decide +kernel
    refine least.trans_le (Magnitude.nearest_mono (by decide) pos ?_)
    rw [Nat.mul_right_comm, Nat.mul_right_comm a]
    exact Nat.mul_le_mul_right _ (Nat.mul_le_mul some few)

end Binary64

namespace LoadInfo

/-! ## Statement -/

/-- What the verdict on a sample rests on, and what becomes of it when a snapshot is changed or
added and when the limit is raised. -/
structure Weighs {α : Type} [Snapshot α] (sample : List α) (limit : Binary64) : Prop where
  /-- Two samples with as many snapshots, and as many overloaded ones, are judged alike. -/
  counts : ∀ {β : Type} [Snapshot β] (other : List β), other.length = sample.length →
    other.countP isOverloaded = sample.countP isOverloaded →
    evaluate other limit = evaluate sample limit
  reordered : ∀ other : List α, other.Perm sample → evaluate other limit = evaluate sample limit
  /-- The overloaded part is rounded once, and the result is held against the limit. -/
  rounded : sample ≠ [] →
    (evaluate sample limit).actualRatio.IsNearest
        (sample.countP isOverloaded / sample.length) ∧
      (evaluate sample limit).overloaded = limit.lt (evaluate sample limit).actualRatio
  /-- An overloaded snapshot in the place of another or besides does not end an overload. -/
  turnedBusy : ∀ before old new after, sample = before ++ old :: after → isOverloaded new = true →
    (evaluate sample limit).overloaded = true →
    (evaluate (before ++ new :: after) limit).overloaded = true
  addedBusy : ∀ new, isOverloaded new = true → (evaluate sample limit).overloaded = true →
    (evaluate (sample ++ [new]) limit).overloaded = true
  /-- An idle one does not begin an overload. -/
  turnedIdle : ∀ before old new after, sample = before ++ old :: after → isOverloaded new = false →
    (evaluate sample limit).overloaded = false →
    (evaluate (before ++ new :: after) limit).overloaded = false
  addedIdle : ∀ new, isOverloaded new = false → (evaluate sample limit).overloaded = false →
    (evaluate (sample ++ [new]) limit).overloaded = false
  raised : ∀ higher : Binary64, limit.le higher = true →
    (evaluate sample limit).overloaded = false → (evaluate sample higher).overloaded = false
  /-- A sample whose overloaded part is the number that the limit stands for is not overloaded. -/
  atLimit : limit.IsNearest (sample.countP isOverloaded / sample.length) →
    (evaluate sample limit).overloaded = false
  one : limit.value? = some 1 → (evaluate sample limit).overloaded = false
  zero : limit.value? = some 0 →
    ((evaluate sample limit).overloaded = true ↔ ∃ s ∈ sample, isOverloaded s = true)

variable {α : Type} [Snapshot α] {sample other : List α} {limit : Binary64}

/-! ## One sample -/

/-- An empty sample is not overloaded. -/
lemma some_of_overloaded (busy : (evaluate sample limit).overloaded = true) : sample ≠ [] := by
  rintro rfl
  cases busy

/-- A sample that is not empty is judged by its rounded part. -/
lemma evaluate_eq (limit : Binary64) (some : sample ≠ []) (few : sample.length ≤ 2 ^ 53) :
    (evaluate sample limit).actualRatio =
        .real false (.nearest (sample.countP isOverloaded * stepsPerOne) sample.length) ∧
      (evaluate sample limit).overloaded = limit.lt (evaluate sample limit).actualRatio := by
  have pos := List.length_pos_iff.mpr some
  rw [evaluate, ofCounts, if_neg pos.ne']
  exact ⟨Binary64.ofNat_div_eq pos List.countP_le_length few, rfl⟩

/-- A sample is overloaded if the limit is below the rounded part of busy snapshots. -/
lemma overloaded_eq (some : sample ≠ []) (few : sample.length ≤ 2 ^ 53) :
    (evaluate sample limit).overloaded = limit.lt
      (.real false (.nearest (sample.countP isOverloaded * stepsPerOne) sample.length)) := by
  obtain ⟨actual, verdict⟩ := evaluate_eq limit some few
  rw [verdict, actual]

/-- Of two samples, the one with the larger overloaded part is overloaded if the other one is. -/
lemma evaluate_mono (some : other ≠ []) (few : sample.length ≤ 2 ^ 53)
    (few1 : other.length ≤ 2 ^ 53)
    (part : sample.countP isOverloaded * other.length ≤ other.countP isOverloaded * sample.length)
    (busy : (evaluate sample limit).overloaded = true) :
    (evaluate other limit).overloaded = true := by
  have some1 := some_of_overloaded busy
  rw [overloaded_eq some1 few] at busy
  rw [overloaded_eq some few1]
  refine Binary64.lt_unsigned_mono (Magnitude.nearest_mono ?_ ?_ ?_) busy
  · exact List.length_pos_iff.mpr some1
  · exact List.length_pos_iff.mpr some
  · rw [Nat.mul_right_comm, Nat.mul_right_comm (List.countP _ other)]
    exact Nat.mul_le_mul_right _ part

/-- A limit that is a number is held against the value of the rounded part. -/
lemma overloaded_iff {q : ℚ} (some : sample ≠ []) (few : sample.length ≤ 2 ^ 53)
    (value : limit.value? = .some q) :
    (evaluate sample limit).overloaded = true ↔ q <
      (Magnitude.nearest (sample.countP isOverloaded * stepsPerOne) sample.length).steps /
        stepsPerOne := by
  have finite := Binary64.part_finite (List.length_pos_iff.mpr some)
    (List.countP_le_length (p := isOverloaded))
  rw [overloaded_eq some few, Binary64.lt_iff value (Binary64.value?_unsigned finite)]

/-! ## Limits -/

/-- Without an overloaded snapshot there is no overload, for no limit is below zero. -/
lemma overloaded_of_none (few : sample.length ≤ 2 ^ 53) (fraction : limit.isFraction = true)
    (none : sample.countP isOverloaded = 0) : (evaluate sample limit).overloaded = false := by
  refine Bool.eq_false_iff.mpr fun overloaded => ?_
  have some := some_of_overloaded overloaded
  have low : Binary64.zero.le limit = true := (Bool.and_eq_true_iff.mp fraction).1
  rw [overloaded_eq some few, none, Nat.zero_mul,
    Magnitude.nearest_eq_zero (n := 0) (List.length_pos_iff.mpr some)] at overloaded
  exact absurd (Binary64.lt_of_le_of_lt' low overloaded) (by decide)

/-- The overloaded part and the limit are rounded alike. -/
lemma overloaded_of_isNearest (few : sample.length ≤ 2 ^ 53)
    (nearest : limit.IsNearest (sample.countP isOverloaded / sample.length)) :
    (evaluate sample limit).overloaded = false := by
  refine Bool.eq_false_iff.mpr fun overloaded => ?_
  have some := some_of_overloaded overloaded
  have pos := List.length_pos_iff.mpr some
  have le : sample.countP isOverloaded ≤ sample.length := List.countP_le_length
  have actual := Binary64.ofNat_div_isNearest pos le few
  rw [Binary64.ofNat_div_eq pos le few] at actual
  have value := (nearest.unique (by positivity) actual).trans
    (Binary64.value?_unsigned (Binary64.part_finite pos le))
  exact lt_irrefl _ ((overloaded_iff some few value).mp overloaded)

/-- Under a limit of one no sample is overloaded. -/
lemma overloaded_of_one (few : sample.length ≤ 2 ^ 53) (value : limit.value? = some 1) :
    (evaluate sample limit).overloaded = false := by
  refine Bool.eq_false_iff.mpr fun overloaded => ?_
  have some := some_of_overloaded overloaded
  have unit : (0 : ℚ) < stepsPerOne := Nat.cast_pos.mpr stepsPerOne_pos
  have above := (overloaded_iff some few value).mp overloaded
  rw [one_lt_div unit, Nat.cast_lt] at above
  have le := Binary64.part_steps_le (List.length_pos_iff.mpr some)
    (List.countP_le_length (p := isOverloaded))
  exact absurd above le.not_gt

/-- Under a limit of zero a sample is overloaded by any busy snapshot. -/
lemma overloaded_of_zero (few : sample.length ≤ 2 ^ 53) (value : limit.value? = some 0) :
    (evaluate sample limit).overloaded = true ↔ ∃ s ∈ sample, isOverloaded s = true := by
  by_cases some : sample = []
  · subst some
    exact ⟨nofun, fun ⟨_, mem, _⟩ => absurd mem List.not_mem_nil⟩
  have unit : (0 : ℚ) < stepsPerOne := Nat.cast_pos.mpr stepsPerOne_pos
  rw [overloaded_iff some few value, div_pos_iff_of_pos_right unit, Nat.cast_pos,
    Nat.pos_iff_ne_zero, ne_eq, Magnitude.steps_eq_zero, ← ne_eq, ← Nat.pos_iff_ne_zero,
    Binary64.part_rank_pos (List.length_pos_iff.mpr some) few, List.countP_pos_iff]

/-! ## One snapshot -/

/-- Turning one snapshot busy does not lower the count of busy ones. -/
lemma countP_turn_le (before after : List α) {low high : α}
    (le : isOverloaded low = true → isOverloaded high = true) :
    (before ++ low :: after).countP isOverloaded ≤
      (before ++ high :: after).countP isOverloaded := by
  rw [List.countP_append, List.countP_append, List.countP_cons, List.countP_cons]
  refine Nat.add_le_add_left (Nat.add_le_add_left ?_ _) _
  split
  · next busy => rw [if_pos (le busy)]
  · exact Nat.zero_le _

/-- Turning a snapshot busy keeps an overload. -/
lemma evaluate_turn {before after : List α} {low high : α}
    (few : (before ++ low :: after).length ≤ 2 ^ 53)
    (le : isOverloaded low = true → isOverloaded high = true)
    (busy : (evaluate (before ++ low :: after) limit).overloaded = true) :
    (evaluate (before ++ high :: after) limit).overloaded = true := by
  have size : (before ++ high :: after).length = (before ++ low :: after).length := by
    rw [List.length_append, List.length_append, List.length_cons, List.length_cons]
  refine evaluate_mono (by simp) few (size ▸ few) ?_ busy
  rw [size]
  exact Nat.mul_le_mul_right _ (countP_turn_le before after le)

/-- A snapshot that is added comes to one in each of the counts that it belongs to. -/
lemma countP_concat (sample : List α) (new : α) :
    (sample ++ [new]).countP isOverloaded =
      sample.countP isOverloaded + if isOverloaded new = true then 1 else 0 := by
  rw [List.countP_append, List.countP_singleton]

/-! ## Every sample -/

/-- The verdict on a sample of fewer than 2⁵³ snapshots under a limit from zero to one rests on how
many there are and how many of them are overloaded. With a larger overloaded part it is never
milder, with a smaller one never stricter, and a higher limit is never stricter either. -/
theorem weighs (few : sample.length < 2 ^ 53) (fraction : limit.isFraction = true) :
    Weighs sample limit where
  counts other size busy := by
    rw [evaluate, evaluate, size, busy]
  reordered other perm := by
    rw [evaluate, evaluate, perm.length_eq, perm.countP_eq]
  rounded some := by
    obtain ⟨_, verdict⟩ := evaluate_eq limit some few.le
    refine ⟨?_, verdict⟩
    have pos := List.length_pos_iff.mpr some
    rw [evaluate, ofCounts, if_neg pos.ne']
    exact Binary64.ofNat_div_isNearest pos List.countP_le_length few.le
  turnedBusy before old new after e busy overloaded := by
    subst e
    exact evaluate_turn few.le (fun _ => busy) overloaded
  addedBusy new busy overloaded := by
    refine evaluate_mono (by simp) few.le ?_ ?_ overloaded
    · rw [List.length_append, List.length_singleton]
      exact few
    · have le : sample.countP isOverloaded ≤ sample.length := List.countP_le_length
      rw [countP_concat, if_pos busy, List.length_append, List.length_singleton]
      nlinarith
  turnedIdle before old new after e idle calm := by
    subst e
    refine Bool.eq_false_iff.mpr fun overloaded => ?_
    have size : (before ++ new :: after).length < 2 ^ 53 := by
      rw [List.length_append, List.length_cons] at few ⊢
      exact few
    have le : isOverloaded new = true → isOverloaded old = true :=
      fun busy => absurd (idle.symm.trans busy) Bool.false_ne_true
    have still := evaluate_turn size.le le overloaded
    rw [calm] at still
    cases still
  addedIdle new idle calm := by
    have count : (sample ++ [new]).countP isOverloaded = sample.countP isOverloaded := by
      rw [countP_concat, if_neg (ne_true_of_eq_false idle), Nat.add_zero]
    have size : (sample ++ [new]).length = sample.length + 1 := List.length_append
    by_cases some : sample = []
    · subst some
      exact overloaded_of_none (size ▸ few) fraction count
    · refine Bool.eq_false_iff.mpr fun overloaded => ?_
      have part : (sample ++ [new]).countP isOverloaded * sample.length ≤
          sample.countP isOverloaded * (sample ++ [new]).length := by
        rw [count, size]
        exact Nat.mul_le_mul_left _ (Nat.le_succ _)
      have still := evaluate_mono some (size ▸ few) few.le part overloaded
      rw [calm] at still
      cases still
  raised higher le calm := by
    refine Bool.eq_false_iff.mpr fun overloaded => ?_
    have some := some_of_overloaded overloaded
    rw [overloaded_eq some few.le] at calm overloaded
    rw [Binary64.lt_of_le_of_lt' le overloaded] at calm
    cases calm
  atLimit := overloaded_of_isNearest few.le
  one := overloaded_of_one few.le
  zero := overloaded_of_zero few.le

/-- Two of ten wake-ups were late, which is just what a limit of a fifth allows. One more is not. -/
theorem weighs_at_limit :
    ∃ (sample : List EventLoopSnapshot) (late : EventLoopSnapshot),
      sample.length < 2 ^ 53 ∧ Binary64.isFraction 0.2 = true ∧ Weighs sample 0.2 ∧
      Binary64.IsNearest 0.2 (sample.countP isOverloaded / sample.length) ∧
      (evaluate sample 0.2).overloaded = false ∧
      (evaluate (sample ++ [late]) 0.2).overloaded = true := by
  let late : EventLoopSnapshot := ⟨0, true, 60, 50⟩
  let sample := List.replicate 2 late ++ List.replicate 8 ⟨0, false, 40, 50⟩
  have few : sample.length < 2 ^ 53 := by decide
  have fraction : Binary64.isFraction 0.2 = true := by decide +kernel
  have laws := weighs few fraction
  have fifth : (0.2 : Binary64) =
      Binary64.ofNat (sample.countP isOverloaded) / Binary64.ofNat sample.length := by
    decide +kernel
  have nearest : Binary64.IsNearest 0.2 (sample.countP isOverloaded / sample.length) := by
    rw [fifth]
    exact Binary64.ofNat_div_isNearest (by decide) (by decide) few.le
  exact ⟨sample, late, few, fraction, laws, nearest, laws.atLimit nearest, by decide +kernel⟩

end LoadInfo

end Headroom
