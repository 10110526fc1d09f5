import Mathlib.Data.Nat.Dist
import Mathlib.Tactic.FieldSimp
import Headroom.Proofs.Num.Ratio

/-!
# The closest double

`Binary64.IsNearest` says which double is the rounding of a rational number, whatever way it is
found: no other value is nearer, and if one is as near, the chosen double is the one at an even
place. Numbers that are not negative have one such value at most (`Binary64.IsNearest.unique`), and
rounding a quotient finds it (`Binary64.isNearest_nearest`). Counts up to 2⁵³ are doubles themselves
(`Binary64.ofNat_exact`), so that dividing one by another gives the double nearest to the exact
quotient (`Binary64.ofNat_div_isNearest`).
-/

namespace Headroom

/-- The double is at an even place, which is to say that its significand is even. -/
def Binary64.isEven : Binary64 → Bool
  | .nan => false
  | .real _ m => m.rank % 2 == 0

/-- No value is nearer to a number than that of the double. If another one is as near, the double is
the even one of the two. -/
def Binary64.IsNearest (x : Binary64) (r : ℚ) : Prop :=
  ∃ q, x.value? = some q ∧ ∀ y p, Binary64.value? y = some p → p ≠ q →
    |q - r| < |p - r| ∨ (|q - r| = |p - r| ∧ x.isEven = true)

/-! ## Distances -/

/-- A quotient is rounded to the closest whole number. -/
lemma Rounding.halfEven_closest {n d j : Nat} (pos : 0 < d) (other : j ≠ halfEven n d) :
    Nat.dist (halfEven n d * d) n < Nat.dist (j * d) n ∨
      (Nat.dist (halfEven n d * d) n = Nat.dist (j * d) n ∧ halfEven n d % 2 = 0) := by
  obtain ⟨above, below, tie⟩ := halfEven_spec n pos
  generalize halfEven n d = k at *
  have even : 2 * k * d = 2 * (k * d) := Nat.mul_assoc 2 k d
  have odd : (2 * k + 1) * d = 2 * (k * d) + d := by rw [Nat.add_mul, even, Nat.one_mul]
  rw [even, odd] at tie
  rw [even] at above
  rw [odd] at below
  -- The other number is a whole unit away, and the quotient is within a half of `k`.
  have away : j * d + d ≤ k * d ∨ k * d + d ≤ j * d := by
    rw [← Nat.succ_mul, ← Nat.succ_mul]
    cases Nat.lt_or_gt_of_ne other with
    | inl less => exact .inl (Nat.mul_le_mul_right d less)
    | inr more => exact .inr (Nat.mul_le_mul_right d more)
  simp only [Nat.dist]
  omega

namespace Magnitude

/-- A finite rounding is a significand in the block of the quotient. -/
lemma nearest_block {n d : Nat} (finite : (nearest n d).isInfinite = false) :
    (nearest n d).rank = blockOf n d * 2 ^ 52 + Rounding.halfEven n (d * 2 ^ blockOf n d) := by
  have below : (nearest n d).rank ≠ 2047 * Nat.pow 2 52 := ne_of_beq_false finite
  rw [nearest_eq, ofRank] at below ⊢
  dsimp only at below ⊢
  omega

/-- The steps of the nearest double are those within its block, scaled. -/
lemma nearest_steps_eq {n d : Nat} (pos : 0 < d) (finite : (nearest n d).isInfinite = false) :
    (nearest n d).steps =
      Rounding.halfEven n (d * 2 ^ blockOf n d) * 2 ^ blockOf n d := by
  rw [steps, nearest_block finite]
  refine stepsAt_block (halfEven_blockOf_le n pos) ?_
  exact (Nat.eq_zero_or_pos _).imp_right fun later => le_halfEven_blockOf pos later.ne'

/-- Every value is a multiple of the stride of a block or lies below the block. -/
lemma stepsAt_multiple (r t : Nat) :
    (∃ j, stepsAt r = j * 2 ^ t) ∨ (t ≠ 0 ∧ stepsAt r < 2 ^ 52 * 2 ^ t) := by
  obtain ⟨u, k, rfl, lt, normal⟩ := exists_block r
  rw [stepsAt_block lt.le normal]
  cases Nat.lt_or_ge u t with
  | inl below =>
    refine .inr ⟨Nat.ne_zero_of_lt below, ?_⟩
    calc k * 2 ^ u
      _ < 2 ^ 53 * 2 ^ u := Nat.mul_lt_mul_of_pos_right lt (Nat.pow_pos Nat.two_pos)
      _ = 2 ^ 52 * 2 ^ (u + 1) := by ring
      _ ≤ 2 ^ 52 * 2 ^ t := Nat.mul_le_mul_left _ (Nat.pow_le_pow_right Nat.two_pos below)
  | inr above =>
    refine .inl ⟨k * 2 ^ (u - t), ?_⟩
    rw [Nat.mul_assoc, ← Nat.pow_add, Nat.sub_add_cancel above]

/-- A quotient is rounded to the closest value. -/
lemma nearest_closest {n d r : Nat} (pos : 0 < d) (finite : (nearest n d).isInfinite = false)
    (other : stepsAt r ≠ (nearest n d).steps) :
    Nat.dist ((nearest n d).steps * d) n < Nat.dist (stepsAt r * d) n ∨
      (Nat.dist ((nearest n d).steps * d) n = Nat.dist (stepsAt r * d) n ∧
        (nearest n d).rank % 2 = 0) := by
  have rank := nearest_block finite
  have low := blockOf_le (n := n) pos
  have closest := fun j => Rounding.halfEven_closest (n := n) (d := d * 2 ^ blockOf n d) (j := j)
    (Nat.mul_pos pos (Nat.pow_pos Nat.two_pos))
  have scale (j : Nat) : j * 2 ^ blockOf n d * d = j * (d * 2 ^ blockOf n d) := by ring
  rw [nearest_steps_eq pos finite] at other ⊢
  rw [scale]
  cases stepsAt_multiple r (blockOf n d) with
  | inl multiple =>
    obtain ⟨j, e⟩ := multiple
    rw [e] at other ⊢
    rw [scale]
    have far := closest j fun same => other (by rw [same])
    omega
  | inr below =>
    -- The first value of the block is nearer than what is below, and not nearer than the rounding.
    obtain ⟨later, lt⟩ := below
    have first := low later
    have lt1 := Nat.mul_lt_mul_of_pos_right lt pos
    rw [scale] at lt1
    refine .inl ?_
    by_cases same : 2 ^ 52 = Rounding.halfEven n (d * 2 ^ blockOf n d)
    · rw [← same]
      simp only [Nat.dist]
      omega
    · have near := closest (2 ^ 52) same
      simp only [Nat.dist] at near ⊢
      omega

/-- Every significand of up to 53 bits is found in every block. -/
lemma exists_stepsAt {k : Nat} (le : k ≤ 2 ^ 53) (t : Nat) : ∃ r, stepsAt r = k * 2 ^ t := by
  induction t generalizing k with
  | zero => exact ⟨_, stepsAt_block le (.inl rfl)⟩
  | succ t ih =>
    cases Nat.lt_or_ge k (2 ^ 52) with
    | inl short =>
      obtain ⟨r, e⟩ := ih (k := 2 * k) (by omega)
      refine ⟨r, ?_⟩
      rw [e]
      ring
    | inr long => exact ⟨_, stepsAt_block le (.inr long)⟩

end Magnitude

namespace Binary64

/-! ## The nearest double -/

/-- The value of a finite double without a sign. -/
lemma value?_unsigned {m : Magnitude} (finite : m.isInfinite = false) :
    (real false m).value? = some (m.steps / stepsPerOne : ℚ) := value?_finite false finite

/-- Differences of counts are distances. -/
lemma abs_sub_eq_dist (a b : Nat) : |(a : ℚ) - b| = Nat.dist a b := by
  cases Nat.le_total a b with
  | inl le => rw [Nat.dist_eq_sub_of_le le, Nat.cast_sub le, abs_sub_comm,
      abs_of_nonneg (sub_nonneg.mpr (Nat.cast_le.mpr le))]
  | inr le => rw [Nat.dist_eq_sub_of_le_right le, Nat.cast_sub le,
      abs_of_nonneg (sub_nonneg.mpr (Nat.cast_le.mpr le))]

/-- How far a value is from a quotient of steps. -/
lemma abs_steps_sub (a n : Nat) {d : Nat} (pos : 0 < d) :
    |(a / stepsPerOne - n / (d * stepsPerOne) : ℚ)| = Nat.dist (a * d) n / (d * stepsPerOne) := by
  have d0 : (0 : ℚ) < d := Nat.cast_pos.mpr pos
  have unit : (0 : ℚ) < stepsPerOne := Nat.cast_pos.mpr stepsPerOne_pos
  have common : (a / stepsPerOne - n / (d * stepsPerOne) : ℚ) =
      ((a * d : Nat) - n) / (d * stepsPerOne) := by
    push_cast
    field_simp
  rw [common, abs_div, abs_sub_eq_dist, abs_of_pos (mul_pos d0 unit)]

/-- Rounding a quotient finds the nearest double. -/
lemma isNearest_nearest {n d : Nat} (pos : 0 < d)
    (finite : (Magnitude.nearest n d).isInfinite = false) :
    (real false (.nearest n d)).IsNearest (n / (d * stepsPerOne)) := by
  have d0 : (0 : ℚ) < d := Nat.cast_pos.mpr pos
  have unit : (0 : ℚ) < stepsPerOne := Nat.cast_pos.mpr stepsPerOne_pos
  have scale : (0 : ℚ) < d * stepsPerOne := mul_pos d0 unit
  refine ⟨_, value?_unsigned finite, ?_⟩
  intro y p value other
  obtain ⟨s, m, rfl, _, rfl⟩ := value?_eq_some value
  rw [abs_steps_sub _ _ pos]
  by_cases nonneg : 0 ≤ signedSteps s m
  · rw [signedSteps_of_nonneg nonneg, Int.cast_natCast] at other ⊢
    rw [abs_steps_sub _ _ pos]
    have differs : m.steps ≠ (Magnitude.nearest n d).steps := fun same => other (by rw [same])
    refine (Magnitude.nearest_closest pos finite differs).imp ?_ ?_
    · intro near
      exact (div_lt_div_iff_of_pos_right scale).mpr (Nat.cast_lt.mpr near)
    · rintro ⟨tie, even⟩
      rw [isEven, beq_iff_eq]
      exact ⟨by rw [tie, ← Magnitude.steps], even⟩
  · -- Zero is nearer than what is below zero.
    refine .inl ?_
    have zero : Nat.dist ((Magnitude.nearest n d).steps * d) n ≤ n := by
      by_cases same : Magnitude.stepsAt 0 = (Magnitude.nearest n d).steps
      · rw [← same, Magnitude.stepsAt_zero, Nat.zero_mul, Nat.dist_zero_left]
      · have closest := Magnitude.nearest_closest pos finite same
        rw [Magnitude.stepsAt_zero, Nat.zero_mul, Nat.dist_zero_left] at closest
        omega
    have below : (signedSteps s m / stepsPerOne : ℚ) < 0 :=
      div_neg_of_neg_of_pos (Int.cast_lt_zero.mpr (not_le.mp nonneg)) unit
    have quotient : (0 : ℚ) ≤ n / (d * stepsPerOne) := div_nonneg (Nat.cast_nonneg n) scale.le
    rw [abs_sub_comm, abs_of_pos (by linarith)]
    calc (Nat.dist ((Magnitude.nearest n d).steps * d) n / (d * stepsPerOne) : ℚ)
      _ ≤ n / (d * stepsPerOne) := div_le_div_of_nonneg_right (Nat.cast_le.mpr zero) scale.le
      _ < n / (d * stepsPerOne) - signedSteps s m / stepsPerOne := by linarith

/-- What is nearest to a number that is not negative is not negative. -/
lemma IsNearest.nonneg {x : Binary64} {q r : ℚ} (nonneg : 0 ≤ r) (h : x.IsNearest r)
    (value : x.value? = some q) : 0 ≤ q := by
  obtain ⟨q', value', nearest⟩ := h
  obtain rfl : q' = q := Option.some.inj (value'.symm.trans value)
  by_contra below
  rw [not_le] at below
  have closer := nearest zero 0 value?_zero below.ne'
  rw [zero_sub, abs_neg, abs_of_nonneg nonneg, abs_of_neg (by linarith)] at closer
  cases closer with
  | inl lt => linarith
  | inr tie => linarith [tie.1]

/-- Between two even doubles there is another one. -/
lemma exists_between_even {x y : Binary64} {q p : ℚ} (hx : x.value? = some q)
    (hy : y.value? = some p) (evenX : x.isEven = true) (evenY : y.isEven = true) (nonneg : 0 ≤ q)
    (lt : q < p) : ∃ z v, Binary64.value? z = some v ∧ q < v ∧ v < p := by
  obtain ⟨s, m, rfl, _, rfl⟩ := value?_eq_some hx
  obtain ⟨t, n, rfl, finite, rfl⟩ := value?_eq_some hy
  have unit : (0 : ℚ) < stepsPerOne := Nat.cast_pos.mpr stepsPerOne_pos
  have nonnegX : 0 ≤ signedSteps s m := by
    rw [le_div_iff₀ unit, zero_mul] at nonneg
    exact Int.cast_nonneg_iff.mp nonneg
  have ltXY : signedSteps s m < signedSteps t n := by
    rw [div_lt_div_iff_of_pos_right unit] at lt
    exact Int.cast_lt.mp lt
  have plainX := signedSteps_of_nonneg nonnegX
  have plainY := signedSteps_of_nonneg (nonnegX.trans ltXY.le)
  rw [plainX, plainY, Int.ofNat_lt] at ltXY
  have ranks : m.rank < n.rank := Magnitude.stepsAt_strictMono.lt_iff_lt.mp ltXY
  rw [isEven, beq_iff_eq] at evenX evenY
  -- The place after the lower one is odd, so it is not the upper one.
  have next : m.rank + 1 < n.rank := by omega
  let z : Magnitude := ⟨m.rank + 1, next.le.trans n.rank_le⟩
  have finiteZ : z.isInfinite = false := beq_false_of_ne (Nat.ne_of_lt (next.trans_le n.rank_le))
  have lower : m.steps < z.steps := Magnitude.stepsAt_strictMono (Nat.lt_succ_self m.rank)
  have upper : z.steps < n.steps := Magnitude.stepsAt_strictMono next
  refine ⟨_, _, value?_unsigned finiteZ, ?_, ?_⟩
  · rw [plainX, Int.cast_natCast, div_lt_div_iff_of_pos_right unit]
    exact Nat.cast_lt.mpr lower
  · rw [plainY, Int.cast_natCast, div_lt_div_iff_of_pos_right unit]
    exact Nat.cast_lt.mpr upper

/-- Of two values that are both nearest to a number, neither is the smaller one. -/
lemma IsNearest.value_le {x y : Binary64} {q p r : ℚ} (nonneg : 0 ≤ r) (hx : x.IsNearest r)
    (hy : y.IsNearest r) (valueX : x.value? = some q) (valueY : y.value? = some p) : p ≤ q := by
  by_contra less
  have lt : q < p := not_le.mp less
  have nonnegX := hx.nonneg nonneg valueX
  obtain ⟨q', valueX', nearestX⟩ := hx
  obtain rfl : q' = q := Option.some.inj (valueX'.symm.trans valueX)
  obtain ⟨p', valueY', nearestY⟩ := hy
  obtain rfl : p' = p := Option.some.inj (valueY'.symm.trans valueY)
  have fromX := nearestX y p' valueY lt.ne'
  have fromY := nearestY x q' valueX lt.ne
  obtain ⟨tie, evenX, evenY⟩ : |q' - r| = |p' - r| ∧ x.isEven = true ∧ y.isEven = true := by
    rcases fromX with near | ⟨tie, evenX⟩ <;> rcases fromY with near1 | ⟨_, evenY⟩
    · exact absurd near near1.not_gt
    · linarith
    · linarith
    · exact ⟨tie, evenX, evenY⟩
  obtain ⟨z, v, valueZ, above, below⟩ :=
    exists_between_even valueX valueY evenX evenY nonnegX lt
  -- The number is the midpoint of the two, so what lies between them is nearer than they are.
  have middle : r = (q' + p') / 2 := by
    rcases abs_eq_abs.mp tie with same | mirrored
    · linarith
    · linarith
  have closer := nearestX z v valueZ above.ne'
  have far : |q' - r| = (p' - q') / 2 := by
    rw [abs_sub_comm, abs_of_pos (by linarith), middle]
    ring
  have near : |v - r| < (p' - q') / 2 := by
    rw [abs_lt, middle]
    exact ⟨by linarith, by linarith⟩
  rw [far] at closer
  cases closer with
  | inl lt => linarith
  | inr tie => linarith [tie.1]

/-- A number that is not negative has one nearest value. -/
lemma IsNearest.unique {x y : Binary64} {r : ℚ} (nonneg : 0 ≤ r) (hx : x.IsNearest r)
    (hy : y.IsNearest r) : x.value? = y.value? := by
  obtain ⟨q, valueX, _⟩ := id hx
  obtain ⟨p, valueY, _⟩ := id hy
  have low := hx.value_le nonneg hy valueX valueY
  have high := hy.value_le nonneg hx valueY valueX
  rw [valueX, valueY, le_antisymm high low]

/-! ## Counts -/

/-- A count of up to 53 bits is a double. -/
lemma ofNat_exact {n : Nat} (le : n ≤ 2 ^ 53) :
    ∃ m, ofNat n = .real false m ∧ m.isInfinite = false ∧ m.steps = n * stepsPerOne := by
  obtain ⟨r, e⟩ := Magnitude.exists_stepsAt le 1074
  have unit : stepsPerOne = 2 ^ 1074 := by decide +kernel
  have below : Magnitude.stepsAt r < Magnitude.stepsAt (2047 * Nat.pow 2 52) := by
    have last : 2 ^ 53 * 2 ^ 1074 < Magnitude.stepsAt (2047 * Nat.pow 2 52) := by decide +kernel
    rw [e]
    exact Nat.lt_of_le_of_lt (Nat.mul_le_mul_right _ le) last
  rw [← unit] at e
  have place : r < 2047 * Nat.pow 2 52 := Magnitude.stepsAt_strictMono.lt_iff_lt.mp below
  let m : Magnitude := ⟨r, place.le⟩
  have steps : m.steps = n * stepsPerOne := e
  refine ⟨m, ?_, beq_false_of_ne place.ne, steps⟩
  rw [ofNat, ← steps, Magnitude.nearest_steps]

/-- A quotient of such counts is rounded once. -/
lemma ofNat_div_eq {a b : Nat} (pos : 0 < b) (le : a ≤ b) (few : b ≤ 2 ^ 53) :
    ofNat a / ofNat b = .real false (.nearest (a * stepsPerOne) b) := by
  obtain ⟨m, e, finite, steps⟩ := ofNat_exact (le.trans few)
  obtain ⟨n, e1, finite1, steps1⟩ := ofNat_exact few
  have some : 0 < n.steps := by
    rw [steps1]
    exact Nat.mul_pos pos stepsPerOne_pos
  have rank : n.rank ≠ 0 := fun zero => some.ne' (Magnitude.steps_eq_zero.mpr zero)
  have same : Magnitude.nearest (m.steps * stepsPerOne) n.steps =
      .nearest (a * stepsPerOne) b := by
    refine Magnitude.nearest_congr some pos ?_
    rw [steps, steps1]
    ring
  show (ofNat a).div (ofNat b) = _
  rw [e, e1, div, if_neg (ne_true_of_eq_false finite), if_neg (ne_true_of_eq_false finite1),
    if_neg rank, same]
  rfl

/-- A part of a count is rounded to one at most. -/
lemma part_rank_le {a b : Nat} (pos : 0 < b) (le : a ≤ b) :
    (Magnitude.nearest (a * stepsPerOne) b).rank ≤ 1023 * Nat.pow 2 52 := by
  have one : (Magnitude.nearest (1 * stepsPerOne) 1).rank = 1023 * Nat.pow 2 52 := by
    decide +kernel
  rw [← one]
  refine Magnitude.nearest_mono pos Nat.one_pos ?_
  rw [Nat.mul_one, Nat.one_mul, Nat.mul_comm stepsPerOne]
  exact Nat.mul_le_mul_right _ le

/-- A part of a whole is finite. -/
lemma part_finite {a b : Nat} (pos : 0 < b) (le : a ≤ b) :
    (Magnitude.nearest (a * stepsPerOne) b).isInfinite = false :=
  beq_false_of_ne (Nat.ne_of_lt (Nat.lt_of_le_of_lt (part_rank_le pos le) (by decide)))

/-- The quotient of a count and a larger one is the double nearest to the exact quotient. -/
lemma ofNat_div_isNearest {a b : Nat} (pos : 0 < b) (le : a ≤ b) (few : b ≤ 2 ^ 53) :
    (ofNat a / ofNat b).IsNearest (a / b) := by
  have unit : (stepsPerOne : ℚ) ≠ 0 := Nat.cast_ne_zero.mpr stepsPerOne_pos.ne'
  have nearest := isNearest_nearest pos (part_finite pos le)
  rw [Nat.cast_mul, mul_div_mul_right _ _ unit] at nearest
  rw [ofNat_div_eq pos le few]
  exact nearest

end Binary64

end Headroom
