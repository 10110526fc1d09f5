import Headroom.Proofs.Num.Closest
import Headroom.Proofs.Num.Part

/-!
# Rounding errors

A double that is rounded from a number is off by a part of 2⁻⁵³ of it, or by half a step
(`Magnitude.Approximates`). This is so for every quotient that is not too large
(`Magnitude.nearest_approximates`), and hence for the operations on counts and ratios from zero to
one. What some operations in a row come to is then a matter of adding up errors.
-/

namespace Headroom

/-- Half of the smallest positive double. -/
def halfStep : ℚ := 1 / (2 * stepsPerOne)

/-- The value of a finite double without a sign. -/
def Magnitude.value (m : Magnitude) : ℚ := m.steps / stepsPerOne

/-- A double is rounded from a number that is not negative, up to its error. -/
structure Magnitude.Approximates (m : Magnitude) (r : ℚ) : Prop where
  finite : m.isInfinite = false
  error : |m.value - r| ≤ r / 2 ^ 53 + halfStep
  /-- No ratio is rounded above one. -/
  ratio : r ≤ 1 → m.value ≤ 1

/-- One is a positive number of steps. -/
lemma stepsPerOne_cast_pos : (0 : ℚ) < stepsPerOne := Nat.cast_pos.mpr stepsPerOne_pos

/-- Half a step is small beside any rounding of a count. -/
lemma halfStep_le : halfStep ≤ 1 / 2 ^ 110 := by
  have large : 2 ^ 110 ≤ 2 * stepsPerOne := by decide +kernel
  refine one_div_le_one_div_of_le (by positivity) ?_
  exact_mod_cast large

/-! ## One rounding -/

namespace Rounding

/-- The rounding of a quotient is within a half of it. -/
lemma halfEven_error (n : Nat) {d : Nat} (pos : 0 < d) :
    2 * Nat.dist (halfEven n d * d) n ≤ d := by
  obtain ⟨above, below, _⟩ := halfEven_spec n pos
  rw [Nat.mul_assoc] at above
  rw [Nat.add_mul, Nat.mul_assoc, Nat.one_mul] at below
  simp only [Nat.dist]
  omega

/-- Rounding is off by half a unit at most. -/
lemma halfUp_error (n : Nat) {d : Nat} (pos : 0 < d) : |(halfUp n d : ℚ) - n / d| ≤ 1 / 2 := by
  have pos1 : (0 : ℚ) < d := Nat.cast_pos.mpr pos
  have low : halfUp n d * (2 * d) ≤ 2 * n + d := Nat.div_mul_le_self _ _
  have high : 2 * n + d < halfUp n d * (2 * d) + 2 * d := Nat.lt_div_mul_add (by omega)
  have low1 : (halfUp n d : ℚ) * (2 * d) ≤ 2 * n + d := by exact_mod_cast low
  have high1 : (2 * n + d : ℚ) < halfUp n d * (2 * d) + 2 * d := by exact_mod_cast high
  rw [abs_le]
  constructor
  · rw [neg_le_sub_iff_le_add, div_le_iff₀ pos1]
    linarith
  · rw [sub_le_iff_le_add', ← sub_le_iff_le_add, le_div_iff₀ pos1]
    linarith

end Rounding

namespace Magnitude

/-- Magnitudes are not negative. -/
lemma value_nonneg (m : Magnitude) : 0 ≤ m.value :=
  div_nonneg (Nat.cast_nonneg _) stepsPerOne_cast_pos.le

/-- Values are ordered as steps are. -/
lemma value_le_iff {m n : Magnitude} : m.value ≤ n.value ↔ m.steps ≤ n.steps := by
  rw [value, value, div_le_div_iff_of_pos_right stepsPerOne_cast_pos, Nat.cast_le]

/-- A value is at most one if it has no more steps than one has. -/
lemma value_le_one {m : Magnitude} : m.value ≤ 1 ↔ m.steps ≤ stepsPerOne := by
  rw [value, div_le_one stepsPerOne_cast_pos, Nat.cast_le]

/-- A quotient of steps is rounded by a part of it, or by half a step. -/
lemma nearest_error {n d : Nat} (pos : 0 < d) (finite : (nearest n d).isInfinite = false) :
    2 ^ 54 * Nat.dist ((nearest n d).steps * d) n ≤ 2 * n + 2 ^ 53 * d := by
  have half := Rounding.halfEven_error n (Nat.mul_pos pos (Nat.pow_pos (n := blockOf n d) two_pos))
  have low := blockOf_le (n := n) pos
  have steps : (nearest n d).steps * d =
      Rounding.halfEven n (d * 2 ^ blockOf n d) * (d * 2 ^ blockOf n d) := by
    rw [nearest_steps_eq pos finite]
    ring
  rw [steps]
  by_cases first : blockOf n d = 0
  · rw [first, Nat.pow_zero, Nat.mul_one] at half ⊢
    omega
  · have large := low first
    omega

/-- What is no larger than a count of 64 bits is rounded to a finite double. -/
lemma nearest_finite {n d : Nat} (pos : 0 < d) (le : n ≤ Nat.pow 2 64 * stepsPerOne * d) :
    (nearest n d).isInfinite = false := by
  have high := nearest_mono (n := n) (m := Nat.pow 2 64 * stepsPerOne) pos Nat.one_pos
    (by rw [Nat.mul_one]; exact le)
  have below : (nearest (Nat.pow 2 64 * stepsPerOne) 1).rank < top.rank := by decide +kernel
  exact beq_false_of_ne (Nat.ne_of_lt (Nat.lt_of_le_of_lt high below))

/-- What is no larger than one is not rounded above one. -/
lemma nearest_steps_le {n d : Nat} (pos : 0 < d) (le : n ≤ stepsPerOne * d) :
    (nearest n d).steps ≤ stepsPerOne := by
  have high := nearest_mono (n := n) (m := stepsPerOne) pos Nat.one_pos
    (by rw [Nat.mul_one]; exact le)
  have one : (nearest stepsPerOne 1).steps = stepsPerOne := by decide +kernel
  rw [← one]
  exact steps_le_iff.mpr high

/-- The nearest double of a quotient approximates it. -/
lemma nearest_approximates {n d : Nat} (pos : 0 < d) (le : n ≤ Nat.pow 2 64 * stepsPerOne * d) :
    (nearest n d).Approximates (n / (d * stepsPerOne)) := by
  have finite := nearest_finite pos le
  have d0 : (0 : ℚ) < d := Nat.cast_pos.mpr pos
  have unit := stepsPerOne_cast_pos
  refine ⟨finite, ?_, ?_⟩
  · have error : (2 ^ 54 * Nat.dist ((nearest n d).steps * d) n : ℚ) ≤ 2 * n + 2 ^ 53 * d := by
      exact_mod_cast nearest_error pos finite
    have parts : (n / (d * stepsPerOne) / 2 ^ 53 + 1 / (2 * stepsPerOne)) * (d * stepsPerOne) =
        (n / 2 ^ 53 + d / 2 : ℚ) := by field_simp
    rw [value, Binary64.abs_steps_sub _ _ pos, halfStep, div_le_iff₀ (mul_pos d0 unit), parts]
    linarith
  · intro ratio
    rw [div_le_one (mul_pos d0 unit), mul_comm] at ratio
    exact value_le_one.mpr (nearest_steps_le pos (by exact_mod_cast ratio))

end Magnitude

/-! ## Operations -/

namespace Binary64

/-- The nearest double of a count approximates it. -/
lemma ofNat_approximates {n : Nat} (le : n ≤ Nat.pow 2 64) :
    (Magnitude.nearest (n * stepsPerOne) 1).Approximates n := by
  have rounds := Magnitude.nearest_approximates (n := n * stepsPerOne) Nat.one_pos
    (by rw [Nat.mul_one]; exact Nat.mul_le_mul_right _ le)
  rw [Nat.cast_mul, Nat.cast_one, one_mul, mul_div_cancel_right₀ _ stepsPerOne_cast_pos.ne']
    at rounds
  exact rounds

/-- The quotient of a double and one that is not smaller. -/
lemma div_approximates {m k : Magnitude} (finite : m.isInfinite = false)
    (finite1 : k.isInfinite = false) (pos : 0 < k.steps) (le : m.steps ≤ k.steps) :
    ∃ z, real false m / real false k = real false z ∧ z.Approximates (m.value / k.value) := by
  have rank : k.rank ≠ 0 := fun zero => pos.ne' (Magnitude.steps_eq_zero.mpr zero)
  have fits : m.steps * stepsPerOne ≤ Nat.pow 2 64 * stepsPerOne * k.steps := by
    rw [Nat.mul_assoc, Nat.mul_comm stepsPerOne, ← Nat.mul_assoc]
    exact Nat.mul_le_mul_right _ (le.trans (Nat.le_mul_of_pos_left _ (by decide)))
  have rounds := Magnitude.nearest_approximates pos fits
  rw [Nat.cast_mul, mul_div_mul_right _ _ stepsPerOne_cast_pos.ne'] at rounds
  refine ⟨.nearest (m.steps * stepsPerOne) k.steps, ?_, ?_⟩
  · show (real false m).div (real false k) = _
    rw [div, if_neg (ne_true_of_eq_false finite), if_neg (ne_true_of_eq_false finite1),
      if_neg rank]
    rfl
  · rw [Magnitude.value, Magnitude.value, div_div_div_cancel_right₀ stepsPerOne_cast_pos.ne']
    exact rounds

/-- A ratio times a count. -/
lemma mul_ofNat_approximates {m : Magnitude} (finite : m.isInfinite = false) (ratio : m.value ≤ 1)
    {n : Nat} (le : n ≤ 2 ^ 53) :
    ∃ e, real false m * ofNat n = real false e ∧ e.Approximates (m.value * n) := by
  obtain ⟨k, e, finite1, steps⟩ := ofNat_exact le
  have few : n ≤ Nat.pow 2 64 := le.trans (by decide)
  have fits : m.steps * k.steps ≤ Nat.pow 2 64 * stepsPerOne * stepsPerOne := by
    rw [steps, Nat.mul_comm]
    exact Nat.mul_le_mul (Nat.mul_le_mul_right _ few) (Magnitude.value_le_one.mp ratio)
  have rounds := Magnitude.nearest_approximates stepsPerOne_pos fits
  refine ⟨.nearest (m.steps * k.steps) stepsPerOne, ?_, ?_⟩
  · show (real false m).mul (ofNat n) = _
    rw [e, mul, finite, finite1, Bool.or_false, if_neg Bool.false_ne_true]
    rfl
  · have unit := stepsPerOne_cast_pos.ne'
    have target : m.value * n = (m.steps * k.steps : Nat) / (stepsPerOne * stepsPerOne) := by
      rw [steps, Magnitude.value]
      push_cast
      field_simp
    rw [target]
    exact rounds

/-- Steps that are taken from those of one are rounded once. -/
lemma one_sub_eq {s : Bool} {m : Magnitude} (finite : m.isInfinite = false) {left : Nat}
    (e : (left : Int) = stepsPerOne - signedSteps s m) :
    1 - real s m = real false (.nearest left 1) := by
  obtain ⟨one, e1, finite1, steps⟩ := ofNat_exact (n := 1) (by decide)
  have e2 : (1 : Binary64) = real false one := e1
  have sum : signedSteps false one + signedSteps (!s) m = left := by
    have plain : signedSteps false one = stepsPerOne := by
      rw [signedSteps_false, steps, Nat.one_mul]
    have turned : signedSteps (!s) m = -signedSteps s m := by cases s <;> simp
    rw [plain, turned, e]
    ring
  rw [e2]
  show (real false one).add (neg (real s m)) = _
  rw [neg, add, if_neg (ne_true_of_eq_false finite1), if_neg (ne_true_of_eq_false finite), sum]
  dsimp only
  split
  · next zero =>
    rw [Int.natCast_eq_zero.mp zero, Magnitude.nearest_eq_zero (by decide)]
    rfl
  · rw [Int.natAbs_natCast, decide_eq_false (Int.not_lt.mpr (Int.natCast_nonneg left))]

/-- What a number from zero to one leaves of one. -/
lemma one_sub_approximates {x : Binary64} {q : ℚ} (value : x.value? = some q) (low : 0 ≤ q)
    (high : q ≤ 1) : ∃ m, 1 - x = real false m ∧ m.Approximates (1 - q) := by
  obtain ⟨s, m, rfl, finite, rfl⟩ := value?_eq_some value
  have unit := stepsPerOne_cast_pos
  have nonneg : 0 ≤ signedSteps s m := by
    rw [le_div_iff₀ unit, zero_mul] at low
    exact_mod_cast low
  have le : signedSteps s m ≤ stepsPerOne := by
    rw [div_le_one unit] at high
    exact_mod_cast high
  obtain ⟨left, e⟩ := Int.eq_ofNat_of_zero_le (sub_nonneg.mpr le)
  have few : left ≤ Nat.pow 2 64 * stepsPerOne * 1 := by
    rw [Nat.mul_one]
    have more := Nat.le_mul_of_pos_left stepsPerOne (n := Nat.pow 2 64) (by decide)
    omega
  have target : (1 - signedSteps s m / stepsPerOne : ℚ) = left / ((1 : Nat) * stepsPerOne) := by
    have cast : (stepsPerOne - signedSteps s m : ℚ) = left := by exact_mod_cast e
    rw [Nat.cast_one, one_mul, ← cast, sub_div, div_self unit.ne']
  rw [target]
  exact ⟨_, one_sub_eq finite e.symm, Magnitude.nearest_approximates Nat.one_pos few⟩

/-- Bringing a number into the range from zero to one takes it no further from what lies there. -/
lemma clamp_error {x : Binary64} {p r : ℚ} (value : x.value? = some p) (low : 0 ≤ r)
    (high : r ≤ 1) :
    ∃ q, (x.clamp 0 1).value? = some q ∧ 0 ≤ q ∧ q ≤ 1 ∧ |q - r| ≤ |p - r| := by
  rw [clamp]
  split
  · next below =>
    rw [lt_iff value value?_ofNat_zero] at below
    refine ⟨0, value?_ofNat_zero, le_rfl, zero_le_one, ?_⟩
    rw [abs_of_nonpos (by linarith), abs_of_neg (by linarith)]
    linarith
  · next inside =>
    rw [lt_iff value value?_ofNat_zero, not_lt] at inside
    split
    · next above =>
      rw [lt_iff value?_one value] at above
      refine ⟨1, value?_one, zero_le_one, le_rfl, ?_⟩
      rw [abs_of_nonneg (by linarith), abs_of_pos (by linarith)]
      linarith
    · next inside1 =>
      rw [lt_iff value?_one value, not_lt] at inside1
      exact ⟨p, value, inside, inside1, le_rfl⟩

end Binary64

end Headroom
