import Headroom.Proofs.Num.Error
import Headroom.Sampling.FixedProbe

/-!
# Idle ticks

How closely doubles follow the exact fractions, both where a chosen load becomes idle ticks and
where idle ticks become a load again. `CpuTicks.usedRatioSince?_error` says that the used part
between two readings is off by 2⁻⁵¹ at most, and `FixedProbe.idlePerRead_error` that the
idle ticks of a reading are the nearest count, or nearly so. There are never more of them than ticks
(`FixedProbe.IsLoad.idlePerRead_le`).
-/

namespace Headroom

/-! ## From idle ticks to a load -/

namespace Binary64

/-- Two rounded counts have nearly the quotient that the exact ones have. -/
lemma quotient_error {x y a b : ℚ} (part : |x - a| ≤ a / 2 ^ 53 + halfStep)
    (whole : |y - b| ≤ b / 2 ^ 53 + halfStep) (low : 0 ≤ x) (le : x ≤ y) (le1 : a ≤ b)
    (one : 1 ≤ b) : |x / y - a / b| ≤ 2 / 2 ^ 53 + 2 * halfStep := by
  have pos : 0 < b := lt_of_lt_of_le one_pos one
  have half : 0 ≤ halfStep := by
    rw [halfStep]
    positivity
  have undone : x / y * y = x := by
    rcases eq_or_lt_of_le (low.trans le) with zero | some
    · have none : x = 0 := le_antisymm (by linarith) low
      rw [none, zero_div, zero_mul]
    · exact div_mul_cancel₀ x some.ne'
  have ratio : 0 ≤ x / y ∧ x / y ≤ 1 := ⟨div_nonneg low (low.trans le), div_le_one_of_le₀ le
    (low.trans le)⟩
  -- Both errors are carried over to the whole, which is then divided out.
  have carried : (x / y - a / b) * b = (x - a) - x / y * (y - b) := by
    rw [sub_mul, div_mul_cancel₀ a pos.ne', mul_sub, undone]
    ring
  have scaled : |x / y * (y - b)| ≤ b / 2 ^ 53 + halfStep := by
    rw [abs_mul, abs_of_nonneg ratio.1]
    exact (mul_le_of_le_one_left (abs_nonneg _) ratio.2).trans whole
  have both : |x / y - a / b| * b ≤ (2 / 2 ^ 53 + 2 * halfStep) * b := by
    calc |x / y - a / b| * b
      _ = |(x - a) - x / y * (y - b)| := by
        rw [← carried, abs_mul, abs_of_pos pos]
      _ ≤ |x - a| + |x / y * (y - b)| := abs_sub _ _
      _ ≤ (a / 2 ^ 53 + halfStep) + (b / 2 ^ 53 + halfStep) := add_le_add part scaled
      _ ≤ (b / 2 ^ 53 + halfStep) + (b / 2 ^ 53 + halfStep) := by gcongr
      _ = 2 / 2 ^ 53 * b + 2 * halfStep * 1 := by ring
      _ ≤ (2 / 2 ^ 53 + 2 * halfStep) * b := by
        rw [add_mul]
        gcongr
  exact le_of_mul_le_mul_right both pos

/-- What the quotient of two counts leaves of one, after four roundings. -/
lemma one_sub_quotient_error {a b : Nat} (pos : 0 < b) (le : a ≤ b) (fits : b ≤ Nat.pow 2 64) :
    ∃ m, 1 - ofNat a / ofNat b = real false m ∧ m.isInfinite = false ∧
      |m.value - (1 - a / b)| ≤ 1 / 2 ^ 51 := by
  have part := ofNat_approximates (le.trans fits)
  have whole := ofNat_approximates fits
  have steps := Magnitude.steps_le_iff.mpr (ofNat_rank_mono le)
  have some : 0 < (Magnitude.nearest (b * stepsPerOne) 1).steps := by
    have one : 0 < (Magnitude.nearest (1 * stepsPerOne) 1).steps := by decide +kernel
    exact Nat.lt_of_lt_of_le one (Magnitude.steps_le_iff.mpr (ofNat_rank_mono pos))
  rw [ofNat, ofNat]
  generalize Magnitude.nearest (a * stepsPerOne) 1 = x,
    Magnitude.nearest (b * stepsPerOne) 1 = y at *
  obtain ⟨z, ez, quotient⟩ := div_approximates part.finite whole.finite some steps
  have values : x.value ≤ y.value := Magnitude.value_le_iff.mpr steps
  have ratio : x.value / y.value ≤ 1 := div_le_one_of_le₀ values y.value_nonneg
  have close : |x.value / y.value - a / b| ≤ 2 / 2 ^ 53 + 2 * halfStep :=
    quotient_error part.error whole.error x.value_nonneg values (Nat.cast_le.mpr le)
      (Nat.one_le_cast.mpr pos)
  have nonneg := z.value_nonneg
  obtain ⟨m, em, left⟩ :=
    one_sub_approximates (value?_unsigned quotient.finite) nonneg (quotient.ratio ratio)
  refine ⟨m, by rw [ez, em], left.finite, ?_⟩
  have small := halfStep_le
  obtain ⟨low, high⟩ := abs_le.mp close
  obtain ⟨low1, high1⟩ := abs_le.mp quotient.error
  obtain ⟨low2, high2⟩ := abs_le.mp left.error
  change m.value - (1 - z.value) ≤ (1 - z.value) / 2 ^ 53 + halfStep at high2
  change -((1 - z.value) / 2 ^ 53 + halfStep) ≤ m.value - (1 - z.value) at low2
  rw [abs_le]
  constructor
  · linarith
  · linarith

end Binary64

/-- Two readings give back the used part of the time between them, up to the roundings. -/
lemma CpuTicks.usedRatioSince?_error {t previous : CpuTicks} {idle total : Nat}
    (idle1 : t.idle = previous.idle + idle) (total1 : t.total = previous.total + total)
    (pos : 0 < total) (le : idle ≤ total) (fits : total ≤ Nat.pow 2 64) :
    ∃ ratio q, t.usedRatioSince? previous = some ratio ∧ ratio.value? = some q ∧ 0 ≤ q ∧ q ≤ 1 ∧
      |q - (1 - idle / total)| ≤ 1 / 2 ^ 51 := by
  obtain ⟨m, e, finite, error⟩ := Binary64.one_sub_quotient_error pos le fits
  have fraction : (idle / total : ℚ) ≤ 1 :=
    div_le_one_of_le₀ (Nat.cast_le.mpr le) (Nat.cast_nonneg _)
  have nonneg : (0 : ℚ) ≤ idle / total := div_nonneg (Nat.cast_nonneg _) (Nat.cast_nonneg _)
  obtain ⟨q, value, low, high, closer⟩ := Binary64.clamp_error (Binary64.value?_unsigned finite)
    (sub_nonneg.mpr fraction) (sub_le_self 1 nonneg)
  refine ⟨_, q, ?_, value, low, high, closer.trans error⟩
  rw [usedRatioSince?, idle1, total1, Nat.add_sub_cancel_left, Nat.add_sub_cancel_left]
  dsimp only
  rw [if_neg pos.ne', e]

/-! ## From a load to idle ticks -/

namespace FixedProbe

/-- Under a load that is no number nothing is idle. -/
@[simp]
lemma idlePerRead_nan : idlePerRead .nan = 0 := by
  have product : (1 - Binary64.nan) * Binary64.ofNat ticksPerRead = .nan := by decide +kernel
  rw [idlePerRead, product]
  rfl

/-- Up to the roundings, the idle ticks of a reading are the whole number nearest to what a load
leaves of all ticks. -/
lemma idlePerRead_error {ratio : Binary64} {q : ℚ} (value : ratio.value? = some q) (low : 0 ≤ q)
    (high : q ≤ 1) :
    |(idlePerRead ratio : ℚ) - (1 - q) * ticksPerRead| ≤ 1 / 2 + 1 / 2 ^ 42 := by
  obtain ⟨m, em, left⟩ := Binary64.one_sub_approximates value low high
  have unit : m.value ≤ 1 := left.ratio (sub_le_self 1 low)
  obtain ⟨e, ee, product⟩ := Binary64.mul_ofNat_approximates left.finite unit
    (n := ticksPerRead) (by decide)
  have rounded := Rounding.halfUp_error e.steps stepsPerOne_pos
  change |(Rounding.halfUp e.steps stepsPerOne : ℚ) - e.value| ≤ 1 / 2 at rounded
  have small := halfStep_le
  obtain ⟨low1, high1⟩ := abs_le.mp left.error
  obtain ⟨low2, high2⟩ := abs_le.mp product.error
  obtain ⟨low3, high3⟩ := abs_le.mp rounded
  have ticks : (ticksPerRead : ℚ) = 1000 := rfl
  rw [ticks] at low2 high2
  have few : (Rounding.halfUp e.steps stepsPerOne : ℚ) ≤ 1002 := by linarith
  have count : Rounding.halfUp e.steps stepsPerOne ≤ 1002 := by exact_mod_cast few
  rw [idlePerRead, em, ee, Binary64.roundToCount, min_eq_left (count.trans (by decide)), ticks,
    abs_le]
  constructor
  · linarith
  · linarith

/-- What comes of bringing any double into the range from zero to one. -/
def IsLoad (ratio : Binary64) : Prop :=
  ratio = .nan ∨ ∃ q, ratio.value? = some q ∧ 0 ≤ q ∧ q ≤ 1

/-- What is brought into the range from zero to one is a load. -/
lemma IsLoad.clamp (ratio : Binary64) : IsLoad (ratio.clamp 0 1) := by
  cases ratio with
  | nan => exact .inl (Binary64.clamp_nan 0 1)
  | real s m => exact .inr (Binary64.clamp_unit rfl)

/-- No reading has more idle ticks than ticks. -/
lemma IsLoad.idlePerRead_le {ratio : Binary64} (load : IsLoad ratio) :
    idlePerRead ratio ≤ ticksPerRead := by
  rcases load with rfl | ⟨q, value, low, high⟩
  · rw [idlePerRead_nan]
    exact Nat.zero_le _
  · obtain ⟨_, above⟩ := abs_le.mp (idlePerRead_error value low high)
    have ticks : (ticksPerRead : ℚ) = 1000 := rfl
    rw [ticks] at above
    have below : (idlePerRead ratio : ℚ) < (1001 : Nat) := by
      rw [Nat.cast_ofNat]
      linarith
    exact Nat.le_of_lt_succ (Nat.cast_lt.mp below)

end FixedProbe

end Headroom
