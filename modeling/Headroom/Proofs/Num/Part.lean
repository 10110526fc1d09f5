import Headroom.Proofs.Config.Rules
import Headroom.Proofs.Num.Ratio

/-!
# Parts of counts

A ratio in `(0, 1]` times a count is rounded twice, and is still not above the rounded count
(`Binary64.ofNat_mul_rank_le`). Larger counts round to larger doubles, and larger doubles to larger
counts (`Binary64.ofNat_rank_mono`, `Binary64.roundToCount_mono`).
-/

namespace Headroom

namespace Rounding

/-- Rounding keeps the order of numerators. -/
lemma halfUp_mono {n m : Nat} (d : Nat) (le : n ≤ m) : halfUp n d ≤ halfUp m d := by
  rw [halfUp, halfUp]
  exact Nat.div_le_div_right (by omega)

end Rounding

/-- The part of a double that a ratio takes is not above it. -/
lemma Magnitude.nearest_part_le (m : Magnitude) {ratio : Magnitude}
    (le : ratio.steps ≤ stepsPerOne) :
    (nearest (m.steps * ratio.steps) stepsPerOne).rank ≤ m.rank := by
  have part := nearest_mono (n := m.steps * ratio.steps) (m := m.steps) stepsPerOne_pos
    Nat.one_pos (by rw [Nat.mul_one]; exact Nat.mul_le_mul_left _ le)
  rwa [nearest_steps] at part

namespace Binary64

/-- A ratio in `(0, 1]` has no sign and at most as many steps as one. -/
lemma isPositiveRatio_inv {x : Binary64} (ratio : x.isPositiveRatio = true) :
    ∃ m, x = .real false m ∧ m.isInfinite = false ∧ m.rank ≠ 0 ∧ m.steps ≤ stepsPerOne := by
  obtain ⟨q, value, pos, le⟩ := isPositiveRatio_iff.mp ratio
  obtain ⟨negative, m, rfl, finite, rfl⟩ := value?_eq_some value
  have unit : (0 : ℚ) < stepsPerOne := Nat.cast_pos.mpr stepsPerOne_pos
  rw [lt_div_iff₀ unit, zero_mul, Int.cast_pos] at pos
  rw [div_le_one unit] at le
  have plain := signedSteps_of_nonneg pos.le
  rw [plain] at pos le
  refine ⟨m, ?_, finite, ?_, by exact_mod_cast le⟩
  · cases negative with
    | true =>
      rw [signedSteps_true] at plain
      omega
    | false => rfl
  · intro zero
    rw [Magnitude.steps_eq_zero.mpr zero] at pos
    exact absurd pos (lt_irrefl _)

/-- Factors may be swapped. -/
lemma mul_comm (a b : Binary64) : a * b = b * a := by
  show a.mul b = b.mul a
  cases a with
  | nan =>
    cases b with
    | nan => rfl
    | real t n => rfl
  | real s m =>
    cases b with
    | nan => rfl
    | real t n =>
      rw [mul, mul, Bool.or_comm, Bool.or_comm (m.rank = 0), bne_comm (a := s), Nat.mul_comm]

/-- A part of a count is not above the count. -/
lemma ofNat_mul_rank_le (n : Nat) {x : Binary64} (ratio : x.isPositiveRatio = true) :
    ∃ part, ofNat n * x = .real false part ∧
      part.rank ≤ (Magnitude.nearest (n * stepsPerOne) 1).rank := by
  obtain ⟨m, rfl, finite, some, le⟩ := isPositiveRatio_inv ratio
  show ∃ part, (ofNat n).mul (.real false m) = _ ∧ _
  rw [ofNat, mul, finite, Bool.or_false]
  split
  · next infinite =>
    -- Of an infinite count every part is infinite, for the ratio is not zero.
    have top := Magnitude.eq_top _ infinite
    rw [top, decide_eq_false some, Bool.or_false, if_neg (by decide)]
    exact ⟨.top, rfl, le_rfl⟩
  · exact ⟨_, rfl, Magnitude.nearest_part_le _ le⟩

/-- Larger counts have no smaller doubles. -/
lemma ofNat_rank_mono {n m : Nat} (le : n ≤ m) :
    (Magnitude.nearest (n * stepsPerOne) 1).rank ≤ (Magnitude.nearest (m * stepsPerOne) 1).rank :=
  Magnitude.nearest_mono Nat.one_pos Nat.one_pos
    (Nat.mul_le_mul_right _ (Nat.mul_le_mul_right _ le))

/-- Larger doubles round to no smaller counts. -/
lemma roundToCount_mono {m n : Magnitude} (le : m.rank ≤ n.rank) :
    roundToCount (.real false m) ≤ roundToCount (.real false n) := by
  rw [roundToCount, roundToCount]
  exact min_le_min_right _ (Rounding.halfUp_mono _ (Magnitude.steps_le_iff.mpr le))

end Binary64

end Headroom
