import Headroom.Proofs.Num.Order
import Headroom.Sampling.Reading

/-!
# Ratios of counts

Rounding keeps the order of quotients (`Magnitude.nearest_mono`), so a count of 64 bits is a finite
double, and one above zero is not rounded to zero. Dividing by such a count gives a number, and what
is brought into the range from zero to one then lies there (`Binary64.clamp_unit`). Therefore the
used part of the processor between two readings is a number in that range wherever there is one
(`CpuTicks.usedRatioSince?_eq_some`).
-/

namespace Headroom

/-! ## Rounding keeps order -/

namespace Rounding

/-- Rounding keeps the order of numerators. -/
lemma halfEven_le_of_le {n m d : Nat} (pos : 0 < d) (le : n ≤ m) :
    halfEven n d ≤ halfEven m d := by
  obtain ⟨above, _, tie⟩ := halfEven_spec n pos
  obtain ⟨_, below, tie1⟩ := halfEven_spec m pos
  generalize halfEven n d = k, halfEven m d = l at *
  by_contra h
  -- Both quotients would have to be the midpoint between two neighbours, of which one is odd.
  have next : 2 * (l + 1) * d ≤ 2 * k * d :=
    Nat.mul_le_mul_right d (Nat.mul_le_mul_left 2 (Nat.not_le.mp h))
  have upper : (2 * l + 1) * d + d = 2 * (l + 1) * d := by ring
  have mid : 2 * (l + 1) * d = 2 * k * d := by omega
  have same := Nat.eq_of_mul_eq_mul_right pos mid
  omega

/-- Rounding keeps the order of quotients. -/
lemma halfEven_mono {n d m e : Nat} (pos : 0 < d) (pos1 : 0 < e) (le : n * e ≤ m * d) :
    halfEven n d ≤ halfEven m e := by
  rw [← halfEven_mul_right n d pos1, ← halfEven_mul_right m e pos, Nat.mul_comm e d]
  exact halfEven_le_of_le (Nat.mul_pos pos pos1) le

end Rounding

namespace Magnitude

/-- The block of a quotient. -/
def blockOf (n d : Nat) : Nat := (n / d).log2 - 52

/-- The nearest double, by its block and the steps within it. -/
lemma nearest_eq (n d : Nat) :
    nearest n d = ofRank (blockOf n d * 2 ^ 52 + Rounding.halfEven n (d * 2 ^ blockOf n d)) := rfl

/-- A quotient lies below the end of its block. -/
lemma lt_blockOf (n : Nat) {d : Nat} (pos : 0 < d) : n < 2 ^ 53 * (d * 2 ^ blockOf n d) := by
  have scale : 2 ^ 53 * (d * 2 ^ blockOf n d) = 2 ^ (53 + blockOf n d) * d := by ring
  rw [scale, ← Nat.div_lt_iff_lt_mul pos]
  calc n / d
    _ < 2 ^ ((n / d).log2 + 1) := Nat.lt_log2_self
    _ ≤ 2 ^ (53 + blockOf n d) := Nat.pow_le_pow_right Nat.two_pos (by rw [blockOf]; omega)

/-- A quotient does not lie below the beginning of its block. -/
lemma blockOf_le {n d : Nat} (pos : 0 < d) (later : blockOf n d ≠ 0) :
    2 ^ 52 * (d * 2 ^ blockOf n d) ≤ n := by
  have scale : 2 ^ 52 * (d * 2 ^ blockOf n d) = 2 ^ (52 + blockOf n d) * d := by ring
  have log : 52 + blockOf n d = (n / d).log2 := by
    rw [blockOf] at later ⊢
    omega
  have some : n / d ≠ 0 := by
    intro zero
    rw [blockOf, zero] at later
    exact later rfl
  rw [scale, ← Nat.le_div_iff_mul_le pos, log]
  exact Nat.log2_self_le some

/-- A quotient is rounded to the first significand of the next block at most. -/
lemma halfEven_blockOf_le (n : Nat) {d : Nat} (pos : 0 < d) :
    Rounding.halfEven n (d * 2 ^ blockOf n d) ≤ 2 ^ 53 := by
  have stride : 0 < d * 2 ^ blockOf n d := Nat.mul_pos pos (Nat.pow_pos Nat.two_pos)
  rw [← Rounding.halfEven_mul (2 ^ 53) stride]
  exact Rounding.halfEven_le_of_le stride (lt_blockOf n pos).le

/-- Rounded within its block, a quotient does not fall below the beginning. -/
lemma le_halfEven_blockOf {n d : Nat} (pos : 0 < d) (later : blockOf n d ≠ 0) :
    2 ^ 52 ≤ Rounding.halfEven n (d * 2 ^ blockOf n d) := by
  have stride : 0 < d * 2 ^ blockOf n d := Nat.mul_pos pos (Nat.pow_pos Nat.two_pos)
  rw [← Rounding.halfEven_mul (2 ^ 52) stride]
  exact Rounding.halfEven_le_of_le stride (blockOf_le pos later)

/-- Larger quotients have no earlier blocks. -/
lemma blockOf_mono {n d m e : Nat} (pos : 0 < d) (pos1 : 0 < e) (le : n * e ≤ m * d) :
    blockOf n d ≤ blockOf m e := by
  have quotients : n / d ≤ m / e := by
    rw [← Nat.mul_div_mul_right n d pos1, ← Nat.mul_div_mul_right m e pos, Nat.mul_comm e d]
    exact Nat.div_le_div_right le
  have logs : (n / d).log2 ≤ (m / e).log2 := by
    by_cases zero : n / d = 0
    · rw [zero]
      exact Nat.zero_le _
    · have some := Nat.lt_of_lt_of_le (Nat.pos_of_ne_zero zero) quotients
      exact (Nat.le_log2 some.ne').mpr ((Nat.log2_self_le zero).trans quotients)
  rw [blockOf, blockOf]
  omega

/-- A larger quotient is not rounded to a smaller double. -/
lemma nearest_mono {n d m e : Nat} (pos : 0 < d) (pos1 : 0 < e) (le : n * e ≤ m * d) :
    (nearest n d).rank ≤ (nearest m e).rank := by
  have blocks := blockOf_mono pos pos1 le
  rw [nearest_eq, nearest_eq, ofRank, ofRank]
  refine min_le_min_right _ ?_
  by_cases same : blockOf n d = blockOf m e
  · rw [same]
    have power : 0 < 2 ^ blockOf m e := Nat.pow_pos Nat.two_pos
    refine Nat.add_le_add_left (Rounding.halfEven_mono ?_ ?_ ?_) _
    · exact Nat.mul_pos pos power
    · exact Nat.mul_pos pos1 power
    · rw [← Nat.mul_assoc, ← Nat.mul_assoc]
      exact Nat.mul_le_mul_right _ le
  · -- One block ends where the next one begins.
    have high := halfEven_blockOf_le n pos
    have low := le_halfEven_blockOf (n := m) pos1 (by omega)
    omega

end Magnitude

/-! ## Counts -/

namespace Binary64

/-- A count of 64 bits is a finite double. -/
lemma ofNat_finite {n : Nat} (lt : n < Nat.pow 2 64) :
    ∃ m, ofNat n = .real false m ∧ m.isInfinite = false ∧ (0 < n → 0 < m.rank) := by
  refine ⟨_, rfl, ?_, ?_⟩
  · have high := Magnitude.nearest_mono (n := n * stepsPerOne) (m := Nat.pow 2 64 * stepsPerOne)
      Nat.one_pos Nat.one_pos (Nat.mul_le_mul_right _ (Nat.mul_le_mul_right _ lt.le))
    have below : (Magnitude.nearest (Nat.pow 2 64 * stepsPerOne) 1).rank < Magnitude.top.rank := by
      decide +kernel
    exact beq_false_of_ne (Nat.ne_of_lt (Nat.lt_of_le_of_lt high below))
  · intro pos
    have low := Magnitude.nearest_mono (n := 1 * stepsPerOne) (m := n * stepsPerOne)
      Nat.one_pos Nat.one_pos (Nat.mul_le_mul_right _ (Nat.mul_le_mul_right _ pos))
    have above : 0 < (Magnitude.nearest (1 * stepsPerOne) 1).rank := by decide +kernel
    exact Nat.lt_of_lt_of_le above low

/-- A quotient of counts is not negative, and it is a number. -/
lemma ofNat_div_ofNat (a : Nat) {b : Nat} (pos : 0 < b) (lt : b < Nat.pow 2 64) :
    ∃ m, ofNat a / ofNat b = .real false m := by
  obtain ⟨n, e, finite, some⟩ := ofNat_finite lt
  have rank : n.rank ≠ 0 := (some pos).ne'
  show ∃ m, (ofNat a).div (ofNat b) = _
  rw [e, ofNat, div, if_neg (ne_true_of_eq_false finite), if_neg (ne_true_of_eq_false finite),
    if_neg rank]
  split
  · exact ⟨_, rfl⟩
  · exact ⟨_, rfl⟩

/-- Taking a number from a finite one leaves a number. -/
lemma sub_isNaN {s t : Bool} {m n : Magnitude} (finite : m.isInfinite = false) :
    (real s m - real t n).isNaN = false := by
  show ((real s m).add (neg (real t n))).isNaN = false
  rw [neg, add, if_neg (ne_true_of_eq_false finite)]
  dsimp only
  split
  · rfl
  · split
    · rfl
    · rfl

/-! ## The range from zero to one -/

/-- The value of the literal zero. -/
@[simp]
lemma value?_ofNat_zero : (0 : Binary64).value? = some 0 := by
  have zero : (0 : Binary64) = .zero := by decide +kernel
  rw [zero, value?_zero]

/-- A NaN stays one in any range. -/
@[simp]
lemma clamp_nan (low high : Binary64) : clamp .nan low high = .nan := by
  cases high with
  | _ => rfl

/-- A number brought into the range from zero to one lies there. -/
lemma clamp_unit {x : Binary64} (number : x.isNaN = false) :
    ∃ q, (x.clamp 0 1).value? = some q ∧ 0 ≤ q ∧ q ≤ 1 := by
  rw [clamp]
  split
  · exact ⟨0, value?_ofNat_zero, le_rfl, zero_le_one⟩
  · next low =>
    split
    · exact ⟨1, value?_one, zero_le_one, le_rfl⟩
    · next high =>
      cases x with
      | nan => cases number
      | real s m =>
        cases infinite : m.isInfinite with
        | true =>
          -- Neither infinity is within the range.
          rw [m.eq_top infinite] at low high
          cases s with
          | true => exact absurd (by decide +kernel) low
          | false => exact absurd (by decide +kernel) high
        | false =>
          have value := value?_finite s infinite
          rw [lt_iff value value?_ofNat_zero, not_lt] at low
          rw [lt_iff value?_one value, not_lt] at high
          exact ⟨_, value, low, high⟩

end Binary64

/-! ## The used part of the processor -/

namespace CpuTicks

/-- There is no ratio just if no time has passed. -/
lemma usedRatioSince?_eq_none {t previous : CpuTicks} :
    t.usedRatioSince? previous = none ↔ t.total ≤ previous.total := by
  rw [usedRatioSince?]
  dsimp only
  rw [← Nat.sub_eq_zero_iff_le]
  split
  · next zero => exact ⟨fun _ => zero, fun _ => rfl⟩
  · next some => exact ⟨nofun, fun zero => absurd zero some⟩

/-- Where the total count has grown, there is a used part, which is a number from zero to one. -/
lemma usedRatioSince?_eq_some {t previous : CpuTicks} (grown : previous.total < t.total)
    (fits : t.total < Nat.pow 2 64) :
    ∃ ratio q, t.usedRatioSince? previous = some ratio ∧ ratio.value? = some q ∧ 0 ≤ q ∧ q ≤ 1 := by
  have elapsed : 0 < t.total - previous.total := Nat.sub_pos_of_lt grown
  obtain ⟨m, e⟩ := Binary64.ofNat_div_ofNat (t.idle - previous.idle) elapsed
    (Nat.lt_of_le_of_lt (Nat.sub_le _ _) fits)
  obtain ⟨one, e1, finite, _⟩ := Binary64.ofNat_finite (n := 1) (by decide)
  have e2 : (1 : Binary64) = .real false one := e1
  have number : (1 - Binary64.ofNat (t.idle - previous.idle) /
      Binary64.ofNat (t.total - previous.total)).isNaN = false := by
    rw [e, e2]
    exact Binary64.sub_isNaN finite
  obtain ⟨q, within⟩ := Binary64.clamp_unit number
  refine ⟨_, q, ?_, within⟩
  rw [usedRatioSince?]
  dsimp only
  rw [if_neg elapsed.ne']

end CpuTicks

end Headroom
