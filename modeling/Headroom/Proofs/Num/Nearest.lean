import Mathlib.Tactic.Lemma
import Mathlib.Tactic.Linarith
import Mathlib.Tactic.Ring
import Headroom.Num.Shortest

/-!
# The nearest double

`Magnitude.nearest` finds the block of a quotient by its logarithm and rounds within the block.
`Magnitude.nearest_of_between` says what comes out without either: the double whose value lies so
near that the quotient is not past the midpoints to its two neighbours. So every double is nearest
to its own value (`Magnitude.nearest_steps`), and a quotient may be scaled
(`Magnitude.nearest_congr`).
-/

namespace Headroom

/-! ## Rounding a quotient -/

namespace Rounding

/-- A quotient rounds to `k` if it is within a half of it, and to an even `k` if it is a half
away. -/
lemma halfEven_eq {n d k : Nat} (pos : 0 < d) (above : 2 * k * d ≤ 2 * n + d)
    (below : 2 * n ≤ (2 * k + 1) * d)
    (tie : k % 2 = 0 ∨ (2 * k * d < 2 * n + d ∧ 2 * n < (2 * k + 1) * d)) :
    halfEven n d = k := by
  have parts := Nat.div_add_mod n d
  have rest := Nat.mod_lt n pos
  rw [halfEven]
  generalize n / d = q, n % d = r at *
  have low : q ≤ k := by
    by_contra h
    have := Nat.mul_le_mul_left d (Nat.not_le.mp h)
    nlinarith
  have high : k ≤ q + 1 := by
    by_contra h
    have := Nat.mul_le_mul_left d (Nat.not_le.mp h)
    nlinarith
  -- Which of the two it is, the remainder decides.
  obtain rfl | rfl : k = q ∨ k = q + 1 := by omega
  · have half : 2 * r ≤ d := by nlinarith
    rw [if_neg (by omega : ¬ d < 2 * r)]
    split
    · rfl
    · cases tie with
      | inl even => rw [if_pos even]
      | inr strict => nlinarith
  · have half : d ≤ 2 * r := by nlinarith
    rw [if_neg (by omega : ¬ 2 * r < d)]
    split
    · rfl
    · cases tie with
      | inl even => rw [if_neg (by omega)]
      | inr strict => nlinarith

/-- Rounding does not depend on a common factor. -/
lemma halfEven_mul_right (n d : Nat) {c : Nat} (pos : 0 < c) :
    halfEven (n * c) (d * c) = halfEven n d := by
  have lt (a b : Nat) : 2 * (a * c) < b * c ↔ 2 * a < b := by
    rw [← Nat.mul_assoc, Nat.mul_lt_mul_right pos]
  have gt (a b : Nat) : b * c < 2 * (a * c) ↔ b < 2 * a := by
    rw [← Nat.mul_assoc, Nat.mul_lt_mul_right pos]
  simp only [halfEven, Nat.mul_div_mul_right n d pos, Nat.mul_mod_mul_right, lt, gt]

/-- Equal quotients are rounded alike. -/
lemma halfEven_congr {n d m e : Nat} (pos : 0 < d) (pos1 : 0 < e) (same : n * e = m * d) :
    halfEven n d = halfEven m e := by
  rw [← halfEven_mul_right n d pos1, ← halfEven_mul_right m e pos, same, Nat.mul_comm e d]

end Rounding

namespace Magnitude

/-! ## The list of doubles -/

/-- Every place is some blocks on from a significand, which is short only in the first block. -/
lemma exists_block (r : Nat) :
    ∃ t k, r = t * 2 ^ 52 + k ∧ k < 2 ^ 53 ∧ (t = 0 ∨ 2 ^ 52 ≤ k) := by
  refine ⟨r / 2 ^ 52 - 1, r - (r / 2 ^ 52 - 1) * 2 ^ 52, ?_, ?_, ?_⟩
  · omega
  · omega
  · omega

/-- The value there is the significand times the stride. It may also be the first significand of the
next block. -/
lemma stepsAt_block {t k : Nat} (le : k ≤ 2 ^ 53) (normal : t = 0 ∨ 2 ^ 52 ≤ k) :
    stepsAt (t * 2 ^ 52 + k) = k * 2 ^ t := by
  rw [stepsAt]
  simp only [Nat.pow_eq]
  by_cases short : k < 2 ^ 52
  · obtain rfl : t = 0 := by omega
    rw [if_pos (by omega)]
    omega
  · rw [if_neg (by omega)]
    by_cases last : k = 2 ^ 53
    · obtain ⟨e1, e2⟩ : (t * 2 ^ 52 + k) / 2 ^ 52 - 1 = t + 1 ∧
        (t * 2 ^ 52 + k) % 2 ^ 52 = 0 := by omega
      rw [e1, e2, last, Nat.pow_succ]
      ring
    · obtain ⟨e1, e2⟩ : (t * 2 ^ 52 + k) / 2 ^ 52 - 1 = t ∧
        (t * 2 ^ 52 + k) % 2 ^ 52 + 2 ^ 52 = k := by omega
      rw [e1, e2]

/-- The next double is larger. -/
lemma stepsAt_lt_succ (r : Nat) : stepsAt r < stepsAt (r + 1) := by
  obtain ⟨t, k, rfl, lt, normal⟩ := exists_block r
  rw [stepsAt_block lt.le normal, Nat.add_assoc, stepsAt_block lt (by omega)]
  exact Nat.mul_lt_mul_of_pos_right (Nat.lt_succ_self k) (Nat.pow_pos Nat.two_pos)

/-! ## Rounding to a double -/

/-- Where the block of a quotient is known, only the rounding within it is left. -/
lemma nearest_of_block {n d t : Nat} (pos : 0 < d) (low : t = 0 ∨ 2 ^ (52 + t) * d ≤ n)
    (high : n < 2 ^ (53 + t) * d) :
    nearest n d = ofRank (t * 2 ^ 52 + Rounding.halfEven n (d * 2 ^ t)) := by
  -- The quotient lies between two powers of two, so its logarithm is known.
  have shift : (n / d).log2 - 52 = t := by
    have upper : n / d < 2 ^ (53 + t) := (Nat.div_lt_iff_lt_mul pos).mpr high
    by_cases zero : n / d = 0
    · have first : t = 0 := by
        refine low.resolve_right fun h => ?_
        have := (Nat.le_div_iff_mul_le pos).mpr h
        rw [zero] at this
        exact absurd this (Nat.not_le_of_lt (Nat.pow_pos Nat.two_pos))
      rw [zero, first]
      rfl
    · have := (Nat.log2_lt zero).mpr upper
      cases low with
      | inl first => omega
      | inr low =>
        have := (Nat.le_log2 zero).mpr ((Nat.le_div_iff_mul_le pos).mpr low)
        omega
  rw [nearest]
  simp only [Nat.pow_eq, shift]

/-- Within a block the double before is one stride less. -/
lemma stepsAt_pred {t k : Nat} (le : k < 2 ^ 53) (inner : t = 0 ∨ 2 ^ 52 < k) :
    stepsAt (t * 2 ^ 52 + k - 1) = (k - 1) * 2 ^ t := by
  cases k with
  | zero =>
    obtain rfl : t = 0 := by omega
    rfl
  | succ k =>
    rw [← Nat.add_assoc, Nat.add_sub_cancel, Nat.add_sub_cancel]
    exact stepsAt_block (by omega) (by omega)

/-- Within the block of a significand, a quotient rounds to it from a half of the stride around. -/
lemma nearest_of_significand {n d t k : Nat} (pos : 0 < d) (lt : k < 2 ^ 53)
    (reach : t = 0 ∨ 2 ^ 52 * (d * 2 ^ t) ≤ n)
    (above : 2 * k * (d * 2 ^ t) ≤ 2 * n + d * 2 ^ t)
    (below : 2 * n ≤ (2 * k + 1) * (d * 2 ^ t))
    (tie : k % 2 = 0 ∨ (2 * k * (d * 2 ^ t) < 2 * n + d * 2 ^ t ∧
      2 * n < (2 * k + 1) * (d * 2 ^ t))) :
    nearest n d = ofRank (t * 2 ^ 52 + k) := by
  have stride : 0 < d * 2 ^ t := Nat.mul_pos pos (Nat.pow_pos Nat.two_pos)
  have scale (j : Nat) : 2 ^ (j + t) * d = 2 ^ j * (d * 2 ^ t) := by ring
  have short : k * (d * 2 ^ t) + d * 2 ^ t ≤ 2 ^ 53 * (d * 2 ^ t) := by
    rw [← Nat.succ_mul]
    exact Nat.mul_le_mul_right _ lt
  rw [nearest_of_block (t := t) pos, Rounding.halfEven_eq stride above below tie]
  · rw [scale]
    exact reach
  · rw [scale]
    linarith

/-- Below the first significand of a block, a quotient rounds up to it from the block before. -/
lemma nearest_of_border {n d t : Nat} (pos : 0 < d)
    (low : 2 ^ 54 * (d * 2 ^ t) ≤ 2 * n + d * 2 ^ t) (high : n < 2 ^ 53 * (d * 2 ^ t)) :
    nearest n d = ofRank ((t + 1) * 2 ^ 52 + 2 ^ 52) := by
  have stride : 0 < d * 2 ^ t := Nat.mul_pos pos (Nat.pow_pos Nat.two_pos)
  have scale (j : Nat) : 2 ^ (j + t) * d = 2 ^ j * (d * 2 ^ t) := by ring
  have place : t * 2 ^ 52 + 2 ^ 53 = (t + 1) * 2 ^ 52 + 2 ^ 52 := by omega
  have rounds : Rounding.halfEven n (d * 2 ^ t) = 2 ^ 53 :=
    Rounding.halfEven_eq stride (by linarith) (by linarith) (.inl (by norm_num))
  rw [nearest_of_block (t := t) pos, rounds, place]
  · rw [scale]
    exact .inr (by linarith)
  · rw [scale]
    exact high

/-- Where both neighbours are a stride away, the midpoints are half a stride away. -/
lemma nearest_of_inner {n d t k : Nat} (pos : 0 < d) (lt : k < 2 ^ 53)
    (inner : t = 0 ∨ 2 ^ 52 < k) (low : (k * 2 ^ t + (k - 1) * 2 ^ t) * d ≤ 2 * n)
    (high : 2 * n ≤ (2 * k + 1) * (d * 2 ^ t))
    (tie : k % 2 = 0 ∨ ((k * 2 ^ t + (k - 1) * 2 ^ t) * d < 2 * n ∧
      2 * n < (2 * k + 1) * (d * 2 ^ t))) :
    nearest n d = ofRank (t * 2 ^ 52 + k) := by
  cases k with
  | zero => exact nearest_of_significand pos lt (by omega) (by omega) high (.inl rfl)
  | succ j =>
    have lower : ((j + 1) * 2 ^ t + j * 2 ^ t) * d + d * 2 ^ t =
        2 * (j + 1) * (d * 2 ^ t) := by ring
    rw [Nat.add_sub_cancel] at low tie
    refine nearest_of_significand pos lt (inner.imp_right fun long => ?_) (by linarith) high
      (tie.imp_right ?_)
    · have := Nat.mul_le_mul_right (d * 2 ^ t) long
      linarith
    · rintro ⟨strict, strict1⟩
      exact ⟨by linarith, strict1⟩

/-- Below the first significand of a block, the stride is that of the block before. -/
lemma nearest_of_first {n d t : Nat} (pos : 0 < d)
    (low : (2 ^ 52 * 2 ^ (t + 1) + (2 ^ 53 - 1) * 2 ^ t) * d ≤ 2 * n)
    (high : 2 * n ≤ (2 * 2 ^ 52 + 1) * (d * 2 ^ (t + 1))) :
    nearest n d = ofRank ((t + 1) * 2 ^ 52 + 2 ^ 52) := by
  by_cases reach : 2 ^ 52 * (d * 2 ^ (t + 1)) ≤ n
  · exact nearest_of_significand pos (by omega) (.inr reach) (by linarith) high
      (.inl (by norm_num))
  · have lower : (2 ^ 52 * 2 ^ (t + 1) + (2 ^ 53 - 1) * 2 ^ t) * d + d * 2 ^ t =
        2 ^ 54 * (d * 2 ^ t) := by
      norm_num
      ring
    have double : d * 2 ^ (t + 1) = 2 * (d * 2 ^ t) := by ring
    rw [double] at reach
    exact nearest_of_border pos (by linarith) (by linarith)

/-- A quotient between the midpoints to its neighbours rounds to the double at a place. A midpoint
goes to the even one of the two places. -/
lemma nearest_of_between {n d r : Nat} (pos : 0 < d)
    (low : (stepsAt r + stepsAt (r - 1)) * d ≤ 2 * n)
    (high : 2 * n ≤ (stepsAt r + stepsAt (r + 1)) * d)
    (tie : r % 2 = 0 ∨ ((stepsAt r + stepsAt (r - 1)) * d < 2 * n ∧
      2 * n < (stepsAt r + stepsAt (r + 1)) * d)) :
    nearest n d = ofRank r := by
  obtain ⟨t, k, rfl, lt, normal⟩ := exists_block r
  have value : stepsAt (t * 2 ^ 52 + k) = k * 2 ^ t := stepsAt_block lt.le normal
  have next : stepsAt (t * 2 ^ 52 + k + 1) = (k + 1) * 2 ^ t := by
    rw [Nat.add_assoc, stepsAt_block lt (by omega)]
  have upper : (k * 2 ^ t + (k + 1) * 2 ^ t) * d = (2 * k + 1) * (d * 2 ^ t) := by ring
  rw [value, next, upper] at high tie
  rw [value] at low
  -- The place before is in the same block, unless the significand is the first of its block.
  by_cases inner : t = 0 ∨ 2 ^ 52 < k
  · rw [stepsAt_pred lt inner] at low tie
    exact nearest_of_inner pos lt inner low high (tie.imp_left (by omega))
  · obtain ⟨some, rfl⟩ : t ≠ 0 ∧ k = 2 ^ 52 := by omega
    obtain ⟨t, rfl⟩ := Nat.exists_eq_add_one_of_ne_zero some
    have prior : stepsAt ((t + 1) * 2 ^ 52 + 2 ^ 52 - 1) = (2 ^ 53 - 1) * 2 ^ t := by
      rw [show (t + 1) * 2 ^ 52 + 2 ^ 52 - 1 = t * 2 ^ 52 + (2 ^ 53 - 1) by omega]
      exact stepsAt_block (by omega) (by omega)
    rw [prior] at low
    exact nearest_of_first pos low high

/-! ## Consequences -/

/-- A magnitude is found at its place. -/
@[simp]
lemma ofRank_rank (m : Magnitude) : ofRank m.rank = m := by
  obtain ⟨rank, le⟩ := m
  rw [ofRank, mk.injEq]
  exact Nat.min_eq_left le

/-- A double is nearest to its own value. -/
lemma nearest_steps (m : Magnitude) : nearest m.steps 1 = m := by
  have next := stepsAt_lt_succ m.rank
  have between : stepsAt (m.rank - 1) ≤ stepsAt m.rank ∧
      (m.rank % 2 = 0 ∨ stepsAt (m.rank - 1) < stepsAt m.rank) := by
    cases m.rank with
    | zero => exact ⟨Nat.le_refl _, .inl rfl⟩
    | succ r => exact ⟨(stepsAt_lt_succ r).le, .inr (stepsAt_lt_succ r)⟩
  rw [steps, nearest_of_between (r := m.rank) Nat.one_pos (by omega) (by omega) (by omega),
    ofRank_rank]

/-- A quotient is rounded as any other way of writing it. -/
lemma nearest_congr {n d m e : Nat} (pos : 0 < d) (pos1 : 0 < e) (same : n * e = m * d) :
    nearest n d = nearest m e := by
  have whole : n / d = m / e := by
    rw [← Nat.mul_div_mul_right n d pos1, ← Nat.mul_div_mul_right m e pos, same, Nat.mul_comm e d]
  rw [nearest, nearest]
  simp only [whole]
  have power : 0 < Nat.pow 2 ((m / e).log2 - 52) := Nat.pow_pos Nat.two_pos
  rw [Rounding.halfEven_congr (Nat.mul_pos pos power) (Nat.mul_pos pos1 power)]
  rw [← Nat.mul_assoc, ← Nat.mul_assoc, same]

/-- Less than half a step is rounded to zero. -/
lemma nearest_eq_zero {n d : Nat} (small : 2 * n < d) : nearest n d = zero := by
  rw [nearest_of_significand (t := 0) (k := 0) (by omega) (by omega) (.inl rfl) (by omega)
    (by omega) (.inl rfl)]
  rfl

end Magnitude

end Headroom
