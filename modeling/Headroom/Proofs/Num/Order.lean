import Mathlib.Algebra.Order.Field.Rat
import Mathlib.Order.Monotone.Basic
import Mathlib.Tactic.NormNum
import Mathlib.Tactic.Linarith
import Mathlib.Tactic.Positivity
import Headroom.Proofs.Num.Nearest
import Headroom.Time.Duration

/-!
# Doubles as rational numbers

Comparisons look at places in the list of all doubles, and conversions to nanoseconds at whole
numbers of steps. Both come down to the value that a double stands for (`Binary64.value?`): places
are ordered as values are (`Binary64.le_iff`), and a conversion rounds the value
(`Duration.ofSeconds?_iff`).
-/

namespace Headroom

/-- The exact value of a finite double. -/
def Binary64.value? : Binary64 → Option ℚ
  | .nan => none
  | .real negative m =>
    if m.isInfinite then none else some (signedSteps negative m / stepsPerOne)

/-- One is some steps from zero. -/
lemma stepsPerOne_pos : 0 < stepsPerOne := by decide +kernel

/-! ## Order -/

namespace Magnitude

/-- There is only one infinite magnitude. -/
lemma eq_top (m : Magnitude) (h : m.isInfinite = true) : m = top := by
  obtain ⟨rank, le⟩ := m
  obtain rfl : rank = 2047 * Nat.pow 2 52 := beq_iff_eq.mp h
  rfl

/-- Later places are more steps from zero. -/
lemma stepsAt_strictMono : StrictMono stepsAt := strictMono_nat_of_lt_succ stepsAt_lt_succ

/-- Magnitudes are ordered as their steps are. -/
lemma steps_le_iff {m n : Magnitude} : m.steps ≤ n.steps ↔ m.rank ≤ n.rank :=
  stepsAt_strictMono.le_iff_le

/-- The first place is zero. -/
@[simp]
lemma stepsAt_zero : stepsAt 0 = 0 := by
  rw [stepsAt]
  rfl

/-- Only the first place is zero steps from zero. -/
lemma steps_eq_zero {m : Magnitude} : m.steps = 0 ↔ m.rank = 0 := by
  rw [steps, ← stepsAt_zero]
  exact stepsAt_strictMono.injective.eq_iff

end Magnitude

namespace Binary64

/-- Signed steps are ordered as signed places are. -/
lemma signedSteps_le_iff {s t : Bool} {m n : Magnitude} :
    signedSteps s m ≤ signedSteps t n ↔
      (if s then -(m.rank : Int) else m.rank) ≤ (if t then -(n.rank : Int) else n.rank) := by
  have mn := Magnitude.steps_le_iff (m := m) (n := n)
  have nm := Magnitude.steps_le_iff (m := n) (n := m)
  have m0 := Magnitude.steps_eq_zero (m := m)
  have n0 := Magnitude.steps_eq_zero (m := n)
  cases s with
  | true =>
    cases t with
    | true => simpa using nm
    | false => simp
  | false =>
    cases t with
    | true => simp; omega
    | false => simpa using mn

/-- The value of a finite double is its signed steps by the steps of one. -/
lemma value?_finite (s : Bool) {m : Magnitude} (finite : m.isInfinite = false) :
    (real s m).value? = some (signedSteps s m / stepsPerOne : ℚ) := by
  rw [value?, if_neg (ne_true_of_eq_false finite)]

/-- Infinities have no value. -/
@[simp]
lemma value?_top (s : Bool) : (real s .top).value? = none := by
  rw [value?]
  exact if_pos rfl

/-- Only finite doubles have a value. -/
lemma value?_eq_some {x : Binary64} {q : ℚ} (h : x.value? = some q) :
    ∃ s m, x = .real s m ∧ m.isInfinite = false ∧ q = signedSteps s m / stepsPerOne := by
  cases x with
  | nan => cases h
  | real s m =>
    rw [value?] at h
    split at h
    · cases h
    · next finite =>
      cases h
      exact ⟨s, m, rfl, eq_false_of_ne_true finite, rfl⟩

/-- Values are ordered as their steps are. -/
lemma steps_div_le_iff {i j : Int} : (i / stepsPerOne : ℚ) ≤ j / stepsPerOne ↔ i ≤ j := by
  rw [div_le_div_iff_of_pos_right (Nat.cast_pos.mpr stepsPerOne_pos), Int.cast_le]

/-- Comparison of finite doubles is comparison of their values. -/
lemma le_iff {a b : Binary64} {p q : ℚ} (ha : a.value? = some p) (hb : b.value? = some q) :
    a.le b = true ↔ p ≤ q := by
  obtain ⟨s, m, rfl, _, rfl⟩ := value?_eq_some ha
  obtain ⟨t, n, rfl, _, rfl⟩ := value?_eq_some hb
  rw [steps_div_le_iff, signedSteps_le_iff, le]
  exact decide_eq_true_iff

/-- What is less is at most as large. -/
lemma le_of_lt' {a b : Binary64} (h : a.lt b = true) : a.le b = true := by
  rw [lt] at h
  rw [le]
  split at h
  · exact decide_eq_true (Int.le_of_lt (of_decide_eq_true h))
  · cases h

/-- Doubles are less just if their values are. -/
lemma lt_iff {a b : Binary64} {p q : ℚ} (ha : a.value? = some p) (hb : b.value? = some q) :
    a.lt b = true ↔ p < q := by
  rw [← not_le, ← le_iff hb ha]
  obtain ⟨s, m, rfl, _, rfl⟩ := value?_eq_some ha
  obtain ⟨t, n, rfl, _, rfl⟩ := value?_eq_some hb
  rw [lt, le]
  simp only [place?, decide_eq_true_eq, not_le]

/-- Doubles are equal just if their values are. -/
lemma same_iff {a b : Binary64} {p q : ℚ} (ha : a.value? = some p) (hb : b.value? = some q) :
    a.same b = true ↔ p = q := by
  refine Iff.trans ?_ (le_antisymm_iff (a := p)).symm
  rw [← le_iff ha hb, ← le_iff hb ha]
  obtain ⟨s, m, rfl, _, rfl⟩ := value?_eq_some ha
  obtain ⟨t, n, rfl, _, rfl⟩ := value?_eq_some hb
  rw [same, le, le]
  simp only [place?, decide_eq_true_eq, beq_iff_eq]
  exact le_antisymm_iff

/-! ## Zero and one -/

/-- The value of zero. -/
@[simp]
lemma value?_zero : zero.value? = some 0 := by
  have steps : signedSteps false .zero = 0 := congrArg Nat.cast (Magnitude.steps_eq_zero.mpr rfl)
  rw [zero, value?_finite _ rfl, steps, Int.cast_zero, zero_div]

/-- The value of one. -/
@[simp]
lemma value?_one : (1 : Binary64).value? = some 1 := by
  have one : (1 : Binary64) = .real false (.ofRank (1023 * Nat.pow 2 52)) := by decide +kernel
  have steps : signedSteps false (.ofRank (1023 * Nat.pow 2 52)) = stepsPerOne := by
    decide +kernel
  have unit : (stepsPerOne : ℚ) ≠ 0 := Nat.cast_ne_zero.mpr stepsPerOne_pos.ne'
  rw [one, value?_finite _ (by decide +kernel), steps, Int.cast_natCast, div_self unit]

end Binary64

/-! ## Rounding -/

/-- A value lies within a half of a whole number, and strictly so if that is odd. -/
structure RoundsTo (q : ℚ) (k : Nat) : Prop where
  above : (k : ℚ) - 1 / 2 ≤ q
  below : q ≤ k + 1 / 2
  tie : k % 2 = 0 ∨ ((k : ℚ) - 1 / 2 < q ∧ q < k + 1 / 2)

namespace Rounding

/-- Rounding ends within half a unit, and at an even number where it is that far. -/
lemma halfEven_spec (n : Nat) {d : Nat} (pos : 0 < d) :
    2 * halfEven n d * d ≤ 2 * n + d ∧ 2 * n ≤ (2 * halfEven n d + 1) * d ∧
      (halfEven n d % 2 = 0 ∨
        (2 * halfEven n d * d < 2 * n + d ∧ 2 * n < (2 * halfEven n d + 1) * d)) := by
  have parts := Nat.div_add_mod n d
  have lt := Nat.mod_lt n pos
  have even (k : Nat) : 2 * k * d = 2 * (d * k) := by ring
  have odd (k : Nat) : (2 * k + 1) * d = 2 * (d * k) + d := by ring
  rw [even, odd, halfEven]
  generalize n / d = q, n % d = r at *
  split
  · omega
  · split
    · rw [Nat.mul_add_one]
      omega
    · split
      · omega
      · rw [Nat.mul_add_one]
        omega

/-- Rounding a quotient finds the one whole number that its value rounds to. -/
lemma halfEven_eq_iff {n d k : Nat} (pos : 0 < d) :
    halfEven n d = k ↔ RoundsTo (n / d) k := by
  have pos1 : (0 : ℚ) < d := Nat.cast_pos.mpr pos
  have above : (k : ℚ) - 1 / 2 ≤ n / d ↔ 2 * k * d ≤ 2 * n + d := by
    rw [le_div_iff₀ pos1, ← Nat.cast_le (α := ℚ)]
    push_cast
    constructor <;> intro h <;> linarith
  have below : (n / d : ℚ) ≤ k + 1 / 2 ↔ 2 * n ≤ (2 * k + 1) * d := by
    rw [div_le_iff₀ pos1, ← Nat.cast_le (α := ℚ)]
    push_cast
    constructor <;> intro h <;> linarith
  have above1 : (k : ℚ) - 1 / 2 < n / d ↔ 2 * k * d < 2 * n + d := by
    rw [lt_div_iff₀ pos1, ← Nat.cast_lt (α := ℚ)]
    push_cast
    constructor <;> intro h <;> linarith
  have below1 : (n / d : ℚ) < k + 1 / 2 ↔ 2 * n < (2 * k + 1) * d := by
    rw [div_lt_iff₀ pos1, ← Nat.cast_lt (α := ℚ)]
    push_cast
    constructor <;> intro h <;> linarith
  refine ⟨?_, ?_⟩
  · intro e
    obtain ⟨h1, h2, h3⟩ := halfEven_spec n pos
    rw [e] at h1 h2 h3
    exact ⟨above.mpr h1, below.mpr h2, by rwa [above1, below1]⟩
  · rintro ⟨h1, h2, h3⟩
    rw [above1, below1] at h3
    exact halfEven_eq pos (above.mp h1) (below.mp h2) h3

end Rounding

/-- A negative number has a negative value, unless it is zero. -/
lemma Binary64.signedSteps_nonneg_iff {negative : Bool} {m : Magnitude} :
    0 ≤ signedSteps negative m ↔ (negative && m.rank != 0) = false := by
  have rank := Magnitude.steps_eq_zero (m := m)
  cases negative with
  | true => simp [← rank]
  | false => simp

/-- Signed steps that are not negative are steps. -/
lemma Binary64.signedSteps_of_nonneg {negative : Bool} {m : Magnitude}
    (nonneg : 0 ≤ signedSteps negative m) : signedSteps negative m = m.steps := by
  cases negative with
  | true =>
    rw [signedSteps_true] at nonneg ⊢
    omega
  | false => rfl

/-- A number of seconds converts just if it is not negative, and then to the nearest nanosecond
count. -/
lemma Duration.ofSeconds?_iff {x : Binary64} {d : Duration} :
    ofSeconds? x = some d ↔ ∃ q, x.value? = some q ∧ 0 ≤ q ∧ RoundsTo (q * second) d ∧
      d < Nat.pow 2 64 * second := by
  cases x with
  | nan => exact ⟨nofun, nofun⟩
  | real negative m =>
    rw [ofSeconds?, Binary64.value?]
    cases infinite : m.isInfinite with
    | true =>
      rw [Bool.true_or, if_pos rfl, if_pos rfl]
      refine ⟨?_, ?_⟩
      · intro e
        cases e
      · rintro ⟨_, e, _⟩
        cases e
    | false =>
      rw [Bool.false_or, if_neg Bool.false_ne_true]
      have pos : (0 : ℚ) < stepsPerOne := Nat.cast_pos.mpr stepsPerOne_pos
      cases below : negative && m.rank != 0 with
      | true =>
        rw [if_pos rfl]
        refine ⟨?_, ?_⟩
        · intro e
          cases e
        · rintro ⟨q, e, nonneg, _⟩
          cases e
          rw [le_div_iff₀ pos, zero_mul, Int.cast_nonneg_iff, Binary64.signedSteps_nonneg_iff,
            below] at nonneg
          cases nonneg
      | false =>
        rw [if_neg Bool.false_ne_true]
        have nonneg := Binary64.signedSteps_nonneg_iff.mpr below
        have value : (Binary64.signedSteps negative m / stepsPerOne * second : ℚ) =
            (m.steps * second : Nat) / stepsPerOne := by
          rw [Binary64.signedSteps_of_nonneg nonneg]
          push_cast
          ring
        dsimp only
        refine ⟨?_, ?_⟩
        · intro e
          split at e
          · next lt =>
            have rounds := Option.some.inj e
            rw [rounds] at lt
            rw [Rounding.halfEven_eq_iff stepsPerOne_pos, ← value] at rounds
            exact ⟨_, rfl, div_nonneg (Int.cast_nonneg nonneg) pos.le, rounds, lt⟩
          · cases e
        · rintro ⟨q, e, _, rounds, lt⟩
          cases e
          rw [value, ← Rounding.halfEven_eq_iff stepsPerOne_pos] at rounds
          rw [rounds, if_pos lt]

end Headroom
