import Headroom.Proofs.Num.Nearest

/-!
# Shortest digits round back

`Magnitude.shortest` tests its candidates with natural numbers, and `Magnitude.nearest` rounds with
natural numbers of its own. The test accepts only what is rounded to the double in question
(`Decimal.rounded_of_admits`), so the digits that are written are rounded back to it, whatever the
search tried before (`Magnitude.shortest_rounded`).
-/

namespace Headroom

namespace Decimal

/-- The double nearest to a decimal. -/
def rounded (d : Decimal) : Magnitude := .nearest d.stepRatio.1 d.stepRatio.2

/-- A decimal is a quotient by something positive. -/
lemma stepRatio_pos (d : Decimal) : 0 < d.stepRatio.2 := by
  rw [stepRatio]
  split
  · exact Nat.one_pos
  · exact Nat.pow_pos (by decide)

/-- What passes the test is rounded to the double. -/
lemma rounded_of_admits {m : Magnitude} {d : Decimal} (h : m.admits d = true) : d.rounded = m := by
  simp only [Magnitude.admits] at h
  rw [rounded, ← m.ofRank_rank]
  split at h
  · next even =>
    simp only [Bool.and_eq_true, decide_eq_true_eq] at h
    exact Magnitude.nearest_of_between d.stepRatio_pos h.1 h.2 (.inl even)
  · simp only [Bool.and_eq_true, decide_eq_true_eq] at h
    exact Magnitude.nearest_of_between d.stepRatio_pos h.1.le h.2.le (.inr h)

/-- Zeros at the end of the digits may be moved into the exponent. -/
lemma rounded_shift (digits j : Nat) (e : Int) :
    rounded ⟨digits * 10 ^ j, e⟩ = rounded ⟨digits, e + j⟩ := by
  refine Magnitude.nearest_congr (stepRatio_pos _) (stepRatio_pos _) ?_
  simp only [stepRatio, Nat.pow_eq]
  -- Either exponent may be below zero, where its power of ten divides.
  split
  · next whole =>
    obtain ⟨a, rfl⟩ := Int.eq_ofNat_of_zero_le whole
    rw [if_pos (by omega), ← Int.natCast_add, Int.toNat_natCast, Int.toNat_natCast, Nat.pow_add]
    ring
  · next below =>
    obtain ⟨a, rfl⟩ : ∃ a : Nat, e = -a := ⟨e.natAbs, by omega⟩
    split
    · next whole =>
      obtain ⟨b, rfl⟩ : ∃ b : Nat, j = a + b := ⟨j - a, by omega⟩
      rw [show (-(a : Int) + ((a + b : Nat) : Int)).toNat = b by omega, Int.neg_neg,
        Int.toNat_natCast, Nat.pow_add]
      ring
    · obtain ⟨b, rfl⟩ : ∃ b : Nat, a = j + b := ⟨a - j, by omega⟩
      rw [show (-(-((j + b : Nat) : Int) + (j : Int))).toNat = b by omega, Int.neg_neg,
        Int.toNat_natCast, Nat.pow_add]
      ring

/-- Zeros at the end do not matter. -/
@[simp]
lemma stripZeros_rounded (fuel : Nat) (d : Decimal) : (stripZeros fuel d).rounded = d.rounded := by
  induction fuel generalizing d with
  | zero => rfl
  | succ fuel ih =>
    rw [stripZeros]
    split
    · next h =>
      rw [Bool.and_eq_true, decide_eq_true_eq, decide_eq_true_eq] at h
      have digits : d.digits / 10 * 10 ^ 1 = d.digits := by omega
      have shift := rounded_shift (d.digits / 10) 1 d.exponent
      rw [digits] at shift
      rw [ih]
      exact shift.symm
    · rfl

/-- Zero is rounded to zero. -/
lemma rounded_zero (e : Int) : rounded ⟨0, e⟩ = .zero := by
  refine Magnitude.nearest_eq_zero ?_
  have pos := stepRatio_pos ⟨0, e⟩
  have zero : (stepRatio ⟨0, e⟩).1 = 0 := by
    rw [stepRatio]
    split
    · simp only [Nat.zero_mul]
    · exact Nat.zero_mul _
  rw [zero]
  exact pos

end Decimal

namespace Magnitude

/-- A candidate that is found is rounded to the double. -/
lemma onGrid?_rounded {m : Magnitude} {e : Int} {d : Decimal} (h : m.onGrid? e = some d) :
    d.rounded = m := by
  rw [onGrid?] at h
  split at h
  · next lower upper =>
    cases h
    split
    · exact Decimal.rounded_of_admits upper
    · exact Decimal.rounded_of_admits lower
  · next lower _ =>
    cases h
    exact Decimal.rounded_of_admits lower
  · next _ upper =>
    cases h
    exact Decimal.rounded_of_admits upper
  · cases h

/-- Whatever is found on the way is rounded to the double. -/
lemma searchGrids_rounded {m : Magnitude} {fuel : Nat} {e : Int} {d : Decimal}
    (h : m.searchGrids fuel e = some d) : d.rounded = m := by
  induction fuel generalizing e with
  | zero => cases h
  | succ fuel ih =>
    rw [searchGrids] at h
    split at h
    · next found =>
      cases h
      exact onGrid?_rounded found
    · exact ih h

/-- The exact value of a double is rounded to it. -/
lemma rounded_steps {k : Nat} (unit : stepsPerOne = Nat.pow 2 k) (m : Magnitude) :
    Decimal.rounded ⟨m.steps * Nat.pow 5 k, -k⟩ = m := by
  refine (nearest_congr (Decimal.stepRatio_pos _) Nat.one_pos ?_).trans m.nearest_steps
  rw [Decimal.stepRatio, unit]
  simp only [Nat.pow_eq]
  split
  · next first =>
    obtain rfl : k = 0 := by omega
    simp
  · rw [Int.neg_neg, Int.toNat_natCast, Nat.mul_one, Nat.mul_assoc, ← Nat.mul_pow]

/-- The exact decimal of a double is rounded to it. -/
lemma exactDecimal_rounded (m : Magnitude) : m.exactDecimal.rounded = m := by
  have unit : stepsPerOne = Nat.pow 2 1074 := by decide +kernel
  have places : (-1074 : Int) = -((1074 : Nat) : Int) := rfl
  rw [exactDecimal, places]
  -- The places become a variable, so that no power is computed.
  generalize 1074 = k at unit ⊢
  exact rounded_steps unit m

/-- The shortest digits of a double are rounded to it. -/
lemma shortest_rounded (m : Magnitude) : m.shortest.rounded = m := by
  rw [shortest]
  split
  · next first =>
    rw [Decimal.rounded_zero, zero, ← ofRank_rank m, first]
    rfl
  · split
    · next d found =>
      rw [Decimal.stripZeros_rounded]
      exact searchGrids_rounded found
    · exact m.exactDecimal_rounded

end Magnitude

end Headroom
