import Headroom.Num.Numeral
import Headroom.Proofs.Num.Shortest

/-!
# Positional numerals

The shape of the numerals that `Decimal.positional` writes: digits without a zero in front of
others, a point, and more digits, which taken together denote the number
(`Decimal.positional_written`). Read as a decimal, the numeral of a double's shortest digits is that
double again (`Binary64.ofDecimal_shortest`).
-/

namespace Headroom

/-- The digits of a whole number: at least one, and no zero in front of others. -/
structure IsWhole (ds : List Char) : Prop where
  digits : ∀ c ∈ ds, c.isDigit = true
  lead : ds = ['0'] ∨ ∃ c cs, ds = c :: cs ∧ c ≠ '0'

/-- A whole number has a first digit. -/
lemma IsWhole.exists_cons {ds : List Char} (w : IsWhole ds) : ∃ c cs, ds = c :: cs := by
  obtain e | ⟨c, cs, e, _⟩ := w.lead
  · exact ⟨_, _, e⟩
  · exact ⟨_, _, e⟩

/-- The number that decimal digits denote. -/
def digitsNumber (ds : List Char) : Nat := Nat.ofDigitChars 10 ds 0

/-! ## Digits -/

/-- Only zero has the digit zero. -/
lemma digitChar_ne_zero : ∀ d < 10, d ≠ 0 → Nat.digitChar d ≠ '0' := by decide

/-- The digits of a count do not begin with zero, unless it is zero. -/
lemma decimalDigits_lead {n : Nat} (some : n ≠ 0) :
    ∃ c cs, decimalDigits n = c :: cs ∧ c ≠ '0' := by
  -- The first digit is that of the number without its last digit, unless there is only one.
  induction n using Nat.strong_induction_on with
  | _ n ih =>
    simp only [decimalDigits] at ih ⊢
    rw [Nat.toDigits_eq_if (by decide)]
    split
    · next small => exact ⟨_, _, rfl, digitChar_ne_zero n small some⟩
    · obtain ⟨c, cs, e, lead⟩ := ih (n / 10) (by omega) (by omega)
      rw [e]
      exact ⟨c, _, rfl, lead⟩

/-- The digits of a count are digits. -/
lemma decimalDigits_digits (n : Nat) : ∀ c ∈ decimalDigits n, c.isDigit = true :=
  fun _ mem => Nat.isDigit_of_mem_toDigits (by decide) (by decide) mem

/-- The digits of a count make a whole number. -/
lemma isWhole_decimalDigits (n : Nat) : IsWhole (decimalDigits n) := by
  refine ⟨decimalDigits_digits n, ?_⟩
  cases n with
  | zero => exact .inl rfl
  | succ n => exact .inr (decimalDigits_lead n.succ_ne_zero)

/-- The digits of a count denote it. -/
@[simp]
lemma digitsNumber_decimalDigits (n : Nat) : digitsNumber (decimalDigits n) = n :=
  Nat.ofDigitChars_ten_toDigits

/-- Zeros at the end multiply. -/
lemma digitsNumber_zeros (ds : List Char) (j : Nat) :
    digitsNumber (ds ++ List.replicate j '0') = digitsNumber ds * 10 ^ j := by
  rw [digitsNumber, Nat.ofDigitChars_append, Nat.ofDigitChars_replicate_zero, Nat.mul_comm,
    digitsNumber]

/-- Zeros in front do not matter. -/
@[simp]
lemma zeros_digitsNumber (j : Nat) (ds : List Char) :
    digitsNumber (List.replicate j '0' ++ ds) = digitsNumber ds := by
  rw [digitsNumber, Nat.ofDigitChars_append, Nat.ofDigitChars_replicate_zero, Nat.mul_zero,
    digitsNumber]

/-! ## The whole part and the fraction -/

namespace Decimal

/-- A whole part and a fraction denote a number, up to its rounding. -/
structure Written (d : Decimal) (whole fraction : List Char) : Prop where
  isWhole : IsWhole whole
  digits : ∀ c ∈ fraction, c.isDigit = true
  some : fraction ≠ []
  same : rounded ⟨digitsNumber (whole ++ fraction), -fraction.length⟩ = d.rounded

/-- The digits of a whole number, zeros, a point and one more zero. -/
lemma written_whole {n j : Nat} (h : n ≠ 0 ∨ j = 0) :
    Written ⟨n, j⟩ (decimalDigits n ++ List.replicate j '0') ['0'] := by
  refine ⟨⟨?_, ?_⟩, by simp, by simp, ?_⟩
  · simp only [List.mem_append, List.mem_replicate]
    rintro c (mem | ⟨_, rfl⟩)
    · exact decimalDigits_digits n c mem
    · rfl
  · by_cases zero : n = 0
    · obtain rfl : j = 0 := h.resolve_left (absurd zero)
      subst zero
      exact .inl rfl
    · obtain ⟨c, cs, e, lead⟩ := decimalDigits_lead zero
      rw [e]
      exact .inr ⟨c, _, rfl, lead⟩
  · have zeros : decimalDigits n ++ List.replicate j '0' ++ ['0'] =
        decimalDigits n ++ List.replicate (j + 1) '0' := by
      rw [List.replicate_succ', List.append_assoc]
    rw [zeros, digitsNumber_zeros, digitsNumber_decimalDigits, rounded_shift]
    congr 2
    simp

/-- Fewer digits than places stand behind the point, with zeros to fill the gap. -/
lemma written_small {n j : Nat} (short : (decimalDigits n).length ≤ j) :
    Written ⟨n, -j⟩ ['0']
      (List.replicate (j - (decimalDigits n).length) '0' ++ decimalDigits n) := by
  refine ⟨⟨by simp, .inl rfl⟩, ?_, ?_, ?_⟩
  · simp only [List.mem_append, List.mem_replicate]
    rintro c (⟨_, rfl⟩ | mem)
    · rfl
    · exact decimalDigits_digits n c mem
  · simp [decimalDigits]
  · have number := zeros_digitsNumber (j - (decimalDigits n).length + 1) (decimalDigits n)
    rw [List.replicate_succ, digitsNumber_decimalDigits] at number
    rw [← List.append_assoc, List.singleton_append, number, List.length_append,
      List.length_replicate, Nat.sub_add_cancel short]

/-- The point cuts the digits if there are more of them than places. -/
lemma written_cut {n j : Nat} (some : j ≠ 0) (long : j < (decimalDigits n).length) :
    Written ⟨n, -j⟩ ((decimalDigits n).take ((decimalDigits n).length - j))
      ((decimalDigits n).drop ((decimalDigits n).length - j)) := by
  have pos : n ≠ 0 := by
    rintro rfl
    exact some (Nat.lt_one_iff.mp long)
  refine ⟨⟨fun c mem => decimalDigits_digits n c (List.mem_of_mem_take mem), ?_⟩,
    fun c mem => decimalDigits_digits n c (List.mem_of_mem_drop mem), ?_, ?_⟩
  · obtain ⟨c, cs, e, lead⟩ := decimalDigits_lead pos
    obtain ⟨i, e1⟩ : ∃ i, (decimalDigits n).length - j = i + 1 :=
      Nat.exists_eq_add_one_of_ne_zero (by omega)
    rw [e1, e]
    exact .inr ⟨c, _, rfl, lead⟩
  · rw [Ne, List.drop_eq_nil_iff]
    omega
  · rw [List.take_append_drop, digitsNumber_decimalDigits, List.length_drop,
      Nat.sub_sub_self long.le]

/-- A numeral is a whole part, a point and a fraction, if no zero is to be followed by more. -/
lemma positional_written {d : Decimal} (h : d.digits ≠ 0 ∨ d.exponent ≤ 0) :
    ∃ whole fraction, d.positional ['.', '0'] = whole ++ '.' :: fraction ∧
      d.Written whole fraction := by
  obtain ⟨n, e⟩ := d
  dsimp only at h
  rw [positional]
  dsimp only
  split
  · next above =>
    obtain ⟨j, rfl⟩ := Int.eq_ofNat_of_zero_le above
    exact ⟨_, _, rfl, written_whole (by omega)⟩
  · next below =>
    obtain ⟨j, rfl⟩ : ∃ j : Nat, e = -j := ⟨e.natAbs, by omega⟩
    rw [Int.neg_neg, Int.toNat_natCast]
    split
    · next short => exact ⟨_, _, rfl, written_small short⟩
    · next long => exact ⟨_, _, rfl, written_cut (by omega) (Nat.not_le.mp long)⟩

/-! ## Reading a numeral -/

/-- A number with so few digits so far behind the point is rounded to zero. -/
lemma rounded_tiny {digits : Nat} {e : Int}
    (tiny : ((digits.log2 + 1 : Nat) : Int) + 3 * e < -1200) : rounded ⟨digits, e⟩ = .zero := by
  obtain ⟨j, rfl⟩ : ∃ j : Nat, e = -j := ⟨e.natAbs, by omega⟩
  refine Magnitude.nearest_eq_zero ?_
  have unit : stepsPerOne = Nat.pow 2 1074 := by decide +kernel
  rw [stepRatio, if_neg (by dsimp only; omega)]
  dsimp only
  rw [Int.neg_neg, Int.toNat_natCast, unit]
  simp only [Nat.pow_eq]
  -- A place behind the point is worth more than three bits.
  have room : digits.log2 + 1 + 1 + 1074 ≤ 3 * j := by omega
  generalize 1074 = k at room ⊢
  have bits := Nat.lt_log2_self (n := digits)
  calc 2 * (digits * 2 ^ k) < 2 * (2 ^ (digits.log2 + 1) * 2 ^ k) := by gcongr
    _ = 2 ^ (digits.log2 + 1 + 1 + k) := by ring
    _ ≤ 2 ^ (3 * j) := Nat.pow_le_pow_right Nat.two_pos room
    _ = 8 ^ j := by rw [Nat.pow_mul]
    _ ≤ 10 ^ j := Nat.pow_le_pow_left (by decide) j

end Decimal

/-- Short of the exponents that are cut off, reading a decimal rounds it. -/
lemma Binary64.ofDecimal_rounded (negative : Bool) (digits : Nat) {e : Int} (small : e ≤ 400) :
    ofDecimal negative digits e = .real negative (Decimal.rounded ⟨digits, e⟩) := by
  rw [ofDecimal]
  congr 1
  split
  · next zero => rw [zero, Decimal.rounded_zero]
  · rw [if_neg (by omega)]
    split
    · next tiny => exact (Decimal.rounded_tiny tiny).symm
    · rw [Decimal.rounded, Decimal.stepRatio]
      dsimp only
      split <;> rfl

namespace Magnitude

/-- The shortest digits are those of zero, or none but zero has them. -/
lemma shortest_canonical (m : Magnitude) : m.shortest.digits ≠ 0 ∨ m.shortest.exponent ≤ 0 := by
  by_cases zero : m.rank = 0
  · rw [shortest, if_pos zero]
    exact .inr (Int.le_refl 0)
  · refine .inl fun none => zero ?_
    have rounds := m.shortest_rounded
    rw [← rounds, show m.shortest = ⟨0, m.shortest.exponent⟩ by rw [← none], Decimal.rounded_zero]
    rfl

end Magnitude

/-- The numeral of a double's shortest digits reads as that double. -/
lemma Binary64.ofDecimal_shortest {m : Magnitude} {whole fraction : List Char}
    (w : m.shortest.Written whole fraction) (negative : Bool) :
    ofDecimal negative (digitsNumber (whole ++ fraction)) (-fraction.length) =
      .real negative m := by
  rw [ofDecimal_rounded negative _ (by omega), w.same, m.shortest_rounded]

end Headroom
