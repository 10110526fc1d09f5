import Headroom.Num.Rounding

/-!
# Double-precision numbers, exactly

The non-negative doubles, listed in increasing order from `0` to `∞`, are numbered by
`Magnitude.rank`; this number is also the double's bit pattern. Every finite double is a whole
number of *steps* of `2⁻¹⁰⁷⁴`, so an operation is an exact computation on natural numbers followed
by one rounding, `Magnitude.nearest`.

Comparison is comparison of signed ranks, and a NaN compares with nothing. Powers are written
`Nat.pow`, which names the same function whatever instances are in scope.
-/

namespace Headroom

/-- How many steps make one: the smallest positive double is one step. -/
def stepsPerOne : Nat := Nat.pow 2 1074

/-- A non-negative double or `∞`, given by its place in the increasing list of all of them. -/
structure Magnitude where
  rank : Nat
  rank_le : rank ≤ 2047 * Nat.pow 2 52
  deriving DecidableEq, Repr

namespace Magnitude

/-- The first double of the list. -/
def zero : Magnitude := ⟨0, Nat.zero_le _⟩

/-- The place of `∞`. -/
def top : Magnitude := ⟨2047 * Nat.pow 2 52, Nat.le_refl _⟩

/-- The double at a place, and `∞` at every place past the last. -/
def ofRank (r : Nat) : Magnitude :=
  ⟨min r (2047 * Nat.pow 2 52), Nat.min_le_right _ _⟩

/-- The value at a place, in steps. The list runs through blocks of `2 ^ 52` places; the first two
blocks advance by one step a place and each later block by twice the stride of the one before. -/
def stepsAt (rank : Nat) : Nat :=
  if rank / Nat.pow 2 52 = 0 then rank
  else (rank % Nat.pow 2 52 + Nat.pow 2 52) * Nat.pow 2 (rank / Nat.pow 2 52 - 1)

/-- The value in steps; that of `∞` is the first power of two too large for a double. -/
def steps (m : Magnitude) : Nat := stepsAt m.rank

/-- It is `∞`. -/
def isInfinite (m : Magnitude) : Bool := m.rank == top.rank

/-- The double nearest to `n / d` steps. Values are kept to 53 bits, a tie goes to the even
significand, and what rounds past the largest double is `∞`. -/
def nearest (n d : Nat) : Magnitude :=
  let shift := (n / d).log2 - 52
  ofRank (shift * Nat.pow 2 52 + Rounding.halfEven n (d * Nat.pow 2 shift))

end Magnitude

/-- A double-precision number. The two zeros are distinct values that compare equal. -/
inductive Binary64 where
  | nan
  | real (negative : Bool) (magnitude : Magnitude)
  deriving DecidableEq, Repr

namespace Binary64

/-- Zero without a sign. -/
def zero : Binary64 := .real false .zero
/-- The larger of the two infinities. -/
def infinity : Binary64 := .real false .top
/-- The smaller of the two infinities. -/
def negInfinity : Binary64 := .real true .top

instance : Inhabited Binary64 := ⟨zero⟩

/-! ## Bit patterns -/

/-- The 64-bit pattern, that of a NaN being the quiet one without sign or payload. -/
def toBits : Binary64 → Nat
  | .nan => 2047 * Nat.pow 2 52 + Nat.pow 2 51
  | .real negative m => (if negative then Nat.pow 2 63 else 0) + m.rank

/-! ## Order -/

/-- The signed place of a number, the same for both zeros. -/
def place? : Binary64 → Option Int
  | .nan => none
  | .real negative m => some (if negative then -(m.rank : Int) else m.rank)

/-- Strict order; false when either side is a NaN. -/
def lt (a b : Binary64) : Bool :=
  match a.place?, b.place? with
  | some i, some j => i < j
  | _, _ => false

/-- Order; false when either side is a NaN. -/
def le (a b : Binary64) : Bool :=
  match a.place?, b.place? with
  | some i, some j => i ≤ j
  | _, _ => false

/-- Numeric equality: the zeros agree, and a NaN differs from everything. -/
def same (a b : Binary64) : Bool :=
  match a.place?, b.place? with
  | some i, some j => i == j
  | _, _ => false

/-- It is no number. -/
def isNaN : Binary64 → Bool
  | .nan => true
  | .real .. => false

/-- Neither a NaN nor infinite. -/
def isFinite : Binary64 → Bool
  | .nan => false
  | .real _ m => !m.isInfinite

/-! ## Arithmetic -/

/-- The nearest double to a natural number. -/
def ofNat (n : Nat) : Binary64 := .real false (.nearest (n * stepsPerOne) 1)

/-- The nearest double to an integer. -/
def ofInt (i : Int) : Binary64 := .real (i < 0) (.nearest (i.natAbs * stepsPerOne) 1)

/-- The nearest double to `digits · 10 ^ exponent`, with a sign that zero keeps too. -/
def ofDecimal (negative : Bool) (digits : Nat) (exponent : Int) : Binary64 :=
  let size : Int := (digits.log2 + 1 : Nat)
  .real negative <|
    if digits = 0 then .zero
    else if 400 < exponent then .top
    else if size + 3 * exponent < -1200 then .zero
    else if 0 ≤ exponent then .nearest (digits * Nat.pow 10 exponent.toNat * stepsPerOne) 1
    else .nearest (digits * stepsPerOne) (Nat.pow 10 (-exponent).toNat)

instance (n : Nat) : OfNat Binary64 n := ⟨ofNat n⟩

/-- A literal with a fraction denotes the double nearest to it. -/
instance : OfScientific Binary64 where
  ofScientific digits negativeExponent exponent :=
    ofDecimal false digits (if negativeExponent then -(exponent : Int) else exponent)

/-- The number with the other sign. -/
def neg : Binary64 → Binary64
  | .nan => .nan
  | .real s m => .real (!s) m

/-- The value in steps with its sign. -/
def signedSteps (negative : Bool) (m : Magnitude) : Int :=
  if negative then -(m.steps : Int) else m.steps

/-- The steps of a positive number are those of its magnitude. -/
@[simp]
theorem signedSteps_false (m : Magnitude) : signedSteps false m = m.steps := rfl

/-- The steps of a negative number are those of its magnitude, with the other sign. -/
@[simp]
theorem signedSteps_true (m : Magnitude) : signedSteps true m = -m.steps := rfl

/-- The rounded sum. Two zeros of one sign add to that zero, and any other exact zero is `+0`. -/
def add : Binary64 → Binary64 → Binary64
  | .real s m, .real t n =>
    if m.isInfinite then
      if n.isInfinite && s != t then .nan else .real s m
    else if n.isInfinite then .real t n
    else
      let sum := signedSteps s m + signedSteps t n
      if sum = 0 then .real (s && t) .zero
      else .real (sum < 0) (.nearest sum.natAbs 1)
  | _, _ => .nan

/-- The rounded difference. -/
def sub (a b : Binary64) : Binary64 := a.add b.neg

/-- The rounded product. Zero times `∞` is a NaN. -/
def mul : Binary64 → Binary64 → Binary64
  | .real s m, .real t n =>
    if m.isInfinite || n.isInfinite then
      if m.rank = 0 || n.rank = 0 then .nan else .real (s != t) .top
    else .real (s != t) (.nearest (m.steps * n.steps) stepsPerOne)
  | _, _ => .nan

/-- The rounded quotient. `0 / 0` and `∞ / ∞` are NaNs, and any other division by zero is infinite.
-/
def div : Binary64 → Binary64 → Binary64
  | .real s m, .real t n =>
    if m.isInfinite then
      if n.isInfinite then .nan else .real (s != t) .top
    else if n.isInfinite then .real (s != t) .zero
    else if n.rank = 0 then
      if m.rank = 0 then .nan else .real (s != t) .top
    else .real (s != t) (.nearest (m.steps * stepsPerOne) n.steps)
  | _, _ => .nan

instance : Neg Binary64 := ⟨neg⟩
instance : Add Binary64 := ⟨add⟩
instance : Sub Binary64 := ⟨sub⟩
instance : Mul Binary64 := ⟨mul⟩
instance : Div Binary64 := ⟨div⟩

/-- The nearest value of the range `[low, high]`. A NaN stays a NaN. -/
def clamp (x low high : Binary64) : Binary64 :=
  if x.lt low then low else if high.lt x then high else x

/-! ## Whole numbers -/

/-- The largest 64-bit count. -/
def maxCount : Nat := Nat.pow 2 64 - 1

/-- The 64-bit count nearest to a number, a half going away from zero. What is negative or a NaN
counts as zero, and what is too large as the largest count. -/
def roundToCount : Binary64 → Nat
  | .nan => 0
  | .real true _ => 0
  | .real false m => min (Rounding.halfUp m.steps stepsPerOne) maxCount

/-- The whole part as a 64-bit count, with the same limits as `roundToCount`. -/
def truncateToCount : Binary64 → Nat
  | .nan => 0
  | .real true _ => 0
  | .real false m => min (m.steps / stepsPerOne) maxCount

end Binary64

end Headroom
