import Headroom.Num.Binary64

/-!
# Shortest decimal digits

A finite double is written with the fewest significant digits that still round to it, and among
those the digits nearest to its exact value. `Magnitude.shortest` searches the decimal grids from
coarse to fine and tests, on each, the two neighbours of the value.
-/

namespace Headroom

/-- The number `digits · 10 ^ exponent`. -/
structure Decimal where
  digits : Nat
  exponent : Int
  deriving DecidableEq, Repr

namespace Decimal

/-- Moves trailing zeros of the digits into the exponent, at most `fuel` of them. -/
def stripZeros : Nat → Decimal → Decimal
  | 0, d => d
  | fuel + 1, d =>
    if d.digits ≠ 0 && d.digits % 10 = 0 then stripZeros fuel ⟨d.digits / 10, d.exponent + 1⟩ else d

/-- The number, counted in steps, as a quotient of natural numbers. -/
def stepRatio (d : Decimal) : Nat × Nat :=
  if 0 ≤ d.exponent then (d.digits * Nat.pow 10 d.exponent.toNat * stepsPerOne, 1)
  else (d.digits * stepsPerOne, Nat.pow 10 (-d.exponent).toNat)

end Decimal

namespace Magnitude

/-- Whether a decimal rounds to `m`: it lies between the midpoints to the two neighbouring doubles,
and may be such a midpoint only if `m` has an even significand. -/
def admits (m : Magnitude) (d : Decimal) : Bool :=
  let low := m.steps + stepsAt (m.rank - 1)
  let high := m.steps + stepsAt (m.rank + 1)
  let (n, k) := d.stepRatio
  if m.rank % 2 = 0 then low * k ≤ 2 * n && 2 * n ≤ high * k
  else low * k < 2 * n && 2 * n < high * k

/-- The largest multiple of `10 ^ exponent` not above `m`. -/
def floorOn (m : Magnitude) (exponent : Int) : Decimal :=
  if 0 ≤ exponent then ⟨m.steps / (Nat.pow 10 exponent.toNat * stepsPerOne), exponent⟩
  else ⟨m.steps * Nat.pow 10 (-exponent).toNat / stepsPerOne, exponent⟩

/-- Whether the upper of two neighbours on a grid is the nearer one; a tie goes to even digits. -/
def upperNearer (m : Magnitude) (lower upper : Decimal) : Bool :=
  let (n, k) := lower.stepRatio
  let (n', _) := upper.stepRatio
  let middle := n + n'
  let value := 2 * m.steps * k
  if value = middle then lower.digits % 2 == 1 else middle < value

/-- The choice on one grid: the nearer admitted neighbour of the value, if any is admitted. -/
def onGrid? (m : Magnitude) (exponent : Int) : Option Decimal :=
  let lower := m.floorOn exponent
  let upper : Decimal := ⟨lower.digits + 1, exponent⟩
  match m.admits lower, m.admits upper with
  | true, true => some (if m.upperNearer lower upper then upper else lower)
  | true, false => some lower
  | false, true => some upper
  | false, false => none

/-- The first choice on the grids `exponent, exponent - 1, …`, at most `fuel` of them. -/
def searchGrids (m : Magnitude) : Nat → Int → Option Decimal
  | 0, _ => none
  | fuel + 1, exponent =>
    match m.onGrid? exponent with
    | some d => some d
    | none => m.searchGrids fuel (exponent - 1)

/-- An exponent whose power of ten exceeds the value `m`, and not by much. -/
def roofExponent (m : Magnitude) : Int :=
  if m.steps < stepsPerOne then
    2 - ((stepsPerOne / m.steps).log2 * 3 / 10 : Nat)
  else
    ((m.steps / stepsPerOne).log2 * 31 / 100 + 1 : Nat)

/-- The value of `m` itself, a step being `5 ^ 1074 · 10 ^ -1074`. -/
def exactDecimal (m : Magnitude) : Decimal := ⟨m.steps * Nat.pow 5 1074, -1074⟩

/-- The shortest decimal that rounds to `m`, nearest to it among the shortest. It is zero for zero.
-/
def shortest (m : Magnitude) : Decimal :=
  if m.rank = 0 then ⟨0, 0⟩
  else
    match m.searchGrids 64 m.roofExponent with
    | some d => d.stripZeros 20
    | none => m.exactDecimal

end Magnitude

end Headroom
