/-!
# Rounding a quotient

The quotient of two natural numbers rounded to a natural number. `halfEven` sends a tie to the even
neighbour, `halfUp` sends it upward. Both stay within half a unit of the exact quotient.
-/

namespace Headroom.Rounding

/-- The natural number nearest to `n / d`; of two equally near ones, the even one. -/
def halfEven (n d : Nat) : Nat :=
  let below := n / d
  let twice := 2 * (n % d)
  if twice < d then below
  else if d < twice then below + 1
  else if below % 2 = 0 then below
  else below + 1

/-- The natural number nearest to `n / d`; of two equally near ones, the larger one. -/
def halfUp (n d : Nat) : Nat :=
  (2 * n + d) / (2 * d)

/-- A whole quotient is its own rounding. -/
theorem halfEven_mul (k : Nat) {d : Nat} (h : 0 < d) : halfEven (k * d) d = k := by
  simp [halfEven, Nat.mul_mod_left, Nat.mul_div_cancel k h, h]

end Headroom.Rounding
