import Headroom.Num.Shortest

/-!
# Text of numbers

`Binary64.render` writes a double with its shortest digits in a given `NumeralStyle`. A style
decides whether a whole number keeps a fraction, which decimal exponents are written without a power
of ten, and what stands for the values that have no digits.
-/

namespace Headroom

/-- The decisions of one text format about doubles. -/
structure NumeralStyle where
  /-- Follows the digits of a whole number. -/
  wholeSuffix : String
  /-- The decimal exponents of the leading digit that are written positionally; `none` means all. -/
  positional : Option (Int × Int)
  nan : String
  infinity : String
  negInfinity : String

/-- The decimal digits of a natural number. -/
def decimalDigits (n : Nat) : List Char := Nat.toDigits 10 n

/-- The text of a natural number. -/
def decimalText (n : Nat) : String := String.ofList (decimalDigits n)

namespace Decimal

/-- The exponent of the leading digit. -/
def leadingExponent (d : Decimal) : Int :=
  d.exponent + (decimalDigits d.digits).length - 1

/-- Digits with a point where it belongs, zeros filling the gap between them. -/
def positional (d : Decimal) (wholeSuffix : List Char) : List Char :=
  let ds := decimalDigits d.digits
  if 0 ≤ d.exponent then ds ++ List.replicate d.exponent.toNat '0' ++ wholeSuffix
  else
    let places := (-d.exponent).toNat
    if ds.length ≤ places then '0' :: '.' :: (List.replicate (places - ds.length) '0' ++ ds)
    else ds.take (ds.length - places) ++ '.' :: ds.drop (ds.length - places)

/-- One digit before the point, the others behind it, then the signed exponent. -/
def scientific (d : Decimal) : List Char :=
  let mantissa : List Char :=
    match decimalDigits d.digits with
    | [] => []
    | [c] => [c]
    | c :: cs => c :: '.' :: cs
  let e := d.leadingExponent
  mantissa ++ 'e' :: (if e < 0 then '-' else '+') :: decimalDigits e.natAbs

end Decimal

namespace Binary64

/-- The text of a double in a style. -/
def render (style : NumeralStyle) : Binary64 → String
  | .nan => style.nan
  | .real negative m =>
    if m.isInfinite then (if negative then style.negInfinity else style.infinity)
    else
      let d := m.shortest
      let isPositional :=
        m.rank = 0 ||
        match style.positional with
        | none => true
        | some (low, high) => low ≤ d.leadingExponent && d.leadingExponent ≤ high
      let body := if isPositional then d.positional style.wholeSuffix.toList else d.scientific
      String.ofList (if negative then '-' :: body else body)

end Binary64

/-- Numbers inside messages: no exponent, and no fraction for whole numbers. -/
def NumeralStyle.message : NumeralStyle where
  wholeSuffix := ""
  positional := none
  nan := "NaN"
  infinity := "inf"
  negInfinity := "-inf"

end Headroom
