import Headroom.Num.Binary64
import Headroom.Toml.Scan

/-!
# TOML numbers

Integers in four bases, within 64 bits and a sign, and floats. Underscores may stand between two
digits. A float that is too large is refused where it is positive and infinite where it is negative.
-/

namespace Headroom.Toml

/-- An integer or a float. -/
inductive Number where
  | integer (value : Int)
  | float (value : Binary64)
  deriving DecidableEq, Repr

/-- More digits, each perhaps after an underscore. -/
def moreDigits (isDigit : Char → Bool) : Scan (List Char)
  | [] => some ([], [])
  | '_' :: rest =>
    match rest with
    | c :: rest =>
      if isDigit c then (moreDigits isDigit rest).map fun (ds, rest) => (c :: ds, rest) else none
    | [] => none
  | c :: rest =>
    if isDigit c then (moreDigits isDigit rest).map fun (ds, rest) => (c :: ds, rest)
    else some ([], c :: rest)

/-- One digit and more. -/
def digits (isDigit : Char → Bool) : Scan (List Char)
  | [] => none
  | c :: rest =>
    if isDigit c then (moreDigits isDigit rest).map fun (ds, rest) => (c :: ds, rest) else none

/-- The digits of a decimal integer, which has no leading zeros. -/
def decimalDigits : Scan (List Char)
  | '0' :: rest => some (['0'], rest)
  | s => digits isDigit s

/-- An optional sign: whether it is negative, and whether it is written. -/
def sign : List Char → Bool × Bool × List Char
  | '-' :: rest => (true, true, rest)
  | '+' :: rest => (false, true, rest)
  | s => (false, false, s)

/-- An integer within 64 bits and a sign. -/
def boundedInteger (negative : Bool) (magnitude : Nat) : Option Number :=
  if magnitude < Nat.pow 2 63 || (negative && magnitude = Nat.pow 2 63) then
    some (.integer (if negative then -(magnitude : Int) else magnitude))
  else none

/-- The exponent of a float after its mark. -/
def exponent : Scan Int := fun s =>
  let (negative, _, rest) := sign s
  (digits isDigit rest).map fun (ds, rest) =>
    let n := digitsValue 10 ds
    (if negative then -(n : Int) else n, rest)

/-- An exponent, or zero where no mark stands. -/
def optionalExponent : Scan Int
  | 'e' :: rest => exponent rest
  | 'E' :: rest => exponent rest
  | s => some (0, s)

/-- A float of its parts, unless it is `+∞`. -/
def floatOf (negative : Bool) (whole fraction : List Char) (e : Int) : Option Number :=
  let x := Binary64.ofDecimal negative (digitsValue 10 (whole ++ fraction)) (e - fraction.length)
  if x = .infinity then none else some (.float x)

/-- A number in base ten, after its sign. -/
def decimalNumber (negative : Bool) : Scan Number := fun s =>
  (decimalDigits s).bind fun (whole, rest) =>
    match rest with
    | '.' :: rest =>
      (digits isDigit rest).bind fun (fraction, rest) =>
        (optionalExponent rest).bind fun (e, rest) =>
          (floatOf negative whole fraction e).map (·, rest)
    | c :: _ =>
      if c == 'e' || c == 'E' then
        (optionalExponent rest).bind fun (e, rest) => (floatOf negative whole [] e).map (·, rest)
      else (boundedInteger negative (digitsValue 10 whole)).map (·, rest)
    | [] => (boundedInteger negative (digitsValue 10 whole)).map (·, rest)

/-- An integer in another base, after the mark of the base. -/
def basedInteger (base : Nat) (isDigit : Char → Bool) : Scan Number := fun s =>
  (digits isDigit s).bind fun (ds, rest) =>
    (boundedInteger false (digitsValue base ds)).map (·, rest)

/-- A number. -/
def number : Scan Number := fun s =>
  let (negative, signed, rest) := sign s
  match rest with
  | 'i' :: 'n' :: 'f' :: rest =>
    some (.float (if negative then .negInfinity else .infinity), rest)
  | 'n' :: 'a' :: 'n' :: rest => some (.float .nan, rest)
  | '0' :: 'x' :: digits => if signed then none else basedInteger 16 isHexDigit digits
  | '0' :: 'o' :: digits => if signed then none else basedInteger 8 isOctalDigit digits
  | '0' :: 'b' :: digits => if signed then none else basedInteger 2 isBinaryDigit digits
  | rest => decimalNumber negative rest

end Headroom.Toml
