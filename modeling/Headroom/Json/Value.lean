import Headroom.Num.Numeral

/-!
# JSON values

A number keeps the numeral it is written with. A string may hold half a surrogate pair, which is no
text; such a string is well formed as long as nobody asks for its text.
-/

namespace Headroom

/-- A JSON value. -/
inductive Json where
  | null
  | boolean (value : Bool)
  | number (numeral : List Char)
  | string (text : Option String)
  | array (items : List Json)
  /-- Members in order; a name may occur more than once. -/
  | object (members : List (Option String × Json))

/-- Numbers in JSON: a fraction always, and powers of ten for small and large numbers. -/
def NumeralStyle.json : NumeralStyle where
  wholeSuffix := ".0"
  positional := some (-5, 15)
  nan := "null"
  infinity := "null"
  negInfinity := "null"

namespace Json

/-- A natural number. -/
def ofCount (n : Nat) : Json := .number (decimalDigits n)

/-- A double, of which a NaN and the infinities have no numeral. -/
def ofBinary64 (x : Binary64) : Json :=
  if x.isFinite then .number (x.render .json).toList else .null

/-- A text. -/
def ofString (s : String) : Json := .string (some s)

/-- An object whose names are all text. -/
def ofMembers (members : List (String × Json)) : Json :=
  .object (members.map fun (k, v) => (some k, v))

end Json

end Headroom
