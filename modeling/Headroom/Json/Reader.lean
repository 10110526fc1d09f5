import Headroom.Json.Value
import Headroom.Text.Count

/-!
# Reading JSON

`Json.parse` reads one value with space around it and nothing else. `toBinary64?` and `toCount?`
read numerals: a number that rounds to infinity is refused, and a count is an integer without sign.
-/

namespace Headroom.Json

/-- Takes a value off the front of a text. -/
abbrev Scan (α : Type) := List Char → Option (α × List Char)

/-- Space between the parts of a text. -/
def isSpace (c : Char) : Bool := c == ' ' || c == '\n' || c == '\r' || c == '\t'

/-- Drops the space in front. -/
def skipSpace (s : List Char) : List Char := s.dropWhile isSpace

/-! ## Numbers -/

/-- A nonempty run of digits. -/
def digits (s : List Char) : Option (List Char × List Char) :=
  match s.takeWhile Char.isDigit with
  | [] => none
  | ds => some (ds, s.dropWhile Char.isDigit)

/-- The whole part, which has no leading zeros. -/
def wholePart : Scan (List Char)
  | '0' :: rest =>
    match rest with
    | c :: _ => if c.isDigit then none else some (['0'], rest)
    | [] => some (['0'], [])
  | s => digits s

/-- The fraction with its point, or nothing. -/
def fractionPart : Scan (List Char)
  | '.' :: rest => (digits rest).map fun (ds, rest) => ('.' :: ds, rest)
  | s => some ([], s)

/-- The exponent with its mark, or nothing. -/
def exponentPart : Scan (List Char)
  | c :: rest =>
    if c == 'e' || c == 'E' then
      match rest with
      | '+' :: rest => (digits rest).map fun (ds, rest) => (c :: '+' :: ds, rest)
      | '-' :: rest => (digits rest).map fun (ds, rest) => (c :: '-' :: ds, rest)
      | rest => (digits rest).map fun (ds, rest) => (c :: ds, rest)
    else some ([], c :: rest)
  | [] => some ([], [])

/-- A numeral after its sign. -/
def unsignedNumeral : Scan (List Char) := fun s =>
  (wholePart s).bind fun (whole, rest) =>
    (fractionPart rest).bind fun (fraction, rest) =>
      (exponentPart rest).map fun (e, rest) => (whole ++ fraction ++ e, rest)

/-- A numeral. -/
def numeral : Scan (List Char)
  | '-' :: rest => (unsignedNumeral rest).map fun (n, rest) => ('-' :: n, rest)
  | s => unsignedNumeral s

/-- The digits and the decimal exponent of a numeral after its sign. -/
def numeralParts? (s : List Char) : Option (Nat × Int) := do
  let (whole, rest) ← wholePart s
  let (fraction, rest) ← fractionPart rest
  let n ← Text.natural? (whole ++ fraction.drop 1)
  let e : Int ←
    match rest with
    | [] => some 0
    | _ :: '-' :: ds => (Text.natural? ds).map fun e => -(e : Int)
    | _ :: '+' :: ds => (Text.natural? ds).map fun e => (e : Int)
    | _ :: ds => (Text.natural? ds).map fun e => (e : Int)
  return (n, e - (fraction.drop 1).length)

/-- The double nearest to a number, unless it is infinite. -/
def toBinary64? : Json → Option Binary64
  | .number s => do
    let (negative, s) :=
      match s with
      | '-' :: rest => (true, rest)
      | _ => (false, s)
    let (n, e) ← numeralParts? s
    let x := Binary64.ofDecimal negative n e
    if x.isFinite then some x else none
  | _ => none

/-- The 64-bit count that an integer without sign writes. -/
def toCount? : Json → Option Nat
  | .number s => (Text.natural? s).filter (· < Nat.pow 2 64)
  | _ => none

/-! ## Strings -/

/-- A character of a string as it is written: itself, or a 16-bit unit. -/
inductive Unit16 where
  | char (c : Char)
  | unit (n : Nat)

/-- The value of a hexadecimal digit. -/
def hexValue? (c : Char) : Option Nat :=
  if c.isDigit then some (c.toNat - '0'.toNat)
  else if 'a' ≤ c && c ≤ 'f' then some (c.toNat - 'a'.toNat + 10)
  else if 'A' ≤ c && c ≤ 'F' then some (c.toNat - 'A'.toNat + 10)
  else none

/-- What a backslash and one more character stand for. -/
def simpleEscape? : Char → Option Char
  | '"' => some '"'
  | '\\' => some '\\'
  | '/' => some '/'
  | 'b' => some '\x08'
  | 'f' => some '\x0c'
  | 'n' => some '\n'
  | 'r' => some '\r'
  | 't' => some '\t'
  | _ => none

/-- The rest of a string after its opening mark. -/
def stringBody : Scan (List Unit16)
  | [] => none
  | '"' :: rest => some ([], rest)
  | '\\' :: 'u' :: a :: b :: c :: d :: rest => do
    let n ← [a, b, c, d].foldlM (fun n x => (hexValue? x).map (16 * n + ·)) 0
    let (us, rest) ← stringBody rest
    return (.unit n :: us, rest)
  | '\\' :: c :: rest => do
    let x ← simpleEscape? c
    let (us, rest) ← stringBody rest
    return (.char x :: us, rest)
  | c :: rest =>
    if c.toNat < 0x20 || c == '\\' then none
    else do
      let (us, rest) ← stringBody rest
      return (.char c :: us, rest)

/-- The text of units; half a surrogate pair has none. -/
def unitsText? : List Unit16 → Option (List Char)
  | [] => some []
  | .char c :: rest => (unitsText? rest).map (c :: ·)
  | .unit high :: .unit low :: rest =>
    if high < 0xd800 || 0xdfff < high then
      (unitsText? (.unit low :: rest)).map (Char.ofNat high :: ·)
    else if high < 0xdc00 && 0xdc00 ≤ low && low ≤ 0xdfff then
      (unitsText? rest).map (Char.ofNat (0x10000 + (high - 0xd800) * 0x400 + (low - 0xdc00)) :: ·)
    else none
  | .unit n :: rest =>
    if n < 0xd800 || 0xdfff < n then (unitsText? rest).map (Char.ofNat n :: ·) else none

/-- A string after its opening mark. -/
def text : Scan (Option String) := fun s =>
  (stringBody s).map fun (us, rest) => ((unitsText? us).map String.ofList, rest)

/-! ## Values -/

/-- Items with commas between them up to the closing bracket, at most as many as there is fuel. -/
def items (item : Scan Json) : Nat → Scan (List Json)
  | 0, _ => none
  | fuel + 1, s => do
    let (v, rest) ← item s
    match skipSpace rest with
    | ']' :: rest => some ([v], rest)
    | ',' :: rest => do
      let (vs, rest) ← items item fuel (skipSpace rest)
      return (v :: vs, rest)
    | _ => none

/-- A name, a colon and a value. -/
def member (item : Scan Json) : Scan (Option String × Json)
  | '"' :: rest => do
    let (k, rest) ← text rest
    match skipSpace rest with
    | ':' :: rest => do
      let (v, rest) ← item (skipSpace rest)
      return ((k, v), rest)
    | _ => none
  | _ => none

/-- Members with commas between them up to the closing brace, at most as many as there is fuel. -/
def members (item : Scan Json) : Nat → Scan (List (Option String × Json))
  | 0, _ => none
  | fuel + 1, s => do
    let (m, rest) ← member item s
    match skipSpace rest with
    | '\x7d' :: rest => some ([m], rest)
    | ',' :: rest => do
      let (ms, rest) ← members item fuel (skipSpace rest)
      return (m :: ms, rest)
    | _ => none

/-- A value whose containers nest at most `depth` deep. -/
def value : Nat → Scan Json
  | depth, s =>
    match s with
    | 'n' :: 'u' :: 'l' :: 'l' :: rest => some (.null, rest)
    | 't' :: 'r' :: 'u' :: 'e' :: rest => some (.boolean true, rest)
    | 'f' :: 'a' :: 'l' :: 's' :: 'e' :: rest => some (.boolean false, rest)
    | '"' :: rest => (text rest).map fun (t, rest) => (.string t, rest)
    | '[' :: rest =>
      match depth with
      | 0 => none
      | depth + 1 =>
        match skipSpace rest with
        | ']' :: rest => some (.array [], rest)
        | rest =>
          (items (value depth) (rest.length + 1) rest).map fun (vs, rest) => (.array vs, rest)
    | '\x7b' :: rest =>
      match depth with
      | 0 => none
      | depth + 1 =>
        match skipSpace rest with
        | '\x7d' :: rest => some (.object [], rest)
        | rest =>
          (members (value depth) (rest.length + 1) rest).map fun (ms, rest) => (.object ms, rest)
    | s => (numeral s).map fun (n, rest) => (.number n, rest)

/-- The value that a text writes. Containers cannot nest deeper than the text is long. -/
def parse (s : List Char) : Option Json :=
  match value (s.length + 1) (skipSpace s) with
  | some (v, rest) => if (skipSpace rest).isEmpty then some v else none
  | none => none

/-! ## Records -/

/-- The only member of a name; none if there is no such member, or several. -/
def member? (ms : List (Option String × Json)) (name : String) : Option Json :=
  match ms.filter (·.1 == some name) with
  | [(_, v)] => some v
  | _ => none

/-- The two fields of a record, by name from an object, or in order from an array of two. Unknown
names are ignored, but every name has to be text. -/
def twoFields? (first second : String) : Json → Option (Json × Json)
  | .object ms => do
    let a ← member? ms first
    let b ← member? ms second
    if ms.all (·.1.isSome) then some (a, b) else none
  | .array [a, b] => some (a, b)
  | _ => none

end Headroom.Json
