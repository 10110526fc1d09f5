import Headroom.Toml.Scan

/-!
# TOML dates and times

A date, a time of day, or both, and then perhaps an offset from universal time. Days are checked
against the calendar. Only the written form is kept.
-/

namespace Headroom.Toml

/-- A number of `count` digits. -/
def fixedDigits : Nat → Scan (List Char)
  | 0, s => some ([], s)
  | count + 1, c :: rest =>
    if isDigit c then (fixedDigits count rest).map fun (ds, rest) => (c :: ds, rest) else none
  | _ + 1, [] => none

/-- A number of `count` digits within bounds. -/
def fixedNumber (count low high : Nat) : Scan Nat := fun s =>
  (fixedDigits count s).bind fun (ds, rest) =>
    let n := digitsValue 10 ds
    if low ≤ n && n ≤ high then some (n, rest) else none

/-- A given character. -/
def exactly (c : Char) : List Char → Option (List Char)
  | d :: rest => if d = c then some rest else none
  | [] => none

/-- A year with a day more in February. -/
def isLeapYear (year : Nat) : Bool := year % 4 = 0 && (year % 100 ≠ 0 || year % 400 = 0)

/-- The last day of a month. -/
def daysInMonth (year month : Nat) : Nat :=
  if month = 2 then (if isLeapYear year then 29 else 28)
  else if month = 4 || month = 6 || month = 9 || month = 11 then 30
  else 31

/-- The rest after a date. -/
def date? (s : List Char) : Option (List Char) := do
  let (year, s) ← fixedNumber 4 0 9999 s
  let s ← exactly '-' s
  let (month, s) ← fixedNumber 2 1 12 s
  let s ← exactly '-' s
  let (_, s) ← fixedNumber 2 1 (daysInMonth year month) s
  return s

/-- The rest after a part of a second, if there is one. A point needs digits. -/
def secondPart? : List Char → Option (List Char)
  | '.' :: rest =>
    match rest with
    | c :: _ => if isDigit c then some (rest.dropWhile isDigit) else none
    | [] => none
  | s => some s

/-- The rest after a time of day. A minute may have a leap second. -/
def time? (s : List Char) : Option (List Char) := do
  let (_, s) ← fixedNumber 2 0 23 s
  let s ← exactly ':' s
  let (_, s) ← fixedNumber 2 0 59 s
  let s ← exactly ':' s
  let (_, s) ← fixedNumber 2 0 60 s
  secondPart? s

/-- The rest after an offset, if there is one. -/
def offset? : List Char → Option (List Char)
  | 'Z' :: rest => some rest
  | 'z' :: rest => some rest
  | c :: rest =>
    if c == '+' || c == '-' then do
      let (_, s) ← fixedNumber 2 0 23 rest
      let s ← exactly ':' s
      let (_, s) ← fixedNumber 2 0 59 s
      return s
    else some (c :: rest)
  | [] => some []

/-- The rest after the time that may follow a date: a letter or one space comes between them. -/
def timeAfterDate? : List Char → Option (List Char)
  | c :: rest =>
    if c == 'T' || c == 't' || c == ' ' then
      match rest with
      | d :: _ :: ':' :: _ => if isDigit d then (time? rest).bind offset? else some (c :: rest)
      | _ => some (c :: rest)
    else some (c :: rest)
  | [] => some []

/-- The written form of a date, a time or both. -/
def moment : Scan (List Char) := fun s =>
  let rest? :=
    match date? s with
    | some rest => timeAfterDate? rest
    | none => time? s
  rest?.map fun rest => (s.take (s.length - rest.length), rest)

end Headroom.Toml
