import Headroom.Num.Numeral

/-!
# Instants and durations

Time is counted in whole nanoseconds. `Duration.ofSeconds?` converts a double exactly, rounding to
the nearest nanosecond; `Duration.bounded` is its total form, kept within one nanosecond and one
year.
-/

namespace Headroom

/-- Nanoseconds since the clock's zero. -/
abbrev Instant := Nat

/-- A length of time in nanoseconds. -/
abbrev Duration := Nat

namespace Duration

/-- A thousand nanoseconds. -/
def microsecond : Duration := 1000

/-- A thousand microseconds. -/
def millisecond : Duration := 1000000

/-- A thousand milliseconds. -/
def second : Duration := 1000000000

/-- Sixty seconds. -/
def minute : Duration := 60 * second

/-- The longest accepted interval, 365 days. -/
def year : Duration := 365 * 24 * 60 * minute

/-- The nearest nanosecond count of a number of seconds, a tie going to the even count. There is
none for a negative number, a NaN, or a count of 2⁶⁴ seconds and more. -/
def ofSeconds? : Binary64 → Option Duration
  | .nan => none
  | .real negative m =>
    if m.isInfinite || (negative && m.rank != 0) then none
    else
      let d := Rounding.halfEven (m.steps * second) stepsPerOne
      if d < Nat.pow 2 64 * second then some d else none

/-- Whether a number of seconds is usable as an interval: between a nanosecond and a year. -/
def isInterval (seconds : Binary64) : Bool :=
  match ofSeconds? seconds with
  | some d => 1 ≤ d && d ≤ year
  | none => false

/-- The duration nearest to a number of seconds within a nanosecond and a year. A NaN gives the
shortest one. -/
def bounded (seconds : Binary64) : Duration :=
  match ofSeconds? seconds with
  | some d => max 1 (min d year)
  | none => if Binary64.zero.lt seconds then year else 1

/-- Digits after the point: `rest` out of `10 ^ places`, without trailing zeros. -/
def fraction (rest : Nat) : Nat → List Char
  | 0 => []
  | places + 1 =>
    if rest = 0 then []
    else
      let unit := Nat.pow 10 places
      Nat.digitChar (rest / unit) :: fraction (rest % unit) places

/-- A duration in a unit of `10 ^ places` nanoseconds. -/
def inUnit (d : Duration) (places : Nat) (name : String) : String :=
  let unit := Nat.pow 10 places
  let whole := decimalDigits (d / unit)
  let rest := fraction (d % unit) places
  String.ofList (if rest.isEmpty then whole else whole ++ '.' :: rest) ++ name

/-- The text of a duration in its largest fitting unit, as in `1.5s` and `59ms`. -/
def text (d : Duration) : String :=
  if second ≤ d then inUnit d 9 "s"
  else if millisecond ≤ d then inUnit d 6 "ms"
  else if microsecond ≤ d then inUnit d 3 "µs"
  else inUnit d 0 "ns"

end Duration

end Headroom
