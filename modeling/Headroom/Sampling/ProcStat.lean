import Headroom.Num.Numeral
import Headroom.Sampling.Reading
import Headroom.Text.Blank
import Headroom.Text.Count

/-!
# The processor line of /proc/stat

The first line whose first word is `cpu` lists the ticks spent by category: user, nice, system,
idle, iowait, irq, softirq, steal, and then guest times that the first two already include. So the
first eight columns are summed, and idle time is the fourth and the fifth.
-/

namespace Headroom.ProcStat

/-- The file the line is read from. -/
def path : String := "/proc/stat"

/-- Why a text is rejected. -/
inductive Error where
  | noCpuLine
  | badColumn (text : List Char)
  | tooFewColumns (found : Nat)
  deriving DecidableEq, Repr

/-- What keeps a text from yielding ticks. -/
inductive Failure where
  /-- The text is rejected, which is reported. -/
  | rejected (e : Error)
  /-- The text is accepted, but a sum of its columns exceeds a 64-bit count. -/
  | sumOverflow
  deriving DecidableEq, Repr

/-- What is wrong with the text. -/
def Error.detail : Error → String
  | noCpuLine => "no aggregate cpu line"
  | badColumn text => "expected integer tick count, got '" ++ String.ofList text ++ "'"
  | tooFewColumns found => "expected at least 4 tick columns, got " ++ decimalText found

/-- How many columns are summed. -/
def columnLimit : Nat := 8

/-- The words after `cpu` on the first line that starts with it. -/
def cpuColumns? (lines : List (List Char)) : Option (List (List Char)) :=
  lines.findSome? fun line =>
    match Text.words line with
    | ['c', 'p', 'u'] :: columns => some columns
    | _ => none

/-- The counts of a list of columns, failing at the first that is none. -/
def counts : List (List Char) → Except Error (List Nat)
  | [] => .ok []
  | column :: rest =>
    match Text.count? (Nat.pow 2 64) column with
    | none => .error (.badColumn column)
    | some n => (counts rest).map (n :: ·)

/-- The idle and total ticks of a row of counts. -/
def ticks : List Nat → Except Failure CpuTicks
  | row@(_ :: _ :: _ :: idle :: rest) =>
    let t : CpuTicks := ⟨idle + rest.headD 0, row.foldr (· + ·) 0⟩
    if t.total < Nat.pow 2 64 then .ok t else .error .sumOverflow
  | row => .error (.rejected (.tooFewColumns row.length))

/-- The ticks that a text of the file reports. -/
def parse (text : List Char) : Except Failure CpuTicks :=
  match cpuColumns? (Text.lines text) with
  | none => .error (.rejected .noCpuLine)
  | some columns => ((counts (columns.take columnLimit)).mapError .rejected).bind ticks

/-- The failed reading that a rejected text is reported as. -/
def Error.toReadingError (e : Error) : ReadingError := .malformed path e.detail

end Headroom.ProcStat
