import Headroom.Num.Binary64

/-!
# Readings

What a probe reports: memory usage, and cumulative processor time. The used part of the processor
between two readings is `CpuTicks.usedRatioSince?`. A probe that cannot read says why.
-/

namespace Headroom

/-- Bytes of memory in use, out of a total. -/
structure MemoryUsage where
  usedBytes : Nat
  totalBytes : Nat
  deriving DecidableEq, Repr

/-- Cumulative processor time in ticks: what was idle, and all of it. -/
structure CpuTicks where
  idle : Nat := 0
  total : Nat := 0
  deriving DecidableEq, Repr

/-- The part of the time since an earlier reading that was not idle, or nothing if no time passed.
A counter that went back counts as unchanged. -/
def CpuTicks.usedRatioSince? (t previous : CpuTicks) : Option Binary64 :=
  let elapsed := t.total - previous.total
  if elapsed = 0 then none
  else
    let idlePart := Binary64.ofNat (t.idle - previous.idle) / Binary64.ofNat elapsed
    some ((1 - idlePart).clamp 0 1)

/-- Why a reading failed. -/
inductive ReadingError where
  | unreadable (path detail : String)
  | malformed (path detail : String)
  | unsupported (what : String)
  | unavailable (what : String)
  deriving DecidableEq, Repr

/-- The text of a failed reading. -/
def ReadingError.message : ReadingError → String
  | unreadable path detail => "failed to read " ++ path ++ ": " ++ detail
  | malformed path detail => "failed to parse " ++ path ++ ": " ++ detail
  | unsupported what => what ++ " is not supported on this platform"
  | unavailable what => what ++ " is unavailable"

end Headroom
