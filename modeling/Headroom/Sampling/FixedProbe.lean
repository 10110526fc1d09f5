import Headroom.Sampling.Reading

/-!
# A probe with chosen readings

Reports the memory usage and processor load that were set last. Every processor reading advances
cumulative counters so that the difference between two readings shows the chosen load. All holders
of the probe see one state.
-/

namespace Headroom

/-- Chosen readings and the counters so far. A fresh probe shows an idle machine with 1 GiB. -/
structure FixedProbe where
  memory : MemoryUsage := ⟨100 * 1024 * 1024, 1024 * 1024 * 1024⟩
  cpuUsedRatio : Binary64 := 0.1
  ticks : CpuTicks := {}
  failing : Bool := false
  deriving DecidableEq, Repr

namespace FixedProbe

/-- Ticks that pass with each processor reading. -/
def ticksPerRead : Nat := 1000

/-- Chooses the memory usage. -/
def setMemory (p : FixedProbe) (usage : MemoryUsage) : FixedProbe := { p with memory := usage }

/-- Chooses the used part of the processor, brought into `[0, 1]`. -/
def setCpuUsedRatio (p : FixedProbe) (ratio : Binary64) : FixedProbe :=
  { p with cpuUsedRatio := ratio.clamp 0 1 }

/-- Makes every reading fail, or succeed again. -/
def setFailing (p : FixedProbe) (failing : Bool) : FixedProbe := { p with failing := failing }

/-- The idle ticks of one reading under a load. -/
def idlePerRead (usedRatio : Binary64) : Nat :=
  ((1 - usedRatio) * Binary64.ofNat ticksPerRead).roundToCount

/-- Reports the chosen memory usage. -/
def readMemory (p : FixedProbe) : Except ReadingError MemoryUsage :=
  if p.failing then .error (.unavailable "fixed memory reading") else .ok p.memory

/-- Advances the counters and reports them. A failing probe stays as it is. -/
def readCpu (p : FixedProbe) : Except ReadingError CpuTicks × FixedProbe :=
  if p.failing then (.error (.unavailable "fixed cpu reading"), p)
  else
    let t : CpuTicks := ⟨p.ticks.idle + idlePerRead p.cpuUsedRatio, p.ticks.total + ticksPerRead⟩
    (.ok t, { p with ticks := t })

end FixedProbe

end Headroom
