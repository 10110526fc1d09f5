import Headroom.Config.Basic
import Headroom.Sampling.Event
import Headroom.Sampling.History
import Headroom.Sampling.Notice

/-!
# The snapshotter

Four histories, the baselines against which cumulative counters are read, and whether sampling runs.
Readings enter through the `record` functions; `start`, `stop`, `lease` and `release` switch
sampling. Every function returns the new state with the reports it makes.

Sampling runs from a start or a lease until a stop, or until the last lease is returned.
-/

namespace Headroom

/-- Something the surroundings have to do for the snapshotter. -/
inductive SamplingEffect where
  | spawnSamplers
  | cancelSamplers
  | notice (n : SamplingNotice)
  deriving DecidableEq, Repr

/-- The histories of the four resources with what sampling needs to go on. -/
structure Snapshotter where
  config : SnapshotterConfig
  /-- Memory and processor readings are pushed and not sampled. -/
  pushed : Bool
  memory : History MemorySnapshot
  eventLoop : History EventLoopSnapshot
  cpu : History CpuSnapshot
  client : History ClientSnapshot
  previousTicks : Option CpuTicks := none
  previousErrors : Option Nat := none
  lastMemoryWarning : Option Instant := none
  running : Bool := false
  /-- Leases taken and not yet returned. -/
  leases : Nat := 0
  deriving DecidableEq, Repr

namespace Snapshotter

/-- A snapshotter that has recorded nothing and does not run. -/
def new (config : SnapshotterConfig) (pushed : Bool) : Snapshotter where
  config := config
  pushed := pushed
  memory := .empty config.history
  eventLoop := .empty config.history
  cpu := .empty config.history
  client := .empty config.history

/-! ## Switching -/

/-- Starts sampling unless it runs. -/
def start (s : Snapshotter) : Snapshotter × List SamplingEffect :=
  if s.running then (s, [])
  else ({ s with running := true }, [.spawnSamplers, .notice (.started s.pushed)])

/-- Stops sampling if it runs. Histories and baselines stay. -/
def stop (s : Snapshotter) : Snapshotter × List SamplingEffect :=
  if s.running then ({ s with running := false }, [.cancelSamplers, .notice .stopped])
  else (s, [])

/-- Takes a lease, which starts sampling if needed. -/
def lease (s : Snapshotter) : Snapshotter × List SamplingEffect :=
  { s with leases := s.leases + 1 }.start

/-- Returns a lease. The last one returned stops sampling. -/
def release (s : Snapshotter) : Snapshotter × List SamplingEffect :=
  let s := { s with leases := s.leases - 1 }
  if s.leases = 0 then s.stop else (s, [])

/-! ## Memory -/

/-- The used part of memory above which usage is critical. -/
def criticalMemoryRatio : Binary64 := 0.9

/-- The shortest time between two warnings of critical memory. -/
def memoryWarningCooldown : Duration := 10 * Duration.second

/-- Warns of critical memory unless the last warning is too recent. -/
def warnCriticalMemory (s : Snapshotter) (used limit : Nat) (now : Instant) :
    Snapshotter × List SamplingNotice :=
  if s.lastMemoryWarning.any (now < · + memoryWarningCooldown) then (s, [])
  else ({ s with lastMemoryWarning := some now }, [.criticalMemory used limit])

/-- Records a memory reading against the limit. A limit of zero records nothing. -/
def recordMemory (s : Snapshotter) (usage : MemoryUsage) (now : Instant) :
    Snapshotter × List SamplingNotice :=
  let limit := s.config.memoryLimit usage.totalBytes
  if limit = 0 then (s, [.zeroMemoryLimit])
  else
    let ratio := Binary64.ofNat usage.usedBytes / Binary64.ofNat limit
    let (s, notices) :=
      if criticalMemoryRatio.lt ratio then s.warnCriticalMemory usage.usedBytes limit now
      else (s, [])
    let snapshot : MemorySnapshot :=
      ⟨now, s.config.maxUsedMemoryRatio.lt ratio, usage.usedBytes, limit, ratio⟩
    ({ s with memory := s.memory.push snapshot }, notices)

/-- One tick of memory sampling. -/
def sampleMemory (s : Snapshotter) (reading : Except ReadingError MemoryUsage) (now : Instant) :
    Snapshotter × List SamplingNotice :=
  match reading with
  | .ok usage => s.recordMemory usage now
  | .error e => (s, [.memoryReadFailed e])

/-! ## Processor -/

/-- Records the used part of the processor. -/
def recordCpu (s : Snapshotter) (ratio : Binary64) (now : Instant) : Snapshotter :=
  let limit := s.config.maxUsedCpuRatio
  { s with cpu := s.cpu.push ⟨now, limit.lt ratio, ratio, limit⟩ }

/-- One tick of processor sampling. The first reading is only a baseline for the next. -/
def sampleCpu (s : Snapshotter) (reading : Except ReadingError CpuTicks) (now : Instant) :
    Snapshotter × List SamplingNotice :=
  match reading with
  | .error e => (s, [.cpuReadFailed e])
  | .ok ticks =>
    let ratio := s.previousTicks.bind ticks.usedRatioSince?
    let s := { s with previousTicks := some ticks }
    (match ratio with
      | some r => s.recordCpu r now
      | none => s, [])

/-! ## Event loop and client -/

/-- Records how late a sleeping job was woken. -/
def recordEventLoop (s : Snapshotter) (delay : Duration) (now : Instant) : Snapshotter :=
  let limit := s.config.maxBlocked
  { s with eventLoop := s.eventLoop.push ⟨now, limit < delay, delay, limit⟩ }

/-- The lateness of a job that slept for a period from `since` and was woken at `now`. -/
def lateness (period : Duration) (since now : Instant) : Duration := now - since - period

/-- Records the wake-up of the job that sleeps one event-loop period at a time. -/
def wokenAfterSleep (s : Snapshotter) (since now : Instant) : Snapshotter :=
  s.recordEventLoop (lateness s.config.eventLoopInterval since now) now

/-- One tick of client sampling. The first one has nothing to compare with, and a counter that went
back counts as unchanged. -/
def sampleClient (s : Snapshotter) (count : Nat) (now : Instant) : Snapshotter :=
  let new := s.previousErrors.elim 0 (count - ·)
  let limit := s.config.maxClientErrors
  let overloaded := s.previousErrors.isSome && limit < new
  { s with
    previousErrors := some count
    client := s.client.push ⟨now, overloaded, count, new, limit⟩ }

/-! ## Pushed readings -/

/-- Records the readings that a hosting platform pushed. -/
def recordEvent (s : Snapshotter) (event : SystemInfoEvent) (now : Instant) :
    Snapshotter × List SamplingNotice :=
  let (s, notices) := s.recordMemory event.memory now
  (s.recordCpu (event.cpuUsedRatio.clamp 0 1) now, notices)

end Snapshotter

end Headroom
