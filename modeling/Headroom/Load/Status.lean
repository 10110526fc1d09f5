import Headroom.Load.SystemInfo
import Headroom.Sampling.Snapshotter

/-!
# Status

The load of the system read from a snapshotter's histories. The current status looks at the recent
window and drives scaling; the historical status looks at everything that is kept.
-/

namespace Headroom.StatusConfig

/-- The load over a window before `now`, or over everything kept. -/
def evaluate (c : StatusConfig) (s : Snapshotter) (window : Option Duration) (now : Instant) :
    SystemInfo :=
  .ofLoads
    (.evaluate (s.memory.sample window now) c.maxMemoryOverloadedRatio)
    (.evaluate (s.eventLoop.sample window now) c.maxEventLoopOverloadedRatio)
    (.evaluate (s.cpu.sample window now) c.maxCpuOverloadedRatio)
    (.evaluate (s.client.sample window now) c.maxClientOverloadedRatio)

/-- The load over the recent window. -/
def current (c : StatusConfig) (s : Snapshotter) (now : Instant) : SystemInfo :=
  c.evaluate s (some c.currentHistory) now

/-- The load over all that is kept. -/
def historical (c : StatusConfig) (s : Snapshotter) (now : Instant) : SystemInfo :=
  c.evaluate s none now

end Headroom.StatusConfig
