import Headroom.Sampling.Reading

/-!
# Pushed readings

A hosting platform may push its own memory and processor readings instead of having them sampled.
-/

namespace Headroom

/-- Memory and processor readings of a hosting platform. -/
structure SystemInfoEvent where
  /-- The used part of the processor. -/
  cpuUsedRatio : Binary64
  memory : MemoryUsage
  deriving DecidableEq, Repr

end Headroom
