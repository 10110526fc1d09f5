import Headroom.Load.Ratio

/-!
# Load of the system

The verdicts on the four watched resources together. The system is idle when none is overloaded.
-/

namespace Headroom

/-- A watched resource. -/
inductive Resource where
  | memory
  | eventLoop
  | cpu
  | client
  deriving DecidableEq, Repr

namespace Resource

/-- Every resource once, in the order of reports. -/
def all : List Resource := [memory, eventLoop, cpu, client]

/-- The name of a resource in reports. -/
def name : Resource → String
  | memory => "memory"
  | eventLoop => "event_loop"
  | cpu => "cpu"
  | client => "client"

end Resource

/-- The load of every resource over one window. -/
structure SystemInfo where
  idle : Bool
  memory : LoadInfo
  eventLoop : LoadInfo
  cpu : LoadInfo
  client : LoadInfo
  deriving DecidableEq, Repr

namespace SystemInfo

/-- The system's load out of its resources' loads. -/
def ofLoads (memory eventLoop cpu client : LoadInfo) : SystemInfo where
  idle := !(memory.overloaded || eventLoop.overloaded || cpu.overloaded || client.overloaded)
  memory := memory
  eventLoop := eventLoop
  cpu := cpu
  client := client

/-- The load of one resource. -/
def load (s : SystemInfo) : Resource → LoadInfo
  | .memory => s.memory
  | .eventLoop => s.eventLoop
  | .cpu => s.cpu
  | .client => s.client

/-- The resources judged overloaded. -/
def overloaded (s : SystemInfo) : List Resource :=
  Resource.all.filter fun r => (s.load r).overloaded

/-- The system is idle just if no resource is overloaded. -/
theorem ofLoads_idle_iff (memory eventLoop cpu client : LoadInfo) :
    (ofLoads memory eventLoop cpu client).idle = true ↔
      (ofLoads memory eventLoop cpu client).overloaded = [] := by
  cases hm : memory.overloaded <;> cases he : eventLoop.overloaded <;>
    cases hc : cpu.overloaded <;> cases hk : client.overloaded <;>
    simp [ofLoads, overloaded, Resource.all, load, hm, he, hc, hk]

end SystemInfo

end Headroom
