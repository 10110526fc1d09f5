import Headroom.Sampling.FixedProbe

/-!
# Handles of probes

A probe with chosen readings is held by handles, and a copy of a handle leads to the same probe. So
a handle is no more than the place of its probe among all probes.
-/

namespace Headroom

/-! ## Calls -/

/-- What is asked of a probe. -/
inductive FixedProbe.Call where
  | setMemory (usage : MemoryUsage)
  | setCpuUsedRatio (ratio : Binary64)
  | setFailing (failing : Bool)
  | readMemory
  | readCpu
  deriving DecidableEq, Repr

/-- What a probe answers. -/
inductive FixedProbe.Answer where
  | done
  | memory (reading : Except ReadingError MemoryUsage)
  | cpu (reading : Except ReadingError CpuTicks)
  deriving Repr

/-- What a probe answers to a call, and the probe afterwards. -/
def FixedProbe.call (p : FixedProbe) : Call → Answer × FixedProbe
  | .setMemory usage => (.done, p.setMemory usage)
  | .setCpuUsedRatio ratio => (.done, p.setCpuUsedRatio ratio)
  | .setFailing failing => (.done, p.setFailing failing)
  | .readMemory => (.memory p.readMemory, p)
  | .readCpu => let (reading, p) := p.readCpu; (.cpu reading, p)

/-! ## Handles -/

/-- Probes, and the handles that lead to them. -/
structure ProbeHandles where
  probes : List FixedProbe := []
  /-- Of each handle, the place of its probe. -/
  places : List Nat := []
  deriving DecidableEq, Repr

namespace ProbeHandles

/-- What is done with handles. They are numbered from the first one made. -/
inductive Use where
  /-- Makes a fresh probe and a handle of it. -/
  | create
  | clone (handle : Nat)
  | call (handle : Nat) (c : FixedProbe.Call)
  deriving DecidableEq, Repr

/-- The handles after a use. A handle that has not been made does nothing. -/
def use (h : ProbeHandles) : Use → ProbeHandles
  | .create => ⟨h.probes ++ [{}], h.places ++ [h.probes.length]⟩
  | .clone handle => { h with places := h.places ++ h.places[handle]?.toList }
  | .call handle c =>
    match h.places[handle]? with
    | none => h
    | some place => { h with probes := h.probes.modify place fun p => (p.call c).2 }

/-- What a call through a handle is answered. -/
def answer? (h : ProbeHandles) (handle : Nat) (c : FixedProbe.Call) : Option FixedProbe.Answer :=
  match h.places[handle]? with
  | none => none
  | some place => h.probes[place]?.map fun p => (p.call c).1

/-- Uses handles one after the other. -/
def useAll (h : ProbeHandles) (uses : List Use) : ProbeHandles := uses.foldl use h

end ProbeHandles

end Headroom
