import ConfigSpace.Capability.LatencyTolerance

/-!
# L1 PM Substates (extended 001Eh)

Which substates of the low power state L1 a port supports and uses, and the times
that leaving them takes.
-/

namespace ConfigSpace

/-- The time until power is on: a value and the scale that it is measured in. -/
structure TPowerOn where
  (value scale : Int)
  deriving DecidableEq, Repr

namespace TPowerOn

/-- The microseconds that the scales stand for. -/
def scales : List Int :=
  [2, 10, 100]

/-- The time in microseconds; the scales above the second are reserved. -/
def microseconds (t : TPowerOn) : Except Undefined (Option Int) :=
  if 3 ≤ t.scale then .ok none
  else (Code.entry scales t.scale).map fun unit => some (t.value * unit)

end TPowerOn

instance : Describe TPowerOn :=
  ⟨fun r => .record
    [("value", describe r.value), ("scale", describe r.scale)]
    [("microseconds", describe r.microseconds)]⟩

namespace PmSubstates

/-- L1 PM Substates Capabilities register. -/
structure Capabilities where
  (pciPmL12Supported pciPmL11Supported aspmL12Supported aspmL11Supported : Bool)
  l1PmSubstatesSupported : Bool
  portCommonModeRestoreTime : Nat
  portTPowerOn : TPowerOn
  deriving DecidableEq, Repr

/-- The register with the value `w`. -/
def Capabilities.ofWord (w : Nat) : Capabilities where
  pciPmL12Supported := flag w 0
  pciPmL11Supported := flag w 1
  aspmL12Supported := flag w 2
  aspmL11Supported := flag w 3
  l1PmSubstatesSupported := flag w 4
  portCommonModeRestoreTime := field w 8 8
  portTPowerOn := { scale := field w 16 2, value := field w 19 5 }

instance : Describe Capabilities :=
  ⟨fun r => .record
    [("pci_pm_l1_2_supported", describe r.pciPmL12Supported),
     ("pci_pm_l1_1_supported", describe r.pciPmL11Supported),
     ("aspm_l1_2_supported", describe r.aspmL12Supported),
     ("aspm_l1_1_supported", describe r.aspmL11Supported),
     ("l1_pm_substates_supported", describe r.l1PmSubstatesSupported),
     ("port_common_mode_restore_time", describe r.portCommonModeRestoreTime),
     ("port_t_power_on", describe r.portTPowerOn)] []⟩

/-- L1 PM Substates Control 1 register. -/
structure Control1 where
  (pciPmL12Enable pciPmL11Enable aspmL12Enable aspmL11Enable : Bool)
  commonModeRestoreTime : Nat
  ltrL12Threshold : MaxLatency
  deriving DecidableEq, Repr

/-- The register with the value `w`. -/
def Control1.ofWord (w : Nat) : Control1 where
  pciPmL12Enable := flag w 0
  pciPmL11Enable := flag w 1
  aspmL12Enable := flag w 2
  aspmL11Enable := flag w 3
  commonModeRestoreTime := field w 8 8
  ltrL12Threshold := { value := field w 16 10, scale := field w 29 3 }

instance : Describe Control1 :=
  ⟨fun r => .record
    [("pci_pm_l1_2_enable", describe r.pciPmL12Enable),
     ("pci_pm_l1_1_enable", describe r.pciPmL11Enable),
     ("aspm_l1_2_enable", describe r.aspmL12Enable),
     ("aspm_l1_1_enable", describe r.aspmL11Enable),
     ("common_mode_restore_time", describe r.commonModeRestoreTime),
     ("ltr_l1_2_threshold", describe r.ltrL12Threshold)] []⟩

end PmSubstates

/-- L1 PM Substates. -/
structure PmSubstates where
  capabilities : PmSubstates.Capabilities
  control1 : PmSubstates.Control1
  tPowerOn : TPowerOn
  deriving DecidableEq, Repr

/-- Reads the substate registers. -/
def PmSubstates.decode (payload : Bytes) : Except Fault PmSubstates :=
  payload.require "L1 PM Substates" 12 fun p => .ok {
    capabilities := .ofWord (p.u32 0)
    control1 := .ofWord (p.u32 4)
    tPowerOn := { scale := field (p.u32 8) 0 2, value := field (p.u32 8) 3 5 } }

instance : Describe PmSubstates :=
  ⟨fun r => .record
    [("capabilities", describe r.capabilities), ("control_1", describe r.control1),
     ("t_power_on", describe r.tPowerOn)] []⟩

end ConfigSpace
