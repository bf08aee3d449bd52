import ConfigSpace.Payload

/-!
# Power Management (legacy 01h)

Two 16-bit registers, what the function can do (PMC) and what it does (PMCSR),
followed by a byte of PCI-to-PCI bridge extensions and a data byte.
-/

namespace ConfigSpace

namespace PowerManagement

/-- Power states from which the function can assert PME#. -/
structure PmeSupport where
  (d0 d1 d2 d3Hot d3Cold : Bool)
  deriving DecidableEq, Repr

/-- Bits 15:11 of the capabilities register `w`. -/
def PmeSupport.ofWord (w : Nat) : PmeSupport where
  d0 := flag w 11
  d1 := flag w 12
  d2 := flag w 13
  d3Hot := flag w 14
  d3Cold := flag w 15

instance : Describe PmeSupport :=
  ⟨fun r => .record
    [("d0", describe r.d0), ("d1", describe r.d1), ("d2", describe r.d2),
     ("d3_hot", describe r.d3Hot), ("d3_cold", describe r.d3Cold)] []⟩

/-- Power Management Capabilities register (PMC). -/
structure Capabilities where
  version : Int
  (pmeClock immediateReadinessOnReturnToD0 deviceSpecificInitialization : Bool)
  auxCurrent : Int
  (d1Support d2Support : Bool)
  pmeSupport : PmeSupport
  deriving DecidableEq, Repr

namespace Capabilities

/-- The register with the value `w`. -/
def ofWord (w : Nat) : Capabilities where
  version := field w 0 3
  pmeClock := flag w 3
  immediateReadinessOnReturnToD0 := flag w 4
  deviceSpecificInitialization := flag w 5
  auxCurrent := field w 6 3
  d1Support := flag w 9
  d2Support := flag w 10
  pmeSupport := .ofWord w

/-- The largest auxiliary current in milliamperes; nothing is drawn by a function
that powers itself. -/
def auxCurrentMilliamperes (r : Capabilities) : Nat :=
  match (r.auxCurrent % 8).toNat with
  | 0 => 0
  | 1 => 55
  | 2 => 100
  | 3 => 160
  | 4 => 220
  | 5 => 270
  | 6 => 320
  | _ => 375

end Capabilities

instance : Describe Capabilities :=
  ⟨fun r => .record
    [("version", describe r.version), ("pme_clock", describe r.pmeClock),
     ("immediate_readiness_on_return_to_d0", describe r.immediateReadinessOnReturnToD0),
     ("device_specific_initialization", describe r.deviceSpecificInitialization),
     ("aux_current", describe r.auxCurrent), ("d1_support", describe r.d1Support),
     ("d2_support", describe r.d2Support), ("pme_support", describe r.pmeSupport)]
    [("aux_current_ma", describe r.auxCurrentMilliamperes)]⟩

/-- Power Management Control/Status register (PMCSR). -/
structure Control where
  powerState : Int
  (noSoftReset pmeEnabled : Bool)
  (dataSelect dataScale : Int)
  pmeStatus : Bool
  deriving DecidableEq, Repr

namespace Control

/-- The register with the value `w`. -/
def ofWord (w : Nat) : Control where
  powerState := field w 0 2
  noSoftReset := flag w 3
  pmeEnabled := flag w 8
  dataSelect := field w 9 4
  dataScale := field w 13 2
  pmeStatus := flag w 15

/-- The power state the function is in. -/
def powerStateName (r : Control) : String :=
  match (r.powerState % 4).toNat with
  | 0 => "D0"
  | 1 => "D1"
  | 2 => "D2"
  | _ => "D3hot"

end Control

instance : Describe Control :=
  ⟨fun r => .record
    [("power_state", describe r.powerState), ("no_soft_reset", describe r.noSoftReset),
     ("pme_enabled", describe r.pmeEnabled), ("data_select", describe r.dataSelect),
     ("data_scale", describe r.dataScale), ("pme_status", describe r.pmeStatus)]
    [("power_state_name", describe r.powerStateName)]⟩

/-- PMCSR PCI-to-PCI bridge support extensions. -/
structure Bridge where
  reserved : Int := 0
  (b2B3 bpccEnabled : Bool := false)
  deriving DecidableEq, Repr

/-- The register with the value `w`. -/
def Bridge.ofWord (w : Nat) : Bridge where
  reserved := field w 0 6
  b2B3 := flag w 6
  bpccEnabled := flag w 7

instance : Describe Bridge :=
  ⟨fun r => .record
    [("reserved", describe r.reserved), ("b2_b3", describe r.b2B3),
     ("bpcc_enabled", describe r.bpccEnabled)] []⟩

end PowerManagement

/-- PCI Power Management Interface. -/
structure PowerManagement where
  capabilities : PowerManagement.Capabilities
  control : PowerManagement.Control
  bridge : PowerManagement.Bridge
  data : Nat
  deriving DecidableEq, Repr

/-- Reads the power management registers. -/
def PowerManagement.decode (payload : Bytes) : Except Fault PowerManagement :=
  payload.require "Power Management Interface" 6 fun p => .ok {
    capabilities := .ofWord (p.u16 0)
    control := .ofWord (p.u16 2)
    bridge := .ofWord (p.u8 4)
    data := p.u8 5 }

instance : Describe PowerManagement :=
  ⟨fun r => .record
    [("capabilities", describe r.capabilities), ("control", describe r.control),
     ("bridge", describe r.bridge), ("data", describe r.data)] []⟩

end ConfigSpace
