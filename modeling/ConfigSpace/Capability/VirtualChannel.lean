import ConfigSpace.Payload

/-!
# Virtual Channel (extended 0002h)

The registers of the port are followed by one set of registers for every virtual
channel: the first channel, which every port has, and then the extended ones.
Sets that the payload does not hold completely are left out.
-/

namespace ConfigSpace

namespace VirtualChannel

/-- Port VC Capability register 1. -/
structure PortCapability1 where
  (extendedVcCount lowPriorityExtendedVcCount referenceClock : Int)
  portArbitrationTableEntrySize : Int
  deriving DecidableEq, Repr

/-- The number of extended channels that register 1 with the value `w` announces. -/
def extendedCount (w : Nat) : Nat :=
  field w 0 3

/-- The register with the value `w`. -/
def PortCapability1.ofWord (w : Nat) : PortCapability1 where
  extendedVcCount := extendedCount w
  lowPriorityExtendedVcCount := field w 4 3
  referenceClock := field w 8 2
  portArbitrationTableEntrySize := field w 10 2

/-- The number of bits in an entry of the port arbitration table. -/
def PortCapability1.portArbitrationEntryBits (r : PortCapability1) :
    Except Undefined Nat :=
  Code.powerOfTwo r.portArbitrationTableEntrySize

instance : Describe PortCapability1 :=
  ⟨fun r => .record
    [("extended_vc_count", describe r.extendedVcCount),
     ("low_priority_extended_vc_count", describe r.lowPriorityExtendedVcCount),
     ("reference_clock", describe r.referenceClock),
     ("port_arbitration_table_entry_size", describe r.portArbitrationTableEntrySize)]
    [("port_arbitration_entry_bits", describe r.portArbitrationEntryBits)]⟩

/-- Port VC Capability register 2. -/
structure PortCapability2 where
  (hardwareFixedArbitration wrr32Phases wrr64Phases wrr128Phases : Bool)
  vcArbitrationTableOffset : Nat
  deriving DecidableEq, Repr

/-- The register with the value `w`. -/
def PortCapability2.ofWord (w : Nat) : PortCapability2 where
  hardwareFixedArbitration := flag w 0
  wrr32Phases := flag w 1
  wrr64Phases := flag w 2
  wrr128Phases := flag w 3
  vcArbitrationTableOffset := field w 24 8

instance : Describe PortCapability2 :=
  ⟨fun r => .record
    [("hardware_fixed_arbitration", describe r.hardwareFixedArbitration),
     ("wrr_32_phases", describe r.wrr32Phases), ("wrr_64_phases", describe r.wrr64Phases),
     ("wrr_128_phases", describe r.wrr128Phases),
     ("vc_arbitration_table_offset", describe r.vcArbitrationTableOffset)] []⟩

/-- Port VC Control register. -/
structure PortControl where
  loadVcArbitrationTable : Bool
  vcArbitrationSelect : Nat
  deriving DecidableEq, Repr

/-- The register with the value `w`. -/
def PortControl.ofWord (w : Nat) : PortControl where
  loadVcArbitrationTable := flag w 0
  vcArbitrationSelect := field w 1 3

instance : Describe PortControl :=
  ⟨fun r => .record
    [("load_vc_arbitration_table", describe r.loadVcArbitrationTable),
     ("vc_arbitration_select", describe r.vcArbitrationSelect)] []⟩

/-- VC Resource Capability register. -/
structure ResourceCapability where
  (hardwareFixedArbitration wrr32Phases wrr64Phases wrr128Phases timeBasedWrr128Phases : Bool)
  (wrr256Phases advancedPacketSwitching rejectSnoopTransactions : Bool)
  (maximumTimeSlots portArbitrationTableOffset : Nat)
  deriving DecidableEq, Repr

/-- The register with the value `w`. -/
def ResourceCapability.ofWord (w : Nat) : ResourceCapability where
  hardwareFixedArbitration := flag w 0
  wrr32Phases := flag w 1
  wrr64Phases := flag w 2
  wrr128Phases := flag w 3
  timeBasedWrr128Phases := flag w 4
  wrr256Phases := flag w 5
  advancedPacketSwitching := flag w 14
  rejectSnoopTransactions := flag w 15
  maximumTimeSlots := field w 16 7
  portArbitrationTableOffset := field w 24 8

instance : Describe ResourceCapability :=
  ⟨fun r => .record
    [("hardware_fixed_arbitration", describe r.hardwareFixedArbitration),
     ("wrr_32_phases", describe r.wrr32Phases), ("wrr_64_phases", describe r.wrr64Phases),
     ("wrr_128_phases", describe r.wrr128Phases),
     ("time_based_wrr_128_phases", describe r.timeBasedWrr128Phases),
     ("wrr_256_phases", describe r.wrr256Phases),
     ("advanced_packet_switching", describe r.advancedPacketSwitching),
     ("reject_snoop_transactions", describe r.rejectSnoopTransactions),
     ("maximum_time_slots", describe r.maximumTimeSlots),
     ("port_arbitration_table_offset", describe r.portArbitrationTableOffset)] []⟩

/-- VC Resource Control register. -/
structure ResourceControl where
  tcVcMap : Nat
  loadPortArbitrationTable : Bool
  (portArbitrationSelect vcId : Nat)
  vcEnable : Bool
  deriving DecidableEq, Repr

/-- The register with the value `w`. -/
def ResourceControl.ofWord (w : Nat) : ResourceControl where
  tcVcMap := field w 0 8
  loadPortArbitrationTable := flag w 16
  portArbitrationSelect := field w 17 3
  vcId := field w 24 3
  vcEnable := flag w 31

instance : Describe ResourceControl :=
  ⟨fun r => .record
    [("tc_vc_map", describe r.tcVcMap),
     ("load_port_arbitration_table", describe r.loadPortArbitrationTable),
     ("port_arbitration_select", describe r.portArbitrationSelect), ("vc_id", describe r.vcId),
     ("vc_enable", describe r.vcEnable)] []⟩

/-- VC Resource Status register. -/
structure ResourceStatus where
  (portArbitrationTableStatus vcNegotiationPending : Bool)
  deriving DecidableEq, Repr

/-- The register with the value `w`. -/
def ResourceStatus.ofWord (w : Nat) : ResourceStatus where
  portArbitrationTableStatus := flag w 0
  vcNegotiationPending := flag w 1

instance : Describe ResourceStatus :=
  ⟨fun r => .record
    [("port_arbitration_table_status", describe r.portArbitrationTableStatus),
     ("vc_negotiation_pending", describe r.vcNegotiationPending)] []⟩

/-- The registers of one virtual channel. -/
structure Resource where
  capability : ResourceCapability
  control : ResourceControl
  status : ResourceStatus
  deriving DecidableEq, Repr

instance : Describe Resource :=
  ⟨fun r => .record
    [("capability", describe r.capability), ("control", describe r.control),
     ("status", describe r.status)] []⟩

/-- The registers of the `k`th virtual channel, if the payload has them. -/
def resource? (payload : Bytes) (k : Nat) : Option Resource :=
  (payload.atLeast? (12 + 12 * (k + 1))).map fun p =>
    { capability := .ofWord (p.u32 (12 + 12 * k))
      control := .ofWord (p.u32 (16 + 12 * k))
      status := .ofWord (p.u16 (22 + 12 * k)) }

/-- The registers of the first channel and of `extended` more, as far as the payload
has them. -/
def readResources (payload : Bytes) (extended : Nat) : List Resource :=
  (List.range (extended + 1)).filterMap (resource? payload)

end VirtualChannel

/-- Virtual Channel. -/
structure VirtualChannel where
  portVcCapability1 : VirtualChannel.PortCapability1
  portVcCapability2 : VirtualChannel.PortCapability2
  portVcControl : VirtualChannel.PortControl
  vcArbitrationTableStatus : Bool
  resources : List VirtualChannel.Resource
  deriving DecidableEq, Repr

/-- Reads the registers of the port and of its channels. -/
def VirtualChannel.decode (payload : Bytes) : Except Fault VirtualChannel :=
  payload.require "Virtual Channel" 12 fun p =>
    let w := p.u32 0
    .ok {
      portVcCapability1 := .ofWord w
      portVcCapability2 := .ofWord (p.u32 4)
      portVcControl := .ofWord (p.u16 8)
      vcArbitrationTableStatus := flag (p.u16 10) 0
      resources := readResources payload (extendedCount w) }

instance : Describe VirtualChannel :=
  ⟨fun r => .record
    [("port_vc_capability_1", describe r.portVcCapability1),
     ("port_vc_capability_2", describe r.portVcCapability2),
     ("port_vc_control", describe r.portVcControl),
     ("vc_arbitration_table_status", describe r.vcArbitrationTableStatus),
     ("resources", describe r.resources)] []⟩

end ConfigSpace
