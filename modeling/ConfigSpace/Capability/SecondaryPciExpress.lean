import ConfigSpace.Payload

/-!
# Secondary PCI Express (extended 0019h)

Two registers of the link, and one equalization register for each of its lanes.
How many lanes there are is said by another capability, the PCI Express one; here
every register that the payload holds is read, up to the widest link there is.
-/

namespace ConfigSpace

namespace SecondaryPciExpress

/-- Link Control 3 register. -/
structure LinkControl3 where
  (performEqualization linkEqualizationRequestInterruptEnable : Bool)
  lowerSkpOsGenerationVector : Nat
  deriving DecidableEq, Repr

/-- The register with the value `w`. -/
def LinkControl3.ofWord (w : Nat) : LinkControl3 where
  performEqualization := flag w 0
  linkEqualizationRequestInterruptEnable := flag w 1
  lowerSkpOsGenerationVector := field w 9 7

instance : Describe LinkControl3 :=
  ⟨fun r => .record
    [("perform_equalization", describe r.performEqualization),
     ("link_equalization_request_interrupt_enable",
      describe r.linkEqualizationRequestInterruptEnable),
     ("lower_skp_os_generation_vector", describe r.lowerSkpOsGenerationVector)] []⟩

/-- Lane Equalization Control register. -/
structure LaneEqualization where
  (downstreamPortTransmitterPreset downstreamPortReceiverPresetHint : Nat)
  (upstreamPortTransmitterPreset upstreamPortReceiverPresetHint : Nat)
  deriving DecidableEq, Repr

/-- The register with the value `w`. -/
def LaneEqualization.ofWord (w : Nat) : LaneEqualization where
  downstreamPortTransmitterPreset := field w 0 4
  downstreamPortReceiverPresetHint := field w 4 3
  upstreamPortTransmitterPreset := field w 8 4
  upstreamPortReceiverPresetHint := field w 12 3

instance : Describe LaneEqualization :=
  ⟨fun r => .record
    [("downstream_port_transmitter_preset", describe r.downstreamPortTransmitterPreset),
     ("downstream_port_receiver_preset_hint", describe r.downstreamPortReceiverPresetHint),
     ("upstream_port_transmitter_preset", describe r.upstreamPortTransmitterPreset),
     ("upstream_port_receiver_preset_hint", describe r.upstreamPortReceiverPresetHint)] []⟩

/-- The number of lanes of the widest link. -/
def widestLink : Nat := 32

/-- The equalization register of the `k`th lane, if the payload has it. -/
def lane? (payload : Bytes) (k : Nat) : Option LaneEqualization :=
  (payload.atLeast? (8 + 2 * (k + 1))).map fun p => .ofWord (p.u16 (8 + 2 * k))

/-- The equalization registers that the payload has. -/
def readLanes (payload : Bytes) : List LaneEqualization :=
  (List.range widestLink).filterMap (lane? payload)

end SecondaryPciExpress

/-- Secondary PCI Express. -/
structure SecondaryPciExpress where
  linkControl3 : SecondaryPciExpress.LinkControl3
  laneErrorStatus : Nat
  laneEqualizationControl : List SecondaryPciExpress.LaneEqualization
  deriving DecidableEq, Repr

namespace SecondaryPciExpress

/-- Reads the registers of the link and of its lanes. -/
def decode (payload : Bytes) : Except Fault SecondaryPciExpress :=
  payload.require "Secondary PCI Express" 8 fun p => .ok {
    linkControl3 := .ofWord (p.u32 0)
    laneErrorStatus := p.u32 4
    laneEqualizationControl := readLanes payload }

/-- The equalization registers of a link of the given width; a negative width
leaves out that many at the end. -/
def lanes (s : SecondaryPciExpress) (linkWidth : Int) : List LaneEqualization :=
  s.laneEqualizationControl.take (clampPosition s.laneEqualizationControl.length linkWidth)

end SecondaryPciExpress

instance : Describe SecondaryPciExpress :=
  ⟨fun r => .record
    [("link_control_3", describe r.linkControl3),
     ("lane_error_status", describe r.laneErrorStatus),
     ("lane_equalization_control", describe r.laneEqualizationControl)] []⟩

end ConfigSpace
