import ConfigSpace.Payload

/-!
# Precision Time Measurement (extended 001Fh)

The registers of a function that takes part in time measurement.
-/

namespace ConfigSpace

namespace TimeMeasurement

/-- PTM Capability register. -/
structure Capability where
  (requesterCapable responderCapable rootCapable : Bool)
  localClockGranularity : Nat
  deriving DecidableEq, Repr

/-- The register with the value `w`. -/
def Capability.ofWord (w : Nat) : Capability where
  requesterCapable := flag w 0
  responderCapable := flag w 1
  rootCapable := flag w 2
  localClockGranularity := field w 8 8

instance : Describe Capability :=
  ⟨fun r => .record
    [("requester_capable", describe r.requesterCapable),
     ("responder_capable", describe r.responderCapable), ("root_capable", describe r.rootCapable),
     ("local_clock_granularity", describe r.localClockGranularity)] []⟩

/-- PTM Control register. -/
structure Control where
  (enable rootSelect : Bool)
  effectiveGranularity : Nat
  deriving DecidableEq, Repr

/-- The register with the value `w`. -/
def Control.ofWord (w : Nat) : Control where
  enable := flag w 0
  rootSelect := flag w 1
  effectiveGranularity := field w 8 8

instance : Describe Control :=
  ⟨fun r => .record
    [("enable", describe r.enable), ("root_select", describe r.rootSelect),
     ("effective_granularity", describe r.effectiveGranularity)] []⟩

end TimeMeasurement

/-- Precision Time Measurement. -/
structure TimeMeasurement where
  capability : TimeMeasurement.Capability
  control : TimeMeasurement.Control
  deriving DecidableEq, Repr

/-- Reads the time measurement registers. -/
def TimeMeasurement.decode (payload : Bytes) : Except Fault TimeMeasurement :=
  payload.require "Precision Time Measurement" 8 fun p => .ok {
    capability := .ofWord (p.u32 0)
    control := .ofWord (p.u32 4) }

instance : Describe TimeMeasurement :=
  ⟨fun r => .record
    [("capability", describe r.capability), ("control", describe r.control)] []⟩

end ConfigSpace
