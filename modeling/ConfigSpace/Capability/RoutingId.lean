import ConfigSpace.Payload

/-!
# Alternative Routing-ID Interpretation (extended 000Eh)

The registers of a device that uses all eight bits of the device and function
number for functions.
-/

namespace ConfigSpace

namespace RoutingId

/-- ARI Capability register. -/
structure Capability where
  (mfvcFunctionGroupsCapability acsFunctionGroupsCapability : Bool)
  nextFunctionNumber : Nat
  deriving DecidableEq, Repr

/-- The register with the value `w`. -/
def Capability.ofWord (w : Nat) : Capability where
  mfvcFunctionGroupsCapability := flag w 0
  acsFunctionGroupsCapability := flag w 1
  nextFunctionNumber := field w 8 8

instance : Describe Capability :=
  ⟨fun r => .record
    [("mfvc_function_groups_capability", describe r.mfvcFunctionGroupsCapability),
     ("acs_function_groups_capability", describe r.acsFunctionGroupsCapability),
     ("next_function_number", describe r.nextFunctionNumber)] []⟩

/-- ARI Control register. -/
structure Control where
  (mfvcFunctionGroupsEnable acsFunctionGroupsEnable : Bool)
  functionGroup : Nat
  deriving DecidableEq, Repr

/-- The register with the value `w`. -/
def Control.ofWord (w : Nat) : Control where
  mfvcFunctionGroupsEnable := flag w 0
  acsFunctionGroupsEnable := flag w 1
  functionGroup := field w 4 3

instance : Describe Control :=
  ⟨fun r => .record
    [("mfvc_function_groups_enable", describe r.mfvcFunctionGroupsEnable),
     ("acs_function_groups_enable", describe r.acsFunctionGroupsEnable),
     ("function_group", describe r.functionGroup)] []⟩

end RoutingId

/-- Alternative Routing-ID Interpretation. -/
structure RoutingId where
  capability : RoutingId.Capability
  control : RoutingId.Control
  deriving DecidableEq, Repr

/-- Reads the routing registers. -/
def RoutingId.decode (payload : Bytes) : Except Fault RoutingId :=
  payload.require "Alternative Routing-ID Interpretation" 4 fun p => .ok {
    capability := .ofWord (p.u16 0)
    control := .ofWord (p.u16 2) }

instance : Describe RoutingId :=
  ⟨fun r => .record
    [("capability", describe r.capability), ("control", describe r.control)] []⟩

end ConfigSpace
