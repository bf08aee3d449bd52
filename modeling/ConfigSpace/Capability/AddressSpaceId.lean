import ConfigSpace.Payload

/-!
# Process Address Space ID (extended 001Bh)

The registers of a function that can tell address spaces apart.
-/

namespace ConfigSpace

namespace AddressSpaceId

/-- PASID Capability register. -/
structure Capability where
  (executePermissionSupported privilegedModeSupported : Bool)
  maxPasidWidth : Nat
  deriving DecidableEq, Repr

/-- The register with the value `w`. -/
def Capability.ofWord (w : Nat) : Capability where
  executePermissionSupported := flag w 1
  privilegedModeSupported := flag w 2
  maxPasidWidth := field w 8 5

instance : Describe Capability :=
  ⟨fun r => .record
    [("execute_permission_supported", describe r.executePermissionSupported),
     ("privileged_mode_supported", describe r.privilegedModeSupported),
     ("max_pasid_width", describe r.maxPasidWidth)] []⟩

/-- PASID Control register. -/
structure Control where
  (pasidEnable executePermissionEnable privilegedModeEnable : Bool)
  deriving DecidableEq, Repr

/-- The register with the value `w`. -/
def Control.ofWord (w : Nat) : Control where
  pasidEnable := flag w 0
  executePermissionEnable := flag w 1
  privilegedModeEnable := flag w 2

instance : Describe Control :=
  ⟨fun r => .record
    [("pasid_enable", describe r.pasidEnable),
     ("execute_permission_enable", describe r.executePermissionEnable),
     ("privileged_mode_enable", describe r.privilegedModeEnable)] []⟩

end AddressSpaceId

/-- Process Address Space ID. -/
structure AddressSpaceId where
  capability : AddressSpaceId.Capability
  control : AddressSpaceId.Control
  deriving DecidableEq, Repr

/-- Reads the address space registers. -/
def AddressSpaceId.decode (payload : Bytes) : Except Fault AddressSpaceId :=
  payload.require "Process Address Space ID" 4 fun p => .ok {
    capability := .ofWord (p.u16 0)
    control := .ofWord (p.u16 2) }

instance : Describe AddressSpaceId :=
  ⟨fun r => .record
    [("capability", describe r.capability), ("control", describe r.control)] []⟩

end ConfigSpace
