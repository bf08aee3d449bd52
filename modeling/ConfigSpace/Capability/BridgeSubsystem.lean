import ConfigSpace.Payload

/-!
# Bridge Subsystem Vendor ID (legacy 0Dh)

The subsystem that a PCI-to-PCI bridge is part of.
-/

namespace ConfigSpace

/-- PCI Bridge Subsystem Vendor ID. -/
structure BridgeSubsystem where
  (reserved subsystemVendorId subsystemId : Nat)
  deriving DecidableEq, Repr

/-- Reads the subsystem registers. -/
def BridgeSubsystem.decode (payload : Bytes) : Except Fault BridgeSubsystem :=
  payload.require "Bridge Subsystem Vendor ID" 6 fun p => .ok {
    reserved := p.u16 0
    subsystemVendorId := p.u16 2
    subsystemId := p.u16 4 }

instance : Describe BridgeSubsystem :=
  ⟨fun r => .record
    [("reserved", describe r.reserved), ("subsystem_vendor_id", describe r.subsystemVendorId),
     ("subsystem_id", describe r.subsystemId)] []⟩

end ConfigSpace
