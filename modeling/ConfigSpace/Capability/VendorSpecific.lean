import ConfigSpace.Capability.Virtio
import ConfigSpace.Dispatcher

/-!
# Vendor Specific (legacy 09h)

A length and the registers of the vendor.  The length counts from the header on,
so it is at least three.  What the registers mean depends on the device, and is
known for virtio devices.
-/

namespace ConfigSpace

/-- Vendor Specific. -/
structure VendorSpecific where
  length : Nat
  registers : Bytes
  virtio : Option Virtio
  deriving DecidableEq, Repr

namespace VendorSpecific

/-- The vendor of virtio devices. -/
def virtioVendor : Int := 0x1AF4

/-- Decoders for the registers of a device, by its vendor and its own identifier:
virtio devices have the identifiers from 1000h to 107Fh. -/
def dispatcher : Dispatcher Virtio where
  name := "Vendor Specific"
  exact vendorId deviceId :=
    if vendorId = virtioVendor ∧ 0x1000 ≤ deviceId ∧ deviceId < 0x1080 then
      some fun registers _ => .quiet (Virtio.decode registers)
    else none
  fallback _ := none

/-- Reads the length and the registers. -/
def read (payload : Bytes) : Except Fault (Nat × Bytes) :=
  payload.require "Vendor Specific" 1 fun p =>
    let length := p.u8 0
    if h : length < 3 then .error (.invalidLength "Vendor Specific" length 3)
    else payload.require "Vendor Specific" (length - 2) fun p =>
      .ok (length, p.window 1 (length - 3))

/-- Reads the registers, and decodes them if the device is known and its registers
are.  Only a device whose vendor and identifier are both given is known. -/
def decode (payload : Bytes) (vendorId deviceId : Option Int := none) :
    Logged (Except Error VendorSpecific) :=
  match read payload with
  | .error f => ⟨.error (.ofFault f), []⟩
  | .ok (length, registers) =>
      match vendorId, deviceId with
      | some vendor, some device =>
          (dispatcher.dispatch vendor device registers none (some length)).map
            (·.map fun virtio => { length, registers, virtio })
      | _, _ => ⟨.ok { length, registers, virtio := none }, []⟩

end VendorSpecific

instance : Describe VendorSpecific :=
  ⟨fun r => .record
    [("length", describe r.length), ("registers", describe r.registers),
     ("virtio", describe r.virtio)] []⟩

end ConfigSpace
