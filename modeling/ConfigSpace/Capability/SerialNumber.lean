import ConfigSpace.Payload

/-!
# Device Serial Number (extended 0003h)

The 64-bit extended unique identifier of a device, in two words.
-/

namespace ConfigSpace

/-- Device Serial Number. -/
structure SerialNumber where
  (lowerDword upperDword : Int)
  deriving DecidableEq, Repr

namespace SerialNumber

/-- Reads the two words of the serial number. -/
def decode (payload : Bytes) : Except Fault SerialNumber :=
  payload.require "Device Serial Number" 8 fun p => .ok {
    lowerDword := p.u32 0
    upperDword := p.u32 4 }

/-- The serial number as one number. -/
def serialNumber (s : SerialNumber) : Int :=
  Bits.merge (0x100000000 * s.upperDword) s.lowerDword

/-- The serial number as it is usually written: eight bytes, the most significant
one first. -/
def text (s : SerialNumber) : Except Undefined String :=
  if 0 ≤ s.serialNumber ∧ s.serialNumber < 0x10000000000000000 then
    .ok ("-".intercalate ([56, 48, 40, 32, 24, 16, 8, 0].map fun lo =>
      Text.hexLower (field s.serialNumber.toNat lo 8) 2))
  else .error .doesNotFit

end SerialNumber

instance : Describe SerialNumber :=
  ⟨fun r => .record
    [("lower_dword", describe r.lowerDword), ("upper_dword", describe r.upperDword)]
    [("serial_number", describe r.serialNumber), ("str", describe r.text)]⟩

end ConfigSpace
