import ConfigSpace.Payload

/-!
# Vendor-Specific Extended Capability (extended 000Bh)

A word that names the structure and declares its length, and the registers of the
vendor.  The length counts from the header of the capability on, so it is at
least eight.  A length that is too small or too large is no error: the state of
the registers tells, and as many of them as are meaningful are kept.
-/

namespace ConfigSpace

/-- The word that opens the registers of a vendor. -/
structure VendorHeader where
  (id revision length : Nat)
  deriving DecidableEq, Repr

/-- The register with the value `w`. -/
def VendorHeader.ofWord (w : Nat) : VendorHeader where
  id := field w 0 16
  revision := field w 16 4
  length := field w 20 12

namespace VendorExtended

/-- Whether the declared length makes sense. -/
inductive State where
  | valid
  /-- The length is below the size of the headers. -/
  | invalidLength
  /-- The length goes beyond the bytes there are. -/
  | incomplete
  deriving DecidableEq, Repr

/-- The name of a state. -/
def State.name : State → String
  | .valid => "valid"
  | .invalidLength => "invalid_length"
  | .incomplete => "incomplete"

/-- The size of the headers, which the declared length includes. -/
def headersSize : Nat := 8

/-- The registers in `tail` of a structure that declares its length. -/
def readRegisters (length : Nat) (tail : Bytes) : State × Bytes :=
  if length < headersSize then (.invalidLength, [])
  else if length - headersSize ≤ tail.length then (.valid, tail.take (length - headersSize))
  else (.incomplete, tail)

end VendorExtended

/-- Vendor-Specific Extended Capability. -/
structure VendorExtended where
  header : VendorHeader
  registersState : VendorExtended.State
  registers : Bytes
  deriving DecidableEq, Repr

/-- Reads the header and the registers. -/
def VendorExtended.decode (payload : Bytes) : Except Fault VendorExtended :=
  payload.require "Vendor-Specific Extended Capability" 4 fun p =>
    let header := VendorHeader.ofWord (p.u32 0)
    let (registersState, registers) := readRegisters header.length (payload.drop 4)
    .ok { header, registersState, registers }

instance : Describe VendorExtended :=
  ⟨fun r => .record
    [("vsec_id", describe r.header.id), ("vsec_rev", describe r.header.revision),
     ("vsec_length", describe r.header.length),
     ("registers_state", describe r.registersState.name), ("registers", describe r.registers)] []⟩

end ConfigSpace
