import ConfigSpace.Capability.Cxl
import ConfigSpace.Capability.VendorExtended
import ConfigSpace.Dispatcher

/-!
# Designated Vendor-Specific (extended 0023h)

The registers of a vendor that the capability names itself, together with the
identifier of the structure and its length.  The length counts from the header of
the capability on; it must cover the fixed part and must not go beyond the bytes
there are, and it cuts the registers off.

The structures of Compute Express Link are decoded; the registers of other
vendors are kept as they are.
-/

namespace ConfigSpace

namespace DesignatedVendor

/-- The registers of a designated vendor. -/
inductive Inside where
  | cxl (c : Cxl)
  /-- Registers without a known meaning. -/
  | unspecified (data : Bytes)
  deriving DecidableEq, Repr

instance : Describe Inside :=
  ⟨fun
    | .cxl c => (describe c).tagged "compute_express_link"
    | .unspecified data => .tagged "unspecified" (.record [("data", describe data)] [])⟩

/-- The vendor of Compute Express Link. -/
def cxlVendor : Int := 0x1E98

/-- Decoders for the registers of a vendor. -/
def dispatcher : Dispatcher Cxl where
  name := "Designated Vendor-Specific"
  exact _ _ := none
  fallback vendorId :=
    if vendorId = cxlVendor then
      some fun registers dvsecId => .quiet (Cxl.decode registers dvsecId)
    else none

/-- The size of the capability's header. -/
def headerSize : Nat := 4

/-- The size of the fixed part, the capability's header included. -/
def fixedSize : Nat := 10

/-- The fixed part and the registers. -/
structure Parts where
  header : VendorHeader
  dvsecId : Nat
  registers : Bytes
  deriving DecidableEq, Repr

/-- Reads the fixed part, and the registers that its length leaves. -/
def read (payload : Bytes) : Except Fault Parts :=
  payload.require "Designated Vendor-Specific" 6 fun p =>
    let header := VendorHeader.ofWord (p.u32 0)
    let dvsecId := p.u16 4
    let available := payload.length + headerSize
    if fixedSize ≤ header.length ∧ header.length ≤ available then
      .ok { header, dvsecId, registers := payload.window 6 (header.length - fixedSize) }
    else
      .error (.lengthMismatch header.id header.revision header.length dvsecId available)

end DesignatedVendor

/-- Designated Vendor-Specific. -/
structure DesignatedVendor where
  header : VendorHeader
  dvsecId : Nat
  inside : DesignatedVendor.Inside
  deriving DecidableEq, Repr

/-- Reads the registers and decodes them, if their vendor is known. -/
def DesignatedVendor.decode (payload : Bytes) : Logged (Except Error DesignatedVendor) :=
  match read payload with
  | .error f => ⟨.error (.ofFault f), []⟩
  | .ok ⟨header, dvsecId, registers⟩ =>
      (dispatcher.dispatch header.id dvsecId registers (some header.revision)
          (some header.length)).map
        (·.map fun cxl =>
          { header, dvsecId, inside := (cxl.map .cxl).getD (.unspecified registers) })

instance : Describe DesignatedVendor :=
  ⟨fun r => .record
    [("dvsec_vendor_id", describe r.header.id), ("dvsec_revision", describe r.header.revision),
     ("dvsec_length", describe r.header.length), ("dvsec_id", describe r.dvsecId),
     ("dvsec_type", describe r.inside)] []⟩

end ConfigSpace
