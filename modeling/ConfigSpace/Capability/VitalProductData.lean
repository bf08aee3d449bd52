import ConfigSpace.Payload

/-!
# Vital Product Data (legacy 03h)

A window onto the vital product data: an address, a bit that says whether the
transfer is complete, and 32 bits of data.
-/

namespace ConfigSpace

/-- Vital Product Data. -/
structure VitalProductData where
  vpdAddress : Nat
  transferCompleted : Bool
  vpdData : Nat
  deriving DecidableEq, Repr

/-- Reads the vital product data registers. -/
def VitalProductData.decode (payload : Bytes) : Except Fault VitalProductData :=
  payload.require "Vital Product Data" 6 fun p => .ok {
    vpdAddress := field (p.u16 0) 0 15
    transferCompleted := flag (p.u16 0) 15
    vpdData := p.u32 2 }

instance : Describe VitalProductData :=
  ⟨fun r => .record
    [("vpd_address", describe r.vpdAddress), ("transfer_completed", describe r.transferCompleted),
     ("vpd_data", describe r.vpdData)] []⟩

end ConfigSpace
