import ConfigSpace.Payload

/-!
# Slot Identification (legacy 04h)

How many expansion slots a bridge to an expansion chassis provides, and which
chassis it is.
-/

namespace ConfigSpace

/-- Slot Identification. -/
structure SlotIdentification where
  expansionSlotsProvided : Nat
  firstInChassis : Bool
  chassisNumber : Nat
  deriving DecidableEq, Repr

/-- Reads the slot identification registers. -/
def SlotIdentification.decode (payload : Bytes) : Except Fault SlotIdentification :=
  payload.require "Slot Identification" 2 fun p => .ok {
    expansionSlotsProvided := field (p.u8 0) 0 5
    firstInChassis := flag (p.u8 0) 5
    chassisNumber := p.u8 1 }

instance : Describe SlotIdentification :=
  ⟨fun r => .record
    [("expansion_slots_provided", describe r.expansionSlotsProvided),
     ("first_in_chassis", describe r.firstInChassis), ("chassis_number", describe r.chassisNumber)]
    []⟩

end ConfigSpace
