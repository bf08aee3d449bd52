import ConfigSpace.Payload

/-!
# Debug Port (legacy 0Ah)

Where the registers of a debug port are: a base address register and an offset
into the memory it maps.
-/

namespace ConfigSpace

/-- Debug Port. -/
structure DebugPort where
  (offset barNumber : Nat)
  deriving DecidableEq, Repr

/-- Reads the debug port register. -/
def DebugPort.decode (payload : Bytes) : Except Fault DebugPort :=
  payload.require "Debug port" 2 fun p => .ok {
    offset := field (p.u16 0) 0 13
    barNumber := field (p.u16 0) 13 3 }

instance : Describe DebugPort :=
  ⟨fun r => .record
    [("offset", describe r.offset), ("bar_number", describe r.barNumber)] []⟩

end ConfigSpace
