import ConfigSpace.Payload

/-!
# Advanced Features (legacy 13h)

Function level reset for functions without PCI Express.
-/

namespace ConfigSpace

/-- Advanced Features. -/
structure AdvancedFeatures where
  length : Nat
  (transactionsPendingCapable functionLevelResetCapable initiateFlr transactionsPending : Bool)
  deriving DecidableEq, Repr

/-- Reads the advanced features registers. -/
def AdvancedFeatures.decode (payload : Bytes) : Except Fault AdvancedFeatures :=
  payload.require "Advanced Features" 4 fun p => .ok {
    length := p.u8 0
    transactionsPendingCapable := flag (p.u8 1) 0
    functionLevelResetCapable := flag (p.u8 1) 1
    initiateFlr := flag (p.u8 2) 0
    transactionsPending := flag (p.u8 3) 0 }

instance : Describe AdvancedFeatures :=
  ⟨fun r => .record
    [("length", describe r.length),
     ("transactions_pending_capable", describe r.transactionsPendingCapable),
     ("function_level_reset_capable", describe r.functionLevelResetCapable),
     ("initiate_flr", describe r.initiateFlr),
     ("transactions_pending", describe r.transactionsPending)] []⟩

end ConfigSpace
