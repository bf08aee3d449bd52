import ConfigSpace.Payload

/-!
# Address Translation Services (extended 000Fh)

The registers of a function that keeps a cache of address translations.
-/

namespace ConfigSpace

namespace AddressTranslation

/-- ATS Capability register. -/
structure Capability where
  invalidateQueueDepth : Nat
  (pageAlignedRequest globalInvalidateSupported : Bool)
  deriving DecidableEq, Repr

/-- The register with the value `w`. -/
def Capability.ofWord (w : Nat) : Capability where
  invalidateQueueDepth := field w 0 5
  pageAlignedRequest := flag w 5
  globalInvalidateSupported := flag w 6

instance : Describe Capability :=
  ⟨fun r => .record
    [("invalidate_queue_depth", describe r.invalidateQueueDepth),
     ("page_aligned_request", describe r.pageAlignedRequest),
     ("global_invalidate_supported", describe r.globalInvalidateSupported)] []⟩

/-- ATS Control register. -/
structure Control where
  smallestTranslationUnit : Nat
  enable : Bool
  deriving DecidableEq, Repr

/-- The register with the value `w`. -/
def Control.ofWord (w : Nat) : Control where
  smallestTranslationUnit := field w 0 5
  enable := flag w 15

instance : Describe Control :=
  ⟨fun r => .record
    [("smallest_translation_unit", describe r.smallestTranslationUnit),
     ("enable", describe r.enable)] []⟩

end AddressTranslation

/-- Address Translation Services. -/
structure AddressTranslation where
  capability : AddressTranslation.Capability
  control : AddressTranslation.Control
  deriving DecidableEq, Repr

/-- Reads the address translation registers. -/
def AddressTranslation.decode (payload : Bytes) : Except Fault AddressTranslation :=
  payload.require "Address Translation Services" 4 fun p => .ok {
    capability := .ofWord (p.u16 0)
    control := .ofWord (p.u16 2) }

instance : Describe AddressTranslation :=
  ⟨fun r => .record
    [("capability", describe r.capability), ("control", describe r.control)] []⟩

end ConfigSpace
