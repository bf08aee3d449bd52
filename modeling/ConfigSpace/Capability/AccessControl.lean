import ConfigSpace.Payload

/-!
# Access Control Services (extended 000Dh)

A capability and a control register, and for a function with egress control a
vector with one bit for each port or function that can be controlled.
-/

namespace ConfigSpace

namespace AccessControl

/-- ACS Capability register. -/
structure Capability where
  (sourceValidation translationBlocking p2pRequestRedirect p2pCompletionRedirect : Bool)
  (upstreamForwarding p2pEgressControl directTranslatedP2p enhancedCapability : Bool)
  egressControlVectorSize : Nat
  deriving DecidableEq, Repr

/-- The register with the value `w`. -/
def Capability.ofWord (w : Nat) : Capability where
  sourceValidation := flag w 0
  translationBlocking := flag w 1
  p2pRequestRedirect := flag w 2
  p2pCompletionRedirect := flag w 3
  upstreamForwarding := flag w 4
  p2pEgressControl := flag w 5
  directTranslatedP2p := flag w 6
  enhancedCapability := flag w 7
  egressControlVectorSize := field w 8 8

namespace Capability

/-- The number of bits in the egress control vector; a size of zero stands for the
largest one. -/
def vectorBits (c : Capability) : Nat :=
  if c.egressControlVectorSize = 0 then 256 else c.egressControlVectorSize

/-- The number of bytes that the egress control vector takes, in whole words. -/
def vectorBytes (c : Capability) : Nat :=
  4 * ((c.vectorBits + 31) / 32)

end Capability

instance : Describe Capability :=
  ⟨fun r => .record
    [("source_validation", describe r.sourceValidation),
     ("translation_blocking", describe r.translationBlocking),
     ("p2p_request_redirect", describe r.p2pRequestRedirect),
     ("p2p_completion_redirect", describe r.p2pCompletionRedirect),
     ("upstream_forwarding", describe r.upstreamForwarding),
     ("p2p_egress_control", describe r.p2pEgressControl),
     ("direct_translated_p2p", describe r.directTranslatedP2p),
     ("enhanced_capability", describe r.enhancedCapability),
     ("egress_control_vector_size", describe r.egressControlVectorSize)] []⟩

/-- ACS Control register. -/
structure Control where
  (sourceValidationEnable translationBlockingEnable p2pRequestRedirectEnable : Bool)
  (p2pCompletionRedirectEnable upstreamForwardingEnable p2pEgressControlEnable : Bool)
  directTranslatedP2pEnable : Bool
  deriving DecidableEq, Repr

/-- The register with the value `w`. -/
def Control.ofWord (w : Nat) : Control where
  sourceValidationEnable := flag w 0
  translationBlockingEnable := flag w 1
  p2pRequestRedirectEnable := flag w 2
  p2pCompletionRedirectEnable := flag w 3
  upstreamForwardingEnable := flag w 4
  p2pEgressControlEnable := flag w 5
  directTranslatedP2pEnable := flag w 6

instance : Describe Control :=
  ⟨fun r => .record
    [("source_validation_enable", describe r.sourceValidationEnable),
     ("translation_blocking_enable", describe r.translationBlockingEnable),
     ("p2p_request_redirect_enable", describe r.p2pRequestRedirectEnable),
     ("p2p_completion_redirect_enable", describe r.p2pCompletionRedirectEnable),
     ("upstream_forwarding_enable", describe r.upstreamForwardingEnable),
     ("p2p_egress_control_enable", describe r.p2pEgressControlEnable),
     ("direct_translated_p2p_enable", describe r.directTranslatedP2pEnable)] []⟩

end AccessControl

/-- Access Control Services. -/
structure AccessControl where
  capability : AccessControl.Capability
  control : AccessControl.Control
  egressControlVector : Option Nat
  deriving DecidableEq, Repr

namespace AccessControl

/-- The egress control vector, where the function has one. -/
def egressControl (payload : Bytes) (c : Capability) : Except Fault (Option Nat) :=
  if c.p2pEgressControl then
    payload.require "Access Control Services" (4 + c.vectorBytes) fun p =>
      .ok (some ((p.window 4 c.vectorBytes).value % (1 <<< c.vectorBits)))
  else .ok none

/-- Reads the access control registers. -/
def decode (payload : Bytes) : Except Fault AccessControl :=
  payload.require "Access Control Services" 4 fun p =>
    let capability := Capability.ofWord (p.u16 0)
    (egressControl payload capability).map fun egressControlVector =>
      { capability, control := .ofWord (p.u16 2), egressControlVector }

end AccessControl

instance : Describe AccessControl :=
  ⟨fun r => .record
    [("capability", describe r.capability), ("control", describe r.control),
     ("egress_control_vector", describe r.egressControlVector)] []⟩

end ConfigSpace
