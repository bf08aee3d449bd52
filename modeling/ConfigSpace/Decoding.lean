import ConfigSpace.Body
import ConfigSpace.Options
import ConfigSpace.Walk.Record

/-!
# Decoding one capability

The identifier of a capability selects its decoder (`decoder?`), and the list it
is in says which identifiers those are.  A capability without a decoder is not an
error: it is decoded to a body that keeps its payload.

`RawCapability.decode` is the whole of it.  The result names the place of the
capability whether decoding works or not: a decoded capability carries the offset
and the identifier, and an error is located there.
-/

namespace ConfigSpace

/-! ## Decoders -/

/-- A decoder: it gets the payload, and the options for the identity of the device. -/
abbrev Decoder :=
  Bytes → Options → Logged (Except Error Body)

namespace Decoder

/-- The decoder of a capability whose payload is not looked at. -/
def constant (body : Body) : Decoder :=
  fun _ _ => ⟨.ok body, []⟩

/-- The decoder of a capability that is read on its own. -/
def plain {α : Type} (wrap : α → Body) (read : Bytes → Except Fault α) : Decoder :=
  fun payload _ => .quiet ((read payload).map wrap)

/-- The decoder of a capability known by name only. -/
def named (id : ExtendedCapabilityId) (title : String) : Decoder :=
  fun payload _ => ⟨.ok (.named id title payload), []⟩

end Decoder

/-- The decoder of a legacy capability. -/
def CapabilityId.decoder? : CapabilityId → Option Decoder
  | null => some (.constant .null)
  | powerManagement => some (.plain .powerManagement PowerManagement.decode)
  | agp => none
  | vitalProductData => some (.plain .vitalProductData VitalProductData.decode)
  | slotIdentification => some (.plain .slotIdentification SlotIdentification.decode)
  | msi => some (.plain .msi Msi.decode)
  | compactPciHotSwap => some (.constant .compactPciHotSwap)
  | pciX => none
  | hypertransport => some (.plain .hyperTransport HyperTransport.decode)
  | vendorSpecific => some fun payload options =>
      (VendorSpecific.decode payload options.vendorId options.deviceId).map
        (·.map .vendorSpecific)
  | debugPort => some (.plain .debugPort DebugPort.decode)
  | compactPciResourceControl => some (.constant .compactPciResourceControl)
  | pciHotPlug => some (.constant .pciHotPlug)
  | bridgeSubsystemVendorId => some (.plain .bridgeSubsystem BridgeSubsystem.decode)
  | agp8x => some (.constant .agp8x)
  | secureDevice => some (.constant .secureDevice)
  | pciExpress => some (.plain .pciExpress PciExpress.decode)
  | msiX => some (.plain .msiX MsiX.decode)
  | sata => some (.plain .sata Sata.decode)
  | advancedFeatures => some (.plain .advancedFeatures AdvancedFeatures.decode)
  | enhancedAllocation => none
  | flatteningPortalBridge => none

/-- The decoder of an extended capability: its own, or else the one that its title
gives it. -/
def ExtendedCapabilityId.decoder? : ExtendedCapabilityId → Option Decoder
  | null => some (.constant .extendedNull)
  | advancedErrorReporting => some (.plain .errorReporting ErrorReporting.decode)
  | virtualChannel => some (.plain .virtualChannel VirtualChannel.decode)
  | deviceSerialNumber => some (.plain .serialNumber SerialNumber.decode)
  | powerBudgeting => some (.plain .powerBudgeting PowerBudgeting.decode)
  | vendorSpecific => some (.plain .vendorExtended VendorExtended.decode)
  | accessControlServices => some (.plain .accessControl AccessControl.decode)
  | alternativeRoutingId => some (.plain .routingId RoutingId.decode)
  | addressTranslationServices => some (.plain .addressTranslation AddressTranslation.decode)
  | pageRequestInterface => some (.plain .pageRequest PageRequest.decode)
  | resizableBar => some (.plain .resizableBar ResizableBar.decode)
  | tphRequester => some (.plain .tphRequester TphRequester.decode)
  | latencyToleranceReporting => some (.plain .latencyTolerance LatencyTolerance.decode)
  | secondaryPciExpress => some (.plain .secondaryPciExpress SecondaryPciExpress.decode)
  | processAddressSpaceId => some (.plain .addressSpaceId AddressSpaceId.decode)
  | downstreamPortContainment => some (.plain .portContainment PortContainment.decode)
  | l1PmSubstates => some (.plain .pmSubstates PmSubstates.decode)
  | precisionTimeMeasurement => some (.plain .timeMeasurement TimeMeasurement.decode)
  | designatedVendorSpecific => some fun payload _ =>
      (DesignatedVendor.decode payload).map (·.map .designatedVendor)
  | vfResizableBar => some (.plain .vfResizableBar VfResizableBar.decode)
  | id => id.title?.map (.named id)

/-- The decoder of the capability with an identifier, in the list that it is in. -/
def decoder? (extended : Bool) (capId : Int) : Option Decoder :=
  if extended then (ExtendedCapabilityId.ofCode? capId).bind ExtendedCapabilityId.decoder?
  else (CapabilityId.ofCode? capId).bind CapabilityId.decoder?

/-- What holds of the decoders of both lists holds of every decoder that an identifier has. -/
theorem decoder?_cases {P : Decoder → Prop}
    (legacy : ∀ id decoder, CapabilityId.decoder? id = some decoder → P decoder)
    (extended : ∀ id decoder, ExtendedCapabilityId.decoder? id = some decoder → P decoder)
    {inExtended : Bool} {capId : Int} {decoder : Decoder}
    (h : decoder? inExtended capId = some decoder) : P decoder := by
  unfold decoder? at h
  split at h
  · obtain ⟨id, -, hid⟩ := Option.bind_eq_some_iff.1 h
    exact extended id decoder hid
  · obtain ⟨id, -, hid⟩ := Option.bind_eq_some_iff.1 h
    exact legacy id decoder hid

/-- Whether an identifier has a decoder. -/
def isRegistered (extended : Bool) (capId : Int) : Bool :=
  (decoder? extended capId).isSome

/-! ## Decoded capabilities -/

/-- A decoded capability. -/
structure Decoded where
  /-- The offset of the header. -/
  offset : Int
  /-- The identifier. -/
  capId : Int
  /-- The version of an extended capability. -/
  version : Option Int
  /-- What the payload was decoded to. -/
  body : Body
  deriving DecidableEq, Repr

namespace Decoded

/-- Whether the capability is one of the extended list. -/
def extended (d : Decoded) : Bool :=
  d.version.isSome

/-- What kind of body it has. -/
def kind (d : Decoded) : String :=
  d.body.kind

/-- Whether the capability is known. -/
def known (d : Decoded) : Bool :=
  d.body.known

end Decoded

namespace RawCapability

/-- Decodes the payload of a capability. -/
def decodeBody (raw : RawCapability) (options : Options := {}) : Logged (Except Error Body) :=
  match decoder? raw.extended raw.capId with
  | none => ⟨.ok (.unknown raw.capId raw.payload),
      [.unknownCapability raw.offset raw.capId raw.extended]⟩
  | some decoder => decoder raw.payload options

/-- Decodes a capability. -/
def decode (raw : RawCapability) (options : Options := {}) : Logged (Except Error Decoded) :=
  (raw.decodeBody options).map fun
    | .ok body => .ok { offset := raw.offset, capId := raw.capId, version := raw.version, body }
    | .error e => .error (e.locate raw.offset raw.capId)

end RawCapability

end ConfigSpace
