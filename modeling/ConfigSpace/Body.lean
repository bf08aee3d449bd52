import ConfigSpace.Capability.AccessControl
import ConfigSpace.Capability.AddressSpaceId
import ConfigSpace.Capability.AddressTranslation
import ConfigSpace.Capability.AdvancedFeatures
import ConfigSpace.Capability.BridgeSubsystem
import ConfigSpace.Capability.DebugPort
import ConfigSpace.Capability.DesignatedVendor
import ConfigSpace.Capability.ErrorReporting
import ConfigSpace.Capability.HyperTransport
import ConfigSpace.Capability.LatencyTolerance
import ConfigSpace.Capability.Msi
import ConfigSpace.Capability.MsiX
import ConfigSpace.Capability.PageRequest
import ConfigSpace.Capability.PciExpress
import ConfigSpace.Capability.PmSubstates
import ConfigSpace.Capability.PortContainment
import ConfigSpace.Capability.PowerBudgeting
import ConfigSpace.Capability.PowerManagement
import ConfigSpace.Capability.ResizableBar
import ConfigSpace.Capability.RoutingId
import ConfigSpace.Capability.Sata
import ConfigSpace.Capability.SecondaryPciExpress
import ConfigSpace.Capability.SerialNumber
import ConfigSpace.Capability.SlotIdentification
import ConfigSpace.Capability.TimeMeasurement
import ConfigSpace.Capability.TphRequester
import ConfigSpace.Capability.VendorExtended
import ConfigSpace.Capability.VendorSpecific
import ConfigSpace.Capability.VirtualChannel
import ConfigSpace.Capability.VitalProductData
import ConfigSpace.Identifier

/-!
# Bodies

The body of a capability is what its payload was decoded to.  Most capabilities
have registers of their own; some have none; some extended ones are known by
name only, and their payload is kept as it is; and so is the payload of a
capability that is not known at all.
-/

namespace ConfigSpace

/-- What the payload of a capability was decoded to. -/
inductive Body where
  | null
  | compactPciHotSwap
  | compactPciResourceControl
  | pciHotPlug
  | agp8x
  | secureDevice
  | extendedNull
  | powerManagement (b : PowerManagement)
  | vitalProductData (b : VitalProductData)
  | slotIdentification (b : SlotIdentification)
  | msi (b : Msi)
  | hyperTransport (b : HyperTransport)
  | vendorSpecific (b : VendorSpecific)
  | debugPort (b : DebugPort)
  | bridgeSubsystem (b : BridgeSubsystem)
  | pciExpress (b : PciExpress)
  | msiX (b : MsiX)
  | sata (b : Sata)
  | advancedFeatures (b : AdvancedFeatures)
  | errorReporting (b : ErrorReporting)
  | virtualChannel (b : VirtualChannel)
  | serialNumber (b : SerialNumber)
  | powerBudgeting (b : PowerBudgeting)
  | vendorExtended (b : VendorExtended)
  | accessControl (b : AccessControl)
  | routingId (b : RoutingId)
  | addressTranslation (b : AddressTranslation)
  | pageRequest (b : PageRequest)
  | resizableBar (b : ResizableBar)
  | tphRequester (b : TphRequester)
  | latencyTolerance (b : LatencyTolerance)
  | secondaryPciExpress (b : SecondaryPciExpress)
  | addressSpaceId (b : AddressSpaceId)
  | portContainment (b : PortContainment)
  | pmSubstates (b : PmSubstates)
  | timeMeasurement (b : TimeMeasurement)
  | designatedVendor (b : DesignatedVendor)
  | vfResizableBar (b : VfResizableBar)
  /-- A capability known by name only. -/
  | named (id : ExtendedCapabilityId) (title : String) (data : Bytes)
  /-- A capability that is not known. -/
  | unknown (capId : Int) (data : Bytes)
  deriving DecidableEq, Repr

namespace Body

/-- What kind of body it is. -/
def kind : Body → String
  | null => "null"
  | compactPciHotSwap => "compact_pci_hot_swap"
  | compactPciResourceControl => "compact_pci_resource_control"
  | pciHotPlug => "pci_hot_plug"
  | agp8x => "agp_8x"
  | secureDevice => "secure_device"
  | extendedNull => "extended_null"
  | powerManagement _ => "power_management"
  | vitalProductData _ => "vital_product_data"
  | slotIdentification _ => "slot_identification"
  | msi _ => "msi"
  | hyperTransport _ => "hypertransport"
  | vendorSpecific _ => "vendor_specific"
  | debugPort _ => "debug_port"
  | bridgeSubsystem _ => "bridge_subsystem_vendor_id"
  | pciExpress _ => "pci_express"
  | msiX _ => "msi_x"
  | sata _ => "sata"
  | advancedFeatures _ => "advanced_features"
  | errorReporting _ => "advanced_error_reporting"
  | virtualChannel _ => "virtual_channel"
  | serialNumber _ => "device_serial_number"
  | powerBudgeting _ => "power_budgeting"
  | vendorExtended _ => "vendor_specific_extended"
  | accessControl _ => "access_control_services"
  | routingId _ => "alternative_routing_id"
  | addressTranslation _ => "address_translation_services"
  | pageRequest _ => "page_request_interface"
  | resizableBar _ => "resizable_bar"
  | tphRequester _ => "tph_requester"
  | latencyTolerance _ => "latency_tolerance_reporting"
  | secondaryPciExpress _ => "secondary_pci_express"
  | addressSpaceId _ => "process_address_space_id"
  | portContainment _ => "downstream_port_containment"
  | pmSubstates _ => "l1_pm_substates"
  | timeMeasurement _ => "precision_time_measurement"
  | designatedVendor _ => "designated_vendor_specific"
  | vfResizableBar _ => "vf_resizable_bar"
  | named .. => "named_extended"
  | unknown .. => "unknown"

/-- Whether the capability is known. -/
def known : Body → Bool
  | unknown .. => false
  | _ => true

/-- The fields of a body. -/
def content : Body → Description
  | powerManagement b => describe b
  | vitalProductData b => describe b
  | slotIdentification b => describe b
  | msi b => describe b
  | hyperTransport b => describe b
  | vendorSpecific b => describe b
  | debugPort b => describe b
  | bridgeSubsystem b => describe b
  | pciExpress b => describe b
  | msiX b => describe b
  | sata b => describe b
  | advancedFeatures b => describe b
  | errorReporting b => describe b
  | virtualChannel b => describe b
  | serialNumber b => describe b
  | powerBudgeting b => describe b
  | vendorExtended b => describe b
  | accessControl b => describe b
  | routingId b => describe b
  | addressTranslation b => describe b
  | pageRequest b => describe b
  | resizableBar b => describe b
  | tphRequester b => describe b
  | latencyTolerance b => describe b
  | secondaryPciExpress b => describe b
  | addressSpaceId b => describe b
  | portContainment b => describe b
  | pmSubstates b => describe b
  | timeMeasurement b => describe b
  | designatedVendor b => describe b
  | vfResizableBar b => describe b
  | named id title data =>
      .record [("cap_id", describe id.code), ("name", .text title), ("data", describe data)] []
  | unknown capId data => .record [("cap_id", describe capId), ("data", describe data)] []
  | _ => .record [] []

end Body

instance : Describe Body :=
  ⟨fun b => b.content.tagged b.kind⟩

end ConfigSpace
