/-!
# Capability identifiers

Both lists of capabilities give every capability a number that says what it is.
The assigned numbers have names; a number without one belongs to a capability
that this library does not know.

Some extended capabilities are known by name only, which is their *title*.
-/

namespace ConfigSpace

/-- The identifiers of legacy capabilities. -/
inductive CapabilityId where
  | null
  | powerManagement
  | agp
  | vitalProductData
  | slotIdentification
  | msi
  | compactPciHotSwap
  | pciX
  | hypertransport
  | vendorSpecific
  | debugPort
  | compactPciResourceControl
  | pciHotPlug
  | bridgeSubsystemVendorId
  | agp8x
  | secureDevice
  | pciExpress
  | msiX
  | sata
  | advancedFeatures
  | enhancedAllocation
  | flatteningPortalBridge
  deriving DecidableEq, Repr

namespace CapabilityId

/-- The number of an identifier. -/
def code : CapabilityId → Nat
  | null => 0x00
  | powerManagement => 0x01
  | agp => 0x02
  | vitalProductData => 0x03
  | slotIdentification => 0x04
  | msi => 0x05
  | compactPciHotSwap => 0x06
  | pciX => 0x07
  | hypertransport => 0x08
  | vendorSpecific => 0x09
  | debugPort => 0x0A
  | compactPciResourceControl => 0x0B
  | pciHotPlug => 0x0C
  | bridgeSubsystemVendorId => 0x0D
  | agp8x => 0x0E
  | secureDevice => 0x0F
  | pciExpress => 0x10
  | msiX => 0x11
  | sata => 0x12
  | advancedFeatures => 0x13
  | enhancedAllocation => 0x14
  | flatteningPortalBridge => 0x15

/-- The name of an identifier. -/
def label : CapabilityId → String
  | null => "NULL"
  | powerManagement => "POWER_MANAGEMENT"
  | agp => "AGP"
  | vitalProductData => "VITAL_PRODUCT_DATA"
  | slotIdentification => "SLOT_IDENTIFICATION"
  | msi => "MSI"
  | compactPciHotSwap => "COMPACT_PCI_HOT_SWAP"
  | pciX => "PCI_X"
  | hypertransport => "HYPERTRANSPORT"
  | vendorSpecific => "VENDOR_SPECIFIC"
  | debugPort => "DEBUG_PORT"
  | compactPciResourceControl => "COMPACT_PCI_RESOURCE_CONTROL"
  | pciHotPlug => "PCI_HOT_PLUG"
  | bridgeSubsystemVendorId => "BRIDGE_SUBSYSTEM_VENDOR_ID"
  | agp8x => "AGP_8X"
  | secureDevice => "SECURE_DEVICE"
  | pciExpress => "PCI_EXPRESS"
  | msiX => "MSI_X"
  | sata => "SATA"
  | advancedFeatures => "ADVANCED_FEATURES"
  | enhancedAllocation => "ENHANCED_ALLOCATION"
  | flatteningPortalBridge => "FLATTENING_PORTAL_BRIDGE"

/-- All identifiers, in the order of their numbers. -/
def all : List CapabilityId :=
  [.null, .powerManagement, .agp, .vitalProductData, .slotIdentification, .msi,
    .compactPciHotSwap, .pciX, .hypertransport, .vendorSpecific, .debugPort,
    .compactPciResourceControl, .pciHotPlug, .bridgeSubsystemVendorId, .agp8x, .secureDevice,
    .pciExpress, .msiX, .sata, .advancedFeatures, .enhancedAllocation, .flatteningPortalBridge]

/-- The identifier with a number, if there is one. -/
def ofCode? (code : Int) : Option CapabilityId :=
  all.find? fun id => (id.code : Int) = code

theorem mem_all (id : CapabilityId) : id ∈ all := by
  cases id <;> decide

/-- The wording for a number that is no identifier. -/
def unknownMessage (code : Int) : String :=
  s!"{code} is not a valid CapabilityId"

end CapabilityId

/-- The identifiers of extended capabilities. -/
inductive ExtendedCapabilityId where
  | null
  | advancedErrorReporting
  | virtualChannel
  | deviceSerialNumber
  | powerBudgeting
  | rootComplexLinkDeclaration
  | rootComplexInternalLinkControl
  | rootComplexEventCollectorEndpointAssociation
  | multiFunctionVirtualChannel
  | virtualChannelMfvcPresent
  | rootComplexRegisterBlock
  | vendorSpecific
  | configurationAccessCorrelation
  | accessControlServices
  | alternativeRoutingId
  | addressTranslationServices
  | srIov
  | mrIov
  | multicast
  | pageRequestInterface
  | amdReserved
  | resizableBar
  | dynamicPowerAllocation
  | tphRequester
  | latencyToleranceReporting
  | secondaryPciExpress
  | protocolMultiplexing
  | processAddressSpaceId
  | lnRequester
  | downstreamPortContainment
  | l1PmSubstates
  | precisionTimeMeasurement
  | pciExpressOverMphy
  | frsQueueing
  | readinessTimeReporting
  | designatedVendorSpecific
  | vfResizableBar
  | dataLinkFeature
  | physicalLayer16gt
  | laneMargining
  | hierarchyId
  | nativePcieEnclosureManagement
  | physicalLayer32gt
  | alternateProtocol
  | systemFirmwareIntermediary
  | physicalLayer64gt
  deriving DecidableEq, Repr

namespace ExtendedCapabilityId

/-- The number of an identifier. -/
def code : ExtendedCapabilityId → Nat
  | null => 0x0000
  | advancedErrorReporting => 0x0001
  | virtualChannel => 0x0002
  | deviceSerialNumber => 0x0003
  | powerBudgeting => 0x0004
  | rootComplexLinkDeclaration => 0x0005
  | rootComplexInternalLinkControl => 0x0006
  | rootComplexEventCollectorEndpointAssociation => 0x0007
  | multiFunctionVirtualChannel => 0x0008
  | virtualChannelMfvcPresent => 0x0009
  | rootComplexRegisterBlock => 0x000A
  | vendorSpecific => 0x000B
  | configurationAccessCorrelation => 0x000C
  | accessControlServices => 0x000D
  | alternativeRoutingId => 0x000E
  | addressTranslationServices => 0x000F
  | srIov => 0x0010
  | mrIov => 0x0011
  | multicast => 0x0012
  | pageRequestInterface => 0x0013
  | amdReserved => 0x0014
  | resizableBar => 0x0015
  | dynamicPowerAllocation => 0x0016
  | tphRequester => 0x0017
  | latencyToleranceReporting => 0x0018
  | secondaryPciExpress => 0x0019
  | protocolMultiplexing => 0x001A
  | processAddressSpaceId => 0x001B
  | lnRequester => 0x001C
  | downstreamPortContainment => 0x001D
  | l1PmSubstates => 0x001E
  | precisionTimeMeasurement => 0x001F
  | pciExpressOverMphy => 0x0020
  | frsQueueing => 0x0021
  | readinessTimeReporting => 0x0022
  | designatedVendorSpecific => 0x0023
  | vfResizableBar => 0x0024
  | dataLinkFeature => 0x0025
  | physicalLayer16gt => 0x0026
  | laneMargining => 0x0027
  | hierarchyId => 0x0028
  | nativePcieEnclosureManagement => 0x0029
  | physicalLayer32gt => 0x002A
  | alternateProtocol => 0x002B
  | systemFirmwareIntermediary => 0x002C
  | physicalLayer64gt => 0x0031

/-- The name of an identifier. -/
def label : ExtendedCapabilityId → String
  | null => "NULL"
  | advancedErrorReporting => "ADVANCED_ERROR_REPORTING"
  | virtualChannel => "VIRTUAL_CHANNEL"
  | deviceSerialNumber => "DEVICE_SERIAL_NUMBER"
  | powerBudgeting => "POWER_BUDGETING"
  | rootComplexLinkDeclaration => "ROOT_COMPLEX_LINK_DECLARATION"
  | rootComplexInternalLinkControl => "ROOT_COMPLEX_INTERNAL_LINK_CONTROL"
  | rootComplexEventCollectorEndpointAssociation =>
      "ROOT_COMPLEX_EVENT_COLLECTOR_ENDPOINT_ASSOCIATION"
  | multiFunctionVirtualChannel => "MULTI_FUNCTION_VIRTUAL_CHANNEL"
  | virtualChannelMfvcPresent => "VIRTUAL_CHANNEL_MFVC_PRESENT"
  | rootComplexRegisterBlock => "ROOT_COMPLEX_REGISTER_BLOCK"
  | vendorSpecific => "VENDOR_SPECIFIC"
  | configurationAccessCorrelation => "CONFIGURATION_ACCESS_CORRELATION"
  | accessControlServices => "ACCESS_CONTROL_SERVICES"
  | alternativeRoutingId => "ALTERNATIVE_ROUTING_ID"
  | addressTranslationServices => "ADDRESS_TRANSLATION_SERVICES"
  | srIov => "SR_IOV"
  | mrIov => "MR_IOV"
  | multicast => "MULTICAST"
  | pageRequestInterface => "PAGE_REQUEST_INTERFACE"
  | amdReserved => "AMD_RESERVED"
  | resizableBar => "RESIZABLE_BAR"
  | dynamicPowerAllocation => "DYNAMIC_POWER_ALLOCATION"
  | tphRequester => "TPH_REQUESTER"
  | latencyToleranceReporting => "LATENCY_TOLERANCE_REPORTING"
  | secondaryPciExpress => "SECONDARY_PCI_EXPRESS"
  | protocolMultiplexing => "PROTOCOL_MULTIPLEXING"
  | processAddressSpaceId => "PROCESS_ADDRESS_SPACE_ID"
  | lnRequester => "LN_REQUESTER"
  | downstreamPortContainment => "DOWNSTREAM_PORT_CONTAINMENT"
  | l1PmSubstates => "L1_PM_SUBSTATES"
  | precisionTimeMeasurement => "PRECISION_TIME_MEASUREMENT"
  | pciExpressOverMphy => "PCI_EXPRESS_OVER_MPHY"
  | frsQueueing => "FRS_QUEUEING"
  | readinessTimeReporting => "READINESS_TIME_REPORTING"
  | designatedVendorSpecific => "DESIGNATED_VENDOR_SPECIFIC"
  | vfResizableBar => "VF_RESIZABLE_BAR"
  | dataLinkFeature => "DATA_LINK_FEATURE"
  | physicalLayer16gt => "PHYSICAL_LAYER_16GT"
  | laneMargining => "LANE_MARGINING"
  | hierarchyId => "HIERARCHY_ID"
  | nativePcieEnclosureManagement => "NATIVE_PCIE_ENCLOSURE_MANAGEMENT"
  | physicalLayer32gt => "PHYSICAL_LAYER_32GT"
  | alternateProtocol => "ALTERNATE_PROTOCOL"
  | systemFirmwareIntermediary => "SYSTEM_FIRMWARE_INTERMEDIARY"
  | physicalLayer64gt => "PHYSICAL_LAYER_64GT"

/-- All identifiers, in the order of their numbers. -/
def all : List ExtendedCapabilityId :=
  [.null, .advancedErrorReporting, .virtualChannel, .deviceSerialNumber, .powerBudgeting,
    .rootComplexLinkDeclaration, .rootComplexInternalLinkControl,
    .rootComplexEventCollectorEndpointAssociation, .multiFunctionVirtualChannel,
    .virtualChannelMfvcPresent, .rootComplexRegisterBlock, .vendorSpecific,
    .configurationAccessCorrelation, .accessControlServices, .alternativeRoutingId,
    .addressTranslationServices, .srIov, .mrIov, .multicast, .pageRequestInterface,
    .amdReserved, .resizableBar, .dynamicPowerAllocation, .tphRequester,
    .latencyToleranceReporting, .secondaryPciExpress, .protocolMultiplexing,
    .processAddressSpaceId, .lnRequester, .downstreamPortContainment, .l1PmSubstates,
    .precisionTimeMeasurement, .pciExpressOverMphy, .frsQueueing, .readinessTimeReporting,
    .designatedVendorSpecific, .vfResizableBar, .dataLinkFeature, .physicalLayer16gt,
    .laneMargining, .hierarchyId, .nativePcieEnclosureManagement, .physicalLayer32gt,
    .alternateProtocol, .systemFirmwareIntermediary, .physicalLayer64gt]

/-- The identifier with a number, if there is one. -/
def ofCode? (code : Int) : Option ExtendedCapabilityId :=
  all.find? fun id => (id.code : Int) = code

theorem mem_all (id : ExtendedCapabilityId) : id ∈ all := by
  cases id <;> decide

/-- The wording for a number that is no identifier. -/
def unknownMessage (code : Int) : String :=
  s!"{code} is not a valid ExtendedCapabilityId"

/-- The title of a capability that is known by name only. -/
def title? : ExtendedCapabilityId → Option String
  | rootComplexLinkDeclaration => some "Root Complex Link Declaration"
  | rootComplexInternalLinkControl => some "Root Complex Internal Link Control"
  | rootComplexEventCollectorEndpointAssociation =>
      some "Root Complex Event Collector Endpoint Association"
  | multiFunctionVirtualChannel => some "Multi-Function Virtual Channel"
  | virtualChannelMfvcPresent => some "Virtual Channel (MFVC present)"
  | rootComplexRegisterBlock => some "Root Complex Register Block"
  | configurationAccessCorrelation => some "Configuration Access Correlation"
  | srIov => some "Single Root I/O Virtualization"
  | mrIov => some "Multi-Root I/O Virtualization"
  | multicast => some "Multicast"
  | amdReserved => some "Reserved for AMD"
  | dynamicPowerAllocation => some "Dynamic Power Allocation"
  | protocolMultiplexing => some "Protocol Multiplexing"
  | lnRequester => some "LN Requester"
  | pciExpressOverMphy => some "PCI Express over M-PHY"
  | frsQueueing => some "FRS Queueing"
  | readinessTimeReporting => some "Readiness Time Reporting"
  | dataLinkFeature => some "Data Link Feature"
  | physicalLayer16gt => some "Physical Layer 16.0 GT/s"
  | laneMargining => some "Lane Margining at the Receiver"
  | hierarchyId => some "Hierarchy ID"
  | nativePcieEnclosureManagement => some "Native PCIe Enclosure Management"
  | physicalLayer32gt => some "Physical Layer 32.0 GT/s"
  | alternateProtocol => some "Alternate Protocol"
  | systemFirmwareIntermediary => some "System Firmware Intermediary"
  | _ => none

end ExtendedCapabilityId

end ConfigSpace
