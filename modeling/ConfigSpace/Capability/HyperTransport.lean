import ConfigSpace.Payload

/-!
# HyperTransport (legacy 08h)

The top five bits of the first register say which of several unrelated blocks of
registers follows.  Four of the blocks are decoded: the two link interfaces, the
revision, and the mapping of message signaled interrupts.  The others are known
by their kind only.
-/

namespace ConfigSpace

namespace HyperTransport

/-! ## Kinds of block -/

/-- The kinds of HyperTransport block. -/
inductive Kind where
  | slaveOrPrimaryInterface
  | hostOrSecondaryInterface
  | switch
  | reservedHost
  | interruptDiscoveryAndConfiguration
  | revisionId
  | unitIdClumping
  | extendedConfigurationSpaceAccess
  | addressMapping
  | msiMapping
  | directRoute
  | vcSet
  | retryMode
  | x86Encoding
  | gen3
  | functionLevelExtension
  | powerManagement
  | highNodeCount
  | reserved
  deriving DecidableEq, Repr

namespace Kind

/-- The kind that a capability type stands for.  The interfaces use fewer bits of
the type than the others do, so several types stand for each of them. -/
def ofCode (code : Int) : Kind :=
  if code ≤ 0b00011 then .slaveOrPrimaryInterface
  else if code ≤ 0b00111 then .hostOrSecondaryInterface
  else match code with
    | 0b01000 => .switch
    | 0b01001 => .reservedHost
    | 0b10000 => .interruptDiscoveryAndConfiguration
    | 0b10001 => .revisionId
    | 0b10010 => .unitIdClumping
    | 0b10011 => .extendedConfigurationSpaceAccess
    | 0b10100 => .addressMapping
    | 0b10101 => .msiMapping
    | 0b10110 => .directRoute
    | 0b10111 => .vcSet
    | 0b11000 => .retryMode
    | 0b11001 => .x86Encoding
    | 0b11010 => .gen3
    | 0b11011 => .functionLevelExtension
    | 0b11100 => .powerManagement
    | 0b11101 => .highNodeCount
    | _ => .reserved

/-- The name of a kind. -/
def name : Kind → String
  | slaveOrPrimaryInterface => "slave_or_primary_interface"
  | hostOrSecondaryInterface => "host_or_secondary_interface"
  | switch => "switch"
  | reservedHost => "reserved_host"
  | interruptDiscoveryAndConfiguration => "interrupt_discovery_and_configuration"
  | revisionId => "revision_id"
  | unitIdClumping => "unit_id_clumping"
  | extendedConfigurationSpaceAccess => "extended_configuration_space_access"
  | addressMapping => "address_mapping"
  | msiMapping => "msi_mapping"
  | directRoute => "direct_route"
  | vcSet => "vc_set"
  | retryMode => "retry_mode"
  | x86Encoding => "x86_encoding"
  | gen3 => "gen3"
  | functionLevelExtension => "function_level_extension"
  | powerManagement => "power_management"
  | highNodeCount => "high_node_count"
  | reserved => "reserved"

end Kind

/-! ## Registers -/

/-- Revision of the specification that a function follows. -/
structure RevisionId where
  (minor major : Int)
  deriving DecidableEq, Repr

/-- The register with the value `w`. -/
def RevisionId.ofWord (w : Nat) : RevisionId where
  minor := field w 0 5
  major := field w 5 3

/-- The revision as it is usually written. -/
def RevisionId.text (r : RevisionId) : String :=
  s!"{r.major}." ++ Text.decimal r.minor 2

instance : Describe RevisionId :=
  ⟨fun r => .record
    [("minor", describe r.minor), ("major", describe r.major)]
    [("str", describe r.text)]⟩

/-- Link Control register. -/
structure LinkControl where
  (sourceIdEnable crcFloodEnable crcStartTest crcForceError linkFailure : Bool)
  (initializationComplete endOfChain transmitterOff : Bool)
  crcError : Nat
  (isochronousFlowControlEnable ldtstopTristateEnable extendedCtlTime : Bool)
  enable64BitAddressing : Bool
  deriving DecidableEq, Repr

/-- The register with the value `w`. -/
def LinkControl.ofWord (w : Nat) : LinkControl where
  sourceIdEnable := flag w 0
  crcFloodEnable := flag w 1
  crcStartTest := flag w 2
  crcForceError := flag w 3
  linkFailure := flag w 4
  initializationComplete := flag w 5
  endOfChain := flag w 6
  transmitterOff := flag w 7
  crcError := field w 8 4
  isochronousFlowControlEnable := flag w 12
  ldtstopTristateEnable := flag w 13
  extendedCtlTime := flag w 14
  enable64BitAddressing := flag w 15

instance : Describe LinkControl :=
  ⟨fun r => .record
    [("source_id_enable", describe r.sourceIdEnable),
     ("crc_flood_enable", describe r.crcFloodEnable), ("crc_start_test", describe r.crcStartTest),
     ("crc_force_error", describe r.crcForceError), ("link_failure", describe r.linkFailure),
     ("initialization_complete", describe r.initializationComplete),
     ("end_of_chain", describe r.endOfChain), ("transmitter_off", describe r.transmitterOff),
     ("crc_error", describe r.crcError),
     ("isochronous_flow_control_enable", describe r.isochronousFlowControlEnable),
     ("ldtstop_tristate_enable", describe r.ldtstopTristateEnable),
     ("extended_ctl_time", describe r.extendedCtlTime),
     ("enable_64_bit_addressing", describe r.enable64BitAddressing)] []⟩

/-- Link Configuration register.  Link widths are three-bit encodings, see `widthBits`. -/
structure LinkConfiguration where
  maxLinkWidthIn : Nat
  doublewordFlowControlIn : Bool
  maxLinkWidthOut : Nat
  doublewordFlowControlOut : Bool
  linkWidthIn : Nat
  doublewordFlowControlInEnable : Bool
  linkWidthOut : Nat
  doublewordFlowControlOutEnable : Bool
  deriving DecidableEq, Repr

/-- The register with the value `w`. -/
def LinkConfiguration.ofWord (w : Nat) : LinkConfiguration where
  maxLinkWidthIn := field w 0 3
  doublewordFlowControlIn := flag w 3
  maxLinkWidthOut := field w 4 3
  doublewordFlowControlOut := flag w 7
  linkWidthIn := field w 8 3
  doublewordFlowControlInEnable := flag w 11
  linkWidthOut := field w 12 3
  doublewordFlowControlOutEnable := flag w 15

instance : Describe LinkConfiguration :=
  ⟨fun r => .record
    [("max_link_width_in", describe r.maxLinkWidthIn),
     ("doubleword_flow_control_in", describe r.doublewordFlowControlIn),
     ("max_link_width_out", describe r.maxLinkWidthOut),
     ("doubleword_flow_control_out", describe r.doublewordFlowControlOut),
     ("link_width_in", describe r.linkWidthIn),
     ("doubleword_flow_control_in_enable", describe r.doublewordFlowControlInEnable),
     ("link_width_out", describe r.linkWidthOut),
     ("doubleword_flow_control_out_enable", describe r.doublewordFlowControlOutEnable)] []⟩

/-- The width in bits that an encoding stands for: no bits if the link is not
connected, and nothing if the encoding is reserved. -/
def widthBits (encoding : Int) : Option Nat :=
  match encoding with
  | 0b000 => some 8
  | 0b001 => some 16
  | 0b011 => some 32
  | 0b100 => some 2
  | 0b101 => some 4
  | 0b111 => some 0
  | _ => none

/-- Error bits of a link. -/
structure LinkError where
  (protocolError overflowError endOfChainError ctlTimeout : Bool)
  deriving DecidableEq, Repr

/-- Bits 7:4 of the link frequency register `w`. -/
def LinkError.ofWord (w : Nat) : LinkError where
  protocolError := flag w 4
  overflowError := flag w 5
  endOfChainError := flag w 6
  ctlTimeout := flag w 7

instance : Describe LinkError :=
  ⟨fun r => .record
    [("protocol_error", describe r.protocolError), ("overflow_error", describe r.overflowError),
     ("end_of_chain_error", describe r.endOfChainError), ("ctl_timeout", describe r.ctlTimeout)] []⟩

/-- Link Frequency register with its error bits. -/
structure LinkFrequency where
  linkFreq : Int
  error : LinkError
  deriving DecidableEq, Repr

namespace LinkFrequency

/-- The register with the value `w`. -/
def ofWord (w : Nat) : LinkFrequency where
  linkFreq := field w 0 4
  error := .ofWord w

/-- The frequencies that the encodings from zero on stand for, in megahertz. -/
def frequencies : List Nat :=
  [200, 300, 400, 500, 600, 800, 1000, 1200, 1400, 1600, 1800, 2000, 2200, 2400, 2600]

/-- The frequency in megahertz, with or without the link frequency extension bit;
nothing for the encodings that are reserved or up to the vendor. -/
def megahertz (r : LinkFrequency) (extension : Bool := false) : Except Undefined (Option Nat) :=
  if extension then
    match r.linkFreq with
    | 0b0001 => .ok (some 2800)
    | 0b0010 => .ok (some 3000)
    | 0b0011 => .ok (some 3200)
    | _ => .ok none
  else if frequencies.length ≤ r.linkFreq then .ok none
  else (Code.entry frequencies r.linkFreq).map some

end LinkFrequency

instance : Describe LinkFrequency :=
  ⟨fun r => .record
    [("link_freq", describe r.linkFreq), ("error", describe r.error)] []⟩

/-- Feature Capability register. -/
structure Features where
  (isochronousFlowControlMode ldtstop crcTestMode extendedCtlTimeRequired : Bool)
  (qwordAddressing unitidReorderDisable sourceIdentificationExtension : Bool)
  (extendedRegisterSet upstreamConfigurationEnable : Bool)
  deriving DecidableEq, Repr

/-- The register with the value `w`. -/
def Features.ofWord (w : Nat) : Features where
  isochronousFlowControlMode := flag w 0
  ldtstop := flag w 1
  crcTestMode := flag w 2
  extendedCtlTimeRequired := flag w 3
  qwordAddressing := flag w 4
  unitidReorderDisable := flag w 5
  sourceIdentificationExtension := flag w 6
  extendedRegisterSet := flag w 8
  upstreamConfigurationEnable := flag w 9

instance : Describe Features :=
  ⟨fun r => .record
    [("isochronous_flow_control_mode", describe r.isochronousFlowControlMode),
     ("ldtstop", describe r.ldtstop), ("crc_test_mode", describe r.crcTestMode),
     ("extended_ctl_time_required", describe r.extendedCtlTimeRequired),
     ("qword_addressing", describe r.qwordAddressing),
     ("unitid_reorder_disable", describe r.unitidReorderDisable),
     ("source_identification_extension", describe r.sourceIdentificationExtension),
     ("extended_register_set", describe r.extendedRegisterSet),
     ("upstream_configuration_enable", describe r.upstreamConfigurationEnable)] []⟩

/-- Error Handling register. -/
structure ErrorHandling where
  (protocolErrorFloodEnable overflowErrorFloodEnable protocolErrorFatalEnable : Bool)
  (overflowErrorFatalEnable endOfChainErrorFatalEnable responseErrorFatalEnable : Bool)
  (crcErrorFatalEnable systemErrorFatalEnable chainFail responseError : Bool)
  (protocolErrorNonfatalEnable overflowErrorNonfatalEnable endOfChainErrorNonfatalEnable : Bool)
  (responseErrorNonfatalEnable crcErrorNonfatalEnable systemErrorNonfatalEnable : Bool)
  deriving DecidableEq, Repr

/-- The register with the value `w`. -/
def ErrorHandling.ofWord (w : Nat) : ErrorHandling where
  protocolErrorFloodEnable := flag w 0
  overflowErrorFloodEnable := flag w 1
  protocolErrorFatalEnable := flag w 2
  overflowErrorFatalEnable := flag w 3
  endOfChainErrorFatalEnable := flag w 4
  responseErrorFatalEnable := flag w 5
  crcErrorFatalEnable := flag w 6
  systemErrorFatalEnable := flag w 7
  chainFail := flag w 8
  responseError := flag w 9
  protocolErrorNonfatalEnable := flag w 10
  overflowErrorNonfatalEnable := flag w 11
  endOfChainErrorNonfatalEnable := flag w 12
  responseErrorNonfatalEnable := flag w 13
  crcErrorNonfatalEnable := flag w 14
  systemErrorNonfatalEnable := flag w 15

instance : Describe ErrorHandling :=
  ⟨fun r => .record
    [("protocol_error_flood_enable", describe r.protocolErrorFloodEnable),
     ("overflow_error_flood_enable", describe r.overflowErrorFloodEnable),
     ("protocol_error_fatal_enable", describe r.protocolErrorFatalEnable),
     ("overflow_error_fatal_enable", describe r.overflowErrorFatalEnable),
     ("end_of_chain_error_fatal_enable", describe r.endOfChainErrorFatalEnable),
     ("response_error_fatal_enable", describe r.responseErrorFatalEnable),
     ("crc_error_fatal_enable", describe r.crcErrorFatalEnable),
     ("system_error_fatal_enable", describe r.systemErrorFatalEnable),
     ("chain_fail", describe r.chainFail), ("response_error", describe r.responseError),
     ("protocol_error_nonfatal_enable", describe r.protocolErrorNonfatalEnable),
     ("overflow_error_nonfatal_enable", describe r.overflowErrorNonfatalEnable),
     ("end_of_chain_error_nonfatal_enable", describe r.endOfChainErrorNonfatalEnable),
     ("response_error_nonfatal_enable", describe r.responseErrorNonfatalEnable),
     ("crc_error_nonfatal_enable", describe r.crcErrorNonfatalEnable),
     ("system_error_nonfatal_enable", describe r.systemErrorNonfatalEnable)] []⟩

/-- Command register of a slave or primary interface. -/
structure SlaveCommand where
  (baseUnitid unitCount : Nat)
  (masterHost defaultDirection dropOnUninitializedLink : Bool)
  deriving DecidableEq, Repr

/-- The register with the value `w`. -/
def SlaveCommand.ofWord (w : Nat) : SlaveCommand where
  baseUnitid := field w 0 5
  unitCount := field w 5 5
  masterHost := flag w 10
  defaultDirection := flag w 11
  dropOnUninitializedLink := flag w 12

instance : Describe SlaveCommand :=
  ⟨fun r => .record
    [("base_unitid", describe r.baseUnitid), ("unit_count", describe r.unitCount),
     ("master_host", describe r.masterHost), ("default_direction", describe r.defaultDirection),
     ("drop_on_uninitialized_link", describe r.dropOnUninitializedLink)] []⟩

/-- Command register of a host or secondary interface. -/
structure HostCommand where
  (warmReset doubleEnded : Bool)
  deviceNumber : Nat
  (chainSide hostHide actAsSlave hostInboundEndOfChainError dropOnUninitializedLink : Bool)
  deriving DecidableEq, Repr

/-- The register with the value `w`. -/
def HostCommand.ofWord (w : Nat) : HostCommand where
  warmReset := flag w 0
  doubleEnded := flag w 1
  deviceNumber := field w 2 5
  chainSide := flag w 7
  hostHide := flag w 8
  actAsSlave := flag w 10
  hostInboundEndOfChainError := flag w 11
  dropOnUninitializedLink := flag w 12

instance : Describe HostCommand :=
  ⟨fun r => .record
    [("warm_reset", describe r.warmReset), ("double_ended", describe r.doubleEnded),
     ("device_number", describe r.deviceNumber), ("chain_side", describe r.chainSide),
     ("host_hide", describe r.hostHide), ("act_as_slave", describe r.actAsSlave),
     ("host_inbound_end_of_chain_error", describe r.hostInboundEndOfChainError),
     ("drop_on_uninitialized_link", describe r.dropOnUninitializedLink)] []⟩

/-! ## Blocks -/

/-- Slave or primary interface.  The maps of supported frequencies are kept as
they are. -/
structure SlaveInterface where
  command : SlaveCommand
  linkControl0 : LinkControl
  linkConfig0 : LinkConfiguration
  linkControl1 : LinkControl
  linkConfig1 : LinkConfiguration
  revisionId : RevisionId
  linkFreq0 : LinkFrequency
  linkFreqCap0 : Nat
  feature : Features
  linkFreq1 : LinkFrequency
  linkFreqCap1 : Nat
  enumerationScratchpad : Nat
  errorHandling : ErrorHandling
  (memBaseUpper memLimitUpper busNumber : Nat)
  deriving DecidableEq, Repr

/-- Reads a slave or primary interface, which has room for the lower half of the
feature register only. -/
def SlaveInterface.decode (payload : Bytes) : Except Fault SlaveInterface :=
  payload.require "HyperTransport Slave/Primary Interface" 26 fun p => .ok {
    command := .ofWord (p.u16 0)
    linkControl0 := .ofWord (p.u16 2)
    linkConfig0 := .ofWord (p.u16 4)
    linkControl1 := .ofWord (p.u16 6)
    linkConfig1 := .ofWord (p.u16 8)
    revisionId := .ofWord (p.u8 10)
    linkFreq0 := .ofWord (p.u8 11)
    linkFreqCap0 := p.u16 12
    feature := .ofWord (p.u8 14)
    linkFreq1 := .ofWord (p.u8 15)
    linkFreqCap1 := p.u16 16
    enumerationScratchpad := p.u16 18
    errorHandling := .ofWord (p.u16 20)
    memBaseUpper := p.u8 22
    memLimitUpper := p.u8 23
    busNumber := p.u8 24 }

instance : Describe SlaveInterface :=
  ⟨fun r => .record
    [("command", describe r.command), ("link_control_0", describe r.linkControl0),
     ("link_config_0", describe r.linkConfig0), ("link_control_1", describe r.linkControl1),
     ("link_config_1", describe r.linkConfig1), ("revision_id", describe r.revisionId),
     ("link_freq_0", describe r.linkFreq0), ("link_freq_cap_0", describe r.linkFreqCap0),
     ("feature", describe r.feature), ("link_freq_1", describe r.linkFreq1),
     ("link_freq_cap_1", describe r.linkFreqCap1),
     ("enumeration_scratchpad", describe r.enumerationScratchpad),
     ("error_handling", describe r.errorHandling), ("mem_base_upper", describe r.memBaseUpper),
     ("mem_limit_upper", describe r.memLimitUpper), ("bus_number", describe r.busNumber)] []⟩

/-- Host or secondary interface.  The map of supported frequencies is kept as it
is. -/
structure HostInterface where
  command : HostCommand
  linkControl : LinkControl
  linkConfig : LinkConfiguration
  revisionId : RevisionId
  linkFreq : LinkFrequency
  linkFreqCap : Nat
  feature : Features
  enumerationScratchpad : Nat
  errorHandling : ErrorHandling
  (memBaseUpper memLimitUpper : Nat)
  deriving DecidableEq, Repr

/-- Reads a host or secondary interface. -/
def HostInterface.decode (payload : Bytes) : Except Fault HostInterface :=
  payload.require "HyperTransport Host/Secondary Interface" 22 fun p => .ok {
    command := .ofWord (p.u16 0)
    linkControl := .ofWord (p.u16 2)
    linkConfig := .ofWord (p.u16 4)
    revisionId := .ofWord (p.u8 6)
    linkFreq := .ofWord (p.u8 7)
    linkFreqCap := p.u16 8
    feature := .ofWord (p.u16 10)
    enumerationScratchpad := p.u16 14
    errorHandling := .ofWord (p.u16 16)
    memBaseUpper := p.u8 18
    memLimitUpper := p.u8 19 }

instance : Describe HostInterface :=
  ⟨fun r => .record
    [("command", describe r.command), ("link_control", describe r.linkControl),
     ("link_config", describe r.linkConfig), ("revision_id", describe r.revisionId),
     ("link_freq", describe r.linkFreq), ("link_freq_cap", describe r.linkFreqCap),
     ("feature", describe r.feature),
     ("enumeration_scratchpad", describe r.enumerationScratchpad),
     ("error_handling", describe r.errorHandling), ("mem_base_upper", describe r.memBaseUpper),
     ("mem_limit_upper", describe r.memLimitUpper)] []⟩

/-- Reads the revision, which is the low byte of the first register. -/
def RevisionId.decode (payload : Bytes) : Except Fault RevisionId :=
  payload.require "HyperTransport Revision ID" 1 fun p => .ok (.ofWord (p.u8 0))

/-- Mapping of message signaled interrupts. -/
structure MsiMapping where
  (enabled fixed : Bool)
  (baseAddressLower baseAddressUpper : Int)
  deriving DecidableEq, Repr

namespace MsiMapping

/-- Reads a mapping. -/
def decode (payload : Bytes) : Except Fault MsiMapping :=
  payload.require "HyperTransport MSI Mapping" 10 fun p => .ok {
    enabled := flag (p.u16 0) 0
    fixed := flag (p.u16 0) 1
    baseAddressLower := p.u32 2
    baseAddressUpper := p.u32 6 }

/-- The base address, of which the low twenty bits are not stored. -/
def baseAddress (m : MsiMapping) : Int :=
  0x100000000 * m.baseAddressUpper + 0x100000 * (m.baseAddressLower / 0x100000 % 0x1000)

end MsiMapping

instance : Describe MsiMapping :=
  ⟨fun r => .record
    [("enabled", describe r.enabled), ("fixed", describe r.fixed),
     ("base_address_lower", describe r.baseAddressLower),
     ("base_address_upper", describe r.baseAddressUpper)]
    [("base_address", describe r.baseAddress)]⟩

/-- A decoded block of registers. -/
inductive Block where
  | slave (b : SlaveInterface)
  | host (b : HostInterface)
  | revision (b : RevisionId)
  | msiMapping (b : MsiMapping)
  deriving DecidableEq, Repr

/-- Reads the block of a kind, if its registers are known. -/
def Block.decode (kind : Kind) (payload : Bytes) : Except Fault (Option Block) :=
  match kind with
  | .slaveOrPrimaryInterface => (SlaveInterface.decode payload).map fun b => some (.slave b)
  | .hostOrSecondaryInterface => (HostInterface.decode payload).map fun b => some (.host b)
  | .revisionId => (RevisionId.decode payload).map fun b => some (.revision b)
  | .msiMapping => (MsiMapping.decode payload).map fun b => some (.msiMapping b)
  | _ => .ok none

instance : Describe Block :=
  ⟨fun
    | .slave b => describe b
    | .host b => describe b
    | .revision b => describe b
    | .msiMapping b => describe b⟩

end HyperTransport

/-- HyperTransport. -/
structure HyperTransport where
  capabilityType : Nat
  block : Option HyperTransport.Block
  deriving DecidableEq, Repr

namespace HyperTransport

/-- The kind of block. -/
def kind (h : HyperTransport) : Kind :=
  .ofCode h.capabilityType

/-- Reads the capability type and the block it calls for.  A payload too short for
its block is not decoded at all. -/
def decode (payload : Bytes) : Except Fault HyperTransport :=
  payload.require "HyperTransport" 2 fun p =>
    let capabilityType := field (p.u16 0) 11 5
    (Block.decode (.ofCode capabilityType) payload).map fun block => { capabilityType, block }

end HyperTransport

instance : Describe HyperTransport :=
  ⟨fun r => .record
    [("capability_type", describe r.capabilityType), ("type_name", describe r.kind.name),
     ("block", describe r.block)] []⟩

end ConfigSpace
