import ConfigSpace.Payload

/-!
# PCI Express (legacy 10h)

The capabilities, control and status registers of a PCI Express function.  The
link registers follow them where the structure is long enough to hold them.
-/

namespace ConfigSpace

namespace PciExpress

/-- The number of bytes that a payload or read request size field stands for; every
encoding without a meaning counts as the smallest size. -/
def payloadBytes (code : Int) : Nat :=
  if 0 ≤ code ∧ code < 6 then 128 <<< code.toNat else 128

/-- The generation that a link speed stands for. -/
def speedName (speed : Int) : String :=
  if 1 ≤ speed ∧ speed ≤ 6 then s!"Gen{speed}" else s!"Unknown({speed})"

/-- PCI Express Capabilities register. -/
structure Capabilities where
  (version devicePortType : Int)
  slotImplemented : Bool
  interruptMessageNumber : Int
  (tcsRoutingSupported flitModeSupported : Bool)
  deriving DecidableEq, Repr

/-- The register with the value `w`. -/
def Capabilities.ofWord (w : Nat) : Capabilities where
  version := field w 0 4
  devicePortType := field w 4 4
  slotImplemented := flag w 8
  interruptMessageNumber := field w 9 5
  tcsRoutingSupported := flag w 14
  flitModeSupported := flag w 15

/-- What kind of device or port the function is. -/
def Capabilities.devicePortTypeName (r : Capabilities) : String :=
  match r.devicePortType with
  | 0 => "Endpoint"
  | 1 => "Legacy Endpoint"
  | 4 => "Root Port"
  | 5 => "Upstream Switch Port"
  | 6 => "Downstream Switch Port"
  | 7 => "PCIe-to-PCI Bridge"
  | 8 => "PCI-to-PCIe Bridge"
  | 9 => "Root Complex Integrated Endpoint"
  | 10 => "Root Complex Event Collector"
  | n => s!"Unknown({n})"

instance : Describe Capabilities :=
  ⟨fun r => .record
    [("version", describe r.version), ("device_port_type", describe r.devicePortType),
     ("slot_implemented", describe r.slotImplemented),
     ("interrupt_message_number", describe r.interruptMessageNumber),
     ("tcs_routing_supported", describe r.tcsRoutingSupported),
     ("flit_mode_supported", describe r.flitModeSupported)]
    [("device_port_type_name", describe r.devicePortTypeName)]⟩

/-- Device Capabilities register. -/
structure DeviceCapabilities where
  (maxPayloadSizeSupported phantomFunctionsSupported : Int)
  extendedTagFieldSupported : Bool
  (endpointL0sAcceptableLatency endpointL1AcceptableLatency : Int)
  (roleBasedErrorReporting errCorSubclassCapable rxMpsFixed : Bool)
  (capturedSlotPowerLimitValue capturedSlotPowerLimitScale : Int)
  (functionLevelResetCapability mixedMpsSupported teeIoSupported : Bool)
  deriving DecidableEq, Repr

/-- The register with the value `w`. -/
def DeviceCapabilities.ofWord (w : Nat) : DeviceCapabilities where
  maxPayloadSizeSupported := field w 0 3
  phantomFunctionsSupported := field w 3 2
  extendedTagFieldSupported := flag w 5
  endpointL0sAcceptableLatency := field w 6 3
  endpointL1AcceptableLatency := field w 9 3
  roleBasedErrorReporting := flag w 15
  errCorSubclassCapable := flag w 16
  rxMpsFixed := flag w 17
  capturedSlotPowerLimitValue := field w 18 8
  capturedSlotPowerLimitScale := field w 26 2
  functionLevelResetCapability := flag w 28
  mixedMpsSupported := flag w 29
  teeIoSupported := flag w 30

/-- The largest payload the function supports. -/
def DeviceCapabilities.maxPayloadBytes (r : DeviceCapabilities) : Nat :=
  payloadBytes r.maxPayloadSizeSupported

instance : Describe DeviceCapabilities :=
  ⟨fun r => .record
    [("max_payload_size_supported", describe r.maxPayloadSizeSupported),
     ("phantom_functions_supported", describe r.phantomFunctionsSupported),
     ("extended_tag_field_supported", describe r.extendedTagFieldSupported),
     ("endpoint_l0s_acceptable_latency", describe r.endpointL0sAcceptableLatency),
     ("endpoint_l1_acceptable_latency", describe r.endpointL1AcceptableLatency),
     ("role_based_error_reporting", describe r.roleBasedErrorReporting),
     ("err_cor_subclass_capable", describe r.errCorSubclassCapable),
     ("rx_mps_fixed", describe r.rxMpsFixed),
     ("captured_slot_power_limit_value", describe r.capturedSlotPowerLimitValue),
     ("captured_slot_power_limit_scale", describe r.capturedSlotPowerLimitScale),
     ("function_level_reset_capability", describe r.functionLevelResetCapability),
     ("mixed_mps_supported", describe r.mixedMpsSupported),
     ("tee_io_supported", describe r.teeIoSupported)]
    [("max_payload_bytes", describe r.maxPayloadBytes)]⟩

/-- Device Control register. -/
structure DeviceControl where
  (correctableErrorReporting nonFatalErrorReporting fatalErrorReporting : Bool)
  (unsupportedRequestReporting relaxedOrdering : Bool)
  maxPayloadSize : Int
  (extendedTagFieldEnable phantomFunctionsEnable auxPowerPmEnable noSnoop : Bool)
  maxReadRequestSize : Int
  bridgeRetryOrFlr : Bool
  deriving DecidableEq, Repr

/-- The register with the value `w`. -/
def DeviceControl.ofWord (w : Nat) : DeviceControl where
  correctableErrorReporting := flag w 0
  nonFatalErrorReporting := flag w 1
  fatalErrorReporting := flag w 2
  unsupportedRequestReporting := flag w 3
  relaxedOrdering := flag w 4
  maxPayloadSize := field w 5 3
  extendedTagFieldEnable := flag w 8
  phantomFunctionsEnable := flag w 9
  auxPowerPmEnable := flag w 10
  noSnoop := flag w 11
  maxReadRequestSize := field w 12 3
  bridgeRetryOrFlr := flag w 15

/-- The largest payload the function may send. -/
def DeviceControl.maxPayloadBytes (r : DeviceControl) : Nat :=
  payloadBytes r.maxPayloadSize

/-- The largest amount the function may ask for in one read. -/
def DeviceControl.maxReadRequestBytes (r : DeviceControl) : Nat :=
  payloadBytes r.maxReadRequestSize

instance : Describe DeviceControl :=
  ⟨fun r => .record
    [("correctable_error_reporting", describe r.correctableErrorReporting),
     ("non_fatal_error_reporting", describe r.nonFatalErrorReporting),
     ("fatal_error_reporting", describe r.fatalErrorReporting),
     ("unsupported_request_reporting", describe r.unsupportedRequestReporting),
     ("relaxed_ordering", describe r.relaxedOrdering),
     ("max_payload_size", describe r.maxPayloadSize),
     ("extended_tag_field_enable", describe r.extendedTagFieldEnable),
     ("phantom_functions_enable", describe r.phantomFunctionsEnable),
     ("aux_power_pm_enable", describe r.auxPowerPmEnable), ("no_snoop", describe r.noSnoop),
     ("max_read_request_size", describe r.maxReadRequestSize),
     ("bridge_retry_or_flr", describe r.bridgeRetryOrFlr)]
    [("max_payload_bytes", describe r.maxPayloadBytes),
     ("max_read_request_bytes", describe r.maxReadRequestBytes)]⟩

/-- Device Status register. -/
structure DeviceStatus where
  (correctableErrorDetected nonFatalErrorDetected fatalErrorDetected : Bool)
  (unsupportedRequestDetected auxPowerDetected transactionsPending : Bool)
  emergencyPowerReductionDetected : Bool
  deriving DecidableEq, Repr

/-- The register with the value `w`. -/
def DeviceStatus.ofWord (w : Nat) : DeviceStatus where
  correctableErrorDetected := flag w 0
  nonFatalErrorDetected := flag w 1
  fatalErrorDetected := flag w 2
  unsupportedRequestDetected := flag w 3
  auxPowerDetected := flag w 4
  transactionsPending := flag w 5
  emergencyPowerReductionDetected := flag w 6

instance : Describe DeviceStatus :=
  ⟨fun r => .record
    [("correctable_error_detected", describe r.correctableErrorDetected),
     ("non_fatal_error_detected", describe r.nonFatalErrorDetected),
     ("fatal_error_detected", describe r.fatalErrorDetected),
     ("unsupported_request_detected", describe r.unsupportedRequestDetected),
     ("aux_power_detected", describe r.auxPowerDetected),
     ("transactions_pending", describe r.transactionsPending),
     ("emergency_power_reduction_detected", describe r.emergencyPowerReductionDetected)] []⟩

/-- Link Capabilities register. -/
structure LinkCapabilities where
  (maxLinkSpeed maxLinkWidth aspmSupport l0sExitLatency l1ExitLatency : Int)
  (clockPowerManagement surpriseDownErrorReportingCapable : Bool)
  (dataLinkLayerLinkActiveReportingCapable linkBandwidthNotificationCapability : Bool)
  aspmOptionalityCompliance : Bool
  portNumber : Int
  deriving DecidableEq, Repr

/-- The register with the value `w`. -/
def LinkCapabilities.ofWord (w : Nat) : LinkCapabilities where
  maxLinkSpeed := field w 0 4
  maxLinkWidth := field w 4 6
  aspmSupport := field w 10 2
  l0sExitLatency := field w 12 3
  l1ExitLatency := field w 15 3
  clockPowerManagement := flag w 18
  surpriseDownErrorReportingCapable := flag w 19
  dataLinkLayerLinkActiveReportingCapable := flag w 20
  linkBandwidthNotificationCapability := flag w 21
  aspmOptionalityCompliance := flag w 22
  portNumber := field w 24 8

/-- The fastest speed of the link. -/
def LinkCapabilities.maxLinkSpeedName (r : LinkCapabilities) : String :=
  speedName r.maxLinkSpeed

instance : Describe LinkCapabilities :=
  ⟨fun r => .record
    [("max_link_speed", describe r.maxLinkSpeed), ("max_link_width", describe r.maxLinkWidth),
     ("aspm_support", describe r.aspmSupport), ("l0s_exit_latency", describe r.l0sExitLatency),
     ("l1_exit_latency", describe r.l1ExitLatency),
     ("clock_power_management", describe r.clockPowerManagement),
     ("surprise_down_error_reporting_capable", describe r.surpriseDownErrorReportingCapable),
     ("data_link_layer_link_active_reporting_capable",
      describe r.dataLinkLayerLinkActiveReportingCapable),
     ("link_bandwidth_notification_capability", describe r.linkBandwidthNotificationCapability),
     ("aspm_optionality_compliance", describe r.aspmOptionalityCompliance),
     ("port_number", describe r.portNumber)]
    [("max_link_speed_name", describe r.maxLinkSpeedName)]⟩

/-- Link Control register. -/
structure LinkControl where
  aspmControl : Nat
  (ptmPropagationDelayAdaptation readCompletionBoundary linkDisable retrainLink : Bool)
  (commonClockConfiguration extendedSynch enableClockPowerManagement : Bool)
  (hardwareAutonomousWidthDisable linkBandwidthManagementInterruptEnable : Bool)
  (linkAutonomousBandwidthInterruptEnable srisClocking flitModeDisable : Bool)
  drsSignalingControl : Nat
  deriving DecidableEq, Repr

/-- The register with the value `w`. -/
def LinkControl.ofWord (w : Nat) : LinkControl where
  aspmControl := field w 0 2
  ptmPropagationDelayAdaptation := flag w 2
  readCompletionBoundary := flag w 3
  linkDisable := flag w 4
  retrainLink := flag w 5
  commonClockConfiguration := flag w 6
  extendedSynch := flag w 7
  enableClockPowerManagement := flag w 8
  hardwareAutonomousWidthDisable := flag w 9
  linkBandwidthManagementInterruptEnable := flag w 10
  linkAutonomousBandwidthInterruptEnable := flag w 11
  srisClocking := flag w 12
  flitModeDisable := flag w 13
  drsSignalingControl := field w 14 2

instance : Describe LinkControl :=
  ⟨fun r => .record
    [("aspm_control", describe r.aspmControl),
     ("ptm_propagation_delay_adaptation", describe r.ptmPropagationDelayAdaptation),
     ("read_completion_boundary", describe r.readCompletionBoundary),
     ("link_disable", describe r.linkDisable), ("retrain_link", describe r.retrainLink),
     ("common_clock_configuration", describe r.commonClockConfiguration),
     ("extended_synch", describe r.extendedSynch),
     ("enable_clock_power_management", describe r.enableClockPowerManagement),
     ("hardware_autonomous_width_disable", describe r.hardwareAutonomousWidthDisable),
     ("link_bandwidth_management_interrupt_enable",
      describe r.linkBandwidthManagementInterruptEnable),
     ("link_autonomous_bandwidth_interrupt_enable",
      describe r.linkAutonomousBandwidthInterruptEnable),
     ("sris_clocking", describe r.srisClocking),
     ("flit_mode_disable", describe r.flitModeDisable),
     ("drs_signaling_control", describe r.drsSignalingControl)] []⟩

/-- Link Status register. -/
structure LinkStatus where
  (currentLinkSpeed negotiatedLinkWidth : Int)
  (linkTraining slotClockConfiguration dataLinkLayerLinkActive : Bool)
  (linkBandwidthManagementStatus linkAutonomousBandwidthStatus : Bool)
  deriving DecidableEq, Repr

/-- The register with the value `w`. -/
def LinkStatus.ofWord (w : Nat) : LinkStatus where
  currentLinkSpeed := field w 0 4
  negotiatedLinkWidth := field w 4 6
  linkTraining := flag w 11
  slotClockConfiguration := flag w 12
  dataLinkLayerLinkActive := flag w 13
  linkBandwidthManagementStatus := flag w 14
  linkAutonomousBandwidthStatus := flag w 15

/-- The speed the link runs at. -/
def LinkStatus.currentLinkSpeedName (r : LinkStatus) : String :=
  speedName r.currentLinkSpeed

instance : Describe LinkStatus :=
  ⟨fun r => .record
    [("current_link_speed", describe r.currentLinkSpeed),
     ("negotiated_link_width", describe r.negotiatedLinkWidth),
     ("link_training", describe r.linkTraining),
     ("slot_clock_configuration", describe r.slotClockConfiguration),
     ("data_link_layer_link_active", describe r.dataLinkLayerLinkActive),
     ("link_bandwidth_management_status", describe r.linkBandwidthManagementStatus),
     ("link_autonomous_bandwidth_status", describe r.linkAutonomousBandwidthStatus)]
    [("current_link_speed_name", describe r.currentLinkSpeedName)]⟩

/-- The link registers. -/
structure Link where
  capabilities : LinkCapabilities
  control : LinkControl
  status : LinkStatus
  deriving DecidableEq, Repr

/-- Reads the link registers, where the structure holds them. -/
def Link.read? (payload : Bytes) : Option Link :=
  (payload.atLeast? 18).map fun p =>
    { capabilities := .ofWord (p.u32 10)
      control := .ofWord (p.u16 14)
      status := .ofWord (p.u16 16) }

instance : Describe Link :=
  ⟨fun r => .record
    [("capabilities", describe r.capabilities), ("control", describe r.control),
     ("status", describe r.status)] []⟩

end PciExpress

/-- PCI Express. -/
structure PciExpress where
  capabilities : PciExpress.Capabilities
  deviceCapabilities : PciExpress.DeviceCapabilities
  deviceControl : PciExpress.DeviceControl
  deviceStatus : PciExpress.DeviceStatus
  link : Option PciExpress.Link
  deriving DecidableEq, Repr

/-- Reads the PCI Express registers. -/
def PciExpress.decode (payload : Bytes) : Except Fault PciExpress :=
  payload.require "PCI Express" 10 fun p => .ok {
    capabilities := .ofWord (p.u16 0)
    deviceCapabilities := .ofWord (p.u32 2)
    deviceControl := .ofWord (p.u16 6)
    deviceStatus := .ofWord (p.u16 8)
    link := PciExpress.Link.read? payload }

instance : Describe PciExpress :=
  ⟨fun r => .record
    [("capabilities", describe r.capabilities),
     ("device_capabilities", describe r.deviceCapabilities),
     ("device_control", describe r.deviceControl), ("device_status", describe r.deviceStatus),
     ("link", describe r.link)] []⟩

end ConfigSpace
