import ConfigSpace.Payload

/-!
# Advanced Error Reporting (extended 0001h)

Every function has the registers through the header log, 40 bytes.  Root ports
and root complex event collectors go on with 12 more; they are read where the
payload holds all of them.  A function that says it logs prefixes has the prefix
log behind those, and then it must be there.
-/

namespace ConfigSpace

namespace ErrorReporting

/-- Uncorrectable errors: the layout of the status, mask and severity registers. -/
structure UncorrectableErrors where
  rawValue : Int
  (linkTrainingError dataLinkProtocolError surpriseDownError poisonedTlpReceived : Bool)
  (flowControlProtocolError completionTimeout completerAbort unexpectedCompletion : Bool)
  (receiverOverflow malformedTlp ecrcError unsupportedRequestError acsViolation : Bool)
  (uncorrectableInternalError mcBlockedTlp atomicopEgressBlocked tlpPrefixBlockedError : Bool)
  poisonedTlpEgressBlocked : Bool
  deriving DecidableEq, Repr

/-- The register with the value `w`. -/
def UncorrectableErrors.ofWord (w : Nat) : UncorrectableErrors where
  rawValue := w
  linkTrainingError := flag w 0
  dataLinkProtocolError := flag w 4
  surpriseDownError := flag w 5
  poisonedTlpReceived := flag w 12
  flowControlProtocolError := flag w 13
  completionTimeout := flag w 14
  completerAbort := flag w 15
  unexpectedCompletion := flag w 16
  receiverOverflow := flag w 17
  malformedTlp := flag w 18
  ecrcError := flag w 19
  unsupportedRequestError := flag w 20
  acsViolation := flag w 21
  uncorrectableInternalError := flag w 22
  mcBlockedTlp := flag w 23
  atomicopEgressBlocked := flag w 24
  tlpPrefixBlockedError := flag w 25
  poisonedTlpEgressBlocked := flag w 26

instance : Describe UncorrectableErrors :=
  ⟨fun r => .record
    [("raw_value", describe r.rawValue), ("link_training_error", describe r.linkTrainingError),
     ("data_link_protocol_error", describe r.dataLinkProtocolError),
     ("surprise_down_error", describe r.surpriseDownError),
     ("poisoned_tlp_received", describe r.poisonedTlpReceived),
     ("flow_control_protocol_error", describe r.flowControlProtocolError),
     ("completion_timeout", describe r.completionTimeout),
     ("completer_abort", describe r.completerAbort),
     ("unexpected_completion", describe r.unexpectedCompletion),
     ("receiver_overflow", describe r.receiverOverflow),
     ("malformed_tlp", describe r.malformedTlp), ("ecrc_error", describe r.ecrcError),
     ("unsupported_request_error", describe r.unsupportedRequestError),
     ("acs_violation", describe r.acsViolation),
     ("uncorrectable_internal_error", describe r.uncorrectableInternalError),
     ("mc_blocked_tlp", describe r.mcBlockedTlp),
     ("atomicop_egress_blocked", describe r.atomicopEgressBlocked),
     ("tlp_prefix_blocked_error", describe r.tlpPrefixBlockedError),
     ("poisoned_tlp_egress_blocked", describe r.poisonedTlpEgressBlocked)] []⟩

/-- Correctable errors: the layout of the status and mask registers. -/
structure CorrectableErrors where
  rawValue : Int
  (receiverError badTlp badDllp replayNumRollover replayTimerTimeout : Bool)
  (advisoryNonFatalError correctedInternalError headerLogOverflow : Bool)
  deriving DecidableEq, Repr

/-- The register with the value `w`. -/
def CorrectableErrors.ofWord (w : Nat) : CorrectableErrors where
  rawValue := w
  receiverError := flag w 0
  badTlp := flag w 6
  badDllp := flag w 7
  replayNumRollover := flag w 8
  replayTimerTimeout := flag w 12
  advisoryNonFatalError := flag w 13
  correctedInternalError := flag w 14
  headerLogOverflow := flag w 15

instance : Describe CorrectableErrors :=
  ⟨fun r => .record
    [("raw_value", describe r.rawValue), ("receiver_error", describe r.receiverError),
     ("bad_tlp", describe r.badTlp), ("bad_dllp", describe r.badDllp),
     ("replay_num_rollover", describe r.replayNumRollover),
     ("replay_timer_timeout", describe r.replayTimerTimeout),
     ("advisory_non_fatal_error", describe r.advisoryNonFatalError),
     ("corrected_internal_error", describe r.correctedInternalError),
     ("header_log_overflow", describe r.headerLogOverflow)] []⟩

/-- Advanced Error Capabilities and Control register. -/
structure Control where
  firstErrorPointer : Nat
  (ecrcGenerationCapable ecrcGenerationEnable ecrcCheckCapable ecrcCheckEnable : Bool)
  (multipleHeaderRecordingCapable multipleHeaderRecordingEnable tlpPrefixLogPresent : Bool)
  completionTimeoutPrefixOrHeaderLogCapable : Bool
  deriving DecidableEq, Repr

/-- The register with the value `w`. -/
def Control.ofWord (w : Nat) : Control where
  firstErrorPointer := field w 0 5
  ecrcGenerationCapable := flag w 5
  ecrcGenerationEnable := flag w 6
  ecrcCheckCapable := flag w 7
  ecrcCheckEnable := flag w 8
  multipleHeaderRecordingCapable := flag w 9
  multipleHeaderRecordingEnable := flag w 10
  tlpPrefixLogPresent := flag w 11
  completionTimeoutPrefixOrHeaderLogCapable := flag w 12

instance : Describe Control :=
  ⟨fun r => .record
    [("first_error_pointer", describe r.firstErrorPointer),
     ("ecrc_generation_capable", describe r.ecrcGenerationCapable),
     ("ecrc_generation_enable", describe r.ecrcGenerationEnable),
     ("ecrc_check_capable", describe r.ecrcCheckCapable),
     ("ecrc_check_enable", describe r.ecrcCheckEnable),
     ("multiple_header_recording_capable", describe r.multipleHeaderRecordingCapable),
     ("multiple_header_recording_enable", describe r.multipleHeaderRecordingEnable),
     ("tlp_prefix_log_present", describe r.tlpPrefixLogPresent),
     ("completion_timeout_prefix_or_header_log_capable",
      describe r.completionTimeoutPrefixOrHeaderLogCapable)] []⟩

/-- Root Error Command register. -/
structure RootCommand where
  (correctableErrorReportingEnable nonFatalErrorReportingEnable : Bool)
  fatalErrorReportingEnable : Bool
  deriving DecidableEq, Repr

/-- The register with the value `w`. -/
def RootCommand.ofWord (w : Nat) : RootCommand where
  correctableErrorReportingEnable := flag w 0
  nonFatalErrorReportingEnable := flag w 1
  fatalErrorReportingEnable := flag w 2

instance : Describe RootCommand :=
  ⟨fun r => .record
    [("correctable_error_reporting_enable", describe r.correctableErrorReportingEnable),
     ("non_fatal_error_reporting_enable", describe r.nonFatalErrorReportingEnable),
     ("fatal_error_reporting_enable", describe r.fatalErrorReportingEnable)] []⟩

/-- Root Error Status register. -/
structure RootStatus where
  (errCorReceived multipleErrCorReceived errFatalOrNonfatalReceived : Bool)
  (multipleErrFatalOrNonfatalReceived firstUncorrectableFatal : Bool)
  (nonFatalErrorMessagesReceived fatalErrorMessagesReceived : Bool)
  advancedErrorInterruptMessageNumber : Nat
  deriving DecidableEq, Repr

/-- The register with the value `w`. -/
def RootStatus.ofWord (w : Nat) : RootStatus where
  errCorReceived := flag w 0
  multipleErrCorReceived := flag w 1
  errFatalOrNonfatalReceived := flag w 2
  multipleErrFatalOrNonfatalReceived := flag w 3
  firstUncorrectableFatal := flag w 4
  nonFatalErrorMessagesReceived := flag w 5
  fatalErrorMessagesReceived := flag w 6
  advancedErrorInterruptMessageNumber := field w 27 5

instance : Describe RootStatus :=
  ⟨fun r => .record
    [("err_cor_received", describe r.errCorReceived),
     ("multiple_err_cor_received", describe r.multipleErrCorReceived),
     ("err_fatal_or_nonfatal_received", describe r.errFatalOrNonfatalReceived),
     ("multiple_err_fatal_or_nonfatal_received", describe r.multipleErrFatalOrNonfatalReceived),
     ("first_uncorrectable_fatal", describe r.firstUncorrectableFatal),
     ("non_fatal_error_messages_received", describe r.nonFatalErrorMessagesReceived),
     ("fatal_error_messages_received", describe r.fatalErrorMessagesReceived),
     ("advanced_error_interrupt_message_number", describe r.advancedErrorInterruptMessageNumber)]
    []⟩

/-- Error Source Identification register. -/
structure ErrorSource where
  (errCorSourceIdentification errFatalOrNonfatalSourceIdentification : Nat)
  deriving DecidableEq, Repr

instance : Describe ErrorSource :=
  ⟨fun r => .record
    [("err_cor_source_identification", describe r.errCorSourceIdentification),
     ("err_fatal_or_nonfatal_source_identification",
      describe r.errFatalOrNonfatalSourceIdentification)] []⟩

/-- The size of the registers that every function has. -/
def commonSize : Nat := 40

/-- The size once the registers of a root port have been added. -/
def rootSize : Nat := 52

/-- The size once the prefix log has been added. -/
def fullSize : Nat := 68

end ErrorReporting

/-- Advanced Error Reporting.  The registers of a root port are there together or
not at all. -/
structure ErrorReporting where
  uncorrectableErrorStatus : ErrorReporting.UncorrectableErrors
  uncorrectableErrorMask : ErrorReporting.UncorrectableErrors
  uncorrectableErrorSeverity : ErrorReporting.UncorrectableErrors
  correctableErrorStatus : ErrorReporting.CorrectableErrors
  correctableErrorMask : ErrorReporting.CorrectableErrors
  capabilitiesAndControl : ErrorReporting.Control
  headerLog : List Nat
  rootErrorCommand : Option ErrorReporting.RootCommand := none
  rootErrorStatus : Option ErrorReporting.RootStatus := none
  errorSourceIdentification : Option ErrorReporting.ErrorSource := none
  tlpPrefixLog : Option (List Nat) := none
  deriving DecidableEq, Repr

namespace ErrorReporting

/-- Reads the registers that every function has. -/
def common (p : Bytes.AtLeast commonSize) : ErrorReporting where
  uncorrectableErrorStatus := .ofWord (p.u32 0)
  uncorrectableErrorMask := .ofWord (p.u32 4)
  uncorrectableErrorSeverity := .ofWord (p.u32 8)
  correctableErrorStatus := .ofWord (p.u32 12)
  correctableErrorMask := .ofWord (p.u32 16)
  capabilitiesAndControl := .ofWord (p.u32 20)
  headerLog := p.words32 24 4

/-- Adds the registers of a root port, where they are. -/
def withRoot (payload : Bytes) (r : ErrorReporting) : ErrorReporting :=
  match payload.atLeast? rootSize with
  | none => r
  | some p =>
      { r with
        rootErrorCommand := some (.ofWord (p.u32 40))
        rootErrorStatus := some (.ofWord (p.u32 44))
        errorSourceIdentification := some
          { errCorSourceIdentification := p.u16 48
            errFatalOrNonfatalSourceIdentification := p.u16 50 } }

/-- Adds the prefix log, where the function says it has one. -/
def withPrefixLog (payload : Bytes) (r : ErrorReporting) : Except Fault ErrorReporting :=
  if r.capabilitiesAndControl.tlpPrefixLogPresent then
    payload.require "Advanced Error Reporting TLP Prefix Log" fullSize fun p =>
      .ok { r with tlpPrefixLog := some (p.words32 52 4) }
  else .ok r

/-- Reads the error reporting registers. -/
def decode (payload : Bytes) : Except Fault ErrorReporting :=
  payload.require "Advanced Error Reporting" commonSize fun p =>
    withPrefixLog payload (withRoot payload (common p))

end ErrorReporting

instance : Describe ErrorReporting :=
  ⟨fun r => .record
    [("uncorrectable_error_status", describe r.uncorrectableErrorStatus),
     ("uncorrectable_error_mask", describe r.uncorrectableErrorMask),
     ("uncorrectable_error_severity", describe r.uncorrectableErrorSeverity),
     ("correctable_error_status", describe r.correctableErrorStatus),
     ("correctable_error_mask", describe r.correctableErrorMask),
     ("capabilities_and_control", describe r.capabilitiesAndControl),
     ("header_log", describe r.headerLog), ("root_error_command", describe r.rootErrorCommand),
     ("root_error_status", describe r.rootErrorStatus),
     ("error_source_identification", describe r.errorSourceIdentification),
     ("tlp_prefix_log", describe r.tlpPrefixLog)] []⟩

end ConfigSpace
