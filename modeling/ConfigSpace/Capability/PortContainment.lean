import ConfigSpace.Payload

/-!
# Downstream Port Containment (extended 001Dh)

Four registers, and behind them the extensions of a root port that says it has
them.  How long the extensions are depends on the size of the log: a size of five
adds the log of the implementation, and every unit above five adds one word of
the prefix log, of which there are at most four.
-/

namespace ConfigSpace

namespace PortContainment

/-- DPC Capability register. -/
structure Capability where
  interruptMessageNumber : Nat
  (rpExtensionsForDpc poisonedTlpEgressBlockingSupported softwareTriggeringSupported : Bool)
  rpPioLogSize : Nat
  dlActiveErrCorSignalingSupported : Bool
  deriving DecidableEq, Repr

/-- The register with the value `w`. -/
def Capability.ofWord (w : Nat) : Capability where
  interruptMessageNumber := field w 0 5
  rpExtensionsForDpc := flag w 5
  poisonedTlpEgressBlockingSupported := flag w 6
  softwareTriggeringSupported := flag w 7
  rpPioLogSize := field w 8 4
  dlActiveErrCorSignalingSupported := flag w 12

namespace Capability

/-- The number of words that the logs behind the header log take. -/
def logWords (c : Capability) : Nat :=
  if 5 ≤ c.rpPioLogSize then 1 + min (c.rpPioLogSize - 5) 4 else 0

/-- The size of the registers with the extensions of a root port. -/
def size (c : Capability) : Nat :=
  44 + 4 * c.logWords

end Capability

instance : Describe Capability :=
  ⟨fun r => .record
    [("interrupt_message_number", describe r.interruptMessageNumber),
     ("rp_extensions_for_dpc", describe r.rpExtensionsForDpc),
     ("poisoned_tlp_egress_blocking_supported", describe r.poisonedTlpEgressBlockingSupported),
     ("software_triggering_supported", describe r.softwareTriggeringSupported),
     ("rp_pio_log_size", describe r.rpPioLogSize),
     ("dl_active_err_cor_signaling_supported", describe r.dlActiveErrCorSignalingSupported)] []⟩

/-- DPC Control register. -/
structure Control where
  triggerEnable : Nat
  (completionControl interruptEnable errCorEnable poisonedTlpEgressBlockingEnable : Bool)
  (softwareTrigger dlActiveErrCorEnable : Bool)
  deriving DecidableEq, Repr

/-- The register with the value `w`. -/
def Control.ofWord (w : Nat) : Control where
  triggerEnable := field w 0 2
  completionControl := flag w 2
  interruptEnable := flag w 3
  errCorEnable := flag w 4
  poisonedTlpEgressBlockingEnable := flag w 5
  softwareTrigger := flag w 6
  dlActiveErrCorEnable := flag w 7

instance : Describe Control :=
  ⟨fun r => .record
    [("trigger_enable", describe r.triggerEnable),
     ("completion_control", describe r.completionControl),
     ("interrupt_enable", describe r.interruptEnable),
     ("err_cor_enable", describe r.errCorEnable),
     ("poisoned_tlp_egress_blocking_enable", describe r.poisonedTlpEgressBlockingEnable),
     ("software_trigger", describe r.softwareTrigger),
     ("dl_active_err_cor_enable", describe r.dlActiveErrCorEnable)] []⟩

/-- DPC Status register. -/
structure Status where
  triggerStatus : Bool
  triggerReason : Int
  (interruptStatus rpBusy : Bool)
  (triggerReasonExtension rpPioFirstErrorPointer : Int)
  deriving DecidableEq, Repr

/-- The register with the value `w`. -/
def Status.ofWord (w : Nat) : Status where
  triggerStatus := flag w 0
  triggerReason := field w 1 2
  interruptStatus := flag w 3
  rpBusy := flag w 4
  triggerReasonExtension := field w 5 2
  rpPioFirstErrorPointer := field w 8 5

/-- The reasons why containment is triggered. -/
def triggerReasons : List String :=
  ["unmasked_uncorrectable_error", "err_nonfatal_received", "err_fatal_received"]

/-- The reasons that the extension of the reason tells apart. -/
def triggerReasonExtensions : List String :=
  ["rp_pio_error", "software_trigger"]

/-- Why containment was triggered; a reason beyond the table is told by its
extension. -/
def Status.triggerReasonName (s : Status) : Except Undefined String :=
  if s.triggerReason < 3 then Code.entry triggerReasons s.triggerReason
  else if s.triggerReasonExtension < 2 then
    Code.entry triggerReasonExtensions s.triggerReasonExtension
  else .ok "reserved"

instance : Describe Status :=
  ⟨fun r => .record
    [("trigger_status", describe r.triggerStatus), ("trigger_reason", describe r.triggerReason),
     ("interrupt_status", describe r.interruptStatus), ("rp_busy", describe r.rpBusy),
     ("trigger_reason_extension", describe r.triggerReasonExtension),
     ("rp_pio_first_error_pointer", describe r.rpPioFirstErrorPointer)]
    [("trigger_reason_name", describe r.triggerReasonName)]⟩

/-- Programmed input and output errors: the layout of five registers of a root port. -/
structure PioErrors where
  rawValue : Int
  (cfgUrCpl cfgCaCpl cfgCto ioUrCpl ioCaCpl ioCto memUrCpl memCaCpl memCto : Bool)
  deriving DecidableEq, Repr

/-- The register with the value `w`. -/
def PioErrors.ofWord (w : Nat) : PioErrors where
  rawValue := w
  cfgUrCpl := flag w 0
  cfgCaCpl := flag w 1
  cfgCto := flag w 2
  ioUrCpl := flag w 8
  ioCaCpl := flag w 9
  ioCto := flag w 10
  memUrCpl := flag w 16
  memCaCpl := flag w 17
  memCto := flag w 18

instance : Describe PioErrors :=
  ⟨fun r => .record
    [("raw_value", describe r.rawValue), ("cfg_ur_cpl", describe r.cfgUrCpl),
     ("cfg_ca_cpl", describe r.cfgCaCpl), ("cfg_cto", describe r.cfgCto),
     ("io_ur_cpl", describe r.ioUrCpl), ("io_ca_cpl", describe r.ioCaCpl),
     ("io_cto", describe r.ioCto), ("mem_ur_cpl", describe r.memUrCpl),
     ("mem_ca_cpl", describe r.memCaCpl), ("mem_cto", describe r.memCto)] []⟩

/-- The extensions of a root port. -/
structure Extensions where
  (rpPioStatus rpPioMask rpPioSeverity rpPioSyserr rpPioException : PioErrors)
  rpPioHeaderLog : List Nat
  rpPioImpspecLog : Option Nat
  rpPioTlpPrefixLog : Option (List Nat)
  deriving DecidableEq, Repr

instance : Describe Extensions :=
  ⟨fun r => .record
    [("rp_pio_status", describe r.rpPioStatus), ("rp_pio_mask", describe r.rpPioMask),
     ("rp_pio_severity", describe r.rpPioSeverity), ("rp_pio_syserr", describe r.rpPioSyserr),
     ("rp_pio_exception", describe r.rpPioException),
     ("rp_pio_header_log", describe r.rpPioHeaderLog),
     ("rp_pio_impspec_log", describe r.rpPioImpspecLog),
     ("rp_pio_tlp_prefix_log", describe r.rpPioTlpPrefixLog)] []⟩

/-- The log of the implementation, where the log size calls for it. -/
def impspecLog (c : Capability) (p : Bytes.AtLeast c.size) : Option Nat :=
  if h : 5 ≤ c.rpPioLogSize then
    have : 48 ≤ c.size := by simp [Capability.size, Capability.logWords, h]; omega
    some (p.u32 44)
  else none

/-- The prefix log, where the log size calls for it: the words that are there,
filled up with zeros to four. -/
def prefixLog (c : Capability) (p : Bytes.AtLeast c.size) : Option (List Nat) :=
  if h : 6 ≤ c.rpPioLogSize then
    have : 48 + 4 * min (c.rpPioLogSize - 5) 4 ≤ c.size := by
      simp only [Capability.size, Capability.logWords, show 5 ≤ c.rpPioLogSize by omega, if_true]
      omega
    some (p.words32 48 (min (c.rpPioLogSize - 5) 4)
      ++ List.replicate (4 - min (c.rpPioLogSize - 5) 4) 0)
  else none

/-- Reads the extensions that the capability register describes. -/
def readExtensions (c : Capability) (p : Bytes.AtLeast c.size) : Extensions :=
  have : 44 ≤ c.size := by simp [Capability.size]
  { rpPioStatus := .ofWord (p.u32 8)
    rpPioMask := .ofWord (p.u32 12)
    rpPioSeverity := .ofWord (p.u32 16)
    rpPioSyserr := .ofWord (p.u32 20)
    rpPioException := .ofWord (p.u32 24)
    rpPioHeaderLog := p.words32 28 4
    rpPioImpspecLog := impspecLog c p
    rpPioTlpPrefixLog := prefixLog c p }

/-- The extensions of a port that says it has them. -/
def extensions (payload : Bytes) (c : Capability) : Except Fault (Option Extensions) :=
  if c.rpExtensionsForDpc then
    payload.require "Downstream Port Containment RP Extensions" c.size fun p =>
      .ok (some (readExtensions c p))
  else .ok none

end PortContainment

/-- Downstream Port Containment. -/
structure PortContainment where
  capability : PortContainment.Capability
  control : PortContainment.Control
  status : PortContainment.Status
  errorSourceId : Nat
  rpExtensions : Option PortContainment.Extensions
  deriving DecidableEq, Repr

/-- Reads the containment registers and the extensions that go with them. -/
def PortContainment.decode (payload : Bytes) : Except Fault PortContainment :=
  payload.require "Downstream Port Containment" 8 fun p =>
    let capability := Capability.ofWord (p.u16 0)
    (extensions payload capability).map fun rpExtensions =>
      { capability
        control := .ofWord (p.u16 2)
        status := .ofWord (p.u16 4)
        errorSourceId := p.u16 6
        rpExtensions }

instance : Describe PortContainment :=
  ⟨fun r => .record
    [("capability", describe r.capability), ("control", describe r.control),
     ("status", describe r.status), ("error_source_id", describe r.errorSourceId),
     ("rp_extensions", describe r.rpExtensions)] []⟩

end ConfigSpace
