import ConfigSpace.Capability.ErrorReporting
import ConfigSpace.Capability.PortContainment
import ConfigSpace.Proofs.RegisterFields

/-!
# Sections of error registers

Error reporting and port containment have registers of flags, and logs behind them.  What is
behind the first registers need not be there: this depends on how long the payload is, or on
what the first registers say.

* `ErrorReporting.decode_of_readable` and `ErrorReporting.decode_of_unreadable` — what error
  reporting is decoded to, and of which payloads; `ErrorReporting.Sections` says where its
  sections lie in the payload.
* `PortContainment.decode_of_fits` and `PortContainment.decode_of_not_fits` — the same for port
  containment; `PortContainment.Extensions.Sections` says where the extensions of a root port
  lie, and `PortContainment.size_ofWord` how many bytes they take.

The main results are `error_reporting_sections` and `containment_extensions`.
-/

namespace ConfigSpace

/-! ## Error reporting -/

namespace ErrorReporting

/-- The uncorrectable error registers. -/
def uncorrectable : Register where
  layout := {
    bits := 32
    widths := [1, 3, 1, 1, 6, 1, 1, 1, 1, 1, 1, 1, 1, 1, 1, 1, 1, 1, 1, 1, 5]
    name := "AER uncorrectable"
    bits_mem := by decide
    widths_pos := by decide
    total_widths := rfl }
  names :=
    [some "link_training_error", none, some "data_link_protocol_error",
     some "surprise_down_error", none, some "poisoned_tlp_received",
     some "flow_control_protocol_error", some "completion_timeout", some "completer_abort",
     some "unexpected_completion", some "receiver_overflow", some "malformed_tlp",
     some "ecrc_error", some "unsupported_request_error", some "acs_violation",
     some "uncorrectable_internal_error", some "mc_blocked_tlp", some "atomicop_egress_blocked",
     some "tlp_prefix_blocked_error", some "poisoned_tlp_egress_blocked", none]
  length_names := rfl

/-- The correctable error registers. -/
def correctable : Register where
  layout := {
    bits := 32
    widths := [1, 5, 1, 1, 1, 3, 1, 1, 1, 1, 16]
    name := "AER correctable"
    bits_mem := by decide
    widths_pos := by decide
    total_widths := rfl }
  names :=
    [some "receiver_error", none, some "bad_tlp", some "bad_dllp", some "replay_num_rollover",
     none, some "replay_timer_timeout", some "advisory_non_fatal_error",
     some "corrected_internal_error", some "header_log_overflow", none]
  length_names := rfl

/-- The Advanced Error Capabilities and Control register. -/
def capabilitiesRegister : Register where
  layout := {
    bits := 32
    widths := [5, 1, 1, 1, 1, 1, 1, 1, 1, 19]
    name := "AER capabilities and control"
    bits_mem := by decide
    widths_pos := by decide
    total_widths := rfl }
  names :=
    [some "first_error_pointer", some "ecrc_generation_capable", some "ecrc_generation_enable",
     some "ecrc_check_capable", some "ecrc_check_enable",
     some "multiple_header_recording_capable", some "multiple_header_recording_enable",
     some "tlp_prefix_log_present", some "completion_timeout_prefix_or_header_log_capable", none]
  length_names := rfl

/-- The Root Error Command register. -/
def rootCommandRegister : Register where
  layout := {
    bits := 32
    widths := [1, 1, 1, 29]
    name := "AER root error command"
    bits_mem := by decide
    widths_pos := by decide
    total_widths := rfl }
  names :=
    [some "correctable_error_reporting_enable", some "non_fatal_error_reporting_enable",
     some "fatal_error_reporting_enable", none]
  length_names := rfl

/-- The Root Error Status register. -/
def rootStatusRegister : Register where
  layout := {
    bits := 32
    widths := [1, 1, 1, 1, 1, 1, 1, 20, 5]
    name := "AER root error status"
    bits_mem := by decide
    widths_pos := by decide
    total_widths := rfl }
  names :=
    [some "err_cor_received", some "multiple_err_cor_received",
     some "err_fatal_or_nonfatal_received", some "multiple_err_fatal_or_nonfatal_received",
     some "first_uncorrectable_fatal", some "non_fatal_error_messages_received",
     some "fatal_error_messages_received", none, some "advanced_error_interrupt_message_number"]
  length_names := rfl

/-- A description shows the word of an uncorrectable error register. -/
def ShowsUncorrectable (w : Nat) (d : Description) : Prop :=
  uncorrectable.ShowsFlags ([0, 4, 5] ++ List.range' 12 15) 0x07FFF031 w d

/-- A description shows the word of a correctable error register. -/
def ShowsCorrectable (w : Nat) (d : Description) : Prop :=
  correctable.ShowsFlags ([0, 6, 7, 8] ++ List.range' 12 4) 0x0000F1C1 w d

theorem UncorrectableErrors.shows_ofWord (w : Nat) :
    ShowsUncorrectable w (describe (UncorrectableErrors.ofWord w)) := by
  refine Register.showsFlags rfl rfl ?_
  rw [Register.fields_eq]
  rfl

theorem CorrectableErrors.shows_ofWord (w : Nat) :
    ShowsCorrectable w (describe (CorrectableErrors.ofWord w)) := by
  refine Register.showsFlags rfl rfl ?_
  rw [Register.fields_eq]
  rfl

theorem Control.describe_ofWord (w : Nat) :
    describe (Control.ofWord w) = .record (capabilitiesRegister.fields w) [] := by
  rw [Register.fields_eq]
  rfl

theorem RootCommand.describe_ofWord (w : Nat) :
    describe (RootCommand.ofWord w) = .record (rootCommandRegister.fields w) [] := by
  rw [Register.fields_eq]
  rfl

theorem RootStatus.describe_ofWord (w : Nat) :
    describe (RootStatus.ofWord w) = .record (rootStatusRegister.fields w) [] := by
  rw [Register.fields_eq]
  rfl

/-- The payload has the registers that every function has, and a prefix log if it says so. -/
def Readable (p : Bytes) : Prop :=
  40 ≤ p.length ∧ ((p.u32 20).testBit 11 = false ∨ 68 ≤ p.length)

/-- What a readable payload is decoded to. -/
def registers (p : Bytes) : ErrorReporting where
  uncorrectableErrorStatus := .ofWord (p.u32 0)
  uncorrectableErrorMask := .ofWord (p.u32 4)
  uncorrectableErrorSeverity := .ofWord (p.u32 8)
  correctableErrorStatus := .ofWord (p.u32 12)
  correctableErrorMask := .ofWord (p.u32 16)
  capabilitiesAndControl := .ofWord (p.u32 20)
  headerLog := p.words32 24 4
  rootErrorCommand := if 52 ≤ p.length then some (.ofWord (p.u32 40)) else none
  rootErrorStatus := if 52 ≤ p.length then some (.ofWord (p.u32 44)) else none
  errorSourceIdentification :=
    if 52 ≤ p.length then some ⟨p.u16 48, p.u16 50⟩ else none
  tlpPrefixLog := if (p.u32 20).testBit 11 then some (p.words32 52 4) else none

variable {p : Bytes}

/-- The registers up to those of a root port are those of the payload. -/
theorem withRoot_common (h : commonSize ≤ p.length) :
    withRoot p (common ⟨p, h⟩) = { registers p with tlpPrefixLog := none } := by
  unfold withRoot registers
  rcases Nat.lt_or_ge p.length rootSize with hlt | hle
  · have hroot : ¬ 52 ≤ p.length := Nat.not_le.2 hlt
    simp only [Bytes.atLeast?_of_lt hlt, hroot, if_false]
    rfl
  · have hroot : 52 ≤ p.length := hle
    simp only [Bytes.atLeast?_of_le hle, hroot, if_true]
    rfl

/-- A prefix log must be there if the function says so. -/
theorem decode_of_common (h : commonSize ≤ p.length) :
    decode p =
      if (p.u32 20).testBit 11 = true ∧ p.length < fullSize then
        .error (.unreadable "Advanced Error Reporting TLP Prefix Log" fullSize p.length)
      else .ok (registers p) := by
  have hdecode : decode p = withPrefixLog p { registers p with tlpPrefixLog := none } := by
    rw [← withRoot_common h]
    exact Bytes.require_of_le h
  have hpresent : (registers p).capabilitiesAndControl.tlpPrefixLogPresent =
      (p.u32 20).testBit 11 := rfl
  rw [hdecode, withPrefixLog, hpresent]
  cases hbit : (p.u32 20).testBit 11 with
  | false =>
    have hlog : (registers p).tlpPrefixLog = none := by simp only [registers, hbit]; rfl
    rw [if_neg Bool.false_ne_true, if_neg (by simp), ← hlog]
  | true =>
    have hlog : (registers p).tlpPrefixLog = some (p.words32 52 4) := by
      simp only [registers, hbit]; rfl
    rw [if_pos rfl]
    rcases Nat.lt_or_ge p.length fullSize with hlt | hfull
    · rw [if_pos ⟨rfl, hlt⟩]
      exact Bytes.require_of_lt hlt
    · rw [if_neg (fun hshort => Nat.not_lt.2 hfull hshort.2)]
      refine (Bytes.require_of_le hfull).trans ?_
      simp only [Bytes.AtLeast.words32, ← hlog]

theorem decode_of_readable (h : Readable p) : decode p = .ok (registers p) := by
  obtain ⟨hcommon, hlog⟩ := h
  rw [decode_of_common hcommon, if_neg]
  rintro ⟨hbit, hshort⟩
  rcases hlog with hclear | hfull
  · cases hclear.symm.trans hbit
  · exact Nat.not_lt.2 hfull hshort

/-- What a payload that is not readable is too short for. -/
def shortage (p : Bytes) : Fault :=
  if p.length < 40 then .unreadable "Advanced Error Reporting" 40 p.length
  else .unreadable "Advanced Error Reporting TLP Prefix Log" 68 p.length

theorem decode_of_unreadable (h : ¬ Readable p) : decode p = .error (shortage p) := by
  unfold shortage
  rcases Nat.lt_or_ge p.length 40 with hlt | hcommon
  · rw [if_pos hlt]
    exact Bytes.require_of_lt hlt
  · -- The common registers are there, so the prefix log is what is missing.
    obtain ⟨hset, hshort⟩ := not_or.1 (not_and.1 h hcommon)
    have hbit : (p.u32 20).testBit 11 = true := by simpa using hset
    rw [if_neg (Nat.not_lt.2 hcommon), decode_of_common hcommon]
    exact if_pos ⟨hbit, Nat.not_le.1 hshort⟩

/-- The sections of error reporting, where they lie in the payload. -/
structure Sections (p : Bytes) (r : ErrorReporting) : Prop where
  uncorrectable_status : ShowsUncorrectable (p.u32 0) (describe r.uncorrectableErrorStatus)
  uncorrectable_mask : ShowsUncorrectable (p.u32 4) (describe r.uncorrectableErrorMask)
  uncorrectable_severity : ShowsUncorrectable (p.u32 8) (describe r.uncorrectableErrorSeverity)
  correctable_status : ShowsCorrectable (p.u32 12) (describe r.correctableErrorStatus)
  correctable_mask : ShowsCorrectable (p.u32 16) (describe r.correctableErrorMask)
  control_eq :
    describe r.capabilitiesAndControl = .record (capabilitiesRegister.fields (p.u32 20)) []
  header_log_eq : r.headerLog = [p.u32 24, p.u32 28, p.u32 32, p.u32 36]
  /-- The registers of a root port are there together, if the payload has them. -/
  root_command_eq : r.rootErrorCommand.map describe =
    if 52 ≤ p.length then some (.record (rootCommandRegister.fields (p.u32 40)) []) else none
  root_status_eq : r.rootErrorStatus.map describe =
    if 52 ≤ p.length then some (.record (rootStatusRegister.fields (p.u32 44)) []) else none
  source_eq : r.errorSourceIdentification =
    if 52 ≤ p.length then
      some {
        errCorSourceIdentification := p.u16 48
        errFatalOrNonfatalSourceIdentification := p.u16 50 }
    else none
  /-- The prefix log is there if the function says so. -/
  prefix_log_eq : r.tlpPrefixLog =
    if (p.u32 20).testBit 11 then some [p.u32 52, p.u32 56, p.u32 60, p.u32 64] else none

theorem sections_registers (p : Bytes) : Sections p (registers p) where
  uncorrectable_status := UncorrectableErrors.shows_ofWord _
  uncorrectable_mask := UncorrectableErrors.shows_ofWord _
  uncorrectable_severity := UncorrectableErrors.shows_ofWord _
  correctable_status := CorrectableErrors.shows_ofWord _
  correctable_mask := CorrectableErrors.shows_ofWord _
  control_eq := Control.describe_ofWord _
  header_log_eq := rfl
  root_command_eq := by
    rw [registers, apply_ite (Option.map describe), Option.map_some, RootCommand.describe_ofWord]
    rfl
  root_status_eq := by
    rw [registers, apply_ite (Option.map describe), Option.map_some, RootStatus.describe_ofWord]
    rfl
  source_eq := rfl
  prefix_log_eq := rfl

end ErrorReporting

/-- **Error reporting shows its sections where they lie.**  It is decoded exactly if the payload
has the registers that every function has, and a prefix log if it says so. -/
theorem error_reporting_sections (p : Bytes) :
    ((∃ r, ErrorReporting.decode p = .ok r) ↔
      40 ≤ p.length ∧ ((p.u32 20).testBit 11 = false ∨ 68 ≤ p.length)) ∧
    ∀ r, ErrorReporting.decode p = .ok r → ErrorReporting.Sections p r := by
  have hread : ErrorReporting.Readable p →
      ∃ r, ErrorReporting.decode p = .ok r ∧ ErrorReporting.Sections p r :=
    fun h => ⟨_, ErrorReporting.decode_of_readable h, ErrorReporting.sections_registers p⟩
  obtain ⟨hreadable, -, hsections⟩ := outcome_of_fits hread ErrorReporting.decode_of_unreadable
  exact ⟨hreadable, hsections⟩

/-- The error reporting of a root port that logs prefixes. -/
def rootPortErrors : Bytes :=
  (List.range 68).map fun i => UInt8.ofNat (i + 8)

/-- Error reporting that is as long as it can be shows all of its sections. -/
theorem error_reporting_sections_root_port :
    ∃ r, ErrorReporting.decode rootPortErrors = .ok r ∧ r.rootErrorStatus.isSome = true ∧
      r.tlpPrefixLog = some [0x3F3E3D3C, 0x43424140, 0x47464544, 0x4B4A4948] ∧
      ErrorReporting.Sections rootPortErrors r := by
  obtain ⟨hreadable, hsections⟩ := error_reporting_sections rootPortErrors
  obtain ⟨r, hr⟩ := hreadable.2 (by decide)
  have hr' := hsections r hr
  refine ⟨r, hr, ?_, hr'.prefix_log_eq, hr'⟩
  have hstatus := congrArg Option.isSome hr'.root_status_eq
  rw [Option.isSome_map] at hstatus
  exact hstatus

/-! ## Port containment -/

/-- Words, filled up with zeros to some number of them. -/
theorem Bytes.words32_append_replicate (p : Bytes) (i : Nat) {m n : Nat} (h : m ≤ n) :
    p.words32 i m ++ List.replicate (n - m) 0 =
      (List.range n).map fun k => if k < m then p.u32 (i + 4 * k) else 0 := by
  obtain ⟨d, rfl⟩ := Nat.exists_eq_add_of_le h
  rw [Nat.add_sub_cancel_left, List.range_add, List.map_append, List.map_map]
  congr 1
  · exact List.map_congr_left fun k hk => (if_pos (List.mem_range.1 hk)).symm
  · refine (List.eq_replicate_iff.2 ⟨by simp, fun a ha => ?_⟩).symm
    obtain ⟨k, -, rfl⟩ := List.mem_map.1 ha
    exact if_neg (Nat.not_lt.2 (Nat.le_add_right m k))

namespace PortContainment

/-- The programmed input and output error registers. -/
def pio : Register where
  layout := {
    bits := 32
    widths := [1, 1, 1, 5, 1, 1, 1, 5, 1, 1, 1, 13]
    name := "RP PIO errors"
    bits_mem := by decide
    widths_pos := by decide
    total_widths := rfl }
  names :=
    [some "cfg_ur_cpl", some "cfg_ca_cpl", some "cfg_cto", none, some "io_ur_cpl",
     some "io_ca_cpl", some "io_cto", none, some "mem_ur_cpl", some "mem_ca_cpl", some "mem_cto",
     none]
  length_names := rfl

/-- A description shows the word of a programmed input and output error register. -/
def ShowsPio (w : Nat) (d : Description) : Prop :=
  pio.ShowsFlags [0, 1, 2, 8, 9, 10, 16, 17, 18] 0x00070707 w d

theorem PioErrors.shows_ofWord (w : Nat) : ShowsPio w (describe (PioErrors.ofWord w)) := by
  refine Register.showsFlags rfl rfl ?_
  rw [Register.fields_eq]
  rfl

/-- The number of bytes that a log of some size calls for. -/
def requiredSize (logSize : Nat) : Nat :=
  if logSize < 5 then 44 else 48 + 4 * min (logSize - 5) 4

theorem size_ofWord (w : Nat) : (Capability.ofWord w).size = requiredSize (field w 8 4) := by
  change 44 + 4 * (if 5 ≤ field w 8 4 then 1 + min (field w 8 4 - 5) 4 else 0) = _
  unfold requiredSize
  split <;> split <;> omega

/-- The extensions of a root port with a log of some size, where they lie in the payload. -/
structure Extensions.Sections (p : Bytes) (logSize : Nat) (e : Extensions) : Prop where
  status : ShowsPio (p.u32 8) (describe e.rpPioStatus)
  mask : ShowsPio (p.u32 12) (describe e.rpPioMask)
  severity : ShowsPio (p.u32 16) (describe e.rpPioSeverity)
  syserr : ShowsPio (p.u32 20) (describe e.rpPioSyserr)
  exception : ShowsPio (p.u32 24) (describe e.rpPioException)
  header_log_eq : e.rpPioHeaderLog = [p.u32 28, p.u32 32, p.u32 36, p.u32 40]
  impspec_log_eq : e.rpPioImpspecLog = if 5 ≤ logSize then some (p.u32 44) else none
  /-- The prefix log has four entries, of which those that the payload does not have are zero. -/
  prefix_log_eq : e.rpPioTlpPrefixLog =
    if logSize ≤ 5 then none
    else some ((List.range 4).map fun k =>
      if k < min (logSize - 5) 4 then p.u32 (48 + 4 * k) else 0)

/-- What is read as extensions are the sections that the log size calls for. -/
theorem sections_readExtensions {p : Bytes} {w : Nat} (h : (Capability.ofWord w).size ≤ p.length) :
    (readExtensions (.ofWord w) ⟨p, h⟩).Sections p (field w 8 4) where
  status := PioErrors.shows_ofWord _
  mask := PioErrors.shows_ofWord _
  severity := PioErrors.shows_ofWord _
  syserr := PioErrors.shows_ofWord _
  exception := PioErrors.shows_ofWord _
  header_log_eq := rfl
  impspec_log_eq := by
    change impspecLog _ _ = _
    unfold impspecLog
    split <;> rename_i hsize
    · exact (if_pos hsize).symm
    · exact (if_neg hsize).symm
  prefix_log_eq := by
    change prefixLog _ _ = _
    unfold prefixLog
    split <;> rename_i hsize
    · have hlarge : ¬ field w 8 4 ≤ 5 := Nat.not_le.2 hsize
      rw [if_neg hlarge, ← Bytes.words32_append_replicate p 48 (Nat.min_le_right _ 4)]
      rfl
    · exact (if_pos (Nat.not_lt.1 hsize)).symm

/-- The payload has the extensions, if the first register says that there are any. -/
def Fits (p : Bytes) : Prop :=
  (p.u16 0).testBit 5 = false ∨ requiredSize (field (p.u16 0) 8 4) ≤ p.length

variable {p : Bytes}

/-- The first registers, and what extensions there are. -/
def registers (p : Bytes) (rpExtensions : Option Extensions) : PortContainment where
  capability := .ofWord (p.u16 0)
  control := .ofWord (p.u16 2)
  status := .ofWord (p.u16 4)
  errorSourceId := p.u16 6
  rpExtensions := rpExtensions

/-- The first register says whether extensions are read behind the first ones. -/
theorem decode_of_first (h : 8 ≤ p.length) :
    decode p = Except.map (registers p)
      (if (p.u16 0).testBit 5 then
        p.require "Downstream Port Containment RP Extensions" (Capability.ofWord (p.u16 0)).size
          fun q => .ok (some (readExtensions _ q))
      else .ok none) :=
  Bytes.require_of_le h

theorem decode_of_fits (h : 8 ≤ p.length) (hfits : Fits p) :
    ∃ r, decode p = .ok r ∧ (r.rpExtensions.isSome ↔ (p.u16 0).testBit 5 = true) ∧
      ∀ e ∈ r.rpExtensions, e.Sections p (field (p.u16 0) 8 4) := by
  rw [decode_of_first h]
  cases hbit : (p.u16 0).testBit 5 with
  | false => exact ⟨_, rfl, Iff.rfl, fun e he => by cases he⟩
  | true =>
    have hsize : (Capability.ofWord (p.u16 0)).size ≤ p.length := by
      rw [size_ofWord]
      exact hfits.resolve_left (by rw [hbit]; decide)
    rw [if_pos rfl, Bytes.require_of_le hsize]
    refine ⟨_, rfl, Iff.rfl, fun e he => ?_⟩
    cases he
    exact sections_readExtensions hsize

theorem decode_of_not_fits (h : 8 ≤ p.length) (hfits : ¬ Fits p) :
    decode p = .error (.unreadable "Downstream Port Containment RP Extensions"
      (requiredSize (field (p.u16 0) 8 4)) p.length) := by
  obtain ⟨hset, hshort⟩ := not_or.1 hfits
  have hsize : p.length < (Capability.ofWord (p.u16 0)).size := by
    rw [size_ofWord]
    exact Nat.not_le.1 hshort
  rw [decode_of_first h, if_pos (by simpa using hset), Bytes.require_of_lt hsize, size_ofWord]
  rfl

end PortContainment

/-- **The extensions of a root port are where the log size puts them.**  Containment is decoded
exactly if they are not there or fit the payload, and otherwise their size is reported. -/
theorem containment_extensions (p : Bytes) (h : 8 ≤ p.length) :
    let x := (p.u16 0).testBit 5
    let n := field (p.u16 0) 8 4
    let size := PortContainment.requiredSize n
    ((∃ r, PortContainment.decode p = .ok r) ↔ x = false ∨ size ≤ p.length) ∧
    ((¬ ∃ r, PortContainment.decode p = .ok r) → PortContainment.decode p =
      .error (.unreadable "Downstream Port Containment RP Extensions" size p.length)) ∧
    ∀ r, PortContainment.decode p = .ok r →
      (r.rpExtensions.isSome ↔ x = true) ∧ ∀ e ∈ r.rpExtensions, e.Sections p n := by
  intro x n size
  exact outcome_of_fits (PortContainment.decode_of_fits h) (PortContainment.decode_of_not_fits h)

/-- The containment of a root port whose log has seven units, which puts two words into the
prefix log. -/
def rootPortContainment : Bytes :=
  [0x20, 0x07] ++ (List.range 54).map fun i => UInt8.ofNat (i + 2)

/-- Extensions that just fit are read, and the words that the prefix log lacks are zero. -/
theorem containment_extensions_root_port :
    8 ≤ rootPortContainment.length ∧
    ∃ r e, PortContainment.decode rootPortContainment = .ok r ∧ r.rpExtensions = some e ∧
      e.rpPioTlpPrefixLog = some [0x33323130, 0x37363534, 0, 0] ∧
      e.Sections rootPortContainment 7 := by
  have hlong : 8 ≤ rootPortContainment.length := by decide
  obtain ⟨hfits, -, hsections⟩ := containment_extensions rootPortContainment hlong
  obtain ⟨r, hr⟩ := hfits.2 (by decide)
  obtain ⟨hpresent, hshown⟩ := hsections r hr
  obtain ⟨e, he⟩ := Option.isSome_iff_exists.1 (hpresent.2 (by decide))
  exact ⟨hlong, r, e, hr, he, (hshown e he).prefix_log_eq, hshown e he⟩

end ConfigSpace
