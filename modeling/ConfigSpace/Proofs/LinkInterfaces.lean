import ConfigSpace.Proofs.Demands
import ConfigSpace.Proofs.RegisterBlocks

/-!
# Blocks of HyperTransport registers

The capability type is in the top five bits of the command register, and says which block of
registers the payload is.  This file says which block that is, of how many bytes, and that the
registers of a link interface are read at the right places: written again one behind the other,
they are the bytes of the payload with the reserved bits cleared.

* `HyperTransport.required` — the block that a capability type calls for, and its size.
* `SlaveInterface.Sections` and `HostInterface.Sections` — where the registers of an interface
  lie in the payload; `SlaveInterface.encode_ofPayload` and `HostInterface.encode_ofPayload`
  put them together again.
* `HyperTransport.Selected` — the block that a payload of some type is decoded to.

The main result is `hypertransport_blocks`.
-/

namespace ConfigSpace

namespace HyperTransport

/-! ## Registers -/

/-- The command register of a slave or primary interface. -/
def slaveCommandRegister : Register where
  layout := {
    bits := 16
    widths := [5, 5, 1, 1, 1, 3]
    name := "HT slave command"
    bits_mem := Layout.mem_sizes_16
    widths_pos := by decide
    total_widths := rfl }
  names :=
    [some "base_unitid", some "unit_count", some "master_host", some "default_direction",
     some "drop_on_uninitialized_link", none]
  length_names := rfl

/-- The command register of a host or secondary interface. -/
def hostCommandRegister : Register where
  layout := {
    bits := 16
    widths := [1, 1, 5, 1, 1, 1, 1, 1, 1, 3]
    name := "HT host command"
    bits_mem := Layout.mem_sizes_16
    widths_pos := by decide
    total_widths := rfl }
  names :=
    [some "warm_reset", some "double_ended", some "device_number", some "chain_side",
     some "host_hide", none, some "act_as_slave", some "host_inbound_end_of_chain_error",
     some "drop_on_uninitialized_link", none]
  length_names := rfl

/-- The Link Control register. -/
def linkControlRegister : Register where
  layout := {
    bits := 16
    widths := [1, 1, 1, 1, 1, 1, 1, 1, 4, 1, 1, 1, 1]
    name := "HT link control"
    bits_mem := Layout.mem_sizes_16
    widths_pos := by decide
    total_widths := rfl }
  names :=
    [some "source_id_enable", some "crc_flood_enable", some "crc_start_test",
     some "crc_force_error", some "link_failure", some "initialization_complete",
     some "end_of_chain", some "transmitter_off", some "crc_error",
     some "isochronous_flow_control_enable", some "ldtstop_tristate_enable",
     some "extended_ctl_time", some "enable_64_bit_addressing"]
  length_names := rfl

/-- The Link Configuration register. -/
def linkConfigRegister : Register where
  layout := {
    bits := 16
    widths := [3, 1, 3, 1, 3, 1, 3, 1]
    name := "HT link configuration"
    bits_mem := Layout.mem_sizes_16
    widths_pos := by decide
    total_widths := rfl }
  names :=
    [some "max_link_width_in", some "doubleword_flow_control_in", some "max_link_width_out",
     some "doubleword_flow_control_out", some "link_width_in",
     some "doubleword_flow_control_in_enable", some "link_width_out",
     some "doubleword_flow_control_out_enable"]
  length_names := rfl

/-- The revision. -/
def revisionRegister : Register where
  layout := {
    bits := 8
    widths := [5, 3]
    name := "HT revision ID"
    bits_mem := Layout.mem_sizes_8
    widths_pos := by decide
    total_widths := rfl }
  names := [some "minor", some "major"]
  length_names := rfl

/-- The Link Frequency register, with the error bits of the link. -/
def linkFreqRegister : Register where
  layout := {
    bits := 8
    widths := [4, 1, 1, 1, 1]
    name := "HT link frequency/error"
    bits_mem := Layout.mem_sizes_8
    widths_pos := by decide
    total_widths := rfl }
  names :=
    [some "link_freq", some "protocol_error", some "overflow_error", some "end_of_chain_error",
     some "ctl_timeout"]
  length_names := rfl

/-- The Feature Capability register, of which a slave interface has the lower half. -/
def featureRegister : Register where
  layout := {
    bits := 16
    widths := [1, 1, 1, 1, 1, 1, 1, 1, 1, 1, 6]
    name := "HT feature"
    bits_mem := Layout.mem_sizes_16
    widths_pos := by decide
    total_widths := rfl }
  names :=
    [some "isochronous_flow_control_mode", some "ldtstop", some "crc_test_mode",
     some "extended_ctl_time_required", some "qword_addressing", some "unitid_reorder_disable",
     some "source_identification_extension", none, some "extended_register_set",
     some "upstream_configuration_enable", none]
  length_names := rfl

/-- The Error Handling register. -/
def errorHandlingRegister : Register where
  layout := {
    bits := 16
    widths := List.replicate 16 1
    name := "HT error handling"
    bits_mem := Layout.mem_sizes_16
    widths_pos := by decide
    total_widths := rfl }
  names :=
    [some "protocol_error_flood_enable", some "overflow_error_flood_enable",
     some "protocol_error_fatal_enable", some "overflow_error_fatal_enable",
     some "end_of_chain_error_fatal_enable", some "response_error_fatal_enable",
     some "crc_error_fatal_enable", some "system_error_fatal_enable", some "chain_fail",
     some "response_error", some "protocol_error_nonfatal_enable",
     some "overflow_error_nonfatal_enable", some "end_of_chain_error_nonfatal_enable",
     some "response_error_nonfatal_enable", some "crc_error_nonfatal_enable",
     some "system_error_nonfatal_enable"]
  length_names := rfl

theorem SlaveCommand.shows_ofWord (w : Nat) :
    slaveCommandRegister.Shows 0x1FFF w (describe (SlaveCommand.ofWord w)) :=
  Register.shows rfl rfl

theorem HostCommand.shows_ofWord (w : Nat) :
    hostCommandRegister.Shows 0x1DFF w (describe (HostCommand.ofWord w)) :=
  Register.shows rfl rfl

theorem LinkControl.shows_ofWord (w : Nat) :
    linkControlRegister.Shows 0xFFFF w (describe (LinkControl.ofWord w)) :=
  Register.shows rfl rfl

theorem LinkConfiguration.shows_ofWord (w : Nat) :
    linkConfigRegister.Shows 0xFFFF w (describe (LinkConfiguration.ofWord w)) :=
  Register.shows rfl rfl

theorem RevisionId.shows_ofWord (w : Nat) :
    revisionRegister.Shows 0xFF w (describe (RevisionId.ofWord w)) :=
  Register.shows rfl rfl

theorem LinkFrequency.shows_ofWord (w : Nat) :
    linkFreqRegister.Shows 0xFF w (describe (LinkFrequency.ofWord w)) :=
  Register.shows rfl rfl

theorem Features.shows_ofWord (w : Nat) :
    featureRegister.Shows 0x037F w (describe (Features.ofWord w)) :=
  Register.shows rfl rfl

theorem ErrorHandling.shows_ofWord (w : Nat) :
    errorHandlingRegister.Shows 0xFFFF w (describe (ErrorHandling.ofWord w)) :=
  Register.shows rfl rfl

/-! ## Link interfaces -/

namespace SlaveInterface

/-- The registers of the interface, one behind the other. -/
def encode (b : SlaveInterface) : Bytes :=
  [slaveCommandRegister.encode 2 (describe b.command),
   linkControlRegister.encode 2 (describe b.linkControl0),
   linkConfigRegister.encode 2 (describe b.linkConfig0),
   linkControlRegister.encode 2 (describe b.linkControl1),
   linkConfigRegister.encode 2 (describe b.linkConfig1),
   revisionRegister.encode 1 (describe b.revisionId),
   linkFreqRegister.encode 1 (describe b.linkFreq0),
   Bytes.littleEndian 2 b.linkFreqCap0,
   featureRegister.encode 1 (describe b.feature),
   linkFreqRegister.encode 1 (describe b.linkFreq1),
   Bytes.littleEndian 2 b.linkFreqCap1,
   Bytes.littleEndian 2 b.enumerationScratchpad,
   errorHandlingRegister.encode 2 (describe b.errorHandling),
   Bytes.littleEndian 1 b.memBaseUpper,
   Bytes.littleEndian 1 b.memLimitUpper,
   Bytes.littleEndian 1 b.busNumber].flatten

/-- The bits that are not reserved: the capability type in the command register is, and so is
the top bit of the features. -/
def mask : Bytes :=
  [0xFF, 0x1F] ++ List.replicate 12 0xFF ++ [0x7F] ++ List.replicate 10 0xFF

/-- What is read of a payload that is long enough. -/
def ofPayload (p : Bytes) : SlaveInterface where
  command := .ofWord (p.u16 0)
  linkControl0 := .ofWord (p.u16 2)
  linkConfig0 := .ofWord (p.u16 4)
  linkControl1 := .ofWord (p.u16 6)
  linkConfig1 := .ofWord (p.u16 8)
  revisionId := .ofWord (p.u8 10)
  linkFreq0 := .ofWord (p.u8 11)
  linkFreqCap0 := p.u16 12
  feature := .ofWord (p.u8 14)
  linkFreq1 := .ofWord (p.u8 15)
  linkFreqCap1 := p.u16 16
  enumerationScratchpad := p.u16 18
  errorHandling := .ofWord (p.u16 20)
  memBaseUpper := p.u8 22
  memLimitUpper := p.u8 23
  busNumber := p.u8 24

/-- Where the registers lie in the payload. -/
structure Sections (p : Bytes) (b : SlaveInterface) : Prop where
  command : slaveCommandRegister.Shows 0x1FFF (p.u16 0) (describe b.command)
  link_control_0 : linkControlRegister.Shows 0xFFFF (p.u16 2) (describe b.linkControl0)
  link_config_0 : linkConfigRegister.Shows 0xFFFF (p.u16 4) (describe b.linkConfig0)
  link_control_1 : linkControlRegister.Shows 0xFFFF (p.u16 6) (describe b.linkControl1)
  link_config_1 : linkConfigRegister.Shows 0xFFFF (p.u16 8) (describe b.linkConfig1)
  revision : revisionRegister.Shows 0xFF (p.u8 10) (describe b.revisionId)
  link_freq_0 : linkFreqRegister.Shows 0xFF (p.u8 11) (describe b.linkFreq0)
  link_freq_cap_0_eq : b.linkFreqCap0 = p.u16 12
  feature : featureRegister.Shows 0x037F (p.u8 14) (describe b.feature)
  link_freq_1 : linkFreqRegister.Shows 0xFF (p.u8 15) (describe b.linkFreq1)
  link_freq_cap_1_eq : b.linkFreqCap1 = p.u16 16
  scratchpad_eq : b.enumerationScratchpad = p.u16 18
  error_handling : errorHandlingRegister.Shows 0xFFFF (p.u16 20) (describe b.errorHandling)
  mem_base_eq : b.memBaseUpper = p.u8 22
  mem_limit_eq : b.memLimitUpper = p.u8 23
  bus_number_eq : b.busNumber = p.u8 24
  /-- The interface has no room for the flags in the upper half of the features. -/
  upper_features_eq :
    b.feature.extendedRegisterSet = false ∧ b.feature.upstreamConfigurationEnable = false
  /-- All registers together are the bytes of the payload, as far as they are not reserved. -/
  encode_eq : b.encode = Bytes.masked (p.take 25) mask

variable {p : Bytes}

theorem decode_of_le (h : 26 ≤ p.length) : decode p = .ok (ofPayload p) :=
  Bytes.require_of_le h

theorem encode_ofPayload (h : 26 ≤ p.length) :
    (ofPayload p).encode = Bytes.masked (p.take 25) mask := by
  -- One mask for each register; together they are the mask of the interface.
  refine @Bytes.MaskedParts.flatten_eq p 0
    [Bytes.littleEndian 2 0x1FFF, Bytes.littleEndian 2 0xFFFF, Bytes.littleEndian 2 0xFFFF,
     Bytes.littleEndian 2 0xFFFF, Bytes.littleEndian 2 0xFFFF, Bytes.littleEndian 1 0xFF,
     Bytes.littleEndian 1 0xFF, List.replicate 2 0xFF, Bytes.littleEndian 1 0x037F,
     Bytes.littleEndian 1 0xFF, List.replicate 2 0xFF, List.replicate 2 0xFF,
     Bytes.littleEndian 2 0xFFFF, List.replicate 1 0xFF, List.replicate 1 0xFF,
     List.replicate 1 0xFF] _ ?_ ?_
  · refine .cons ((SlaveCommand.shows_ofWord _).encode_eq ?_) <|
      .cons ((LinkControl.shows_ofWord _).encode_eq ?_) <|
      .cons ((LinkConfiguration.shows_ofWord _).encode_eq ?_) <|
      .cons ((LinkControl.shows_ofWord _).encode_eq ?_) <|
      .cons ((LinkConfiguration.shows_ofWord _).encode_eq ?_) <|
      .cons ((RevisionId.shows_ofWord _).encode_eq ?_) <|
      .cons ((LinkFrequency.shows_ofWord _).encode_eq ?_) <|
      .cons (Bytes.littleEndian_eq_masked ?_) <|
      .cons ((Features.shows_ofWord _).encode_eq ?_) <|
      .cons ((LinkFrequency.shows_ofWord _).encode_eq ?_) <|
      .cons (Bytes.littleEndian_eq_masked ?_) <|
      .cons (Bytes.littleEndian_eq_masked ?_) <|
      .cons ((ErrorHandling.shows_ofWord _).encode_eq ?_) <|
      .cons (Bytes.littleEndian_eq_masked ?_) <|
      .cons (Bytes.littleEndian_eq_masked ?_) <|
      .cons (Bytes.littleEndian_eq_masked ?_) (.nil _)
    all_goals omega
  · show 0 + 25 ≤ p.length
    omega

/-- Registers that are read lie where they are read. -/
theorem sections_ofPayload (h : 26 ≤ p.length) : Sections p (ofPayload p) where
  command := SlaveCommand.shows_ofWord _
  link_control_0 := LinkControl.shows_ofWord _
  link_config_0 := LinkConfiguration.shows_ofWord _
  link_control_1 := LinkControl.shows_ofWord _
  link_config_1 := LinkConfiguration.shows_ofWord _
  revision := RevisionId.shows_ofWord _
  link_freq_0 := LinkFrequency.shows_ofWord _
  link_freq_cap_0_eq := rfl
  feature := Features.shows_ofWord _
  link_freq_1 := LinkFrequency.shows_ofWord _
  link_freq_cap_1_eq := rfl
  scratchpad_eq := rfl
  error_handling := ErrorHandling.shows_ofWord _
  mem_base_eq := rfl
  mem_limit_eq := rfl
  bus_number_eq := rfl
  upper_features_eq := by
    have hbyte := p.u8_lt 14
    constructor
    · exact Nat.testBit_lt_two_pow hbyte
    · exact Nat.testBit_lt_two_pow (Nat.lt_trans hbyte (by decide))
  encode_eq := encode_ofPayload h

end SlaveInterface

namespace HostInterface

/-- The registers of the interface, one behind the other; two bytes between them are reserved. -/
def encode (b : HostInterface) : Bytes :=
  [hostCommandRegister.encode 2 (describe b.command),
   linkControlRegister.encode 2 (describe b.linkControl),
   linkConfigRegister.encode 2 (describe b.linkConfig),
   revisionRegister.encode 1 (describe b.revisionId),
   linkFreqRegister.encode 1 (describe b.linkFreq),
   Bytes.littleEndian 2 b.linkFreqCap,
   featureRegister.encode 2 (describe b.feature),
   List.replicate 2 0,
   Bytes.littleEndian 2 b.enumerationScratchpad,
   errorHandlingRegister.encode 2 (describe b.errorHandling),
   Bytes.littleEndian 1 b.memBaseUpper,
   Bytes.littleEndian 1 b.memLimitUpper].flatten

/-- The bits that are not reserved: in the command register the capability type is and one more
bit, and bit 7 and the top six bits of the features are. -/
def mask : Bytes :=
  [0xFF, 0x1D] ++ List.replicate 8 0xFF ++ [0x7F, 0x03, 0x00, 0x00] ++ List.replicate 6 0xFF

/-- What is read of a payload that is long enough. -/
def ofPayload (p : Bytes) : HostInterface where
  command := .ofWord (p.u16 0)
  linkControl := .ofWord (p.u16 2)
  linkConfig := .ofWord (p.u16 4)
  revisionId := .ofWord (p.u8 6)
  linkFreq := .ofWord (p.u8 7)
  linkFreqCap := p.u16 8
  feature := .ofWord (p.u16 10)
  enumerationScratchpad := p.u16 14
  errorHandling := .ofWord (p.u16 16)
  memBaseUpper := p.u8 18
  memLimitUpper := p.u8 19

/-- Where the registers lie in the payload. -/
structure Sections (p : Bytes) (b : HostInterface) : Prop where
  command : hostCommandRegister.Shows 0x1DFF (p.u16 0) (describe b.command)
  link_control : linkControlRegister.Shows 0xFFFF (p.u16 2) (describe b.linkControl)
  link_config : linkConfigRegister.Shows 0xFFFF (p.u16 4) (describe b.linkConfig)
  revision : revisionRegister.Shows 0xFF (p.u8 6) (describe b.revisionId)
  link_freq : linkFreqRegister.Shows 0xFF (p.u8 7) (describe b.linkFreq)
  link_freq_cap_eq : b.linkFreqCap = p.u16 8
  feature : featureRegister.Shows 0x037F (p.u16 10) (describe b.feature)
  scratchpad_eq : b.enumerationScratchpad = p.u16 14
  error_handling : errorHandlingRegister.Shows 0xFFFF (p.u16 16) (describe b.errorHandling)
  mem_base_eq : b.memBaseUpper = p.u8 18
  mem_limit_eq : b.memLimitUpper = p.u8 19
  /-- All registers together are the bytes of the payload, as far as they are not reserved. -/
  encode_eq : b.encode = Bytes.masked (p.take 20) mask

variable {p : Bytes}

theorem decode_of_le (h : 22 ≤ p.length) : decode p = .ok (ofPayload p) :=
  Bytes.require_of_le h

theorem encode_ofPayload (h : 22 ≤ p.length) :
    (ofPayload p).encode = Bytes.masked (p.take 20) mask := by
  -- As above, with two bytes between the registers that are masked out.
  refine @Bytes.MaskedParts.flatten_eq p 0
    [Bytes.littleEndian 2 0x1DFF, Bytes.littleEndian 2 0xFFFF, Bytes.littleEndian 2 0xFFFF,
     Bytes.littleEndian 1 0xFF, Bytes.littleEndian 1 0xFF, List.replicate 2 0xFF,
     Bytes.littleEndian 2 0x037F, List.replicate 2 0, List.replicate 2 0xFF,
     Bytes.littleEndian 2 0xFFFF, List.replicate 1 0xFF, List.replicate 1 0xFF] _ ?_ ?_
  · refine .cons ((HostCommand.shows_ofWord _).encode_eq ?_) <|
      .cons ((LinkControl.shows_ofWord _).encode_eq ?_) <|
      .cons ((LinkConfiguration.shows_ofWord _).encode_eq ?_) <|
      .cons ((RevisionId.shows_ofWord _).encode_eq ?_) <|
      .cons ((LinkFrequency.shows_ofWord _).encode_eq ?_) <|
      .cons (Bytes.littleEndian_eq_masked ?_) <|
      .cons ((Features.shows_ofWord _).encode_eq ?_) <|
      .cons (Bytes.replicate_eq_masked (i := 12) ?_) <|
      .cons (Bytes.littleEndian_eq_masked ?_) <|
      .cons ((ErrorHandling.shows_ofWord _).encode_eq ?_) <|
      .cons (Bytes.littleEndian_eq_masked ?_) <|
      .cons (Bytes.littleEndian_eq_masked ?_) (.nil _)
    all_goals omega
  · show 0 + 20 ≤ p.length
    omega

theorem sections_ofPayload (h : 22 ≤ p.length) : Sections p (ofPayload p) where
  command := HostCommand.shows_ofWord _
  link_control := LinkControl.shows_ofWord _
  link_config := LinkConfiguration.shows_ofWord _
  revision := RevisionId.shows_ofWord _
  link_freq := LinkFrequency.shows_ofWord _
  link_freq_cap_eq := rfl
  feature := Features.shows_ofWord _
  scratchpad_eq := rfl
  error_handling := ErrorHandling.shows_ofWord _
  mem_base_eq := rfl
  mem_limit_eq := rfl
  encode_eq := encode_ofPayload h

end HostInterface

/-! ## The block that a type calls for -/

/-- Where the registers of a mapping of message signaled interrupts lie in the payload. -/
structure MsiMapping.Sections (p : Bytes) (b : MsiMapping) : Prop where
  enabled_eq : b.enabled = (p.u16 0).testBit 0
  fixed_eq : b.fixed = (p.u16 0).testBit 1
  base_lower_eq : b.baseAddressLower = p.u32 2
  base_upper_eq : b.baseAddressUpper = p.u32 6

/-- The block that a capability type calls for, and how many bytes it takes; a revision is in
the command register itself, and the blocks of most types are not decoded. -/
def required (t : Nat) : Need :=
  if t ≤ 0b00011 then ⟨"HyperTransport Slave/Primary Interface", 26⟩
  else if t ≤ 0b00111 then ⟨"HyperTransport Host/Secondary Interface", 22⟩
  else if t = 0b10101 then ⟨"HyperTransport MSI Mapping", 10⟩
  else ⟨"HyperTransport", 0⟩

/-- The block that a payload of some capability type is decoded to, where its registers lie in
the payload. -/
inductive Selected (p : Bytes) (t : Nat) : Option Block → Prop where
  | slave {b : SlaveInterface} (ht : t ≤ 0b00011) (h : b.Sections p) :
      Selected p t (some (.slave b))
  | host {b : HostInterface} (hlow : 0b00011 < t) (ht : t ≤ 0b00111) (h : b.Sections p) :
      Selected p t (some (.host b))
  | msiMapping {b : MsiMapping} (ht : t = 0b10101) (h : b.Sections p) :
      Selected p t (some (.msiMapping b))
  | revision {b : RevisionId} (ht : t = 0b10001)
      (h : revisionRegister.Shows 0xFF (p.u8 0) (describe b)) : Selected p t (some (.revision b))
  | other (hlow : 0b00111 < t) (hmsi : t ≠ 0b10101) (hrevision : t ≠ 0b10001) :
      Selected p t none

theorem MsiMapping.exists_decode_of_le {p : Bytes} (h : 10 ≤ p.length) :
    ∃ b, MsiMapping.decode p = .ok b ∧ b.Sections p :=
  ⟨_, Bytes.require_of_le h, ⟨rfl, rfl, rfl, rfl⟩⟩

theorem Kind.ofCode_of_le {t : Nat} (h : t ≤ 0b00011) :
    Kind.ofCode t = .slaveOrPrimaryInterface :=
  if_pos (by omega)

theorem Kind.ofCode_of_gt {t : Nat} (hlow : 0b00011 < t) (h : t ≤ 0b00111) :
    Kind.ofCode t = .hostOrSecondaryInterface := by
  unfold Kind.ofCode
  rw [if_neg (by omega), if_pos (by omega)]

/-- Types above those of the interfaces have no block that is decoded, except for two. -/
theorem Kind.block?_ofCode {t : Nat} (hlow : 0b00111 < t) (hmsi : t ≠ 0b10101)
    (hrevision : t ≠ 0b10001) : (Kind.ofCode t).block? = none := by
  unfold Kind.ofCode
  rw [if_neg (by omega), if_neg (by omega)]
  split <;> first | rfl | omega

variable {p : Bytes}

theorem Block.decode_of_block? {kind : Kind} (h : kind.block? = none) :
    Block.decode kind p = .ok none := by
  cases kind <;> first | rfl | cases h

theorem Block.decode_of_fits {t : Nat} (hcommand : 2 ≤ p.length)
    (h : (required t).size ≤ p.length) :
    ∃ block, Block.decode (.ofCode t) p = .ok block ∧ Selected p t block := by
  -- The cases are those of `required`; a revision only takes the command register.
  unfold required at h
  by_cases hslave : t ≤ 0b00011
  · rw [if_pos hslave] at h
    refine ⟨_, ?_, .slave hslave (SlaveInterface.sections_ofPayload h)⟩
    rw [Kind.ofCode_of_le hslave, Block.decode, SlaveInterface.decode_of_le h]
    rfl
  rw [if_neg hslave] at h
  by_cases hhost : t ≤ 0b00111
  · rw [if_pos hhost] at h
    have hlow : 0b00011 < t := Nat.not_le.1 hslave
    refine ⟨_, ?_, .host hlow hhost (HostInterface.sections_ofPayload h)⟩
    rw [Kind.ofCode_of_gt hlow hhost, Block.decode, HostInterface.decode_of_le h]
    rfl
  rw [if_neg hhost] at h
  by_cases hmsi : t = 0b10101
  · rw [if_pos hmsi] at h
    obtain ⟨b, hdecode, hb⟩ := MsiMapping.exists_decode_of_le h
    refine ⟨_, ?_, .msiMapping hmsi hb⟩
    rw [hmsi]
    exact congrArg (Except.map _) hdecode
  by_cases hrevision : t = 0b10001
  · have hdecode : RevisionId.decode p = .ok (.ofWord (p.u8 0)) :=
      Bytes.require_of_le (by omega)
    refine ⟨_, ?_, .revision hrevision (RevisionId.shows_ofWord (p.u8 0))⟩
    rw [hrevision]
    exact congrArg (Except.map _) hdecode
  · have hkind : (Kind.ofCode t).block? = none :=
      Kind.block?_ofCode (Nat.not_le.1 hhost) hmsi hrevision
    exact ⟨none, Block.decode_of_block? hkind, .other (Nat.not_le.1 hhost) hmsi hrevision⟩

theorem Block.decode_of_short {t : Nat} (h : p.length < (required t).size) :
    Block.decode (.ofCode t) p = .error ((required t).fault p) := by
  unfold required at h ⊢
  by_cases hslave : t ≤ 0b00011
  · rw [if_pos hslave] at h ⊢
    rw [Kind.ofCode_of_le hslave]
    exact congrArg (Except.map _) (Bytes.require_of_lt h)
  rw [if_neg hslave] at h ⊢
  by_cases hhost : t ≤ 0b00111
  · rw [if_pos hhost] at h ⊢
    rw [Kind.ofCode_of_gt (Nat.not_le.1 hslave) hhost]
    exact congrArg (Except.map _) (Bytes.require_of_lt h)
  rw [if_neg hhost] at h ⊢
  by_cases hmsi : t = 0b10101
  · rw [if_pos hmsi] at h ⊢
    rw [hmsi]
    exact congrArg (Except.map _) (Bytes.require_of_lt h)
  · rw [if_neg hmsi] at h
    exact absurd h (Nat.not_lt_zero _)

theorem field_type (p : Bytes) : field (p.u16 0) 11 5 = p.u8 1 >>> 3 :=
  (p.field_u16 0 3 5).trans (field_of_lt (p.u8_lt 1))

/-- With a command register, the block of the capability type is what is decoded. -/
theorem decode_eq (hcommand : 2 ≤ p.length) :
    decode p = (Block.decode (.ofCode (p.u8 1 >>> 3 : Nat)) p).map (⟨p.u8 1 >>> 3, ·⟩) := by
  rw [← field_type]
  exact Bytes.require_of_le hcommand

end HyperTransport

/-- **The capability type selects the block, and its registers are read at the right places.**
A payload is decoded exactly if it has a command register and the bytes that its type calls
for, and otherwise what it lacks is reported. -/
theorem hypertransport_blocks (p : Bytes) :
    let t := p.u8 1 >>> 3
    let need := HyperTransport.required t
    ((∃ h, HyperTransport.decode p = .ok h) ↔ 2 ≤ p.length ∧ need.size ≤ p.length) ∧
    (p.length < 2 →
      HyperTransport.decode p = .error (.unreadable "HyperTransport" 2 p.length)) ∧
    (2 ≤ p.length → p.length < need.size →
      HyperTransport.decode p = .error (.unreadable need.name need.size p.length)) ∧
    ∀ h, HyperTransport.decode p = .ok h →
      h.capabilityType = t ∧ HyperTransport.Selected p t h.block := by
  intro t need
  have hcommand : p.length < 2 →
      HyperTransport.decode p = .error (.unreadable "HyperTransport" 2 p.length) :=
    Bytes.require_of_lt
  have hblock : 2 ≤ p.length → p.length < need.size →
      HyperTransport.decode p = .error (need.fault p) := by
    intro hlong hshort
    rw [HyperTransport.decode_eq hlong, HyperTransport.Block.decode_of_short hshort]
    rfl
  have hfits : 2 ≤ p.length ∧ need.size ≤ p.length → ∃ h, HyperTransport.decode p = .ok h ∧
      h.capabilityType = t ∧ HyperTransport.Selected p t h.block := by
    rintro ⟨hlong, hsize⟩
    obtain ⟨block, hdecode, hselected⟩ := HyperTransport.Block.decode_of_fits hlong hsize
    refine ⟨⟨t, block⟩, ?_, rfl, hselected⟩
    rw [HyperTransport.decode_eq hlong, hdecode]
    rfl
  have hshort : ¬ (2 ≤ p.length ∧ need.size ≤ p.length) → HyperTransport.decode p =
      .error (if p.length < 2 then .unreadable "HyperTransport" 2 p.length
        else need.fault p) := by
    intro hnot
    split
    · exact hcommand ‹_›
    · exact hblock (by omega) (by omega)
  obtain ⟨hiff, -, hright⟩ := outcome_of_fits hfits hshort
  exact ⟨hiff, hcommand, hblock, hright⟩

/-- A host interface with all of its reserved bits set. -/
def hostInterfacePayload : Bytes :=
  [0xF0, 0x3F] ++ (List.range 20).map fun i => UInt8.ofNat (0xFF - i)

/-- A host interface is put together again without the reserved bits, and one that lacks only the
last byte is not decoded. -/
theorem hypertransport_blocks_host :
    HyperTransport.decode (hostInterfacePayload.take 21) =
      .error (.unreadable "HyperTransport Host/Secondary Interface" 22 21) ∧
    ∃ b, HyperTransport.decode hostInterfacePayload = .ok ⟨7, some (.host b)⟩ ∧
      b.encode = [0xF0, 0x1D, 0xFF, 0xFE, 0xFD, 0xFC, 0xFB, 0xFA, 0xF9, 0xF8, 0x77, 0x02, 0x00,
        0x00, 0xF3, 0xF2, 0xF1, 0xF0, 0xEF, 0xEE] := by
  obtain ⟨-, -, hshort, -⟩ := hypertransport_blocks (hostInterfacePayload.take 21)
  obtain ⟨hiff, -, -, hright⟩ := hypertransport_blocks hostInterfacePayload
  refine ⟨hshort (by decide) (by decide), ?_⟩
  obtain ⟨h, hdecode⟩ := hiff.2 (by decide)
  obtain ⟨htype, hselected⟩ := hright h hdecode
  obtain ⟨t, block⟩ := h
  cases htype
  cases hselected with
  | host _ _ hb => exact ⟨_, hdecode, hb.encode_eq.trans (by decide)⟩
  | slave ht => exact absurd ht (by decide)
  | msiMapping ht => exact absurd ht (by decide)
  | revision ht => exact absurd ht (by decide)
  | other hlow => exact absurd hlow (by decide)

end ConfigSpace
