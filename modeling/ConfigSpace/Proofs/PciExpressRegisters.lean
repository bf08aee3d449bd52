import ConfigSpace.Capability.PciExpress
import ConfigSpace.Proofs.KeptBits

/-!
# The registers of PCI Express

The payload has four registers of the device, and three registers of the link where it is long
enough.  This file says that all of them are read at the right places: the fields of a register,
put together in the order in which they are declared, are the word that lies there, without its
reserved bits.

* `PciExpress.capabilitiesRegister` and the like — the registers;
  `PciExpress.Capabilities.shows_ofWord` and the like say that the fields put together are the
  word, and `PciExpress.Capabilities.keeps_ofWord` and the like that they tell its bits, except
  for those that are reserved.
* `PciExpress.Link.Sections` and `PciExpress.Sections` — where the registers lie in the payload.

The main result is `pci_express_registers`.
-/

namespace ConfigSpace

namespace PciExpress

/-! ## Registers of the device -/

/-- The PCI Express Capabilities register. -/
def capabilitiesRegister : Register where
  layout := {
    bits := 16
    widths := [4, 4, 1, 5, 1, 1]
    name := "PCIe capabilities"
    bits_mem := Layout.mem_sizes_16
    widths_pos := by decide
    total_widths := rfl }
  names :=
    [some "version", some "device_port_type", some "slot_implemented",
     some "interrupt_message_number", some "tcs_routing_supported", some "flit_mode_supported"]
  length_names := rfl

/-- The Device Capabilities register. -/
def deviceCapabilitiesRegister : Register where
  layout := {
    bits := 32
    widths := [3, 2, 1, 3, 3, 3, 1, 1, 1, 8, 2, 1, 1, 1, 1]
    name := "device capabilities"
    bits_mem := Layout.mem_sizes_32
    widths_pos := by decide
    total_widths := rfl }
  names :=
    [some "max_payload_size_supported", some "phantom_functions_supported",
     some "extended_tag_field_supported", some "endpoint_l0s_acceptable_latency",
     some "endpoint_l1_acceptable_latency", none, some "role_based_error_reporting",
     some "err_cor_subclass_capable", some "rx_mps_fixed",
     some "captured_slot_power_limit_value", some "captured_slot_power_limit_scale",
     some "function_level_reset_capability", some "mixed_mps_supported",
     some "tee_io_supported", none]
  length_names := rfl

/-- The Device Control register. -/
def deviceControlRegister : Register where
  layout := {
    bits := 16
    widths := [1, 1, 1, 1, 1, 3, 1, 1, 1, 1, 3, 1]
    name := "device control"
    bits_mem := Layout.mem_sizes_16
    widths_pos := by decide
    total_widths := rfl }
  names :=
    [some "correctable_error_reporting", some "non_fatal_error_reporting",
     some "fatal_error_reporting", some "unsupported_request_reporting",
     some "relaxed_ordering", some "max_payload_size", some "extended_tag_field_enable",
     some "phantom_functions_enable", some "aux_power_pm_enable", some "no_snoop",
     some "max_read_request_size", some "bridge_retry_or_flr"]
  length_names := rfl

/-- The Device Status register. -/
def deviceStatusRegister : Register where
  layout := {
    bits := 16
    widths := List.replicate 7 1 ++ [9]
    name := "device status"
    bits_mem := Layout.mem_sizes_16
    widths_pos := by decide
    total_widths := rfl }
  names :=
    [some "correctable_error_detected", some "non_fatal_error_detected",
     some "fatal_error_detected", some "unsupported_request_detected",
     some "aux_power_detected", some "transactions_pending",
     some "emergency_power_reduction_detected", none]
  length_names := rfl

theorem Capabilities.shows_ofWord (w : Nat) :
    capabilitiesRegister.Shows 0xFFFF w (describe (Capabilities.ofWord w)) :=
  Register.shows rfl rfl

theorem DeviceCapabilities.shows_ofWord (w : Nat) :
    deviceCapabilitiesRegister.Shows 0x7FFF8FFF w (describe (DeviceCapabilities.ofWord w)) :=
  Register.shows rfl rfl

theorem DeviceControl.shows_ofWord (w : Nat) :
    deviceControlRegister.Shows 0xFFFF w (describe (DeviceControl.ofWord w)) :=
  Register.shows rfl rfl

theorem DeviceStatus.shows_ofWord (w : Nat) :
    deviceStatusRegister.Shows 0x007F w (describe (DeviceStatus.ofWord w)) :=
  Register.shows rfl rfl

theorem Capabilities.keeps_ofWord : Keeps 0xFFFF Capabilities.ofWord := by
  intro v w
  simp only [ofWord, mk.injEq, Nat.cast_inj, flag_eq_flag_iff, field_eq_field_iff,
    ← and_or_eq_iff]
  rfl

theorem DeviceCapabilities.keeps_ofWord : Keeps 0x7FFF8FFF DeviceCapabilities.ofWord := by
  intro v w
  simp only [ofWord, mk.injEq, Nat.cast_inj, flag_eq_flag_iff, field_eq_field_iff,
    ← and_or_eq_iff]
  rfl

theorem DeviceControl.keeps_ofWord : Keeps 0xFFFF DeviceControl.ofWord := by
  intro v w
  simp only [ofWord, mk.injEq, Nat.cast_inj, flag_eq_flag_iff, field_eq_field_iff,
    ← and_or_eq_iff]
  rfl

theorem DeviceStatus.keeps_ofWord : Keeps 0x007F DeviceStatus.ofWord := by
  intro v w
  simp only [ofWord, mk.injEq, flag_eq_flag_iff, ← and_or_eq_iff]
  rfl

/-! ## Registers of the link -/

/-- The Link Capabilities register. -/
def linkCapabilitiesRegister : Register where
  layout := {
    bits := 32
    widths := [4, 6, 2, 3, 3, 1, 1, 1, 1, 1, 1, 8]
    name := "link capabilities"
    bits_mem := Layout.mem_sizes_32
    widths_pos := by decide
    total_widths := rfl }
  names :=
    [some "max_link_speed", some "max_link_width", some "aspm_support",
     some "l0s_exit_latency", some "l1_exit_latency", some "clock_power_management",
     some "surprise_down_error_reporting_capable",
     some "data_link_layer_link_active_reporting_capable",
     some "link_bandwidth_notification_capability", some "aspm_optionality_compliance", none,
     some "port_number"]
  length_names := rfl

/-- The Link Control register. -/
def linkControlRegister : Register where
  layout := {
    bits := 16
    widths := [2, 1, 1, 1, 1, 1, 1, 1, 1, 1, 1, 1, 1, 2]
    name := "link control"
    bits_mem := Layout.mem_sizes_16
    widths_pos := by decide
    total_widths := rfl }
  names :=
    [some "aspm_control", some "ptm_propagation_delay_adaptation",
     some "read_completion_boundary", some "link_disable", some "retrain_link",
     some "common_clock_configuration", some "extended_synch",
     some "enable_clock_power_management", some "hardware_autonomous_width_disable",
     some "link_bandwidth_management_interrupt_enable",
     some "link_autonomous_bandwidth_interrupt_enable", some "sris_clocking",
     some "flit_mode_disable", some "drs_signaling_control"]
  length_names := rfl

/-- The Link Status register. -/
def linkStatusRegister : Register where
  layout := {
    bits := 16
    widths := [4, 6, 1, 1, 1, 1, 1, 1]
    name := "link status"
    bits_mem := Layout.mem_sizes_16
    widths_pos := by decide
    total_widths := rfl }
  names :=
    [some "current_link_speed", some "negotiated_link_width", none, some "link_training",
     some "slot_clock_configuration", some "data_link_layer_link_active",
     some "link_bandwidth_management_status", some "link_autonomous_bandwidth_status"]
  length_names := rfl

theorem LinkCapabilities.shows_ofWord (w : Nat) :
    linkCapabilitiesRegister.Shows 0xFF7FFFFF w (describe (LinkCapabilities.ofWord w)) :=
  Register.shows rfl rfl

theorem LinkControl.shows_ofWord (w : Nat) :
    linkControlRegister.Shows 0xFFFF w (describe (LinkControl.ofWord w)) :=
  Register.shows rfl rfl

theorem LinkStatus.shows_ofWord (w : Nat) :
    linkStatusRegister.Shows 0xFBFF w (describe (LinkStatus.ofWord w)) :=
  Register.shows rfl rfl

theorem LinkCapabilities.keeps_ofWord : Keeps 0xFF7FFFFF LinkCapabilities.ofWord := by
  intro v w
  simp only [ofWord, mk.injEq, Nat.cast_inj, flag_eq_flag_iff, field_eq_field_iff,
    ← and_or_eq_iff]
  rfl

theorem LinkControl.keeps_ofWord : Keeps 0xFFFF LinkControl.ofWord := by
  intro v w
  simp only [ofWord, mk.injEq, flag_eq_flag_iff, field_eq_field_iff, ← and_or_eq_iff]
  rfl

theorem LinkStatus.keeps_ofWord : Keeps 0xFBFF LinkStatus.ofWord := by
  intro v w
  simp only [ofWord, mk.injEq, Nat.cast_inj, flag_eq_flag_iff, field_eq_field_iff,
    ← and_or_eq_iff]
  rfl

/-! ## The payload -/

/-- Where the registers of the link lie in the payload. -/
structure Link.Sections (p : Bytes) (l : Link) : Prop where
  capabilities :
    linkCapabilitiesRegister.Shows 0xFF7FFFFF (p.u32 10) (describe l.capabilities)
  control : linkControlRegister.Shows 0xFFFF (p.u16 14) (describe l.control)
  status : linkStatusRegister.Shows 0xFBFF (p.u16 16) (describe l.status)

/-- Where the registers of the device lie, and that those of the link are read where the payload
holds them. -/
structure Sections (p : Bytes) (b : PciExpress) : Prop where
  capabilities : capabilitiesRegister.Shows 0xFFFF (p.u16 0) (describe b.capabilities)
  device_capabilities :
    deviceCapabilitiesRegister.Shows 0x7FFF8FFF (p.u32 2) (describe b.deviceCapabilities)
  device_control : deviceControlRegister.Shows 0xFFFF (p.u16 6) (describe b.deviceControl)
  device_status : deviceStatusRegister.Shows 0x007F (p.u16 8) (describe b.deviceStatus)
  link_isSome_iff : b.link.isSome = true ↔ 18 ≤ p.length
  link : ∀ l, b.link = some l → l.Sections p

/-- All of the registers, with their reserved bits. -/
def pieces : List Piece :=
  [⟨2, 0xFFFF⟩, ⟨4, 0x7FFF8FFF⟩, ⟨2, 0xFFFF⟩, ⟨2, 0x007F⟩,
   ⟨4, 0xFF7FFFFF⟩, ⟨2, 0xFFFF⟩, ⟨2, 0xFBFF⟩]

/-- What is read of a payload that holds the registers of the link. -/
def Link.ofPayload (p : Bytes) : Link where
  capabilities := .ofWord (p.u32 10)
  control := .ofWord (p.u16 14)
  status := .ofWord (p.u16 16)

/-- What is read of a payload that holds those of the device. -/
def ofPayload (p : Bytes) : PciExpress where
  capabilities := .ofWord (p.u16 0)
  deviceCapabilities := .ofWord (p.u32 2)
  deviceControl := .ofWord (p.u16 6)
  deviceStatus := .ofWord (p.u16 8)
  link := if 18 ≤ p.length then some (.ofPayload p) else none

theorem Link.read?_eq (p : Bytes) :
    read? p = if 18 ≤ p.length then some (.ofPayload p) else none := by
  split
  · exact congrArg (Option.map _) (Bytes.atLeast?_of_le ‹_›)
  · exact congrArg (Option.map _) (Bytes.atLeast?_of_lt (Nat.not_le.1 ‹_›))

variable {p q : Bytes}

theorem decode_of_le (h : 10 ≤ p.length) : decode p = .ok (ofPayload p) := by
  rw [ofPayload, ← Link.read?_eq]
  exact Bytes.require_of_le h

theorem Link.sections_ofPayload (p : Bytes) : Sections p (ofPayload p) where
  capabilities := LinkCapabilities.shows_ofWord _
  control := LinkControl.shows_ofWord _
  status := LinkStatus.shows_ofWord _

theorem sections_ofPayload (p : Bytes) : Sections p (ofPayload p) where
  capabilities := Capabilities.shows_ofWord _
  device_capabilities := DeviceCapabilities.shows_ofWord _
  device_control := DeviceControl.shows_ofWord _
  device_status := DeviceStatus.shows_ofWord _
  link_isSome_iff := by
    rw [ofPayload]
    split <;> simp [*]
  link := by
    intro l hl
    rw [ofPayload, Option.ite_none_right_eq_some] at hl
    cases hl.2
    exact Link.sections_ofPayload p

/-- With the registers of the link, all of their bits are kept but those that are reserved. -/
theorem ofPayload_eq_iff (hp : 18 ≤ p.length) (hq : 18 ≤ q.length) :
    ofPayload p = ofPayload q ↔
      p.masked (Piece.masks pieces) = q.masked (Piece.masks pieces) := by
  have htotal : Piece.total pieces = 18 := rfl
  rw [Piece.masked_eq_iff (htotal ▸ hp) (htotal ▸ hq), ofPayload, ofPayload, if_pos hp,
    if_pos hq, mk.injEq, Capabilities.keeps_ofWord _ _, DeviceCapabilities.keeps_ofWord _ _,
    DeviceControl.keeps_ofWord _ _, DeviceStatus.keeps_ofWord _ _, Option.some.injEq,
    Link.ofPayload, Link.ofPayload, Link.mk.injEq, LinkCapabilities.keeps_ofWord _ _,
    LinkControl.keeps_ofWord _ _, LinkStatus.keeps_ofWord _ _]
  simp only [pieces, Piece.Agree, and_true]
  rfl

end PciExpress

/-- **The registers of PCI Express are put together again.**  A payload with the registers of
the device is decoded, with those of the link exactly if it has them; the fields of each register
put together are the word at its place, without its reserved bits.  Two payloads with all of the
registers are decoded to the same exactly if they agree in the bits that are not reserved. -/
theorem pci_express_registers (p : Bytes) (h : 10 ≤ p.length) :
    ∃ b, PciExpress.decode p = .ok b ∧ b.Sections p ∧
      ∀ q : Bytes, 18 ≤ p.length → 18 ≤ q.length →
        (PciExpress.decode q = .ok b ↔
          p.masked (Piece.masks PciExpress.pieces) =
            q.masked (Piece.masks PciExpress.pieces)) := by
  refine ⟨_, PciExpress.decode_of_le h, PciExpress.sections_ofPayload p, ?_⟩
  intro q hp hq
  rw [← PciExpress.ofPayload_eq_iff hp hq, PciExpress.decode_of_le (by omega), Except.ok.injEq,
    eq_comm]

/-- The registers of a device and of a link, with the bits of the latter all set. -/
def linkPayload : Bytes :=
  [0x42, 0x01, 0x02, 0x80, 0x00, 0x10, 0x10, 0x28, 0x00, 0x00] ++ List.replicate 8 0xFF

/-- The registers of a link are put together again without the reserved bits, which have no
influence.  A payload that lacks their last byte has no link. -/
theorem pci_express_registers_link :
    (∃ b l, PciExpress.decode linkPayload = .ok b ∧ b.link = some l ∧
      PciExpress.linkCapabilitiesRegister.compose (describe l.capabilities).leaves =
        .ok 0xFF7FFFFF ∧
      PciExpress.deviceControlRegister.compose (describe b.deviceControl).leaves = .ok 0x2810 ∧
      PciExpress.decode (linkPayload.masked (Piece.masks PciExpress.pieces)) = .ok b) ∧
    ∃ b, PciExpress.decode (linkPayload.take 17) = .ok b ∧ b.link = none := by
  constructor
  · obtain ⟨b, hdecode, hsections, hiff⟩ := pci_express_registers linkPayload (by decide)
    obtain ⟨l, hl⟩ := Option.isSome_iff_exists.1 (hsections.link_isSome_iff.2 (by decide))
    refine ⟨b, l, hdecode, hl, ?_, ?_, ?_⟩
    · exact (hsections.link l hl).capabilities.compose_eq.trans (congrArg Except.ok (by decide))
    · exact hsections.device_control.compose_eq.trans (congrArg Except.ok (by decide))
    · exact (hiff _ (by decide) (by decide)).2 (by decide)
  · obtain ⟨b, hdecode, hsections, -⟩ :=
      pci_express_registers (linkPayload.take 17) (by decide)
    refine ⟨b, hdecode, Option.not_isSome_iff_eq_none.1 ?_⟩
    exact mt hsections.link_isSome_iff.1 (by decide)

end ConfigSpace
