import ConfigSpace.Capability.Cxl
import ConfigSpace.Proofs.KeptBits
import ConfigSpace.Proofs.VendorDispatch

/-!
# The registers of a CXL device

The structure that describes a device has seven registers of one word, and behind them two
memory ranges of four words each.  This file says that the registers are read at the right
places, how the words of a range make its size and its base, and that nothing but reserved bits
is lost.

* `Cxl.capabilityRegister` and the like — the registers; `Cxl.Capability.shows_ofWord` and the
  like say that the fields put together are the word, and `Cxl.Capability.keeps_ofWord` and the
  like that they tell its bits, except for those that are reserved.
* `Cxl.Assembled` — a number is put together of two words; `Cxl.rangeValue_eq_iff` says that it
  tells both of them.
* `Cxl.Range.Sections` and `Cxl.Device.Sections` — where all of this lies in the payload.

The main result is `cxl_device_registers`.
-/

namespace ConfigSpace

namespace Cxl

/-! ## Registers -/

/-- The CXL Capability register. -/
def capabilityRegister : Register where
  layout := {
    bits := 16
    widths := [1, 1, 1, 1, 2, 1, 1, 3, 1, 1, 1, 1, 1]
    name := "CXL capability"
    bits_mem := Layout.mem_sizes_16
    widths_pos := by decide
    total_widths := rfl }
  names :=
    [some "cache_capable", some "io_capable", some "mem_capable", some "mem_hwinit_mode",
     some "hdm_count", some "cache_writeback_and_invalidate_capable", some "cxl_reset_capable",
     some "cxl_reset_timeout", some "cxl_reset_mem_clr_capable", none,
     some "multiple_logical_device", some "viral_capable",
     some "pm_init_completion_reporting_capable"]
  length_names := rfl

/-- The CXL Control register. -/
def controlRegister : Register where
  layout := {
    bits := 16
    widths := [1, 1, 1, 5, 3, 1, 2, 1, 1]
    name := "CXL control"
    bits_mem := Layout.mem_sizes_16
    widths_pos := by decide
    total_widths := rfl }
  names :=
    [some "cache_enable", some "io_enable", some "mem_enable", some "cache_sf_coverage",
     some "cache_sf_granularity", some "cache_clean_eviction", none, some "viral_enable", none]
  length_names := rfl

/-- The CXL Status register. -/
def statusRegister : Register where
  layout := {
    bits := 16
    widths := [14, 1, 1]
    name := "CXL status"
    bits_mem := Layout.mem_sizes_16
    widths_pos := by decide
    total_widths := rfl }
  names := [none, some "viral_status", none]
  length_names := rfl

/-- The CXL Control2 register. -/
def control2Register : Register where
  layout := {
    bits := 16
    widths := [1, 1, 1, 1, 12]
    name := "CXL control2"
    bits_mem := Layout.mem_sizes_16
    widths_pos := by decide
    total_widths := rfl }
  names :=
    [some "disable_caching", some "initiate_cache_write_back_and_invalidation",
     some "initiate_cxl_reset", some "cxl_reset_mem_clr_enable", none]
  length_names := rfl

/-- The CXL Status2 register. -/
def status2Register : Register where
  layout := {
    bits := 16
    widths := [1, 1, 1, 12, 1]
    name := "CXL status2"
    bits_mem := Layout.mem_sizes_16
    widths_pos := by decide
    total_widths := rfl }
  names :=
    [some "cache_invalid", some "cxl_reset_complete", some "cxl_reset_error", none,
     some "power_management_initialization_complete"]
  length_names := rfl

/-- The CXL Lock register. -/
def lockRegister : Register where
  layout := {
    bits := 16
    widths := [1, 15]
    name := "CXL lock"
    bits_mem := Layout.mem_sizes_16
    widths_pos := by decide
    total_widths := rfl }
  names := [some "config_lock", none]
  length_names := rfl

/-- The CXL Capability2 register. -/
def capability2Register : Register where
  layout := {
    bits := 16
    widths := [4, 4, 8]
    name := "CXL capability2"
    bits_mem := Layout.mem_sizes_16
    widths_pos := by decide
    total_widths := rfl }
  names := [some "cache_size_unit", none, some "cache_size"]
  length_names := rfl

theorem Capability.shows_ofWord (w : Nat) :
    capabilityRegister.Shows 0xEFFF w (describe (Capability.ofWord w)) :=
  Register.shows rfl rfl

theorem Control.shows_ofWord (w : Nat) :
    controlRegister.Shows 0x4FFF w (describe (Control.ofWord w)) :=
  Register.shows rfl rfl

theorem Status.shows_ofWord (w : Nat) :
    statusRegister.Shows 0x4000 w (describe (Status.ofWord w)) :=
  Register.shows rfl rfl

theorem Control2.shows_ofWord (w : Nat) :
    control2Register.Shows 0x000F w (describe (Control2.ofWord w)) :=
  Register.shows rfl rfl

theorem Status2.shows_ofWord (w : Nat) :
    status2Register.Shows 0x8007 w (describe (Status2.ofWord w)) :=
  Register.shows rfl rfl

theorem Capability2.shows_ofWord (w : Nat) :
    capability2Register.Shows 0xFF0F w (describe (Capability2.ofWord w)) :=
  Register.shows rfl rfl

theorem Capability.keeps_ofWord : Keeps 0xEFFF Capability.ofWord := by
  intro v w
  simp only [ofWord, mk.injEq, flag_eq_flag_iff, field_eq_field_iff, ← and_or_eq_iff]
  rfl

theorem Control.keeps_ofWord : Keeps 0x4FFF Control.ofWord := by
  intro v w
  simp only [ofWord, mk.injEq, Nat.cast_inj, flag_eq_flag_iff, field_eq_field_iff,
    ← and_or_eq_iff]
  rfl

theorem Status.keeps_ofWord : Keeps 0x4000 Status.ofWord := by
  intro v w
  simp only [ofWord, mk.injEq, flag_eq_flag_iff]
  rfl

theorem Control2.keeps_ofWord : Keeps 0x000F Control2.ofWord := by
  intro v w
  simp only [ofWord, mk.injEq, flag_eq_flag_iff, ← and_or_eq_iff]
  rfl

theorem Status2.keeps_ofWord : Keeps 0x8007 Status2.ofWord := by
  intro v w
  simp only [ofWord, mk.injEq, flag_eq_flag_iff, ← and_or_eq_iff]
  rfl

theorem Capability2.keeps_ofWord : Keeps 0xFF0F Capability2.ofWord := by
  intro v w
  simp only [ofWord, mk.injEq, field_eq_field_iff, ← and_or_eq_iff]
  rfl

/-! ## Memory ranges -/

/-- A number is put together of a word and the upper four bits of another one. -/
structure Assembled (high low v : Nat) : Prop where
  eq_or : v = high <<< 32 ||| (low &&& 0xF0000000)
  lt_two_pow : v < 2 ^ 64
  two_pow_dvd : 2 ^ 28 ∣ v

section Values

variable {high low high' low' : Nat}

theorem lowPart_lt (low : Nat) : field low 28 4 <<< 28 < 2 ^ 32 := by
  rw [Nat.shiftLeft_eq]
  have hlt := field_lt low 28 4
  omega

theorem assembled_rangeValue (h : high < 2 ^ 32) : Assembled high low (rangeValue high low) where
  eq_or := congrArg (high <<< 32 ||| ·) ((⟨"", 28, 4⟩ : Place).field_shiftLeft low)
  lt_two_pow := by
    have hhigh : high <<< 32 < 2 ^ 64 := by
      rw [Nat.shiftLeft_eq]
      omega
    exact Nat.or_lt_two_pow hhigh (Nat.lt_trans (lowPart_lt low) (by decide))
  two_pow_dvd := by
    have hshift : rangeValue high low = (high <<< 4 ||| field low 28 4) <<< 28 := by
      rw [rangeValue, Nat.shiftLeft_or_distrib, ← Nat.shiftLeft_add]
    rw [hshift, Nat.shiftLeft_eq]
    exact Nat.dvd_mul_left _ _

/-- A value tells the upper word and the part of the lower one. -/
theorem rangeValue_eq_iff :
    rangeValue high low = rangeValue high' low' ↔
      high = high' ∧ low &&& 0xF0000000 = low' &&& 0xF0000000 := by
  have hadd : ∀ h l : Nat, rangeValue h l = h * 2 ^ 32 + field l 28 4 * 2 ^ 28 := by
    intro h l
    rw [rangeValue, ← Nat.shiftLeft_add_eq_or_of_lt (lowPart_lt l), Nat.shiftLeft_eq,
      Nat.shiftLeft_eq]
  have hlow := field_lt low 28 4
  have hlow' := field_lt low' 28 4
  have hfield : field low 28 4 = field low' 28 4 ↔ low &&& 0xF0000000 = low' &&& 0xF0000000 :=
    field_eq_field_iff low low' 28 4
  rw [hadd, hadd, ← hfield]
  omega

/-- Bits 27:16 of the lower word are reserved. -/
theorem RangeSize.ofWords_eq_iff :
    RangeSize.ofWords high low = RangeSize.ofWords high' low' ↔
      high = high' ∧ low &&& 0xF000FFFF = low' &&& 0xF000FFFF := by
  -- The upper word goes behind what is kept of the lower one, whose masks are then put together.
  simp only [ofWords, mk.injEq, rangeValue_eq_iff, @and_comm (high = high'), flag_eq_flag_iff,
    field_eq_field_iff, ← and_or_eq_and_iff]
  rfl

end Values

/-- Where the words of a range lie in the payload, its size before its base and each upper word
before the lower one. -/
structure Range.Sections (p : Bytes) (i : Nat) (size : RangeSize) (base : Nat) : Prop where
  memory_info_valid_eq : size.memoryInfoValid = (p.u32 (i + 4)).testBit 0
  memory_active_eq : size.memoryActive = (p.u32 (i + 4)).testBit 1
  media_type_eq : size.mediaType = p.u32 (i + 4) >>> 2 % 2 ^ 3
  memory_class_eq : size.memoryClass = p.u32 (i + 4) >>> 5 % 2 ^ 3
  desired_interleave_eq : size.desiredInterleave = p.u32 (i + 4) >>> 8 % 2 ^ 5
  memory_active_timeout_eq : size.memoryActiveTimeout = p.u32 (i + 4) >>> 13 % 2 ^ 3
  memory_size : Assembled (p.u32 i) (p.u32 (i + 4)) size.memorySize
  base : Assembled (p.u32 (i + 8)) (p.u32 (i + 12)) base

theorem Range.sections_ofWords (p : Bytes) (i : Nat) :
    Range.Sections p i (.ofWords (p.u32 i) (p.u32 (i + 4)))
      (rangeValue (p.u32 (i + 8)) (p.u32 (i + 12))) where
  memory_info_valid_eq := rfl
  memory_active_eq := rfl
  media_type_eq := rfl
  memory_class_eq := rfl
  desired_interleave_eq := rfl
  memory_active_timeout_eq := rfl
  memory_size := assembled_rangeValue (p.u32_lt i)
  base := assembled_rangeValue (p.u32_lt (i + 8))

/-! ## The device -/

namespace Device

/-- The seven registers and the words of the two ranges. -/
def pieces : List Piece :=
  [⟨2, 0xEFFF⟩, ⟨2, 0x4FFF⟩, ⟨2, 0x4000⟩, ⟨2, 0x000F⟩, ⟨2, 0x8007⟩, ⟨2, 0x0001⟩, ⟨2, 0xFF0F⟩,
   ⟨4, 0xFFFFFFFF⟩, ⟨4, 0xF000FFFF⟩, ⟨4, 0xFFFFFFFF⟩, ⟨4, 0xF0000000⟩,
   ⟨4, 0xFFFFFFFF⟩, ⟨4, 0xF000FFFF⟩, ⟨4, 0xFFFFFFFF⟩, ⟨4, 0xF0000000⟩]

/-- What is read of a payload that is long enough. -/
def ofPayload (p : Bytes) : Device where
  cxlCapability := .ofWord (p.u16 0)
  cxlControl := .ofWord (p.u16 2)
  cxlStatus := .ofWord (p.u16 4)
  cxlControl2 := .ofWord (p.u16 6)
  cxlStatus2 := .ofWord (p.u16 8)
  configLock := flag (p.u16 10) 0
  cxlCapability2 := .ofWord (p.u16 12)
  range1Size := .ofWords (p.u32 14) (p.u32 18)
  range1Base := rangeValue (p.u32 22) (p.u32 26)
  range2Size := .ofWords (p.u32 30) (p.u32 34)
  range2Base := rangeValue (p.u32 38) (p.u32 42)

/-- Where the registers and the ranges lie in the payload. -/
structure Sections (p : Bytes) (d : Device) : Prop where
  capability : capabilityRegister.Shows 0xEFFF (p.u16 0) (describe d.cxlCapability)
  control : controlRegister.Shows 0x4FFF (p.u16 2) (describe d.cxlControl)
  status : statusRegister.Shows 0x4000 (p.u16 4) (describe d.cxlStatus)
  control2 : control2Register.Shows 0x000F (p.u16 6) (describe d.cxlControl2)
  status2 : status2Register.Shows 0x8007 (p.u16 8) (describe d.cxlStatus2)
  lock : lockRegister.Shows 0x0001 (p.u16 10) (.record [("config_lock", describe d.configLock)] [])
  capability2 : capability2Register.Shows 0xFF0F (p.u16 12) (describe d.cxlCapability2)
  range_1 : Range.Sections p 14 d.range1Size d.range1Base
  range_2 : Range.Sections p 30 d.range2Size d.range2Base

theorem sections_ofPayload (p : Bytes) : Sections p (ofPayload p) where
  capability := Capability.shows_ofWord _
  control := Control.shows_ofWord _
  status := Status.shows_ofWord _
  control2 := Control2.shows_ofWord _
  status2 := Status2.shows_ofWord _
  lock := Register.shows rfl rfl
  capability2 := Capability2.shows_ofWord _
  range_1 := Range.sections_ofWords p 14
  range_2 := Range.sections_ofWords p 30

variable {p : Bytes}

theorem decode_of_le (h : 46 ≤ p.length) : decode p = .ok (ofPayload p) :=
  Bytes.require_of_le h

theorem preserves_decode : Preserves decode pieces := by
  refine preserves_of_require (fun _ => rfl) rfl fun p q => ?_
  rw [mk.injEq, Capability.keeps_ofWord _ _, Control.keeps_ofWord _ _, Status.keeps_ofWord _ _,
    Control2.keeps_ofWord _ _, Status2.keeps_ofWord _ _, flag_eq_flag_iff,
    Capability2.keeps_ofWord _ _, RangeSize.ofWords_eq_iff, RangeSize.ofWords_eq_iff,
    rangeValue_eq_iff, rangeValue_eq_iff]
  simp only [Bytes.AtLeast.u32_eq_u32_iff, and_assoc, pieces, Piece.Agree, and_true]
  rfl

end Device

theorem decode_zero_iff {q : Bytes} {d : Device} :
    decode q 0 = .ok ⟨0, some d⟩ ↔ Device.decode q = .ok d := by
  rw [decode_device]
  cases Device.decode q <;> simp [Except.map]

end Cxl

/-- **The registers of a CXL device survive decoding.**  A payload with the bytes of all of them
is decoded; the fields of each register put together are the word at its place, without its
reserved bits, and the two ranges are put together of the words at theirs.  What is behind the
registers has no influence, and two payloads are decoded to the same exactly if they agree in
the bits that are not reserved. -/
theorem cxl_device_registers (p : Bytes) (h : 46 ≤ p.length) :
    ∃ d : Cxl.Device, Cxl.decode p 0 = .ok ⟨0, some d⟩ ∧ d.Sections p ∧
      (∀ tail, Cxl.decode (p.take 46 ++ tail) 0 = .ok ⟨0, some d⟩) ∧
      ∀ q : Bytes, 46 ≤ q.length →
        (Cxl.decode q 0 = .ok ⟨0, some d⟩ ↔
          p.masked (Piece.masks Cxl.Device.pieces) =
            q.masked (Piece.masks Cxl.Device.pieces)) := by
  have hdecode : Cxl.Device.decode p = .ok (.ofPayload p) := Cxl.Device.decode_of_le h
  have hpreserves := Cxl.Device.preserves_decode
  refine ⟨_, Cxl.decode_zero_iff.2 hdecode, Cxl.Device.sections_ofPayload p, ?_, ?_⟩
  · intro tail
    exact Cxl.decode_zero_iff.2 (hpreserves.decode_take_append hdecode tail)
  · intro q hq
    exact Cxl.decode_zero_iff.trans (hpreserves.decode_eq_iff hdecode hq)

/-- The registers of a device with all of their bits set. -/
def allOnesRegisters : Bytes :=
  List.replicate 46 0xFF

/-- The first range of such a device has the largest size there is.  Registers without the reserved
bits are decoded to the same device, and with one more bit cleared they are not. -/
theorem cxl_device_registers_allOnes :
    ∃ d : Cxl.Device, Cxl.decode allOnesRegisters 0 = .ok ⟨0, some d⟩ ∧
      d.range1Size.memorySize = 0xFFFFFFFFF0000000 ∧
      Cxl.capabilityRegister.compose (describe d.cxlCapability).leaves = .ok 0xEFFF ∧
      Cxl.decode (Piece.masks Cxl.Device.pieces) 0 = .ok ⟨0, some d⟩ ∧
      Cxl.decode (0xFE :: List.replicate 45 0xFF) 0 ≠ .ok ⟨0, some d⟩ := by
  obtain ⟨d, hdecode, hsections, -, hiff⟩ := cxl_device_registers allOnesRegisters (by decide)
  refine ⟨d, hdecode, ?_, ?_, ?_, ?_⟩
  · exact hsections.range_1.memory_size.eq_or.trans (by decide)
  · exact hsections.capability.compose_eq.trans (congrArg Except.ok (by decide))
  · exact (hiff _ (by decide)).2 (by decide)
  · exact mt (hiff _ (by decide)).1 (by decide)

end ConfigSpace
