import ConfigSpace.Capability.AddressSpaceId
import ConfigSpace.Capability.AddressTranslation
import ConfigSpace.Capability.AdvancedFeatures
import ConfigSpace.Capability.BridgeSubsystem
import ConfigSpace.Capability.DebugPort
import ConfigSpace.Capability.MsiX
import ConfigSpace.Capability.PageRequest
import ConfigSpace.Capability.PmSubstates
import ConfigSpace.Capability.PowerBudgeting
import ConfigSpace.Capability.PowerManagement
import ConfigSpace.Capability.RoutingId
import ConfigSpace.Capability.Sata
import ConfigSpace.Capability.SerialNumber
import ConfigSpace.Capability.SlotIdentification
import ConfigSpace.Capability.TimeMeasurement
import ConfigSpace.Capability.VitalProductData
import ConfigSpace.Proofs.KeptBits
import ConfigSpace.Text.Hex.Laws

/-!
# Fixed formats

Seventeen kinds of capability are registers of fixed sizes at fixed places, and nothing else.
This file says for each of them which bits of the payload its decoder keeps: two payloads are
decoded to the same structure exactly if they agree in those bits, so that none of them is lost
and no other one has any influence.

* `PowerManagement.pieces` and the like — the registers of a format, each with the bits that are
  kept of it.
* `PowerManagement.preserves_decode` and the like — the decoder of the format keeps them.
* `MsiX.Location.Recovers` — what a location of MSI-X stands for is the word it was read from.
* `SerialNumber.text_ofPayload` — a serial number is written byte by byte, the last one first.

The main result is `fixed_formats_preserved`.
-/

namespace ConfigSpace

/-! ## Power Management -/

namespace PowerManagement

theorem Capabilities.keeps_ofWord : Keeps 0xFFFF Capabilities.ofWord := by
  intro v w
  simp only [ofWord, mk.injEq, PmeSupport.ofWord, PmeSupport.mk.injEq, Nat.cast_inj,
    flag_eq_flag_iff, field_eq_field_iff, ← and_or_eq_iff]
  rfl

theorem Control.keeps_ofWord : Keeps 0xFF0B Control.ofWord := by
  intro v w
  simp only [ofWord, mk.injEq, Nat.cast_inj, flag_eq_flag_iff, field_eq_field_iff,
    ← and_or_eq_iff]
  rfl

/-- The reserved field of the bridge extensions is kept, too. -/
theorem Bridge.keeps_ofWord : Keeps 0xFF Bridge.ofWord := by
  intro v w
  simp only [ofWord, mk.injEq, Nat.cast_inj, flag_eq_flag_iff, field_eq_field_iff,
    ← and_or_eq_iff]
  rfl

/-- PMC, PMCSR, the bridge extensions and the data byte. -/
def pieces : List Piece :=
  [⟨2, 0xFFFF⟩, ⟨2, 0xFF0B⟩, ⟨1, 0xFF⟩, ⟨1, 0xFF⟩]

theorem preserves_decode : Preserves decode pieces := by
  refine preserves_of_require (fun _ => rfl) rfl fun p q => ?_
  rw [mk.injEq, Capabilities.keeps_ofWord _ _, Control.keeps_ofWord _ _,
    Bridge.keeps_ofWord _ _, Bytes.AtLeast.u8_eq_u8_iff]
  simp only [pieces, Piece.Agree, and_true]
  rfl

end PowerManagement

/-! ## Vital Product Data -/

namespace VitalProductData

/-- The address with the transfer bit, and the data. -/
def pieces : List Piece :=
  [⟨2, 0xFFFF⟩, ⟨4, 0xFFFFFFFF⟩]

theorem preserves_decode : Preserves decode pieces := by
  refine preserves_of_require (fun _ => rfl) rfl fun p q => ?_
  rw [mk.injEq, Bytes.AtLeast.u32_eq_u32_iff]
  simp only [flag_eq_flag_iff, field_eq_field_iff, ← and_or_eq_and_iff, pieces, Piece.Agree,
    and_true]
  rfl

end VitalProductData

/-! ## Slot Identification -/

namespace SlotIdentification

/-- The expansion slots, whose top two bits are reserved, and the chassis. -/
def pieces : List Piece :=
  [⟨1, 0x3F⟩, ⟨1, 0xFF⟩]

theorem preserves_decode : Preserves decode pieces := by
  refine preserves_of_require (fun _ => rfl) rfl fun p q => ?_
  rw [mk.injEq, Bytes.AtLeast.u8_eq_u8_iff]
  simp only [flag_eq_flag_iff, field_eq_field_iff, ← and_or_eq_and_iff, pieces, Piece.Agree,
    and_true]
  rfl

end SlotIdentification

/-! ## Debug Port -/

namespace DebugPort

/-- The one register. -/
def pieces : List Piece :=
  [⟨2, 0xFFFF⟩]

theorem preserves_decode : Preserves decode pieces := by
  refine preserves_of_require (fun _ => rfl) rfl fun p q => ?_
  simp only [mk.injEq, field_eq_field_iff, ← and_or_eq_iff, pieces, Piece.Agree, and_true]
  rfl

end DebugPort

/-! ## Bridge Subsystem Vendor ID -/

namespace BridgeSubsystem

/-- The reserved word, which is kept, too, and the two identifiers. -/
def pieces : List Piece :=
  [⟨2, 0xFFFF⟩, ⟨2, 0xFFFF⟩, ⟨2, 0xFFFF⟩]

theorem preserves_decode : Preserves decode pieces := by
  refine preserves_of_require (fun _ => rfl) rfl fun p q => ?_
  rw [mk.injEq, Bytes.AtLeast.u16_eq_u16_iff, Bytes.AtLeast.u16_eq_u16_iff,
    Bytes.AtLeast.u16_eq_u16_iff]
  simp only [pieces, Piece.Agree, and_true]
  rfl

end BridgeSubsystem

/-! ## MSI-X -/

namespace MsiX

theorem Control.keeps_ofWord : Keeps 0xC7FF Control.ofWord := by
  intro v w
  simp only [ofWord, mk.injEq, Nat.cast_inj, flag_eq_flag_iff, field_eq_field_iff,
    ← and_or_eq_iff]
  rfl

theorem Location.keeps_ofWord : Keeps 0xFFFFFFFF Location.ofWord := by
  intro v w
  simp only [ofWord, mk.injEq, Nat.mul_left_cancel_iff (show 0 < 8 by decide),
    field_eq_field_iff, ← and_or_eq_iff]
  rfl

/-- The Message Control register and the two locations. -/
def pieces : List Piece :=
  [⟨2, 0xC7FF⟩, ⟨4, 0xFFFFFFFF⟩, ⟨4, 0xFFFFFFFF⟩]

theorem preserves_decode : Preserves decode pieces := by
  refine preserves_of_require (fun _ => rfl) rfl fun p q => ?_
  rw [mk.injEq, Control.keeps_ofWord _ _, Location.keeps_ofWord _ _, Location.keeps_ofWord _ _]
  simp only [pieces, Piece.Agree, and_true]
  rfl

/-- The location stands for a word: the offset is a multiple of 8, and the number of the base
address register is in the three bits below. -/
structure Location.Recovers (l : Location) (w : Nat) : Prop where
  dvd_offset : 8 ∣ l.offset
  offset_add_bir : l.offset + l.bir = w

theorem Location.recovers_ofWord {w : Nat} (h : w < 2 ^ 32) : (ofWord w).Recovers w := by
  refine ⟨⟨field w 3 29, rfl⟩, ?_⟩
  have hoffset : field w 3 29 = w / 8 := (field_of_lt h).trans (Nat.shiftRight_eq_div_pow w 3)
  have hbir : field w 0 3 = w % 8 := rfl
  simp only [ofWord, hoffset, hbir]
  omega

end MsiX

/-! ## Serial ATA -/

namespace Sata

/-- The revision, a reserved byte, and the place of the registers, whose top byte is
reserved. -/
def pieces : List Piece :=
  [⟨1, 0xFF⟩, ⟨1, 0⟩, ⟨4, 0x00FFFFFF⟩]

theorem preserves_decode : Preserves decode pieces := by
  refine preserves_of_require (fun _ => rfl) rfl fun p q => ?_
  simp only [mk.injEq, Nat.cast_inj, field_eq_field_iff, ← and_or_eq_iff, ← and_or_eq_and_iff,
    pieces, Piece.Agree, Nat.and_zero, true_and, and_true]
  rfl

end Sata

/-! ## Advanced Features -/

namespace AdvancedFeatures

/-- The length, and two flags, one flag and one flag. -/
def pieces : List Piece :=
  [⟨1, 0xFF⟩, ⟨1, 0x03⟩, ⟨1, 0x01⟩, ⟨1, 0x01⟩]

theorem preserves_decode : Preserves decode pieces := by
  refine preserves_of_require (fun _ => rfl) rfl fun p q => ?_
  rw [mk.injEq, Bytes.AtLeast.u8_eq_u8_iff]
  simp only [flag_eq_flag_iff, ← and_or_eq_and_iff, pieces, Piece.Agree, and_true]
  rfl

end AdvancedFeatures

/-! ## Device Serial Number -/

namespace SerialNumber

/-- The two words of the number. -/
def pieces : List Piece :=
  [⟨4, 0xFFFFFFFF⟩, ⟨4, 0xFFFFFFFF⟩]

theorem preserves_decode : Preserves decode pieces := by
  refine preserves_of_require (fun _ => rfl) rfl fun p q => ?_
  rw [mk.injEq, Nat.cast_inj, Nat.cast_inj, Bytes.AtLeast.u32_eq_u32_iff,
    Bytes.AtLeast.u32_eq_u32_iff]
  simp only [pieces, Piece.Agree, and_true]
  rfl

/-- What is read of a payload that is long enough. -/
def ofPayload (p : Bytes) : SerialNumber where
  lowerDword := p.u32 0
  upperDword := p.u32 4

variable {p : Bytes}

/-- The two words make the number that the eight bytes write. -/
theorem serialNumber_ofPayload (h : 8 ≤ p.length) :
    (ofPayload p).serialNumber = ((p.window 0 8).value : Nat) := by
  have hlow := p.u32_lt 0
  have hlen : (p.window 0 4).length = 4 := by
    rw [Bytes.length_window]
    omega
  have hvalue : (p.window 0 8).value = p.u32 4 <<< 32 ||| p.u32 0 := by
    rw [← Nat.shiftLeft_add_eq_or_of_lt hlow, Nat.shiftLeft_eq, Nat.add_comm, Nat.mul_comm,
      ← p.window_append_window 0 4 4, Bytes.value_append, hlen]
    rfl
  rw [hvalue, Nat.shiftLeft_eq, Nat.mul_comm]
  rfl

/-- The serial number is written byte by byte, the last one first. -/
theorem text_ofPayload (h : 8 ≤ p.length) :
    (ofPayload p).text = .ok ("-".intercalate
      ([7, 6, 5, 4, 3, 2, 1, 0].map fun k => Text.hexByte (p.u8 k))) := by
  have hlt : (p.window 0 8).value < 256 ^ 8 := p.value_window_lt 0 8
  have hbyte : ∀ k < 8, Text.hexLower (field (p.window 0 8).value (8 * k) 8 : Nat) 2 =
      Text.hexByte (p.u8 k) := by
    intro k hk
    rw [Bytes.field_value, p.u8_window hk, Nat.zero_add, Text.hexLower_of_lt (p.u8_lt k)]
  rw [text, serialNumber_ofPayload h, if_pos (by omega), Int.toNat_natCast]
  simp only [List.map_cons, List.map_nil, ← hbyte 0 (by decide), ← hbyte 1 (by decide),
    ← hbyte 2 (by decide), ← hbyte 3 (by decide), ← hbyte 4 (by decide), ← hbyte 5 (by decide),
    ← hbyte 6 (by decide), ← hbyte 7 (by decide)]

end SerialNumber

/-! ## Alternative Routing-ID Interpretation -/

namespace RoutingId

theorem Capability.keeps_ofWord : Keeps 0xFF03 Capability.ofWord := by
  intro v w
  simp only [ofWord, mk.injEq, flag_eq_flag_iff, field_eq_field_iff, ← and_or_eq_iff]
  rfl

theorem Control.keeps_ofWord : Keeps 0x0073 Control.ofWord := by
  intro v w
  simp only [ofWord, mk.injEq, flag_eq_flag_iff, field_eq_field_iff, ← and_or_eq_iff]
  rfl

/-- The two registers. -/
def pieces : List Piece :=
  [⟨2, 0xFF03⟩, ⟨2, 0x0073⟩]

theorem preserves_decode : Preserves decode pieces := by
  refine preserves_of_require (fun _ => rfl) rfl fun p q => ?_
  rw [mk.injEq, Capability.keeps_ofWord _ _, Control.keeps_ofWord _ _]
  simp only [pieces, Piece.Agree, and_true]
  rfl

end RoutingId

/-! ## Address Translation Services -/

namespace AddressTranslation

theorem Capability.keeps_ofWord : Keeps 0x007F Capability.ofWord := by
  intro v w
  simp only [ofWord, mk.injEq, flag_eq_flag_iff, field_eq_field_iff, ← and_or_eq_iff]
  rfl

theorem Control.keeps_ofWord : Keeps 0x801F Control.ofWord := by
  intro v w
  simp only [ofWord, mk.injEq, flag_eq_flag_iff, field_eq_field_iff, ← and_or_eq_iff]
  rfl

/-- The two registers. -/
def pieces : List Piece :=
  [⟨2, 0x007F⟩, ⟨2, 0x801F⟩]

theorem preserves_decode : Preserves decode pieces := by
  refine preserves_of_require (fun _ => rfl) rfl fun p q => ?_
  rw [mk.injEq, Capability.keeps_ofWord _ _, Control.keeps_ofWord _ _]
  simp only [pieces, Piece.Agree, and_true]
  rfl

end AddressTranslation

/-! ## Page Request Interface -/

namespace PageRequest

theorem Control.keeps_ofWord : Keeps 0x0003 Control.ofWord := by
  intro v w
  simp only [ofWord, mk.injEq, flag_eq_flag_iff, ← and_or_eq_iff]
  rfl

theorem Status.keeps_ofWord : Keeps 0x8103 Status.ofWord := by
  intro v w
  simp only [ofWord, mk.injEq, flag_eq_flag_iff, ← and_or_eq_iff]
  rfl

/-- The two registers and the two numbers of pages. -/
def pieces : List Piece :=
  [⟨2, 0x0003⟩, ⟨2, 0x8103⟩, ⟨4, 0xFFFFFFFF⟩, ⟨4, 0xFFFFFFFF⟩]

theorem preserves_decode : Preserves decode pieces := by
  refine preserves_of_require (fun _ => rfl) rfl fun p q => ?_
  rw [mk.injEq, Control.keeps_ofWord _ _, Status.keeps_ofWord _ _,
    Bytes.AtLeast.u32_eq_u32_iff, Bytes.AtLeast.u32_eq_u32_iff]
  simp only [pieces, Piece.Agree, and_true]
  rfl

end PageRequest

/-! ## Latency Tolerance Reporting -/

theorem MaxLatency.keeps_ofWord : Keeps 0x1FFF MaxLatency.ofWord := by
  intro v w
  simp only [ofWord, mk.injEq, Nat.cast_inj, field_eq_field_iff, ← and_or_eq_iff]
  rfl

namespace LatencyTolerance

/-- The two latencies. -/
def pieces : List Piece :=
  [⟨2, 0x1FFF⟩, ⟨2, 0x1FFF⟩]

theorem preserves_decode : Preserves decode pieces := by
  refine preserves_of_require (fun _ => rfl) rfl fun p q => ?_
  rw [mk.injEq, MaxLatency.keeps_ofWord _ _, MaxLatency.keeps_ofWord _ _]
  simp only [pieces, Piece.Agree, and_true]
  rfl

end LatencyTolerance

/-! ## Process Address Space ID -/

namespace AddressSpaceId

theorem Capability.keeps_ofWord : Keeps 0x1F06 Capability.ofWord := by
  intro v w
  simp only [ofWord, mk.injEq, flag_eq_flag_iff, field_eq_field_iff, ← and_or_eq_iff]
  rfl

theorem Control.keeps_ofWord : Keeps 0x0007 Control.ofWord := by
  intro v w
  simp only [ofWord, mk.injEq, flag_eq_flag_iff, ← and_or_eq_iff]
  rfl

/-- The two registers. -/
def pieces : List Piece :=
  [⟨2, 0x1F06⟩, ⟨2, 0x0007⟩]

theorem preserves_decode : Preserves decode pieces := by
  refine preserves_of_require (fun _ => rfl) rfl fun p q => ?_
  rw [mk.injEq, Capability.keeps_ofWord _ _, Control.keeps_ofWord _ _]
  simp only [pieces, Piece.Agree, and_true]
  rfl

end AddressSpaceId

/-! ## Precision Time Measurement -/

namespace TimeMeasurement

theorem Capability.keeps_ofWord : Keeps 0x0000FF07 Capability.ofWord := by
  intro v w
  simp only [ofWord, mk.injEq, flag_eq_flag_iff, field_eq_field_iff, ← and_or_eq_iff]
  rfl

theorem Control.keeps_ofWord : Keeps 0x0000FF03 Control.ofWord := by
  intro v w
  simp only [ofWord, mk.injEq, flag_eq_flag_iff, field_eq_field_iff, ← and_or_eq_iff]
  rfl

/-- The two registers. -/
def pieces : List Piece :=
  [⟨4, 0x0000FF07⟩, ⟨4, 0x0000FF03⟩]

theorem preserves_decode : Preserves decode pieces := by
  refine preserves_of_require (fun _ => rfl) rfl fun p q => ?_
  rw [mk.injEq, Capability.keeps_ofWord _ _, Control.keeps_ofWord _ _]
  simp only [pieces, Piece.Agree, and_true]
  rfl

end TimeMeasurement

/-! ## Power Budgeting -/

namespace PowerBudgeting

theorem Data.keeps_ofWord : Keeps 0x001FFFFF Data.ofWord := by
  intro v w
  simp only [ofWord, mk.injEq, Nat.cast_inj, field_eq_field_iff, ← and_or_eq_iff]
  rfl

/-- The index, the data and one flag; three bytes behind the index and three behind the flag are
reserved. -/
def pieces : List Piece :=
  [⟨1, 0xFF⟩, ⟨3, 0⟩, ⟨4, 0x001FFFFF⟩, ⟨1, 0x01⟩, ⟨3, 0⟩]

theorem preserves_decode : Preserves decode pieces := by
  refine preserves_of_require (fun _ => rfl) rfl fun p q => ?_
  rw [mk.injEq, Bytes.AtLeast.u8_eq_u8_iff, Data.keeps_ofWord _ _, flag_eq_flag_iff]
  simp only [pieces, Piece.Agree, Nat.and_zero, true_and, and_true]
  rfl

end PowerBudgeting

/-! ## L1 PM Substates -/

namespace PmSubstates

theorem Capabilities.keeps_ofWord : Keeps 0x00FBFF1F Capabilities.ofWord := by
  intro v w
  simp only [ofWord, mk.injEq, TPowerOn.mk.injEq, Nat.cast_inj, flag_eq_flag_iff,
    field_eq_field_iff, ← and_or_eq_iff]
  rfl

theorem Control1.keeps_ofWord : Keeps 0xE3FFFF0F Control1.ofWord := by
  intro v w
  simp only [ofWord, mk.injEq, MaxLatency.mk.injEq, Nat.cast_inj, flag_eq_flag_iff,
    field_eq_field_iff, ← and_or_eq_iff]
  rfl

/-- The three registers; of the last one bit 2 and bits 31:8 are reserved. -/
def pieces : List Piece :=
  [⟨4, 0x00FBFF1F⟩, ⟨4, 0xE3FFFF0F⟩, ⟨4, 0x000000FB⟩]

theorem preserves_decode : Preserves decode pieces := by
  refine preserves_of_require (fun _ => rfl) rfl fun p q => ?_
  rw [mk.injEq, Capabilities.keeps_ofWord _ _, Control1.keeps_ofWord _ _]
  simp only [TPowerOn.mk.injEq, Nat.cast_inj, field_eq_field_iff, ← and_or_eq_iff, pieces,
    Piece.Agree, and_true]
  rfl

end PmSubstates

/-! ## All of them -/

/-- **The decoders of fixed formats lose nothing but reserved bits.**  Each of them decodes a
payload exactly if it has the bytes of its registers, and decodes two payloads to the same
exactly if they agree in the bits of the registers that are not reserved.  The locations of
MSI-X stand for the words they were read from, and a serial number is written as the bytes of
the payload, the last one first. -/
theorem fixed_formats_preserved :
    Preserves PowerManagement.decode PowerManagement.pieces ∧
    Preserves VitalProductData.decode VitalProductData.pieces ∧
    Preserves SlotIdentification.decode SlotIdentification.pieces ∧
    Preserves DebugPort.decode DebugPort.pieces ∧
    Preserves BridgeSubsystem.decode BridgeSubsystem.pieces ∧
    Preserves MsiX.decode MsiX.pieces ∧
    Preserves Sata.decode Sata.pieces ∧
    Preserves AdvancedFeatures.decode AdvancedFeatures.pieces ∧
    Preserves SerialNumber.decode SerialNumber.pieces ∧
    Preserves RoutingId.decode RoutingId.pieces ∧
    Preserves AddressTranslation.decode AddressTranslation.pieces ∧
    Preserves PageRequest.decode PageRequest.pieces ∧
    Preserves LatencyTolerance.decode LatencyTolerance.pieces ∧
    Preserves AddressSpaceId.decode AddressSpaceId.pieces ∧
    Preserves TimeMeasurement.decode TimeMeasurement.pieces ∧
    Preserves PowerBudgeting.decode PowerBudgeting.pieces ∧
    Preserves PmSubstates.decode PmSubstates.pieces ∧
    (∀ p a, MsiX.decode p = .ok a →
      a.table.Recovers (p.u32 2) ∧ a.pendingBitArray.Recovers (p.u32 6)) ∧
    (∀ p a, SerialNumber.decode p = .ok a →
      a.text = .ok ("-".intercalate
        ([7, 6, 5, 4, 3, 2, 1, 0].map fun k => Text.hexByte (p.u8 k)))) := by
  refine ⟨PowerManagement.preserves_decode, VitalProductData.preserves_decode,
    SlotIdentification.preserves_decode, DebugPort.preserves_decode,
    BridgeSubsystem.preserves_decode, MsiX.preserves_decode, Sata.preserves_decode,
    AdvancedFeatures.preserves_decode, SerialNumber.preserves_decode,
    RoutingId.preserves_decode, AddressTranslation.preserves_decode,
    PageRequest.preserves_decode, LatencyTolerance.preserves_decode,
    AddressSpaceId.preserves_decode, TimeMeasurement.preserves_decode,
    PowerBudgeting.preserves_decode, PmSubstates.preserves_decode, ?_, ?_⟩
  · intro p a ha
    have hlong : 10 ≤ p.length := (MsiX.preserves_decode.decodes_iff p).1 ⟨a, ha⟩
    cases (Bytes.require_of_le hlong).symm.trans ha
    exact ⟨MsiX.Location.recovers_ofWord (p.u32_lt 2), MsiX.Location.recovers_ofWord (p.u32_lt 6)⟩
  · intro p a ha
    have hlong : 8 ≤ p.length := (SerialNumber.preserves_decode.decodes_iff p).1 ⟨a, ha⟩
    cases (Bytes.require_of_le hlong).symm.trans ha
    exact SerialNumber.text_ofPayload hlong

/-- MSI-X with a table at 1003h: the last byte is behind the registers. -/
def msiXPayload : Bytes :=
  [0x07, 0x80, 0x03, 0x10, 0x00, 0x00, 0x04, 0x20, 0x00, 0x00, 0xAA]

/-- A serial number, the lowest byte first. -/
def serialNumberPayload : Bytes :=
  [0xEF, 0xCD, 0xAB, 0x89, 0x67, 0x45, 0x23, 0x01]

/-- In the first payload, the reserved bits of the control register and the last byte have no
influence, and a bit of the table size has. -/
theorem fixed_formats_preserved_samples :
    (∃ a, MsiX.decode msiXPayload = .ok a ∧ a.table.Recovers 0x1003 ∧
      a.pendingBitArray.Recovers 0x2004 ∧
      MsiX.decode [0x07, 0xB8, 0x03, 0x10, 0x00, 0x00, 0x04, 0x20, 0x00, 0x00] = .ok a ∧
      MsiX.decode [0x06, 0x80, 0x03, 0x10, 0x00, 0x00, 0x04, 0x20, 0x00, 0x00] ≠ .ok a) ∧
    ∃ a, SerialNumber.decode serialNumberPayload = .ok a ∧
      a.text = .ok "01-23-45-67-89-ab-cd-ef" := by
  obtain ⟨-, -, -, -, -, hmsiX, -, -, hserial, -, -, -, -, -, -, -, -, hlocations, htext⟩ :=
    fixed_formats_preserved
  constructor
  · obtain ⟨a, ha⟩ := (hmsiX.decodes_iff msiXPayload).2 (by decide)
    obtain ⟨htable, hpending⟩ := hlocations msiXPayload a ha
    refine ⟨a, ha, htable, hpending, ?_, ?_⟩
    · exact (hmsiX.decode_eq_iff ha (by decide)).2 (by decide)
    · exact mt (hmsiX.decode_eq_iff ha (by decide)).1 (by decide)
  · obtain ⟨a, ha⟩ := (hserial.decodes_iff serialNumberPayload).2 (by decide)
    exact ⟨a, ha, (htext _ a ha).trans (congrArg Except.ok (by decide))⟩

end ConfigSpace
