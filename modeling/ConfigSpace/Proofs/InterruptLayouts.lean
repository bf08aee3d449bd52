import ConfigSpace.Capability.Msi
import ConfigSpace.Proofs.RegisterFields
import ConfigSpace.Proofs.Writing

/-!
# Layouts of message signaled interrupts

Two bits of the Message Control register choose one of four layouts, which differ in what is
behind the lower half of the address and in where it is.  This file says that the registers
are read at the right places: each is the word at its place in the layout, and written again
one behind the other they are the bytes of the payload behind the Message Control register.

* `Msi.controlRegister` — the fields of the Message Control register, and `Msi.requiredSize`,
  the size that it calls for.
* `Msi.encode` — the registers behind it as bytes.
* `Msi.address_encoded`, `Msi.data_encoded` and `Msi.masking_encoded` — the parts of them that
  are read are those of the payload.

The main result is `interrupt_layouts`.
-/

namespace ConfigSpace

namespace Msi

/-! ## The Message Control register -/

/-- The Message Control register. -/
def controlRegister : Register where
  layout := {
    bits := 16
    widths := [1, 3, 3, 1, 1, 1, 1, 5]
    name := "MSI message control"
    bits_mem := by decide
    widths_pos := by decide
    total_widths := rfl }
  names :=
    [some "msi_enable", some "multiple_message_capable", some "multiple_message_enable",
     some "a_64_bit_address_capable", some "per_vector_masking_capable",
     some "extended_message_data_capable", some "extended_message_data_enable", none]
  length_names := rfl

/-- The size that the Message Control register `c` calls for. -/
def requiredSize (c : Nat) : Nat :=
  10 + (if c.testBit 7 then 4 else 0) + (if c.testBit 8 then 8 else 0)

/-- Where the data words lie that the Message Control register `c` calls for: behind one word of
the address, or behind two. -/
def dataOffset (c : Nat) : Nat :=
  if c.testBit 7 then 10 else 6

theorem size_ofWord (c : Nat) : (Control.ofWord c).size = requiredSize c := rfl

/-- What the register shows are its fields, and values derived from them. -/
theorem Control.describe_ofWord (c : Nat) :
    ∃ derived, describe (Control.ofWord c) = .record (controlRegister.fields c) derived := by
  rw [Register.fields_eq]
  exact ⟨_, rfl⟩

/-! ## The registers behind it -/

/-- The registers behind the Message Control register, one behind the other; the address has
an upper half if it is wide. -/
def encode (wide : Bool) (r : Msi) : Bytes :=
  Bytes.littleEndian 4 (r.messageAddress % 2 ^ 32)
    ++ (if wide then Bytes.littleEndian 4 (r.messageAddress >>> 32) else [])
    ++ Bytes.littleEndian 2 r.messageData
    ++ Bytes.littleEndian 2 r.extendedMessageData
    ++ r.maskBits.elim [] (Bytes.littleEndian 4)
    ++ r.pendingBits.elim [] (Bytes.littleEndian 4)

section Read

variable {c : Control} {p : Bytes} (h : c.size ≤ p.length)
include h

theorem address_mod : address c ⟨p, h⟩ % 2 ^ 32 = p.u32 2 := by
  have hlow := p.u32_lt 2
  change (p.u32 2 + _ <<< 32) % 2 ^ 32 = _
  rw [Nat.shiftLeft_eq]
  omega

theorem address_shiftRight :
    address c ⟨p, h⟩ >>> 32 = if c.address64Capable then p.u32 6 else 0 := by
  have hlow := p.u32_lt 2
  change (p.u32 2 + (if c.address64Capable then p.u32 6 else 0) <<< 32) >>> 32 = _
  rw [Nat.shiftLeft_eq, Nat.shiftRight_eq_div_pow]
  omega

/-- The address has as many bits as it has words for. -/
theorem address_lt : address c ⟨p, h⟩ < 2 ^ (if c.address64Capable then 64 else 32) := by
  have hlow := address_mod h
  have hlow_lt := p.u32_lt 2
  have hhigh := address_shiftRight h
  have hhigh_lt := p.u32_lt 6
  rw [Nat.shiftRight_eq_div_pow] at hhigh
  split at hhigh <;> rename_i hwide
  · rw [if_pos hwide]
    omega
  · rw [if_neg hwide]
    omega

/-- The address is the first word, or the first two. -/
theorem address_encoded :
    Bytes.littleEndian 4 (address c ⟨p, h⟩ % 2 ^ 32)
        ++ (if c.address64Capable then Bytes.littleEndian 4 (address c ⟨p, h⟩ >>> 32) else []) =
      p.window 2 (4 + c.upperAddressSize) := by
  have hsize : c.size = 10 + c.upperAddressSize + c.maskingSize := rfl
  have hlow : Bytes.littleEndian 4 (p.u32 2) = p.window 2 4 :=
    Bytes.littleEndian_window (by omega)
  rw [address_mod h, address_shiftRight h, hlow, ← Bytes.window_append_window]
  congr 1
  by_cases hwide : c.address64Capable
  · have hupper : c.upperAddressSize = 4 := if_pos hwide
    rw [if_pos hwide, if_pos hwide, hupper]
    exact Bytes.littleEndian_window (by omega)
  · have hupper : c.upperAddressSize = 0 := if_neg hwide
    rw [if_neg hwide, hupper]
    rfl

theorem data_encoded :
    Bytes.littleEndian 2 (read c ⟨p, h⟩).messageData
        ++ Bytes.littleEndian 2 (read c ⟨p, h⟩).extendedMessageData =
      p.window (6 + c.upperAddressSize) 4 := by
  have hsize : c.size = 10 + c.upperAddressSize + c.maskingSize := rfl
  have hdata : Bytes.littleEndian 2 (read c ⟨p, h⟩).messageData =
      p.window (6 + c.upperAddressSize) 2 :=
    Bytes.littleEndian_window (show _ ≤ p.length by omega)
  have hextended : Bytes.littleEndian 2 (read c ⟨p, h⟩).extendedMessageData =
      p.window (8 + c.upperAddressSize) 2 :=
    Bytes.littleEndian_window (show _ ≤ p.length by omega)
  rw [hdata, hextended, show 8 + c.upperAddressSize = 6 + c.upperAddressSize + 2 by omega]
  exact p.window_append_window _ 2 2

/-- A function with per-vector masking has both of its words, and any other none. -/
theorem maskingWord_eq (k : Fin 2) :
    maskingWord c ⟨p, h⟩ k =
      if c.perVectorMaskingCapable then some (p.u32 (10 + c.upperAddressSize + 4 * k))
      else none := by
  by_cases hmasking : c.perVectorMaskingCapable
  · rw [maskingWord, dif_pos hmasking, if_pos hmasking]
    rfl
  · rw [maskingWord, dif_neg hmasking, if_neg hmasking]

theorem masking_encoded :
    (maskingWord c ⟨p, h⟩ 0).elim [] (Bytes.littleEndian 4)
        ++ (maskingWord c ⟨p, h⟩ 1).elim [] (Bytes.littleEndian 4) =
      p.window (10 + c.upperAddressSize) c.maskingSize := by
  have hsize : c.size = 10 + c.upperAddressSize + c.maskingSize := rfl
  by_cases hmasking : c.perVectorMaskingCapable
  · have height : c.maskingSize = 8 := if_pos hmasking
    have hword : ∀ k : Fin 2, (maskingWord c ⟨p, h⟩ k).elim [] (Bytes.littleEndian 4) =
        p.window (10 + c.upperAddressSize + 4 * k) 4 := by
      intro k
      rw [maskingWord_eq, if_pos hmasking]
      exact Bytes.littleEndian_window (show _ ≤ p.length by omega)
    rw [hword, hword, height]
    exact p.window_append_window _ 4 4
  · have hzero : c.maskingSize = 0 := if_neg hmasking
    rw [maskingWord_eq, maskingWord_eq, if_neg hmasking, if_neg hmasking, hzero]
    rfl

/-- The registers that are read are the bytes behind the Message Control register. -/
theorem encode_read : encode c.address64Capable (read c ⟨p, h⟩) = p.window 2 (c.size - 2) := by
  have hsize : c.size = 10 + c.upperAddressSize + c.maskingSize := rfl
  have hdata := data_encoded h
  have hmasking := masking_encoded h
  have hbefore := p.window_append_window 2 (4 + c.upperAddressSize) 4
  have hall := p.window_append_window 2 (4 + c.upperAddressSize + 4) c.maskingSize
  rw [show 2 + (4 + c.upperAddressSize) = 6 + c.upperAddressSize by omega] at hbefore
  rw [show 2 + (4 + c.upperAddressSize + 4) = 10 + c.upperAddressSize by omega] at hall
  calc encode c.address64Capable (read c ⟨p, h⟩)
      = p.window 2 (4 + c.upperAddressSize) ++ p.window (6 + c.upperAddressSize) 4
          ++ p.window (10 + c.upperAddressSize) c.maskingSize := by
        rw [← address_encoded h, ← hdata, ← hmasking]
        simp only [encode, List.append_assoc]
        rfl
    _ = p.window 2 (4 + c.upperAddressSize + 4 + c.maskingSize) := by rw [hbefore, hall]
    _ = p.window 2 (c.size - 2) := by
        congr 1
        omega

end Read

/-- What is shown of a payload, and where it lies there. -/
structure Sections (p : Bytes) (r : Msi) : Prop where
  control_eq : ∃ derived,
    describe r.messageControl = .record (controlRegister.fields (p.u16 0)) derived
  /-- The fields, put together again, are the register with its reserved bits cleared. -/
  compose_eq : controlRegister.compose (controlRegister.fields (p.u16 0)) =
    .ok (p.u16 0 &&& 0x07FF)
  /-- The address is put together of one word or of two, and has as many bits. -/
  address_eq : r.messageAddress =
    p.u32 2 + 2 ^ 32 * (if (p.u16 0).testBit 7 then p.u32 6 else 0)
  address_lt : r.messageAddress < 2 ^ (if (p.u16 0).testBit 7 then 64 else 32)
  data_eq : r.messageData = p.u16 (dataOffset (p.u16 0))
  extended_data_eq : r.extendedMessageData = p.u16 (dataOffset (p.u16 0) + 2)
  /-- There are mask bits and pending bits just in the layouts that have room for them. -/
  mask_bits_eq : r.maskBits =
    if (p.u16 0).testBit 8 then some (p.u32 (dataOffset (p.u16 0) + 4)) else none
  pending_bits_eq : r.pendingBits =
    if (p.u16 0).testBit 8 then some (p.u32 (dataOffset (p.u16 0) + 8)) else none
  /-- The registers are the bytes behind it, in the order of the layout. -/
  encode_eq : r.encode ((p.u16 0).testBit 7) = p.window 2 (requiredSize (p.u16 0) - 2)

variable {p : Bytes}

theorem dataOffset_eq (c : Nat) : dataOffset c = 6 + (Control.ofWord c).upperAddressSize := by
  change (if c.testBit 7 then 10 else 6) = 6 + (if c.testBit 7 then 4 else 0)
  split <;> rfl

theorem maskingWord_ofWord {c : Nat} (h : (Control.ofWord c).size ≤ p.length) (k : Fin 2) :
    maskingWord (.ofWord c) ⟨p, h⟩ k =
      if c.testBit 8 then some (p.u32 (dataOffset c + 4 + 4 * k)) else none := by
  have hplace : 10 + (Control.ofWord c).upperAddressSize = dataOffset c + 4 := by
    rw [dataOffset_eq]
    omega
  rw [maskingWord_eq, hplace]
  rfl

theorem sections_read (h : (Control.ofWord (p.u16 0)).size ≤ p.length) :
    Sections p (read (.ofWord (p.u16 0)) ⟨p, h⟩) where
  control_eq := Control.describe_ofWord _
  compose_eq := Register.compose_fields _ _
  address_eq := by
    change p.u32 2 + (if (p.u16 0).testBit 7 then p.u32 6 else 0) <<< 32 = _
    rw [Nat.shiftLeft_eq, Nat.mul_comm]
  address_lt := Msi.address_lt h
  data_eq := by
    rw [dataOffset_eq]
    rfl
  extended_data_eq := by
    rw [dataOffset_eq, Nat.add_right_comm]
    rfl
  mask_bits_eq := maskingWord_ofWord h 0
  pending_bits_eq := maskingWord_ofWord h 1
  encode_eq := encode_read h

/-- A payload of the size that its Message Control register calls for is decoded. -/
theorem decode_of_fits (hcontrol : 2 ≤ p.length) (h : requiredSize (p.u16 0) ≤ p.length) :
    ∃ r, decode p = .ok r ∧ r.Sections p := by
  rw [← size_ofWord] at h
  refine ⟨_, ?_, sections_read h⟩
  exact (Bytes.require_of_le hcontrol).trans (Bytes.require_of_le h)

theorem decode_of_short (hcontrol : 2 ≤ p.length) (h : ¬ requiredSize (p.u16 0) ≤ p.length) :
    decode p = .error (.unreadable "Message Signaled Interrupts" (requiredSize (p.u16 0))
      p.length) := by
  rw [← size_ofWord] at h
  exact (Bytes.require_of_le hcontrol).trans (Bytes.require_of_lt (Nat.not_le.1 h))

end Msi

/-- **The four layouts of message signaled interrupts are read at the right places.**  They are
decoded exactly if the payload has the size that the Message Control register calls for, and
otherwise that size is reported. -/
theorem interrupt_layouts (p : Bytes) (h : 2 ≤ p.length) :
    let size := Msi.requiredSize (p.u16 0)
    ((∃ r, Msi.decode p = .ok r) ↔ size ≤ p.length) ∧
    ((¬ ∃ r, Msi.decode p = .ok r) →
      Msi.decode p = .error (.unreadable "Message Signaled Interrupts" size p.length)) ∧
    ∀ r, Msi.decode p = .ok r → r.Sections p := by
  intro size
  exact outcome_of_fits (Msi.decode_of_fits h) (Msi.decode_of_short h)

/-- Interrupts with a wide address and masking, with 22 bytes of which each is another one. -/
def wideMaskedInterrupts : Bytes :=
  [0x81, 0x01] ++ (List.range 20).map fun i => UInt8.ofNat (i + 2)

/-- The address, the data and the pending bits are read at their places. -/
theorem interrupt_layouts_wide_masked :
    2 ≤ wideMaskedInterrupts.length ∧
    ∃ r, Msi.decode wideMaskedInterrupts = .ok r ∧ r.messageAddress = 0x0908070605040302 ∧
      r.messageData = 0x0B0A ∧ r.pendingBits = some 0x15141312 ∧
      r.Sections wideMaskedInterrupts := by
  have hlong : 2 ≤ wideMaskedInterrupts.length := by decide
  obtain ⟨hsize, -, hsections⟩ := interrupt_layouts wideMaskedInterrupts hlong
  obtain ⟨r, hr⟩ := hsize.2 (by decide)
  have hr' := hsections r hr
  exact ⟨hlong, r, hr, hr'.address_eq.trans (by decide), hr'.data_eq.trans (by decide),
    hr'.pending_bits_eq.trans (by decide), hr'⟩

end ConfigSpace
