import ConfigSpace.Bytes.Laws
import ConfigSpace.Capability.DesignatedVendor
import ConfigSpace.Capability.VendorSpecific

/-!
# Lengths that containers declare

Three capabilities hold the registers of a vendor and say themselves how long they are: the
legacy Vendor Specific one, its extended counterpart, and the Designated Vendor-Specific
one.  All of them count from the first byte of the capability's header, so the length is
about the header and the payload together, and not about the payload that a decoder gets.

* `LengthConfines` — what it is for a container to go by its declared length: registers are
  what lies between the fixed part and the length, nothing behind the length matters, and a
  length that is too small or too large has its own outcome.
* `GoesByLength` — how the three of them do so: the payload opens with the bytes that declare
  the length, and what lies between these and the length is handed on.  Bytes behind the
  length then change nothing (`GoesByLength.decode_append`), so the payload may be cut there
  (`GoesByLength.decode_cut`).
* `VendorSpecific.goesByLength`, `VendorExtended.goesByLength` and
  `DesignatedVendor.goesByLength` — the three containers.

The main result is `declared_lengths_confine`.
-/

namespace ConfigSpace

/-! ## Going by a declared length -/

/-- A container with a fixed part of `fixed` bytes goes by the length that it declares: it
hands on its registers, and has the outcomes `below` and `beyond` for a length that does not
cover the fixed part and for one that goes beyond the bytes there are. -/
structure LengthConfines {β : Type} (header payload : Bytes) (fixed declared : Nat)
    (decode handOn : Bytes → β) (below beyond : β) : Prop where
  /-- The registers are the bytes of the capability from the fixed part to the length. -/
  within : fixed ≤ declared → declared ≤ (header ++ payload).length →
    decode payload = handOn ((header ++ payload).window fixed (declared - fixed))
  /-- The outcome is that of the payload cut at the length, whatever follows. -/
  cut : fixed ≤ declared → declared ≤ (header ++ payload).length →
    ∀ more, decode (((header ++ payload).take declared).drop header.length ++ more) =
      decode payload
  /-- A length that is too small. -/
  below : declared < fixed → decode payload = below
  /-- A length that is too large. -/
  beyond : (header ++ payload).length < declared → decode payload = beyond

/-- A container whose payload opens with `fieldSize` bytes that declare a length, and which
hands on what lies between them and the length. -/
structure GoesByLength {α β : Type} (headerSize fieldSize : Nat) (opening : Bytes → α)
    (declared : α → Nat) (decode : Bytes → β) (handOn : α → Bytes → β) : Prop where
  /-- What follows the opening does not change it. -/
  opening_append : ∀ payload more : Bytes, fieldSize ≤ payload.length →
    opening (payload ++ more) = opening payload
  /-- A length within the bounds says how many bytes are handed on. -/
  decode_of_le : ∀ payload : Bytes, fieldSize ≤ payload.length →
    headerSize + fieldSize ≤ declared (opening payload) →
    declared (opening payload) ≤ headerSize + payload.length →
      decode payload = handOn (opening payload)
        (payload.window fieldSize (declared (opening payload) - (headerSize + fieldSize)))

namespace GoesByLength

variable {α β : Type} {headerSize fieldSize : Nat} {opening : Bytes → α} {declared : α → Nat}
  {decode : Bytes → β} {handOn : α → Bytes → β} {payload : Bytes}

section Within

variable (h : GoesByLength headerSize fieldSize opening declared decode handOn)
  (hfixed : headerSize + fieldSize ≤ declared (opening payload))
  (hlength : declared (opening payload) ≤ headerSize + payload.length)

include h hfixed hlength

/-- Bytes behind the length change nothing. -/
theorem decode_append (more : Bytes) : decode (payload ++ more) = decode payload := by
  have hfield : fieldSize ≤ payload.length := by omega
  have hopening := h.opening_append payload more hfield
  have hlen : (payload ++ more).length = payload.length + more.length := List.length_append
  have hwindow : (payload ++ more).window fieldSize
      (declared (opening payload) - (headerSize + fieldSize)) =
      payload.window fieldSize (declared (opening payload) - (headerSize + fieldSize)) := by
    refine Bytes.window_append_left payload more ?_
    omega
  have hmore := h.decode_of_le (payload ++ more) (by omega) (by rw [hopening]; exact hfixed)
    (by rw [hopening, hlen]; omega)
  rw [hmore, hopening, hwindow, h.decode_of_le payload hfield hfixed hlength]

/-- So the outcome is that of the payload cut at the length, whatever follows. -/
theorem decode_cut (more : Bytes) :
    decode (payload.take (declared (opening payload) - headerSize) ++ more) = decode payload := by
  -- The cut payload still holds the length, and all that it counts.
  let part := payload.take (declared (opening payload) - headerSize)
  have hpart : part ++ payload.drop (declared (opening payload) - headerSize) = payload :=
    List.take_append_drop _ _
  have hlen : part.length = declared (opening payload) - headerSize := by
    rw [List.length_take]
    omega
  have hopening : opening part = opening payload := by
    rw [← h.opening_append part (payload.drop (declared (opening payload) - headerSize))
      (by omega), hpart]
  have hbehind : ∀ more, decode (part ++ more) = decode part :=
    h.decode_append (by rw [hopening]; exact hfixed) (by rw [hopening]; omega)
  change decode (part ++ more) = decode payload
  rw [hbehind more, ← hbehind (payload.drop (declared (opening payload) - headerSize)), hpart]

end Within

/-- A container that goes by its length, and has these outcomes for lengths out of bounds. -/
theorem lengthConfines (h : GoesByLength headerSize fieldSize opening declared decode handOn)
    {header : Bytes} (hheader : header.length = headerSize) (hfield : fieldSize ≤ payload.length)
    {below beyond : β}
    (hbelow : declared (opening payload) < headerSize + fieldSize → decode payload = below)
    (hbeyond : headerSize + payload.length < declared (opening payload) →
      decode payload = beyond) :
    LengthConfines header payload (headerSize + fieldSize) (declared (opening payload)) decode
      (handOn (opening payload)) below beyond := by
  have hlen : (header ++ payload).length = headerSize + payload.length := by
    rw [List.length_append, hheader]
  refine ⟨fun hfixed hlength => ?_, fun hfixed hlength more => ?_, hbelow, fun hlength => ?_⟩
  · have hwindow : ∀ n, (header ++ payload).window (headerSize + fieldSize) n =
        payload.window fieldSize n := by
      intro n
      rw [← hheader]
      exact Bytes.window_append_right header payload fieldSize n
    rw [hlen] at hlength
    rw [hwindow, h.decode_of_le payload hfield hfixed hlength]
  · rw [hlen] at hlength
    rw [List.drop_take, List.drop_left, hheader]
    exact h.decode_cut hfixed hlength more
  · rw [hlen] at hlength
    exact hbeyond hlength

end GoesByLength

/-! ## Vendor Specific -/

namespace VendorSpecific

/-- What is made of registers once they have been found. -/
def interpret (length : Nat) (registers : Bytes) (vendorId deviceId : Option Int) :
    Logged (Except Error VendorSpecific) :=
  match vendorId, deviceId with
  | some vendor, some device =>
      (dispatcher.dispatch vendor device registers none (some length)).map
        (·.map fun virtio => { length, registers, virtio })
  | _, _ => ⟨.ok { length, registers, virtio := none }, []⟩

variable {payload : Bytes} {vendorId deviceId : Option Int}

theorem decode_eq :
    decode payload vendorId deviceId =
      match read payload with
      | .error f => ⟨.error (.ofFault f), []⟩
      | .ok (length, registers) => interpret length registers vendorId deviceId := by
  unfold decode
  cases read payload with
  | error f => rfl
  | ok parts => rfl

theorem read_of_lt (hfield : 1 ≤ payload.length) (hfixed : payload.u8 0 < 3) :
    read payload = .error (.invalidLength "Vendor Specific" (payload.u8 0) 3) := by
  rw [read, Bytes.require_of_le hfield]
  exact dif_pos hfixed

theorem read_of_gt (hfield : 1 ≤ payload.length) (hlength : 2 + payload.length < payload.u8 0) :
    read payload =
      .error (.unreadable "Vendor Specific" (payload.u8 0 - 2 : Nat) payload.length) := by
  have hfixed : ¬ payload.u8 0 < 3 := by omega
  have hsize : payload.length < payload.u8 0 - 2 := by omega
  rw [read, Bytes.require_of_le hfield]
  simp only [Bytes.AtLeast.u8, dif_neg hfixed, Bytes.require_of_lt hsize]

/-- The capability goes by its length, which it counts from a header of two bytes on. -/
theorem goesByLength (vendorId deviceId : Option Int) :
    GoesByLength 2 1 (Bytes.u8 · 0) id (decode · vendorId deviceId)
      (interpret · · vendorId deviceId) where
  opening_append payload more hfield := Bytes.u8_append payload more hfield
  decode_of_le payload hfield hfixed hlength := by
    simp only [id_eq] at hfixed hlength ⊢
    have hthree : ¬ payload.u8 0 < 3 := Nat.not_lt.2 hfixed
    have hsize : payload.u8 0 - 2 ≤ payload.length := by omega
    have hread : read payload = .ok (payload.u8 0, payload.window 1 (payload.u8 0 - 3)) := by
      rw [read, Bytes.require_of_le hfield]
      simp only [Bytes.AtLeast.u8, dif_neg hthree, Bytes.require_of_le hsize,
        Bytes.AtLeast.window]
    rw [decode_eq, hread]

end VendorSpecific

/-! ## The opening word -/

namespace VendorHeader

/-- The word that opens the payload of an extended capability. -/
def opening (payload : Bytes) : VendorHeader :=
  .ofWord (payload.u32 0)

theorem opening_append (payload more : Bytes) (h : 4 ≤ payload.length) :
    opening (payload ++ more) = opening payload := by
  rw [opening, Bytes.u32_append payload more h, opening]

end VendorHeader

/-! ## Vendor-Specific Extended Capability -/

namespace VendorExtended

open VendorHeader (opening)

variable {payload : Bytes}

theorem readRegisters_of_lt {length : Nat} {tail : Bytes} (h : length < 8) :
    readRegisters length tail = (.invalidLength, []) :=
  if_pos h

theorem readRegisters_of_le {length : Nat} {tail : Bytes} (hfixed : 8 ≤ length)
    (hlength : length ≤ 8 + tail.length) :
    readRegisters length tail = (.valid, tail.take (length - 8)) := by
  have hfit : length - 8 ≤ tail.length := by omega
  exact (if_neg (Nat.not_lt.2 hfixed)).trans (if_pos hfit)

theorem readRegisters_of_gt {length : Nat} {tail : Bytes} (h : 8 + tail.length < length) :
    readRegisters length tail = (.incomplete, tail) := by
  have hfixed : ¬ length < 8 := by omega
  have hfit : ¬ length - 8 ≤ tail.length := by omega
  exact (if_neg hfixed).trans (if_neg hfit)

/-- A payload that holds the opening word is decoded; the length says how much else of it
counts. -/
theorem decode_eq (hfield : 4 ≤ payload.length) :
    decode payload = .ok
      { header := opening payload
        registersState := (readRegisters (opening payload).length (payload.drop 4)).1
        registers := (readRegisters (opening payload).length (payload.drop 4)).2 } := by
  rw [decode, Bytes.require_of_le hfield]
  rfl

theorem goesByLength :
    GoesByLength 4 4 opening VendorHeader.length decode
      fun header registers => .ok ⟨header, .valid, registers⟩ where
  opening_append := VendorHeader.opening_append
  decode_of_le payload hfield hfixed hlength := by
    have hfit : (opening payload).length ≤ 8 + (payload.drop 4).length := by
      rw [List.length_drop]
      omega
    rw [decode_eq hfield, readRegisters_of_le hfixed hfit]
    rfl

end VendorExtended

/-! ## Designated Vendor-Specific -/

namespace DesignatedVendor

open VendorHeader (opening)

/-- What is made of registers once they have been found. -/
def interpret (header : VendorHeader) (dvsecId : Nat) (registers : Bytes) :
    Logged (Except Error DesignatedVendor) :=
  (dispatcher.dispatch header.id dvsecId registers (some header.revision)
      (some header.length)).map
    (·.map fun cxl => { header, dvsecId, inside := (cxl.map .cxl).getD (.unspecified registers) })

variable {payload : Bytes}

theorem decode_eq :
    decode payload =
      match read payload with
      | .error f => ⟨.error (.ofFault f), []⟩
      | .ok parts => interpret parts.header parts.dvsecId parts.registers := by
  unfold decode
  cases read payload with
  | error f => rfl
  | ok parts => rfl

theorem read_of_not_le (hfield : 6 ≤ payload.length)
    (hout : (opening payload).length < 10 ∨ 4 + payload.length < (opening payload).length) :
    read payload = .error (.lengthMismatch (opening payload).id (opening payload).revision
      (opening payload).length (payload.u16 4) (4 + payload.length : Nat)) := by
  have hnot : ¬ (fixedSize ≤ (opening payload).length ∧
      (opening payload).length ≤ payload.length + headerSize) := by
    rw [fixedSize, headerSize]
    omega
  rw [read, Bytes.require_of_le hfield, Nat.add_comm 4]
  exact if_neg hnot

theorem goesByLength :
    GoesByLength 4 6 (fun payload => (opening payload, payload.u16 4)) (fun parts => parts.1.length)
      decode fun parts => interpret parts.1 parts.2 where
  opening_append payload more hfield := by
    rw [VendorHeader.opening_append payload more (by omega), Bytes.u16_append payload more hfield]
  decode_of_le payload hfield hfixed hlength := by
    have hread : read payload = .ok ⟨opening payload, payload.u16 4,
        payload.window 6 ((opening payload).length - 10)⟩ := by
      rw [read, Bytes.require_of_le hfield]
      exact if_pos ⟨hfixed, by rw [Nat.add_comm]; exact hlength⟩
    rw [decode_eq, hread]

end DesignatedVendor

/-! ## The three containers -/

/-- **Self-declared lengths confine the vendor containers.**  All three count from the first
byte of the capability's header, of 2 bytes in the legacy list and 4 in the extended one.
Whatever these are, and whatever else the payload holds, the registers handed on are those
between the fixed part and the declared length; nothing behind the length matters; and a
length out of bounds has the outcome of its container. -/
theorem declared_lengths_confine (payload : Bytes) :
    (1 ≤ payload.length → ∀ header : Bytes, header.length = 2 →
      ∀ vendorId deviceId : Option Int,
        let n := payload.u8 0
        LengthConfines header payload 3 n
          (VendorSpecific.decode · vendorId deviceId)
          (VendorSpecific.interpret n · vendorId deviceId)
          ⟨.error (.ofFault (.invalidLength "Vendor Specific" n 3)), []⟩
          ⟨.error (.ofFault (.unreadable "Vendor Specific" (n - 2 : Nat) payload.length)), []⟩) ∧
    (4 ≤ payload.length → ∀ header : Bytes, header.length = 4 →
      let vendor := field (payload.u32 0) 0 16
      let revision := field (payload.u32 0) 16 4
      let n := field (payload.u32 0) 20 12
      LengthConfines header payload 8 n VendorExtended.decode
        (fun registers => .ok ⟨⟨vendor, revision, n⟩, .valid, registers⟩)
        (.ok ⟨⟨vendor, revision, n⟩, .invalidLength, []⟩)
        (.ok ⟨⟨vendor, revision, n⟩, .incomplete, (header ++ payload).drop 8⟩)) ∧
    (6 ≤ payload.length → ∀ header : Bytes, header.length = 4 →
      let vendor := field (payload.u32 0) 0 16
      let revision := field (payload.u32 0) 16 4
      let n := field (payload.u32 0) 20 12
      let mismatch : Fault :=
        .lengthMismatch vendor revision n (payload.u16 4) (header ++ payload).length
      LengthConfines header payload 10 n DesignatedVendor.decode
        (DesignatedVendor.interpret ⟨vendor, revision, n⟩ (payload.u16 4))
        ⟨.error (.ofFault mismatch), []⟩ ⟨.error (.ofFault mismatch), []⟩) := by
  refine ⟨fun hfield header hheader vendorId deviceId => ?_, fun hfield header hheader => ?_,
    fun hfield header hheader => ?_⟩
  · refine (VendorSpecific.goesByLength vendorId deviceId).lengthConfines hheader hfield
      (fun hbelow => ?_) fun hbeyond => ?_
    · simp only [VendorSpecific.decode_eq, VendorSpecific.read_of_lt hfield hbelow]
    · simp only [VendorSpecific.decode_eq, VendorSpecific.read_of_gt hfield hbeyond]
  · refine VendorExtended.goesByLength.lengthConfines hheader hfield
      (fun hbelow => ?_) fun hbeyond => ?_
    · rw [VendorExtended.decode_eq hfield, VendorExtended.readRegisters_of_lt hbelow]
      rfl
    · have hfit : 8 + (payload.drop 4).length < (VendorHeader.opening payload).length := by
        rw [List.length_drop]
        omega
      have hdrop : (header ++ payload).drop 8 = payload.drop 4 := by
        rw [show 8 = header.length + 4 by rw [hheader], ← List.drop_drop, List.drop_left]
      rw [VendorExtended.decode_eq hfield, VendorExtended.readRegisters_of_gt hfit, hdrop]
      rfl
  · have hlen : (header ++ payload).length = 4 + payload.length := by
      rw [List.length_append, hheader]
    refine DesignatedVendor.goesByLength.lengthConfines hheader hfield
      (fun hbelow => ?_) fun hbeyond => ?_
    · rw [DesignatedVendor.decode_eq, DesignatedVendor.read_of_not_le hfield (.inl hbelow), hlen]
      rfl
    · rw [DesignatedVendor.decode_eq, DesignatedVendor.read_of_not_le hfield (.inr hbeyond), hlen]
      rfl

/-- Each of the containers with one register byte, and one more byte behind its length. -/
theorem declared_lengths_confine_byte_behind :
    VendorSpecific.decode [4, 0xAA, 0xFF] none none = ⟨.ok ⟨4, [0xAA], none⟩, []⟩ ∧
    VendorExtended.decode [0x34, 0x12, 0x91, 0x00, 0xAA, 0xFF] =
      .ok ⟨⟨0x1234, 1, 9⟩, .valid, [0xAA]⟩ ∧
    DesignatedVendor.decode [0x34, 0x12, 0xB1, 0x00, 0x07, 0x00, 0xAA, 0xFF] =
      ⟨.ok ⟨⟨0x1234, 1, 11⟩, 7, .unspecified [0xAA]⟩, []⟩ := by
  refine ⟨?_, ?_, ?_⟩
  · have h := (declared_lengths_confine [4, 0xAA, 0xFF]).1 (by decide) [0x09, 0x00] rfl none none
    exact h.within (by decide) (by decide)
  · have h := (declared_lengths_confine [0x34, 0x12, 0x91, 0x00, 0xAA, 0xFF]).2.1 (by decide)
      [0x0B, 0x00, 0x01, 0x00] rfl
    exact h.within (by decide) (by decide)
  · have h := (declared_lengths_confine [0x34, 0x12, 0xB1, 0x00, 0x07, 0x00, 0xAA, 0xFF]).2.2
      (by decide) [0x23, 0x00, 0x01, 0x00] rfl
    exact h.within (by decide) (by decide)

end ConfigSpace
