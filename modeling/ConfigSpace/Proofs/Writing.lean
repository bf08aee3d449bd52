import ConfigSpace.Bits.Laws
import ConfigSpace.Bytes.Laws
import ConfigSpace.Proofs.Reading

/-!
# Writing into configuration space

A capability gets into configuration space by being written there, over whatever the bytes
were before.  This file has the writing side of what `ConfigSpace.Header` reads, and what
was written is read back.

* `Bytes.littleEndian` — the bytes that write a number; `value_littleEndian` reads it back,
  and `littleEndian_value` and `littleEndian_window` say that every string is written so, and
  each part of it.
* `Bytes.patch` — a string after several patches, one over the other.  As long as no two of
  them overlap, each can be read back (`window_patch`), so their order does not matter.
* `Header.encode` — the bytes of a header; `Region.header_of_encode` reads it back, and
  `Region.not_terminates_of_encode` says that it does not end the list by accident.
-/

namespace ConfigSpace

/-! ## Numbers -/

namespace Bytes

/-- The `n` bytes that write a number, least significant byte first; of a number that needs
more bytes, the first `n` of them. -/
def littleEndian : Nat → Nat → Bytes
  | 0, _ => []
  | n + 1, v => UInt8.ofNat v :: littleEndian n (v / 256)

@[simp] theorem length_littleEndian (n v : Nat) : (littleEndian n v).length = n := by
  induction n generalizing v with
  | zero => rfl
  | succ n ih => rw [littleEndian, List.length_cons, ih]

/-- A number that is written can be read back, as far as the bytes reach. -/
theorem value_littleEndian (n v : Nat) : value (littleEndian n v) = v % 256 ^ n := by
  induction n generalizing v with
  | zero => exact (Nat.mod_one v).symm
  | succ n ih =>
    have hfirst : (UInt8.ofNat v).toNat = v % 256 := UInt8.toNat_ofNat'
    rw [littleEndian, value_cons, ih, hfirst, Nat.pow_succ', Nat.mod_mul]

/-- A string is what writes its number in as many bytes. -/
theorem littleEndian_value (b : Bytes) : littleEndian b.length (value b) = b := by
  rw [← value_inj (length_littleEndian _ _), value_littleEndian]
  exact Nat.mod_eq_of_lt (value_lt b)

theorem littleEndian_window {b : Bytes} {i n : Nat} (h : i + n ≤ b.length) :
    littleEndian n (b.window i n).value = b.window i n := by
  have hlen : (b.window i n).length = n := by
    rw [length_window]
    omega
  calc littleEndian n (b.window i n).value
      = littleEndian (b.window i n).length (b.window i n).value := by rw [hlen]
    _ = b.window i n := littleEndian_value _

/-! ## Patches -/

/-- Bytes that are to be copied to an offset. -/
structure Patch where
  /-- The offset of the first of them. -/
  offset : Nat
  bytes : Bytes
  deriving DecidableEq, Repr

namespace Patch

/-- The offset behind the last of them. -/
def stop (p : Patch) : Nat :=
  p.offset + p.bytes.length

/-- Two patches that do not overlap. -/
def Apart (p q : Patch) : Prop :=
  p.stop ≤ q.offset ∨ q.stop ≤ p.offset

theorem Apart.symm {p q : Patch} (h : p.Apart q) : q.Apart p :=
  Or.symm h

end Patch

/-- The string after patches have been copied over it, one after the other. -/
def patch (b : Bytes) (patches : List Patch) : Bytes :=
  patches.foldl (fun b p => b.overwrite p.offset p.bytes) b

section Patch

variable {b : Bytes} {patches : List Patch}

theorem length_patch (hfit : ∀ p ∈ patches, p.stop ≤ b.length) :
    (b.patch patches).length = b.length := by
  induction patches generalizing b with
  | nil => rfl
  | cons p rest ih =>
    have hlen : (b.overwrite p.offset p.bytes).length = b.length :=
      length_overwrite b p.offset p.bytes (hfit p List.mem_cons_self)
    change ((b.overwrite p.offset p.bytes).patch rest).length = b.length
    rw [ih fun q hq => by rw [hlen]; exact hfit q (List.mem_cons_of_mem _ hq), hlen]

/-- A window beside all patches is what it was. -/
theorem window_patch_of_apart (hfit : ∀ p ∈ patches, p.stop ≤ b.length) {i n : Nat}
    (hapart : ∀ p ∈ patches, i + n ≤ p.offset ∨ p.stop ≤ i) :
    (b.patch patches).window i n = b.window i n := by
  induction patches generalizing b with
  | nil => rfl
  | cons p rest ih =>
    have hp : p.offset + p.bytes.length ≤ b.length := hfit p List.mem_cons_self
    have hlen : (b.overwrite p.offset p.bytes).length = b.length :=
      length_overwrite b p.offset p.bytes hp
    have hoffset : p.offset ≤ b.length := by omega
    change ((b.overwrite p.offset p.bytes).patch rest).window i n = b.window i n
    rw [ih (fun q hq => by rw [hlen]; exact hfit q (List.mem_cons_of_mem _ hq))
      fun q hq => hapart q (List.mem_cons_of_mem _ hq)]
    rcases hapart p List.mem_cons_self with hbefore | hbehind
    · exact window_overwrite_of_le b p.bytes hbefore hoffset
    · exact window_overwrite_of_ge b p.bytes hbehind hoffset

/-- Of patches that do not overlap each can be read back. -/
theorem window_patch (hfit : ∀ p ∈ patches, p.stop ≤ b.length)
    (hapart : patches.Pairwise Patch.Apart) {p : Patch} (hp : p ∈ patches) :
    (b.patch patches).window p.offset p.bytes.length = p.bytes := by
  induction patches generalizing b with
  | nil => cases hp
  | cons q rest ih =>
    obtain ⟨hq, hrest⟩ := List.pairwise_cons.1 hapart
    have hfirst : q.offset + q.bytes.length ≤ b.length := hfit q List.mem_cons_self
    have hlen : (b.overwrite q.offset q.bytes).length = b.length :=
      length_overwrite b q.offset q.bytes hfirst
    have hfit' : ∀ p ∈ rest, p.stop ≤ (b.overwrite q.offset q.bytes).length := by
      intro p hp
      rw [hlen]
      exact hfit p (List.mem_cons_of_mem _ hp)
    change ((b.overwrite q.offset q.bytes).patch rest).window p.offset p.bytes.length = p.bytes
    rcases List.mem_cons.1 hp with rfl | hmem
    · -- Later patches do not touch this one.
      rw [window_patch_of_apart hfit' fun q' hq' => hq q' hq']
      exact window_overwrite_self b p.bytes (by omega)
    · exact ih hfit' hrest hmem

end Patch

end Bytes

/-! ## Headers -/

/-- The bytes of a header. -/
def Header.encode (h : Header) : Bytes :=
  match h.version with
  | none => Bytes.littleEndian 1 h.capId ++ Bytes.littleEndian 1 h.nextPtr
  | some version => Bytes.littleEndian 4 (Bits.pack [h.capId, version, h.nextPtr] [16, 4, 12])

/-- The values of a header fit its fields.  Those of an extended pointer have no room for
the two low bits. -/
def Header.Fits (h : Header) : Region → Prop
  | .legacy => h.version = none ∧ h.capId < 2 ^ 8 ∧ h.nextPtr < 2 ^ 8
  | .extended => ∃ version, h.version = some version ∧ version < 2 ^ 4 ∧ h.capId < 2 ^ 16 ∧
      h.nextPtr < 2 ^ 12 ∧ 4 ∣ h.nextPtr

namespace Header

variable {h : Header} {r : Region}

theorem Fits.size_eq (hfits : h.Fits r) : h.size = r.headerSize := by
  cases r with
  | legacy => rw [size, hfits.1]; rfl
  | extended =>
    obtain ⟨version, hversion, -⟩ := hfits
    rw [size, hversion]
    rfl

theorem length_encode (h : Header) : h.encode.length = h.size := by
  unfold encode size
  cases h.version <;> simp [Region.headerSize]

theorem pack_eq {capId version nextPtr : Nat} (hid : capId < 2 ^ 16) (hversion : version < 2 ^ 4)
    (hnext : nextPtr < 2 ^ 12) :
    Bits.pack [capId, version, nextPtr] [16, 4, 12] =
      capId + 2 ^ 16 * (version + 2 ^ 4 * nextPtr) := by
  rw [Bits.pack_cons_of_lt hid, Bits.pack_cons_of_lt hversion, Bits.pack_cons_of_lt hnext]
  rfl

end Header

namespace Region

variable {r : Region} {h : Header} {buffer : Bytes} {o : Nat}

/-- The word at the offset of an extended header that was written there. -/
theorem u32_of_encode {version : Nat} (hversion : h.version = some version)
    (hfits : version < 2 ^ 4 ∧ h.capId < 2 ^ 16 ∧ h.nextPtr < 2 ^ 12)
    (hwindow : buffer.window o 4 = h.encode) :
    buffer.u32 o = h.capId + 2 ^ 16 * (version + 2 ^ 4 * h.nextPtr) := by
  obtain ⟨hlt, hid, hnext⟩ := hfits
  rw [Bytes.u32, hwindow, Header.encode, hversion]
  simp only [Bytes.value_littleEndian, Header.pack_eq hid hlt hnext]
  omega

/-- A header that was written is read back. -/
theorem header_of_encode (hfits : h.Fits r) (hwindow : buffer.window o r.headerSize = h.encode) :
    r.header buffer o = h := by
  obtain ⟨capId, nextPtr, version⟩ := h
  cases r with
  | legacy =>
    obtain ⟨rfl, hid, hnext⟩ := hfits
    dsimp only at hid hnext
    have hbytes : buffer.window o 2 = [UInt8.ofNat capId, UInt8.ofNat nextPtr] := hwindow
    have hfirst : buffer.u8 o = capId := by
      rw [Bytes.u8, ← Nat.add_zero o, ← Bytes.window_window buffer (show 0 + 1 ≤ 2 by decide),
        hbytes]
      exact UInt8.toNat_ofNat_of_lt' hid
    have hsecond : buffer.u8 (o + 1) = nextPtr := by
      rw [Bytes.u8, ← Bytes.window_window buffer (show 1 + 1 ≤ 2 by decide), hbytes]
      exact UInt8.toNat_ofNat_of_lt' hnext
    rw [header, hfirst, hsecond]
  | extended =>
    obtain ⟨version, rfl, hlt, hid, hnext, halign⟩ := hfits
    have hword := u32_of_encode rfl ⟨hlt, hid, hnext⟩ hwindow
    dsimp only at hid hnext halign hword
    have hfields : ∀ lo n, field (buffer.u32 o) lo n =
        (capId + 2 ^ 16 * (version + 2 ^ 4 * nextPtr)) / 2 ^ lo % 2 ^ n := by
      intro lo n
      rw [field, hword, Nat.shiftRight_eq_div_pow, Nat.one_shiftLeft]
    have hcapId : buffer.u32 o &&& 0xFFFF = capId := by
      have hmask : field (buffer.u32 o) 0 16 = buffer.u32 o &&& 0xFFFF := Header.field_eq_and _ 0 16
      rw [← hmask, hfields]
      omega
    have hversion : (buffer.u32 o >>> 16) &&& 0xF = version := by
      have hmask : field (buffer.u32 o) 16 4 = (buffer.u32 o >>> 16) &&& 0xF :=
        Header.field_eq_and _ 16 4
      rw [← hmask, hfields]
      omega
    have hpointer : (buffer.u32 o >>> 20) &&& 0xFFC = nextPtr := by
      rw [← Header.pointer_eq_and, hfields]
      omega
    simp only [header, hcapId, hversion, hpointer]

theorem not_terminates_of_encode (hfits : h.Fits r)
    (hwindow : buffer.window o r.headerSize = h.encode)
    (hne : ¬ (h.capId = 0 ∧ h.version = some 0 ∧ h.nextPtr = 0)) : ¬ r.Terminates buffer o := by
  rintro ⟨rfl, hterm⟩
  obtain ⟨version, hversion, hlt, hid, hnext, halign⟩ := hfits
  have hword := u32_of_encode hversion ⟨hlt, hid, hnext⟩ hwindow
  rw [hword] at hterm
  -- A word of ones has a pointer with its low bits set.
  rcases hterm with hzeros | hones
  · refine hne ⟨by omega, ?_, by omega⟩
    rw [hversion, show version = 0 by omega]
  · omega

end Region

end ConfigSpace
