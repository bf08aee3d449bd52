import ConfigSpace.Bits.Laws
import ConfigSpace.Bytes.Laws
import ConfigSpace.Header
import Mathlib.Data.Nat.Bitwise

/-!
# Reading at an offset

A cursor that stands at an offset of the string, counted from its start, either
reads what it is asked for or finds that too little is left.  This file says which
of the two happens, first for bytes and numbers and then for the headers of both
regions.

* `Cursor.take_of_le`, `Cursor.number_of_le` — a read that fits gives the window
  of the string at the cursor, and moves over it.
* `Cursor.take_of_lt`, `Cursor.number_of_lt` — a read that does not fit names the
  offset, the size and what is left, and does not move.
* `Bytes.AtLeast.Covered` — a string that is known to be long enough is read without a look
  at its length, and a cursor, which looks, finds the same.
* `Region.header` and `Region.Terminates` — what the bytes at an offset say when
  they are taken for a header of a region; `Header.read_of_le` and
  `Header.read_of_lt` say that reading a header finds exactly that, or falls short.
-/

namespace ConfigSpace

namespace Cursor

variable {data : Bytes} {i n : Nat}

/-! ## Bytes -/

/-- A slice between two offsets of the string is the window between them. -/
theorem slice_eq_window (data : Bytes) (i n : Nat) :
    data.slice (i : Int) ((i : Int) + n) = data.window i n := by
  rw [← Nat.cast_add, Bytes.slice_natCast, Nat.add_sub_cancel_left]

theorem take_of_le (h : i + n ≤ data.length) :
    (⟨data, i⟩ : Cursor).take n = (.ok (data.window i n), ⟨data, (i + n : Nat)⟩) := by
  unfold take
  rw [if_neg (by omega), if_neg (by push_cast; omega)]
  simp only [slice_eq_window, Nat.cast_add]

theorem take_of_lt (h : data.length < i + n) :
    (⟨data, i⟩ : Cursor).take n =
      (.error (.outOfData i n (⟨data, i⟩ : Cursor).remaining), ⟨data, i⟩) := by
  unfold take
  rw [if_neg (by omega), if_pos (by push_cast; omega)]

/-! ## Numbers -/

theorem number_of_le (h : i + n ≤ data.length) :
    (⟨data, i⟩ : Cursor).number n = (.ok (data.window i n).value, ⟨data, (i + n : Nat)⟩) := by
  have hlen : (data.window i n).length = n := by
    rw [Bytes.length_window]
    omega
  unfold number
  rw [take_of_le h]
  simp only [hlen, if_true]

theorem number_of_lt (h : data.length < i + n) :
    (⟨data, i⟩ : Cursor).number n =
      (.error (.outOfData i n (⟨data, i⟩ : Cursor).remaining), ⟨data, i⟩) := by
  unfold number
  rw [take_of_lt h]

end Cursor

/-! ## Registers of strings that are long enough -/

namespace Bytes.AtLeast

variable {size : Nat}

/-- Every register of a string that is long enough is found by the reads that can fail. -/
structure Covered (p : AtLeast size) : Prop where
  /-- A byte is found. -/
  byte : ∀ (i : Nat) h, Cursor.peek ⟨p.bytes, 0⟩ 1 i = .ok (p.u8 i h)
  /-- A 16-bit word is found. -/
  word : ∀ (i : Nat) h, Cursor.peek ⟨p.bytes, 0⟩ 2 i = .ok (p.u16 i h)
  /-- A 32-bit word is found. -/
  dword : ∀ (i : Nat) h, Cursor.peek ⟨p.bytes, 0⟩ 4 i = .ok (p.u32 i h)
  /-- So are several in a row. -/
  dwords : ∀ (i n : Nat) h, ((List.range n).map fun k =>
    Cursor.peek ⟨p.bytes, 0⟩ 4 (i + 4 * k : Nat)) = (p.words32 i n h).map .ok
  /-- A run of bytes is found. -/
  run : ∀ (i n : Nat) h, (Cursor.take ⟨p.bytes, i⟩ n).1 = .ok (p.window i n h)

/-- A number that ends within the known length is found. -/
theorem peek_eq (p : AtLeast size) {i n : Nat} (h : i + n ≤ size) :
    Cursor.peek ⟨p.bytes, 0⟩ n i = .ok (p.bytes.window i n).value := by
  have hfit := p.size_le
  unfold Cursor.peek
  rw [if_neg (by push_cast; omega), Int.toNat_natCast]

/-- Whatever is read from a string that is long enough is there. -/
theorem covered (p : AtLeast size) : p.Covered := by
  refine ⟨fun i h => ?_, fun i h => ?_, fun i h => ?_, fun i n h => ?_, fun i n h => ?_⟩
  · exact p.peek_eq (Nat.le_of_ble_eq_true h)
  · exact p.peek_eq (Nat.le_of_ble_eq_true h)
  · exact p.peek_eq (Nat.le_of_ble_eq_true h)
  · have hn := Nat.le_of_ble_eq_true h
    rw [words32, Bytes.words32, List.map_map]
    refine List.map_congr_left fun k hk => ?_
    have hlt := List.mem_range.1 hk
    exact p.peek_eq (by omega)
  · have hn := Nat.le_of_ble_eq_true h
    have hfit := p.size_le
    rw [Cursor.take_of_le (by omega)]
    rfl

end Bytes.AtLeast

/-! ## Headers -/

namespace Region

/-- What the bytes at offset `o` say as a header of a region. -/
def header (r : Region) (buffer : Bytes) (o : Nat) : Header :=
  match r with
  | .legacy => { capId := buffer.u8 o, nextPtr := buffer.u8 (o + 1) }
  | .extended =>
      { capId := buffer.u32 o &&& 0xFFFF
        version := some ((buffer.u32 o >>> 16) &&& 0xF)
        nextPtr := (buffer.u32 o >>> 20) &&& 0xFFC }

/-- The bytes at offset `o` end the list of a region: an extended header word of
zeros or of ones does. -/
def Terminates (r : Region) (buffer : Bytes) (o : Nat) : Prop :=
  r = .extended ∧ (buffer.u32 o = 0 ∨ buffer.u32 o = 0xFFFFFFFF)

instance (r : Region) (buffer : Bytes) (o : Nat) : Decidable (r.Terminates buffer o) :=
  inferInstanceAs (Decidable (_ ∧ _))

/-- The readable bytes of a region are those of the buffer up to its end. -/
theorem length_take_readable (r : Region) (buffer : Bytes) :
    (buffer.take (r.readable buffer)).length = r.readable buffer := by
  rw [List.length_take, readable]
  omega

variable {r : Region} {a b buffer : Bytes} {o k : Nat}

/-- A header depends on its own bytes only. -/
theorem header_congr (h : a.window o r.headerSize = b.window o r.headerSize) :
    r.header a o = r.header b o := by
  cases r with
  | legacy =>
    have hid := congrArg (Bytes.window · 0 1) h
    have hnext := congrArg (Bytes.window · 1 1) h
    simp only [headerSize, Bytes.window_window _ (show 0 + 1 ≤ 2 by decide),
      Bytes.window_window _ (show 1 + 1 ≤ 2 by decide), Nat.add_zero] at hid hnext
    simp only [header, Bytes.u8, hid, hnext]
  | extended =>
    have hword : a.window o 4 = b.window o 4 := h
    simp only [header, Bytes.u32, hword]

theorem terminates_congr (h : a.window o r.headerSize = b.window o r.headerSize) :
    r.Terminates a o ↔ r.Terminates b o := by
  cases r with
  | legacy => simp [Terminates]
  | extended =>
    have hword : a.window o 4 = b.window o 4 := h
    simp only [Terminates, Bytes.u32, hword]

theorem header_take (h : o + r.headerSize ≤ k) :
    r.header (buffer.take k) o = r.header buffer o :=
  header_congr (Bytes.window_take buffer h)

theorem terminates_take (h : o + r.headerSize ≤ k) :
    r.Terminates (buffer.take k) o ↔ r.Terminates buffer o :=
  terminates_congr (Bytes.window_take buffer h)

end Region

namespace Header

/-- A field of a word is the word above its lowest bit, masked to its width. -/
theorem field_eq_and (w lo n : Nat) : field w lo n = (w >>> lo) &&& (2 ^ n - 1) := by
  rw [field, Nat.one_shiftLeft, Nat.and_two_pow_sub_one_eq_mod]

/-- A field that counts in steps of `2 ^ k` is the word above the bits below the steps,
with those of the steps masked out. -/
theorem shifted_field_eq_and (w lo k n : Nat) :
    2 ^ k * field w (lo + k) n = (w >>> lo) &&& ((2 ^ n - 1) <<< k) := by
  rw [Nat.mul_comm, ← Nat.shiftLeft_eq]
  apply Nat.eq_of_testBit_eq
  intro i
  rw [Nat.testBit_shiftLeft, testBit_field, Nat.testBit_and, Nat.testBit_shiftRight,
    Nat.testBit_shiftLeft, Nat.testBit_two_pow_sub_one]
  by_cases hi : k ≤ i
  · have hpos : lo + k + (i - k) = lo + i := by omega
    simp only [hi, decide_true, Bool.true_and, hpos, Bool.and_comm]
  · simp [hi]

theorem pointer_eq_and (w : Nat) : 4 * field w 22 10 = (w >>> 20) &&& 0xFFC :=
  shifted_field_eq_and w 20 2 10

theorem root_eq_and (w : Nat) : 4 * field w 2 6 = w &&& 0xFC :=
  shifted_field_eq_and w 0 2 6

/-- An extended header word either ends the list or is a header. -/
theorem ofWord_eq (buffer : Bytes) (o : Nat) :
    ofWord (buffer.u32 o) =
      if Region.extended.Terminates buffer o then none
      else some (Region.extended.header buffer o) := by
  have hid : field (buffer.u32 o) 0 16 = buffer.u32 o &&& 0xFFFF := field_eq_and _ 0 16
  have hversion : field (buffer.u32 o) 16 4 = (buffer.u32 o >>> 16) &&& 0xF := field_eq_and _ 16 4
  simp only [ofWord, Region.Terminates, Region.header, true_and, hid, hversion, pointer_eq_and]

/-! ### The fallible reads -/

variable {buffer : Bytes} {o : Nat}

theorem readLegacy_of_le (h : o + 2 ≤ buffer.length) :
    (readLegacy ⟨buffer, 0⟩ o).1 = .ok (Region.legacy.header buffer o) := by
  have hid := Cursor.number_of_le (show o + 1 ≤ buffer.length by omega)
  have hnext := Cursor.number_of_le (show o + 1 + 1 ≤ buffer.length by omega)
  simp only [readLegacy, hid, hnext]
  rfl

theorem readLegacy_of_lt (h : buffer.length < o + 2) :
    ∃ offset needed left,
      (readLegacy ⟨buffer, 0⟩ o).1 = .error (.outOfData offset needed left) := by
  by_cases hfirst : o + 1 ≤ buffer.length
  · -- The identifier is there, and the pointer is not.
    have hid := Cursor.number_of_le hfirst
    have hnext := Cursor.number_of_lt (show buffer.length < o + 1 + 1 by omega)
    simp only [readLegacy, hid, hnext]
    exact ⟨_, _, _, rfl⟩
  · have hid := Cursor.number_of_lt (show buffer.length < o + 1 by omega)
    simp only [readLegacy, hid]
    exact ⟨_, _, _, rfl⟩

/-- A header that lies within the readable bytes of its region is read, or ends the
list. -/
theorem read_of_le {r : Region} (h : o + r.headerSize ≤ r.readable buffer) :
    (read r ⟨buffer.take (r.readable buffer), 0⟩ o).1 =
      .ok (if r.Terminates buffer o then none else some (r.header buffer o)) := by
  have hfit : o + r.headerSize ≤ (buffer.take (r.readable buffer)).length := by
    rw [r.length_take_readable buffer]
    exact h
  cases r with
  | legacy =>
    simp only [read, readLegacy_of_le hfit, Region.header_take h, Except.map, Region.Terminates,
      reduceCtorEq, false_and, if_false]
  | extended =>
    have hword := Cursor.number_of_le (n := 4) hfit
    simp only [read, readExtended, hword]
    rw [← Bytes.u32, ofWord_eq, Region.header_take h]
    simp only [Region.terminates_take h]

theorem read_of_lt {r : Region} (h : r.readable buffer < o + r.headerSize) :
    ∃ offset needed left, (read r ⟨buffer.take (r.readable buffer), 0⟩ o).1 =
      .error (.outOfData offset needed left) := by
  have hlen := r.length_take_readable buffer
  cases r with
  | legacy =>
    obtain ⟨offset, needed, left, hread⟩ := readLegacy_of_lt (by rw [hlen]; exact h)
    exact ⟨offset, needed, left, by simp only [read, hread, Except.map]⟩
  | extended =>
    have hword := Cursor.number_of_lt (i := o) (n := 4) (by rw [hlen]; exact h)
    simp only [read, readExtended, hword]
    exact ⟨_, _, _, rfl⟩

end Header

end ConfigSpace
