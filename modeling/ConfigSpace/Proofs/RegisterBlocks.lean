import ConfigSpace.Proofs.RegisterFields
import ConfigSpace.Proofs.Writing

/-!
# Blocks of registers

A block is a run of registers one behind the other.  This file says what it is for a decoded
structure to hold a register, and for a decoded block to hold all of its registers: written
again, they are the bytes they were read from, with the reserved bits cleared.

* `Description.leaves` — the values that a structure shows, in the order in which they are
  declared.
* `Register.Shows` — a description shows a word: its values are the fields of the register,
  and the layout puts them together to the word, with its reserved bits cleared.
* `Bytes.field_u16` and `Bytes.field_value` — fields that lie in one byte of a word, and those
  that are one byte of a number.
* `Bytes.masked` — a string of which only some bits are kept; `Register.Shows.encode_eq` says
  that the bytes of a register are those that it was read from, masked.
* `Bytes.MaskedParts.flatten_eq` — so are the bytes of several registers that follow each
  other.
-/

namespace ConfigSpace

/-! ## Sizes of registers -/

theorem Layout.mem_sizes_8 : 8 ∈ [8, 16, 32, 64] := by decide

theorem Layout.mem_sizes_16 : 16 ∈ [8, 16, 32, 64] := by decide

theorem Layout.mem_sizes_32 : 32 ∈ [8, 16, 32, 64] := by decide

/-! ## Values in the order of their declaration -/

namespace Description

mutual

/-- The named values of a record and of the records in it, in the order in which they are
declared. -/
def leaves : Description → List (String × Description)
  | .record fields _ => leavesOfParts fields
  | _ => []
termination_by structural d => d

/-- The named values of several parts. -/
def leavesOfParts : List (String × Description) → List (String × Description)
  | [] => []
  | part :: rest => leavesOfPart part ++ leavesOfParts rest
termination_by structural parts => parts

/-- The named values of one part: itself, unless it is a record. -/
def leavesOfPart : String × Description → List (String × Description)
  | (_, .record fields derived) => leaves (.record fields derived)
  | (name, d) => [(name, d)]
termination_by structural part => part

end

end Description

/-! ## Registers that are shown -/

namespace Register

/-- A description shows a word in a register, of which the bits outside a mask are reserved. -/
structure Shows (r : Register) (mask w : Nat) (d : Description) : Prop where
  /-- Its values are the fields of the register, in their order. -/
  leaves_eq : d.leaves = r.fields w
  /-- The layout puts them together to the word. -/
  compose_eq : r.compose d.leaves = .ok (w &&& mask)

/-- To show what the word has at the places of the fields is to show the word. -/
theorem shows {r : Register} {mask w : Nat} {d : Description} (hmask : r.mask = mask)
    (h : d.leaves = r.places.map fun p => (p.name, p.shown w)) : r.Shows mask w d := by
  rw [← r.fields_eq] at h
  refine ⟨h, ?_⟩
  rw [h, r.compose_fields, hmask]

/-- The `n` bytes of a register with the values that a description shows; there are none if
these are not as many as the register has fields. -/
def encode (r : Register) (n : Nat) (d : Description) : Bytes :=
  match r.compose d.leaves with
  | .ok w => Bytes.littleEndian n w
  | .error _ => []

end Register

/-! ## Fields of one byte -/

/-- The fields in the upper half of a word are those of its second byte. -/
theorem Bytes.field_u16 (b : Bytes) (i lo n : Nat) :
    field (b.u16 i) (8 + lo) n = field (b.u8 (i + 1)) lo n := by
  have hfirst := b.u8_lt i
  have hhalf : b.u16 i >>> 8 = b.u8 (i + 1) := by
    rw [u16_eq, Nat.shiftRight_eq_div_pow]
    omega
  rw [field, Nat.shiftRight_add, hhalf, field]

/-- Eight bits of the number from a multiple of 8 on are one of the bytes. -/
theorem Bytes.field_value (b : Bytes) (k : Nat) : field b.value (8 * k) 8 = b.u8 k := by
  apply Nat.eq_of_testBit_eq
  intro i
  rw [testBit_field, testBit_value]
  by_cases hi : i < 8
  · rw [decide_eq_true hi, Bool.true_and, Nat.mul_add_div (by decide), Nat.div_eq_of_lt hi,
      Nat.mul_add_mod, Nat.mod_eq_of_lt hi, Nat.add_zero]
  · have hpow : 2 ^ 8 ≤ 2 ^ i := Nat.pow_le_pow_right (by decide) (Nat.not_lt.1 hi)
    rw [decide_eq_false hi, Bool.false_and,
      Nat.testBit_lt_two_pow (Nat.lt_of_lt_of_le (b.u8_lt k) hpow)]

/-- A field that reaches to the top of a number is what is left of it above the bits below. -/
theorem field_of_lt {w lo n : Nat} (h : w < 2 ^ (lo + n)) : field w lo n = w >>> lo := by
  rw [field, Nat.one_shiftLeft]
  apply Nat.mod_eq_of_lt
  rw [Nat.shiftRight_eq_div_pow, Nat.div_lt_iff_lt_mul (Nat.two_pow_pos lo), ← Nat.pow_add,
    Nat.add_comm]
  exact h

/-! ## Masked bytes -/

namespace Bytes

/-- The string with only those of its bits that a mask has. -/
def masked (b mask : Bytes) : Bytes :=
  List.zipWith (· &&& ·) b mask

/-- A masked number is written by the bytes of the number, masked by those of the mask. -/
theorem littleEndian_and (n v m : Nat) :
    littleEndian n (v &&& m) = (littleEndian n v).masked (littleEndian n m) := by
  induction n generalizing v m with
  | zero => rfl
  | succ n ih =>
    have hbyte : UInt8.ofNat (v &&& m) = UInt8.ofNat v &&& UInt8.ofNat m := by
      apply UInt8.toNat_inj.1
      simp only [UInt8.toNat_ofNat', UInt8.toNat_and]
      exact Nat.and_mod_two_pow (n := 8)
    have hrest : (v &&& m) / 256 = v / 256 &&& m / 256 := Nat.and_div_two_pow (n := 8)
    rw [littleEndian, hbyte, hrest, ih]
    rfl

theorem masked_replicate (b : Bytes) : b.masked (List.replicate b.length 0xFF) = b := by
  induction b with
  | nil => rfl
  | cons x rest ih =>
    have hx : x &&& 0xFF = x := by
      apply UInt8.toNat_inj.1
      rw [UInt8.toNat_and]
      exact (Nat.and_two_pow_sub_one_eq_mod x.toNat 8).trans (Nat.mod_eq_of_lt x.toNat_lt)
    rw [List.length_cons, List.replicate_succ]
    exact congrArg₂ List.cons hx ih

theorem masked_append {a b m m' : Bytes} (h : a.length = m.length) :
    (a ++ b).masked (m ++ m') = a.masked m ++ b.masked m' :=
  List.zipWith_append h

/-- A number that is read somewhere is written by the bytes there. -/
theorem littleEndian_eq_masked {b : Bytes} {i n : Nat} (h : i + n ≤ b.length) :
    littleEndian n (b.window i n).value = (b.window i n).masked (List.replicate n 0xFF) := by
  have hlen : (b.window i n).length = n := by
    rw [length_window]
    omega
  have hall := (b.window i n).masked_replicate
  rw [hlen] at hall
  rw [littleEndian_window h, hall]

theorem replicate_eq_masked {b : Bytes} {i n : Nat} (h : i + n ≤ b.length) :
    List.replicate n 0 = (b.window i n).masked (List.replicate n 0) := by
  have hlen : (b.window i n).length = n := by
    rw [length_window]
    omega
  refine (List.eq_replicate_iff.2 ⟨by simp [masked, hlen], fun x hx => ?_⟩).symm
  obtain ⟨k, hk, rfl⟩ := List.getElem_of_mem hx
  simp [masked]

/-- Strings that are parts of another one from position `i` on, one behind the other, each with
only those of its bits that its mask has. -/
inductive MaskedParts (b : Bytes) : Nat → List Bytes → List Bytes → Prop where
  | nil (i : Nat) : MaskedParts b i [] []
  | cons {i : Nat} {mask part : Bytes} {masks parts : List Bytes}
      (head : part = (b.window i mask.length).masked mask)
      (tail : MaskedParts b (i + mask.length) masks parts) :
      MaskedParts b i (mask :: masks) (part :: parts)

/-- Together they are what their masks together leave of the string. -/
theorem MaskedParts.flatten_eq {b : Bytes} {i : Nat} {masks parts : List Bytes}
    (h : b.MaskedParts i masks parts) (hfit : i + masks.flatten.length ≤ b.length) :
    parts.flatten = (b.window i masks.flatten.length).masked masks.flatten := by
  induction h with
  | nil i => simp [masked]
  | @cons i mask part masks parts head tail ih =>
    rw [List.flatten_cons, List.length_append] at hfit
    have hlen : (b.window i mask.length).length = mask.length := by
      rw [length_window]
      omega
    rw [List.flatten_cons, List.flatten_cons, List.length_append, head, ih (by omega),
      ← b.window_append_window, masked_append hlen]

end Bytes

/-- The bytes of a register that shows a word are those that the word was read from, masked. -/
theorem Register.Shows.encode_eq {r : Register} {mask : Nat} {d : Description} {b : Bytes}
    {i n : Nat} (h : r.Shows mask (b.window i n).value d) (hfit : i + n ≤ b.length) :
    r.encode n d = (b.window i n).masked (Bytes.littleEndian n mask) := by
  rw [encode, h.compose_eq]
  simp only [Bytes.littleEndian_and, Bytes.littleEndian_window hfit]

end ConfigSpace
