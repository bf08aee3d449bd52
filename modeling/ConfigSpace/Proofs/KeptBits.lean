import ConfigSpace.Payload
import ConfigSpace.Proofs.RegisterBlocks

/-!
# Bits that are kept

A decoder keeps some of the bits of its payload and drops the others, which are reserved.  What
it decodes two payloads to is the same exactly if they agree in the bits that it keeps.  This
file says so for one word, for words one behind the other, and for a decoder of such words.

* `and_eq_and_iff` — words agree under a mask if they agree in each bit of it;
  `flag_eq_flag_iff` and `field_eq_field_iff` say this of flags and fields, and `and_or_eq_iff`
  puts masks together.
* `Keeps` — what is read of a word tells the bits of a mask, and no others.
* `Piece.Agree` — strings agree in numbers one behind the other, each under a mask of its own;
  by `Piece.masked_eq_iff` this is the same as to agree under the mask of all their bytes.
* `Preserves` — a decoder keeps such numbers, and `preserves_of_require` finds out that it does.
-/

namespace ConfigSpace

/-! ## Words -/

/-- Words agree under a mask if they agree in each of its bits. -/
theorem and_eq_and_iff (v w m : Nat) :
    v &&& m = w &&& m ↔ ∀ i, m.testBit i = true → v.testBit i = w.testBit i := by
  constructor
  · intro h i hi
    have hbit := congrArg (Nat.testBit · i) h
    simpa only [Nat.testBit_and, hi, Bool.and_true] using hbit
  · intro h
    apply Nat.eq_of_testBit_eq
    intro i
    rw [Nat.testBit_and, Nat.testBit_and]
    cases hi : m.testBit i with
    | false => rw [Bool.and_false, Bool.and_false]
    | true => rw [h i hi]

theorem and_or_eq_iff (v w m m' : Nat) :
    v &&& (m ||| m') = w &&& (m ||| m') ↔ v &&& m = w &&& m ∧ v &&& m' = w &&& m' := by
  simp only [and_eq_and_iff, Nat.testBit_or, Bool.or_eq_true, or_imp, forall_and]

theorem and_or_eq_and_iff (v w m m' : Nat) (P : Prop) :
    (v &&& (m ||| m') = w &&& (m ||| m') ∧ P) ↔
      v &&& m = w &&& m ∧ v &&& m' = w &&& m' ∧ P := by
  rw [and_or_eq_iff, and_assoc]

/-- A flag tells one bit. -/
theorem flag_eq_flag_iff (v w i : Nat) :
    flag v i = flag w i ↔ v &&& 1 <<< i = w &&& 1 <<< i := by
  simp only [and_eq_and_iff, flag, Nat.one_shiftLeft, Nat.testBit_two_pow, decide_eq_true_eq,
    forall_eq']

/-- A field tells the bits at its place. -/
theorem field_eq_field_iff (v w lo n : Nat) :
    field v lo n = field w lo n ↔ v &&& (2 ^ n - 1) <<< lo = w &&& (2 ^ n - 1) <<< lo := by
  have hplace : ∀ u, field u lo n <<< lo = u &&& (2 ^ n - 1) <<< lo :=
    (⟨"", lo, n⟩ : Place).field_shiftLeft
  rw [← hplace v, ← hplace w]
  constructor
  · exact congrArg (· <<< lo)
  · intro h
    rw [Nat.shiftLeft_eq, Nat.shiftLeft_eq] at h
    exact Nat.eq_of_mul_eq_mul_right (Nat.two_pow_pos lo) h

/-- What is read of a word tells the bits of a mask, and no others. -/
def Keeps {α : Type} (mask : Nat) (read : Nat → α) : Prop :=
  ∀ v w, read v = read w ↔ v &&& mask = w &&& mask

/-! ## Numbers one behind the other -/

/-- A number in a block: how many bytes it takes, and which of its bits are kept. -/
structure Piece where
  size : Nat
  mask : Nat
  deriving DecidableEq, Repr

namespace Piece

/-- How many bytes numbers take that are one behind the other. -/
def total (pieces : List Piece) : Nat :=
  (pieces.map size).sum

/-- The bits of their bytes that are kept. -/
def masks (pieces : List Piece) : Bytes :=
  pieces.flatMap fun c => Bytes.littleEndian c.size c.mask

/-- Two strings agree in the numbers from position `i` on, as far as these are kept. -/
def Agree (p q : Bytes) : Nat → List Piece → Prop
  | _, [] => True
  | i, c :: rest =>
      (p.window i c.size).value &&& c.mask = (q.window i c.size).value &&& c.mask ∧
        Agree p q (i + c.size) rest

/-- What is kept of a number that is read somewhere are bytes there, under the mask. -/
theorem masked_window_eq_iff {p q : Bytes} {i : Nat} (c : Piece) (hp : i + c.size ≤ p.length)
    (hq : i + c.size ≤ q.length) :
    (p.window i c.size).masked (Bytes.littleEndian c.size c.mask) =
        (q.window i c.size).masked (Bytes.littleEndian c.size c.mask) ↔
      (p.window i c.size).value &&& c.mask = (q.window i c.size).value &&& c.mask := by
  -- Each side is written by its number, which fits the bytes and so can be read back.
  have hbytes : ∀ {b : Bytes}, i + c.size ≤ b.length →
      (b.window i c.size).masked (Bytes.littleEndian c.size c.mask) =
        Bytes.littleEndian c.size ((b.window i c.size).value &&& c.mask) := by
    intro b hb
    rw [Bytes.littleEndian_and, Bytes.littleEndian_window hb]
  have hlt : ∀ b : Bytes, (b.window i c.size).value &&& c.mask < 256 ^ c.size := fun b =>
    Nat.lt_of_le_of_lt Nat.and_le_left (b.value_window_lt i c.size)
  rw [hbytes hp, hbytes hq]
  constructor
  · intro h
    have hvalue := congrArg Bytes.value h
    rwa [Bytes.value_littleEndian, Bytes.value_littleEndian, Nat.mod_eq_of_lt (hlt p),
      Nat.mod_eq_of_lt (hlt q)] at hvalue
  · exact congrArg (Bytes.littleEndian c.size)

theorem masked_drop_cons {b : Bytes} {i : Nat} (c : Piece) (rest : List Piece)
    (h : i + c.size ≤ b.length) :
    Bytes.masked (b.drop i) (masks (c :: rest)) =
      (b.window i c.size).masked (Bytes.littleEndian c.size c.mask) ++
        Bytes.masked (b.drop (i + c.size)) (masks rest) := by
  have hsplit : b.drop i = b.window i c.size ++ b.drop (i + c.size) := by
    rw [Bytes.window, ← List.drop_drop, List.take_append_drop]
  have hlen : (b.window i c.size).length = (Bytes.littleEndian c.size c.mask).length := by
    rw [Bytes.length_window, Bytes.length_littleEndian]
    omega
  rw [hsplit, masks, List.flatMap_cons, Bytes.masked_append hlen]
  rfl

/-- To agree in the numbers is to agree in the bytes, under the masks of all numbers. -/
theorem masked_drop_eq_iff {p q : Bytes} {i : Nat} {pieces : List Piece}
    (hp : i + total pieces ≤ p.length) (hq : i + total pieces ≤ q.length) :
    Bytes.masked (p.drop i) (masks pieces) = Bytes.masked (q.drop i) (masks pieces) ↔
      Agree p q i pieces := by
  induction pieces generalizing i with
  | nil => simp [masks, Bytes.masked, Agree]
  | cons c rest ih =>
    have htotal : total (c :: rest) = c.size + total rest := rfl
    have hlen : ∀ {b : Bytes}, i + c.size ≤ b.length →
        ((b.window i c.size).masked (Bytes.littleEndian c.size c.mask)).length = c.size := by
      intro b hb
      rw [Bytes.masked, List.length_zipWith, Bytes.length_window, Bytes.length_littleEndian]
      omega
    have hp' : i + c.size ≤ p.length := by omega
    have hq' : i + c.size ≤ q.length := by omega
    rw [masked_drop_cons c rest hp', masked_drop_cons c rest hq',
      List.append_eq_append_iff_of_size_eq_left ((hlen hp').trans (hlen hq').symm),
      masked_window_eq_iff c hp' hq', ih (by omega) (by omega), Agree]

theorem masked_eq_iff {p q : Bytes} {pieces : List Piece} (hp : total pieces ≤ p.length)
    (hq : total pieces ≤ q.length) :
    p.masked (masks pieces) = q.masked (masks pieces) ↔ Agree p q 0 pieces :=
  masked_drop_eq_iff (i := 0) (by omega) (by omega)

theorem length_masks (pieces : List Piece) : (masks pieces).length = total pieces := by
  induction pieces with
  | nil => rfl
  | cons c rest ih =>
    rw [masks, List.flatMap_cons, List.length_append, Bytes.length_littleEndian]
    exact congrArg (c.size + ·) ih

theorem masked_take_append {p : Bytes} {pieces : List Piece} (h : total pieces ≤ p.length)
    (tail : Bytes) :
    Bytes.masked (p.take (total pieces) ++ tail) (masks pieces) = p.masked (masks pieces) := by
  have hfirst : ∀ rest : Bytes, Bytes.masked (p.take (total pieces) ++ rest) (masks pieces) =
      Bytes.masked (p.take (total pieces)) (masks pieces) := by
    intro rest
    have hlen : (p.take (total pieces)).length = (masks pieces).length := by
      rw [length_masks, List.length_take, Nat.min_eq_left h]
    have hrest : rest.masked [] = [] := List.zipWith_nil_right
    rw [← List.append_nil (masks pieces), Bytes.masked_append hlen, hrest, List.append_nil,
      List.append_nil]
  rw [hfirst, ← hfirst (p.drop (total pieces)), List.take_append_drop]

end Piece

/-! ## Numbers that are kept whole -/

namespace Bytes.AtLeast

variable {size : Nat} (p q : AtLeast size) (i : Nat)

/-- Under all of its bits a number is itself. -/
theorem u8_eq_u8_iff (h : Nat.ble (i + 1) size = true) :
    p.u8 i h = q.u8 i h ↔ p.u8 i h &&& 0xFF = q.u8 i h &&& 0xFF := by
  have hall : ∀ r : AtLeast size, r.u8 i h &&& 0xFF = r.u8 i h := fun r =>
    (Nat.and_two_pow_sub_one_eq_mod _ 8).trans (Nat.mod_eq_of_lt (r.bytes.u8_lt i))
  rw [hall, hall]

theorem u16_eq_u16_iff (h : Nat.ble (i + 2) size = true) :
    p.u16 i h = q.u16 i h ↔ p.u16 i h &&& 0xFFFF = q.u16 i h &&& 0xFFFF := by
  have hall : ∀ r : AtLeast size, r.u16 i h &&& 0xFFFF = r.u16 i h := fun r =>
    (Nat.and_two_pow_sub_one_eq_mod _ 16).trans (Nat.mod_eq_of_lt (r.bytes.value_window_lt i 2))
  rw [hall, hall]

theorem u32_eq_u32_iff (h : Nat.ble (i + 4) size = true) :
    p.u32 i h = q.u32 i h ↔ p.u32 i h &&& 0xFFFFFFFF = q.u32 i h &&& 0xFFFFFFFF := by
  have hall : ∀ r : AtLeast size, r.u32 i h &&& 0xFFFFFFFF = r.u32 i h := fun r =>
    (Nat.and_two_pow_sub_one_eq_mod _ 32).trans (Nat.mod_eq_of_lt (r.bytes.u32_lt i))
  rw [hall, hall]

end Bytes.AtLeast

/-! ## Decoders -/

/-- A decoder keeps numbers one behind the other: it needs their bytes, and what it decodes
tells their bits under the masks, and no others. -/
structure Preserves {α : Type} (decode : Bytes → Except Fault α) (pieces : List Piece) :
    Prop where
  /-- A payload is decoded if it has all of the bytes. -/
  decodes_iff : ∀ p, (∃ a, decode p = .ok a) ↔ Piece.total pieces ≤ p.length
  /-- Two payloads are decoded to the same if they agree under the masks. -/
  eq_iff : ∀ p q a b, decode p = .ok a → decode q = .ok b →
    (a = b ↔ p.masked (Piece.masks pieces) = q.masked (Piece.masks pieces))

section Preserves

variable {α : Type} {decode : Bytes → Except Fault α} {pieces : List Piece} {name : String}
  {size : Nat} {read : Bytes.AtLeast size → α}

/-- A decoder that asks for the bytes of the numbers and reads those keeps what the reading
tells of them. -/
theorem preserves_of_require
    (hdecode : ∀ p : Bytes, decode p = p.require name size fun p => .ok (read p))
    (hsize : size = Piece.total pieces)
    (hread : ∀ p q, read p = read q ↔ Piece.Agree p.bytes q.bytes 0 pieces) :
    Preserves decode pieces := by
  have hlong : ∀ {p : Bytes} {a : α}, decode p = .ok a →
      ∃ h : size ≤ p.length, read ⟨p, h⟩ = a := by
    intro p a ha
    rw [hdecode] at ha
    rcases Nat.lt_or_ge p.length size with hlt | hle
    · rw [Bytes.require_of_lt hlt] at ha
      cases ha
    · rw [Bytes.require_of_le hle] at ha
      exact ⟨hle, Except.ok.inj ha⟩
  constructor
  · intro p
    rw [← hsize]
    constructor
    · rintro ⟨a, ha⟩
      obtain ⟨hle, -⟩ := hlong ha
      exact hle
    · intro hle
      exact ⟨_, (hdecode p).trans (Bytes.require_of_le hle)⟩
  · intro p q a b ha hb
    obtain ⟨hp, rfl⟩ := hlong ha
    obtain ⟨hq, rfl⟩ := hlong hb
    rw [hread, Piece.masked_eq_iff (hsize ▸ hp) (hsize ▸ hq)]

/-- A payload that is decoded has the same result as any other that agrees with it. -/
theorem Preserves.decode_eq_iff (h : Preserves decode pieces) {p q : Bytes} {a : α}
    (ha : decode p = .ok a) (hq : Piece.total pieces ≤ q.length) :
    decode q = .ok a ↔ p.masked (Piece.masks pieces) = q.masked (Piece.masks pieces) := by
  obtain ⟨b, hb⟩ := (h.decodes_iff q).2 hq
  rw [← h.eq_iff p q a b ha hb, hb, Except.ok.injEq, eq_comm]

theorem Preserves.decode_take_append (h : Preserves decode pieces) {p : Bytes} {a : α}
    (ha : decode p = .ok a) (tail : Bytes) :
    decode (p.take (Piece.total pieces) ++ tail) = .ok a := by
  have hlong : Piece.total pieces ≤ p.length := (h.decodes_iff p).1 ⟨a, ha⟩
  have hq : Piece.total pieces ≤ (p.take (Piece.total pieces) ++ tail).length := by
    rw [List.length_append, List.length_take]
    omega
  exact (h.decode_eq_iff ha hq).2 (Piece.masked_take_append hlong tail).symm

end Preserves

end ConfigSpace
