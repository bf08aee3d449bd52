import ConfigSpace.Bytes
import ConfigSpace.Sequence
import ConfigSpace.Text.Hex

/-!
# The offsets a walk has visited

A walk marks every offset it finds a capability at, so that it can tell when the
list leads back to one of them.  The marks form a finite set of *slots*, each of
`granularity` consecutive offsets.  They are packed, eight of them to a byte: slot
`i` has bit `i % 8` of byte `i / 8`, and the last byte may have bits that belong to
no slot.

* `Visited.mark` and `Visited.marked` work on a slot; that there is a byte for it is
  known from the set itself (`Visited.lt_length_marks`).
* `Visited.add` marks the slot of an offset and fails for an offset that has
  none; `Visited.contains` is total, and false for such an offset.
* `marked_mark` — marking a slot marks this one and leaves the others alone.
* `contains_add` — after marking an offset exactly the offsets of its slot have
  been added to the set.

`Visited.Op` names the two operations, so that a whole sequence of them is a value;
`Visited.perform` carries one out and `Visited.run` a sequence.
-/

namespace ConfigSpace

/-- An offset that configuration space does not have. -/
inductive OffsetError where
  /-- The offset has no slot among the visited ones. -/
  | outsideBitmap (offset : Int)
  /-- Counting from the end of the readable bytes leads to no byte. -/
  | unaddressed
  deriving DecidableEq, Repr

/-- The wording of an offset error, where it has one. -/
def OffsetError.message? : OffsetError → Option String
  | .outsideBitmap offset => some s!"offset {Text.hex offset} outside bitmap"
  | .unaddressed => none

/-- A set of visited offsets. -/
structure Visited where
  /-- The number of slots. -/
  slots : Nat
  /-- The number of offsets in each slot.  With a negative number the slots follow
  each other downwards from offset zero. -/
  granularity : Int := 1
  /-- Bit `i % 8` of byte `i / 8` tells whether slot `i` is marked. -/
  marks : Bytes := List.replicate ((slots + 7) / 8) 0
  /-- There is a byte for every slot. -/
  length_marks : marks.length = (slots + 7) / 8 := by exact List.length_replicate
  deriving DecidableEq, Repr

namespace Visited

/-- The set in which nothing is marked. -/
def empty (slots : Nat) (granularity : Int := 1) : Visited :=
  { slots, granularity }

variable {v v' : Visited} {o : Int} {s t : Nat}

/-! ## Slots -/

/-- The slot of an offset, if it has one. -/
def slot? (v : Visited) (offset : Int) : Option Nat :=
  let s := offset.fdiv v.granularity
  if 0 ≤ s ∧ s < v.slots then some s.toNat else none

/-- Slots that follow each other upwards are told apart by Euclidean division. -/
theorem slot?_eq {v : Visited} (h : 0 ≤ v.granularity) (offset : Int) :
    v.slot? offset =
      if 0 ≤ offset / v.granularity ∧ offset / v.granularity < v.slots then
        some (offset / v.granularity).toNat
      else none := by
  simp only [slot?, Int.fdiv_eq_ediv_of_nonneg offset h]

theorem lt_slots (h : v.slot? o = some s) : s < v.slots := by
  simp only [slot?] at h
  split at h
  · cases h
    omega
  · cases h

theorem lt_length_marks (v : Visited) (hs : s < v.slots) : s >>> 3 < v.marks.length := by
  rw [v.length_marks, Nat.shiftRight_eq_div_pow]
  omega

/-! ## Marks -/

/-- The byte in which only the bit of slot `s` is set. -/
def bitMask (s : Nat) : UInt8 :=
  1 <<< UInt8.ofNat (s &&& 7)

/-- The byte that the bit of a slot lies in. -/
def byteOf (v : Visited) (s : Nat) (hs : s < v.slots) : UInt8 :=
  v.marks.get ⟨s >>> 3, v.lt_length_marks hs⟩

/-- Marks a slot. -/
def mark (v : Visited) (s : Nat) (hs : s < v.slots) : Visited :=
  { v with
    marks := v.marks.set (s >>> 3) (v.byteOf s hs ||| bitMask s)
    length_marks := by rw [List.length_set, v.length_marks] }

/-- Marking a slot changes neither which slots there are, nor how many offsets each has. -/
@[simp] theorem slots_mark (hs : s < v.slots) : (v.mark s hs).slots = v.slots := rfl

@[simp] theorem granularity_mark (hs : s < v.slots) :
    (v.mark s hs).granularity = v.granularity := rfl

@[simp] theorem slot?_mark (hs : s < v.slots) (offset : Int) :
    (v.mark s hs).slot? offset = v.slot? offset := rfl

/-- Whether a slot is marked. -/
def marked (v : Visited) (s : Nat) (hs : s < v.slots) : Bool :=
  v.byteOf s hs &&& bitMask s != 0

/-- Bit `s % 8` is the only one set in the byte of slot `s`. -/
theorem testBit_bitMask (s i : Nat) : (bitMask s).toNat.testBit i = decide (s % 8 = i) := by
  have hlow : s &&& 7 = s % 8 := Nat.and_two_pow_sub_one_eq_mod s 3
  have hlt : 2 ^ (s % 8) < 2 ^ 8 := Nat.pow_lt_pow_right (by decide) (Nat.mod_lt s (by decide))
  have hmask : (bitMask s).toNat = 2 ^ (s % 8) := by
    rw [bitMask, hlow, UInt8.toNat_shiftLeft, UInt8.toNat_ofNat', UInt8.toNat_one,
      Nat.mod_eq_of_lt (show s % 8 < 2 ^ 8 by omega), Nat.mod_mod, Nat.one_shiftLeft,
      Nat.mod_eq_of_lt hlt]
  rw [hmask, Nat.testBit_two_pow]

theorem marked_iff (hs : s < v.slots) :
    v.marked s hs = true ↔ (v.byteOf s hs).toNat.testBit (s % 8) = true := by
  -- The byte and the mask of the slot have at most one bit in common.
  have hcommon : ∀ i, (v.byteOf s hs &&& bitMask s).toNat.testBit i =
      ((v.byteOf s hs).toNat.testBit i && decide (s % 8 = i)) := by
    intro i
    rw [UInt8.toNat_and, Nat.testBit_and, testBit_bitMask]
  rw [marked, bne_iff_ne, ne_eq, ← UInt8.toNat_inj, UInt8.toNat_zero]
  constructor
  · intro hne
    obtain ⟨i, hi⟩ := Nat.exists_testBit_of_ne_zero hne
    rw [hcommon, Bool.and_eq_true, decide_eq_true_eq] at hi
    rw [hi.2]
    exact hi.1
  · intro hbit hzero
    have hset := hcommon (s % 8)
    rw [hzero, Nat.zero_testBit, hbit, decide_eq_true rfl] at hset
    cases hset

/-- Marking a slot sets a bit in its byte, and leaves the other bytes alone. -/
theorem byteOf_mark (hs : s < v.slots) (ht : t < (v.mark s hs).slots) :
    (v.mark s hs).byteOf t ht =
      if s >>> 3 = t >>> 3 then v.byteOf t (v.slots_mark hs ▸ ht) ||| bitMask s
      else v.byteOf t (v.slots_mark hs ▸ ht) := by
  simp only [byteOf, mark, List.get_eq_getElem, List.getElem_set]
  split
  · rename_i hbyte
    simp only [hbyte]
  · rfl

/-- Marking a slot marks this one, and leaves the others alone. -/
theorem marked_mark (hs : s < v.slots) (ht : t < (v.mark s hs).slots) :
    (v.mark s hs).marked t ht = true ↔
      t = s ∨ v.marked t (v.slots_mark hs ▸ ht) = true := by
  -- Slots are told apart by their byte and their bit in it.
  have hslot : s >>> 3 = t >>> 3 ∧ s % 8 = t % 8 ↔ t = s := by
    rw [Nat.shiftRight_eq_div_pow, Nat.shiftRight_eq_div_pow]
    omega
  rw [marked_iff, marked_iff, byteOf_mark]
  split
  · rename_i hbyte
    rw [UInt8.toNat_or, Nat.testBit_or, testBit_bitMask, Bool.or_eq_true, decide_eq_true_eq,
      ← hslot, or_comm, and_iff_right hbyte]
  · rename_i hbyte
    have hne : t ≠ s := fun h => hbyte (by rw [h])
    rw [or_iff_right hne]

/-! ## Offsets -/

/-- Marks the slot of an offset. -/
def add (v : Visited) (offset : Int) : Except OffsetError Visited :=
  match h : v.slot? offset with
  | none => .error (.outsideBitmap offset)
  | some s => .ok (v.mark s (lt_slots h))

/-- Whether the slot of an offset is marked. -/
def contains (v : Visited) (offset : Int) : Bool :=
  match h : v.slot? offset with
  | none => false
  | some s => v.marked s (lt_slots h)

theorem add_of_none (h : v.slot? o = none) : v.add o = .error (.outsideBitmap o) := by
  unfold add
  split
  · rfl
  · rename_i hs
    cases h.symm.trans hs

theorem add_of_some (h : v.slot? o = some s) : v.add o = .ok (v.mark s (lt_slots h)) := by
  unfold add
  split
  · rename_i hs
    cases h.symm.trans hs
  · rename_i hs
    cases h.symm.trans hs
    rfl

theorem contains_of_none (h : v.slot? o = none) : v.contains o = false := by
  unfold contains
  split
  · rfl
  · rename_i hs
    cases h.symm.trans hs

theorem contains_of_some (h : v.slot? o = some s) : v.contains o = v.marked s (lt_slots h) := by
  unfold contains
  split
  · rename_i hs
    cases h.symm.trans hs
  · rename_i hs
    cases h.symm.trans hs
    rfl

theorem exists_of_add (h : v.add o = .ok v') :
    ∃ s, ∃ hs : s < v.slots, v.slot? o = some s ∧ v' = v.mark s hs := by
  cases hslot : v.slot? o with
  | none =>
    rw [add_of_none hslot] at h
    cases h
  | some s =>
    rw [add_of_some hslot] at h
    cases h
    exact ⟨s, lt_slots hslot, rfl, rfl⟩

/-- After an offset has been added, an offset is in the set if it was there
before or shares the slot of the one added. -/
theorem contains_add (h : v.add o = .ok v') (o' : Int) :
    v'.contains o' = (v.contains o' || (v.slot? o' == v.slot? o)) := by
  obtain ⟨s, hs, hslot, rfl⟩ := exists_of_add h
  cases hslot' : v.slot? o' with
  | none =>
    rw [contains_of_none hslot', contains_of_none ((slot?_mark hs o').trans hslot'), hslot]
    rfl
  | some t =>
    rw [contains_of_some hslot', contains_of_some ((slot?_mark hs o').trans hslot'), hslot,
      Bool.eq_iff_iff, marked_mark, Bool.or_eq_true, beq_iff_eq, Option.some.injEq]
    exact or_comm

theorem contains_empty (slots : Nat) (granularity offset : Int) :
    (empty slots granularity).contains offset = false := by
  cases hslot : (empty slots granularity).slot? offset with
  | none => exact contains_of_none hslot
  | some s =>
    rw [contains_of_some hslot]
    simp [marked, byteOf, empty]

/-! ## Operations as values -/

/-- What can be done with a set. -/
inductive Op where
  /-- Add an offset. -/
  | add (offset : Int)
  /-- Ask whether an offset is in the set. -/
  | contains (offset : Int)
  deriving DecidableEq, Repr

/-- What an operation answers: a question is answered with a truth value, and an offset
may be refused. -/
abbrev Answer :=
  Except OffsetError (Option Bool)

/-- Carries out one operation: its answer, and the set afterwards. -/
def perform (v : Visited) : Op → Answer × Visited
  | .add offset =>
      match v.add offset with
      | .ok v' => (.ok none, v')
      | .error e => (.error e, v)
  | .contains offset => (.ok (some (v.contains offset)), v)

/-- Carries out operations one after the other. -/
def run (v : Visited) (ops : List Op) : List Answer × Visited :=
  performAll perform v ops

end Visited

end ConfigSpace
