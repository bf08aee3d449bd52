/-!
# Byte strings

Configuration space is a string of bytes.  This file fixes the string type and
the few ways in which everything else looks at it:

* `Bytes.value` — the number a string writes, least significant byte first;
* `Bytes.window` — a run of bytes by position and length;
* `Bytes.u8`, `Bytes.u16`, `Bytes.u32` — the number at a position, where bytes
  that are not there count as zero;
* `Bytes.AtLeast` — a string that is known to be long enough.  Its numbers are read
  with a proof that they lie within the known length, which is found on its own,
  so what has not been checked to be there cannot be read;
* `Bytes.slice` — a run between two positions, where a negative position counts
  from the end;
* `Bytes.overwrite` — the string after some of its bytes have been replaced.
-/

namespace ConfigSpace

/-- A string of bytes, in address order. -/
abbrev Bytes := List UInt8

/-- Where position `i` falls in a sequence of `n` places: a negative position
counts from the end, and one outside is moved to the nearer end. -/
def clampPosition (n : Nat) (i : Int) : Nat :=
  min n (if i < 0 then i + n else i).toNat

namespace Bytes

/-! ## Little-endian numbers -/

/-- The number a byte string writes, least significant byte first. -/
def value : Bytes → Nat
  | [] => 0
  | b :: rest => b.toNat + 256 * value rest

@[simp] theorem value_nil : value [] = 0 := rfl

@[simp] theorem value_cons (b : UInt8) (rest : Bytes) :
    value (b :: rest) = b.toNat + 256 * value rest := rfl

/-! ## Windows and registers -/

/-- The `n` bytes from position `i` on, or as many of them as there are. -/
def window (b : Bytes) (i n : Nat) : Bytes :=
  (b.drop i).take n

@[simp] theorem length_window (b : Bytes) (i n : Nat) :
    (b.window i n).length = min n (b.length - i) := by
  simp [window]

/-- The byte at position `i`. -/
def u8 (b : Bytes) (i : Nat) : Nat :=
  (b.window i 1).value

/-- The 16-bit word at position `i`. -/
def u16 (b : Bytes) (i : Nat) : Nat :=
  (b.window i 2).value

/-- The 32-bit word at position `i`. -/
def u32 (b : Bytes) (i : Nat) : Nat :=
  (b.window i 4).value

/-- The `n` 32-bit words from position `i` on. -/
def words32 (b : Bytes) (i n : Nat) : List Nat :=
  (List.range n).map fun k => b.u32 (i + 4 * k)

/-! ## Strings that are long enough -/

/-- A string that is known to hold at least `size` bytes. -/
structure AtLeast (size : Nat) where
  /-- The whole string. -/
  bytes : Bytes
  /-- The string is long enough. -/
  size_le : size ≤ bytes.length

/-- The string, if it holds at least `size` bytes. -/
def atLeast? (b : Bytes) (size : Nat) : Option (AtLeast size) :=
  if h : size ≤ b.length then some ⟨b, h⟩ else none

/-- The string, all of whose bytes may be read. -/
def all (b : Bytes) : AtLeast b.length :=
  ⟨b, Nat.le_refl b.length⟩

theorem atLeast?_of_le {b : Bytes} {size : Nat} (h : size ≤ b.length) :
    b.atLeast? size = some ⟨b, h⟩ :=
  dif_pos h

theorem atLeast?_of_lt {b : Bytes} {size : Nat} (h : b.length < size) :
    b.atLeast? size = none :=
  dif_neg (Nat.not_le.2 h)

namespace AtLeast

variable {size : Nat}

/-- The byte at position `i`. -/
def u8 (p : AtLeast size) (i : Nat)
    (_h : Nat.ble (i + 1) size = true := by
      first | exact Eq.refl true | exact Nat.ble_eq_true_of_le (by omega)) : Nat :=
  p.bytes.u8 i

/-- The 16-bit word at position `i`. -/
def u16 (p : AtLeast size) (i : Nat)
    (_h : Nat.ble (i + 2) size = true := by
      first | exact Eq.refl true | exact Nat.ble_eq_true_of_le (by omega)) : Nat :=
  p.bytes.u16 i

/-- The 32-bit word at position `i`. -/
def u32 (p : AtLeast size) (i : Nat)
    (_h : Nat.ble (i + 4) size = true := by
      first | exact Eq.refl true | exact Nat.ble_eq_true_of_le (by omega)) : Nat :=
  p.bytes.u32 i

/-- The `n` 32-bit words from position `i` on. -/
def words32 (p : AtLeast size) (i n : Nat)
    (_h : Nat.ble (i + 4 * n) size = true := by
      first | exact Eq.refl true | exact Nat.ble_eq_true_of_le (by omega)) : List Nat :=
  p.bytes.words32 i n

/-- The `n` bytes from position `i` on. -/
def window (p : AtLeast size) (i n : Nat)
    (_h : Nat.ble (i + n) size = true := by
      first | exact Eq.refl true | exact Nat.ble_eq_true_of_le (by omega)) : Bytes :=
  p.bytes.window i n

end AtLeast

/-! ## Positions that may count from the end -/

/-- The bytes from position `start` up to position `stop`, where a negative
position counts from the end and one outside is moved to the nearer end. -/
def slice (b : Bytes) (start stop : Int) : Bytes :=
  b.window (clampPosition b.length start)
    (clampPosition b.length stop - clampPosition b.length start)

/-! ## Change -/

/-- The string after `patch` has been copied over its bytes from position `i`
on.  A patch that fits leaves the length alone. -/
def overwrite (b : Bytes) (i : Nat) (patch : Bytes) : Bytes :=
  b.take i ++ patch ++ b.drop (i + patch.length)

theorem length_overwrite (b : Bytes) (i : Nat) (patch : Bytes)
    (h : i + patch.length ≤ b.length) : (b.overwrite i patch).length = b.length := by
  simp only [overwrite, List.length_append, List.length_take, List.length_drop]
  omega

end Bytes

end ConfigSpace
