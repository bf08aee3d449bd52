import ConfigSpace.Bytes
import ConfigSpace.Error
import ConfigSpace.Sequence

/-!
# Reading bytes in order

A cursor is a byte string and the position of the next byte to read.  Reading
moves the cursor over what was read; a read that would cross the end of the
string fails and leaves the cursor where it is.  Looking at a position
(`Cursor.peek`) never moves it.

The position is an integer: it may lie past the end, where even an empty read
fails, and it may be negative, where it counts from the end of the string.  A
read that starts so far before the end that it wraps around finds fewer bytes
than it asked for.

`Cursor.Op` names the operations, so that a whole sequence of them is a value,
`Cursor.perform` carries one out and `Cursor.run` a sequence.
-/

namespace ConfigSpace

/-- Why a read fails. -/
inductive ReadError where
  /-- Fewer than `needed` bytes are left at `offset`. -/
  | outOfData (offset needed available : Int)
  /-- A read of less than no bytes was asked for. -/
  | negativeSize (size : Int)
  /-- A position before the end led to fewer than `size` bytes. -/
  | wrapped (size : Nat)
  deriving DecidableEq, Repr

/-- The wording of a read error, where it has one. -/
def ReadError.message? : ReadError → Option String
  | .outOfData offset needed available => some (Fault.outOfData offset needed available).message
  | .negativeSize size => some s!"Invalid read size {size}"
  | .wrapped _ => none

/-- A byte string and the position of the next byte to read. -/
structure Cursor where
  /-- The bytes that are read. -/
  data : Bytes
  /-- The position of the next byte. -/
  offset : Int := 0
  deriving DecidableEq, Repr

namespace Cursor

/-- How many bytes are left; none once the cursor is past the end. -/
def remaining (c : Cursor) : Int :=
  max 0 (c.data.length - c.offset)

/-! ## Reading -/

/-- Reads `n` bytes. -/
def take (c : Cursor) (n : Int) : Except ReadError Bytes × Cursor :=
  if n < 0 then (.error (.negativeSize n), c)
  else if c.data.length < c.offset + n then (.error (.outOfData c.offset n c.remaining), c)
  else (.ok (c.data.slice c.offset (c.offset + n)), { c with offset := c.offset + n })

/-- Reads a number of `n` bytes. -/
def number (c : Cursor) (n : Nat) : Except ReadError Nat × Cursor :=
  match c.take n with
  | (.error e, c') => (.error e, c')
  | (.ok b, c') => if b.length = n then (.ok b.value, c') else (.error (.wrapped n), c')

/-- Reads everything that is left. -/
def rest (c : Cursor) : Except ReadError Bytes × Cursor :=
  c.take c.remaining

/-- The number of `n` bytes at position `i`, wherever the cursor stands. -/
def peek (c : Cursor) (n : Nat) (i : Int) : Except ReadError Nat :=
  if i < 0 ∨ c.data.length < i + n then .error (.outOfData i n (max 0 (c.data.length - i)))
  else .ok (c.data.window i.toNat n).value

/-- The byte at position `i`, wherever the cursor stands. -/
def peekByte (c : Cursor) (i : Int) : Except ReadError Nat :=
  if 0 ≤ i ∧ i < c.data.length then .ok (c.data.u8 i.toNat)
  else .error (.outOfData i 1 (max 0 (c.data.length - i)))

/-- Looking at a byte is looking at a number of one byte. -/
theorem peekByte_eq (c : Cursor) (i : Int) : c.peekByte i = c.peek 1 i := by
  unfold peekByte peek
  by_cases h : 0 ≤ i ∧ i < c.data.length
  · rw [if_pos h, if_neg (by omega)]
    rfl
  · rw [if_neg h, if_pos (by omega)]
    rfl

/-! ## Operations as values -/

/-- What can be done with a cursor. -/
inductive Op where
  /-- Read a number of so many bytes. -/
  | number (size : Nat)
  /-- Read so many bytes as they are. -/
  | exact (size : Int)
  /-- Read everything that is left. -/
  | rest
  /-- Move over so many bytes. -/
  | skip (size : Int)
  /-- Look at the number of `size` bytes at a position. -/
  | peek (size : Nat) (position : Int)
  /-- Go to a position. -/
  | seek (position : Int)
  deriving DecidableEq, Repr

/-- What an operation answers. -/
inductive Reading where
  | number (n : Nat)
  | bytes (b : Bytes)
  | nothing
  deriving DecidableEq, Repr

/-- Carries out one operation: its answer, and the cursor afterwards. -/
def perform (c : Cursor) : Op → Except ReadError Reading × Cursor
  | .number n => let (r, c') := c.number n; (r.map .number, c')
  | .exact n => let (r, c') := c.take n; (r.map .bytes, c')
  | .rest => let (r, c') := c.rest; (r.map .bytes, c')
  | .skip n => let (r, c') := c.take n; (r.map fun _ => .nothing, c')
  | .peek n i => ((if n = 1 then c.peekByte i else c.peek n i).map .number, c)
  | .seek i => (.ok .nothing, { c with offset := i })

/-- Numbers of all sizes are looked at in one way. -/
theorem perform_peek (c : Cursor) (n : Nat) (i : Int) :
    c.perform (.peek n i) = ((c.peek n i).map .number, c) := by
  simp only [perform, peekByte_eq]
  split
  · rename_i hn
    rw [hn]
  · rfl

/-- Carries out operations one after the other. -/
def run (c : Cursor) (ops : List Op) : List (Except ReadError Reading) × Cursor :=
  performAll perform c ops

/-! ## Required prefixes -/

/-- A cursor at the start of `data`, which must hold at least `size` bytes of the
structure called `name`. -/
def mandatory (data : Bytes) (size : Int) (name : String) : Except Fault Cursor :=
  if data.length < size then .error (.unreadable name size data.length)
  else .ok { data }

end Cursor

end ConfigSpace
