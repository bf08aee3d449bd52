/-!
# Bit fields

A register is a word cut into fields, the least significant one first.  This
file has the two ways of looking at it:

* `field` and `flag` read one field of a register by position;
* `Bits.unpack` and `Bits.pack` cut a whole word by a list of widths and put it
  together again.  They work on unbounded two's complement integers, so that
  negative words and values too large for their field have a meaning too.

`Bits.bit` and `Bits.merge` look at the single bits of such integers, and
`bit_merge` says how they belong together.

Widths that come from outside are checked by `Bits.widths`; a field one bit wide
is a flag and every other one a number, which is what `FieldValue` keeps apart.
-/

namespace ConfigSpace

/-! ## One field of a register -/

/-- The `n` bits of the word `w` from bit `lo` on. -/
def field (w lo n : Nat) : Nat :=
  (w >>> lo) % (1 <<< n)

/-- Bit `i` of the word `w`. -/
def flag (w i : Nat) : Bool :=
  w.testBit i

namespace Bits

/-! ## A word and its fields -/

/-- The fields of the word `w`, one for each width. -/
def unpack (w : Int) : List Nat → List Nat
  | [] => []
  | n :: rest => (w % (1 <<< n : Nat)).toNat :: unpack (w / (1 <<< n : Nat)) rest

/-- The word with the given fields; of each field only the bits that fit its
width count. -/
def pack : List Int → List Nat → Nat
  | v :: vs, n :: rest => (v % (1 <<< n : Nat)).toNat + pack vs rest <<< n
  | _, _ => 0

@[simp] theorem length_unpack (w : Int) (widths : List Nat) :
    (unpack w widths).length = widths.length := by
  induction widths generalizing w with
  | nil => rfl
  | cons n rest ih => simp [unpack, ih]

/-! ## Single bits of integers -/

/-- Bit `i` of the integer `w` in two's complement. -/
def bit : Int → Nat → Bool
  | .ofNat n, i => n.testBit i
  | .negSucc n, i => !n.testBit i

/-- The integer with the bits of both integers.  A negative integer has the bits
that its complement does not have, so of that complement the bits go that the
other integer has. -/
def merge : Int → Int → Int
  | .ofNat m, .ofNat n => .ofNat (m ||| n)
  | .ofNat m, .negSucc n => .negSucc (n ^^^ (n &&& m))
  | .negSucc m, .ofNat n => .negSucc (m ^^^ (m &&& n))
  | .negSucc m, .negSucc n => .negSucc (m &&& n)

theorem bit_natCast (n i : Nat) : bit n i = n.testBit i := rfl

/-- Merged integers have a bit if one of them has it. -/
theorem bit_merge (v w : Int) (i : Nat) : bit (merge v w) i = (bit v i || bit w i) := by
  cases v <;> cases w <;>
    simp only [merge, bit, Nat.testBit_or, Nat.testBit_and, Nat.testBit_xor]
  case ofNat.negSucc m n => cases m.testBit i <;> cases n.testBit i <;> rfl
  case negSucc.ofNat m n => cases m.testBit i <;> cases n.testBit i <;> rfl
  case negSucc.negSucc m n => rw [Bool.not_and]

/-! ## Widths -/

/-- The number of bits that fields of the given widths take. -/
def total (widths : List Nat) : Nat :=
  widths.foldr (· + ·) 0

/-! ## Widths and values from outside -/

/-- Why a word cannot be cut or put together. -/
inductive FieldError where
  /-- A width is negative. -/
  | negativeWidth
  /-- There are not as many fields as widths. -/
  | count (expected actual : Nat)
  deriving DecidableEq, Repr

/-- The wording of a field error. -/
def FieldError.message : FieldError → String
  | .negativeWidth => "negative shift count"
  | .count expected actual => s!"Expected {expected} fields, got {actual}"

/-- The value of a field: a flag if it is one bit wide, a number otherwise. -/
inductive FieldValue where
  /-- The value of a field one bit wide. -/
  | flag (b : Bool)
  /-- The value of any other field. -/
  | number (n : Nat)
  deriving DecidableEq, Repr

namespace FieldValue

/-- The value of a field of the given width with the given bits. -/
def ofBits (width bits : Nat) : FieldValue :=
  if width = 1 then .flag (bits != 0) else .number bits

/-- The bits of a field value; a flag counts as zero or one. -/
def toNat : FieldValue → Nat
  | .flag b => b.toNat
  | .number n => n

end FieldValue

/-- The widths, unless one of them is negative. -/
def widths (table : List Int) : Except FieldError (List Nat) :=
  if table.all (0 ≤ ·) then .ok (table.map Int.toNat) else .error .negativeWidth

/-- Cuts a word into fields of the given widths. -/
def decompose (word : Int) (table : List Int) : Except FieldError (List FieldValue) :=
  match widths table with
  | .error e => .error e
  | .ok ns => .ok (List.zipWith FieldValue.ofBits ns (unpack word ns))

/-- Puts a word together from fields of the given widths. -/
def compose (fields : List Int) (table : List Int) : Except FieldError Nat :=
  if fields.length ≠ table.length then .error (.count table.length fields.length)
  else match widths table with
    | .error e => .error e
    | .ok ns => .ok (pack fields ns)

end Bits

end ConfigSpace
