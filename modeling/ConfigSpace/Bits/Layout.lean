import ConfigSpace.Bits

/-!
# Register layouts

A layout is the table of field widths of one register.  It is checked once, when
it is made: the register has 8, 16, 32 or 64 bits, every field is at least one
bit wide, and the widths add up to the register.  Those three facts are part of
the type, and `Layout.ofTable` says which one a table from outside misses.

Two layouts are the same register when their tables agree, whatever they are
called (`Layout.sameTable`).
-/

namespace ConfigSpace

/-- The table of field widths of one register, least significant field first. -/
structure Layout where
  /-- The size of the register. -/
  bits : Nat
  /-- The width of each field. -/
  widths : List Nat
  /-- What the register is called in messages. -/
  name : String
  /-- A register has one of the four sizes. -/
  bits_mem : bits ∈ [8, 16, 32, 64]
  /-- No field is empty. -/
  widths_pos : ∀ n ∈ widths, 0 < n
  /-- The fields cover the register. -/
  total_widths : Bits.total widths = bits

namespace Layout

/-- What is wrong with a table of widths. -/
inductive TableError where
  /-- No register has that many bits. -/
  | unsupportedSize (name : String) (bits : Int)
  /-- A field has no bits. -/
  | emptyField (name : String)
  /-- The fields do not cover the register exactly. -/
  | wrongTotal (name : String) (total bits : Int)
  deriving DecidableEq, Repr

namespace TableError

/-- The name that a message puts first; a layout without one is just a layout. -/
def subject (name : String) : String :=
  if name = "" then "layout" else name

/-- The wording of a table error. -/
def message : TableError → String
  | .unsupportedSize name bits =>
      s!"{subject name}: unsupported container width {bits}"
  | .emptyField name => s!"{subject name}: field widths must be positive"
  | .wrongTotal name total bits => s!"{subject name}: widths sum to {total}, expected {bits}"

end TableError

/-- The layout with the given table, if the table describes a register. -/
def ofTable (bits : Int) (table : List Int) (name : String) : Except TableError Layout :=
  if hb : bits.toNat ∈ [8, 16, 32, 64] then
    if hw : ∀ n ∈ table, 0 < n then
      if hs : Bits.total (table.map Int.toNat) = bits.toNat then
        .ok {
          bits := bits.toNat
          widths := table.map Int.toNat
          name := name
          bits_mem := hb
          widths_pos := by
            intro n hn
            obtain ⟨k, hk, rfl⟩ := List.mem_map.1 hn
            have := hw k hk
            omega
          total_widths := hs }
      else .error (.wrongTotal name (Bits.total (table.map Int.toNat)) bits)
    else .error (.emptyField name)
  else .error (.unsupportedSize name bits)

/-- Whether two layouts have the same table; their names do not matter. -/
def sameTable (l m : Layout) : Bool :=
  l.bits == m.bits && l.widths == m.widths

/-- The fields of a word, of which only the register's bits count. -/
def decompose (l : Layout) (word : Int) : List Bits.FieldValue :=
  List.zipWith Bits.FieldValue.ofBits l.widths (Bits.unpack (word % (1 <<< l.bits : Nat)) l.widths)

/-- The word with the given fields. -/
def compose (l : Layout) (fields : List Int) : Except Bits.FieldError Nat :=
  if fields.length ≠ l.widths.length then
    .error (.count l.widths.length fields.length)
  else .ok (Bits.pack fields l.widths)

end Layout

end ConfigSpace
