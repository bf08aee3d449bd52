import ConfigSpace.Payload

/-!
# Resizable base address registers (extended 0015h and 0024h)

A table of one to six entries, each of a map of supported sizes and a control
register.  How many entries there are is said by the first control register, and
all of them must be there.  The capability for virtual functions has the same
table under another name.

A size is a power of two, from 2^20 to 2^63 bytes; the map for the sizes up to
2^47 is a register of its own, and the rest of it lies in the control register.
-/

namespace ConfigSpace

namespace ResizableBar

/-- Resizable BAR Control register. -/
structure Control where
  (barIndex numberOfResizableBars barSize supportMapFrom256tbTo8eb : Int)
  deriving DecidableEq, Repr

/-- The register with the value `w`. -/
def Control.ofWord (w : Nat) : Control where
  barIndex := field w 0 3
  numberOfResizableBars := field w 5 3
  barSize := field w 8 6
  supportMapFrom256tbTo8eb := field w 16 16

instance : Describe Control :=
  ⟨fun r => .record
    [("bar_index", describe r.barIndex),
     ("number_of_resizable_bars", describe r.numberOfResizableBars),
     ("bar_size", describe r.barSize),
     ("support_map_from_256tb_to_8eb", describe r.supportMapFrom256tbTo8eb)] []⟩

/-- One resizable base address register. -/
structure Entry where
  supportMapFrom1mbTo128tb : Int
  control : Control
  deriving DecidableEq, Repr

/-- The units of size, one for every ten powers of two from 2^20 on. -/
def units : List String :=
  ["MB", "GB", "TB", "PB", "EB"]

/-- The name of the size `2 ^ (20 + n)`, as far as there are units for it. -/
def sizeName (n : Int) : Except Undefined String :=
  (Code.entry units (n / 10)).map fun unit => toString (1 <<< (n % 10).toNat) ++ unit

namespace Entry

/-- Whether the register can be given the size `2 ^ power`. -/
def supportsPowerOfTwo (e : Entry) (power : Int) : Bool :=
  let n := power.toNat
  if n < 20 then false
  else if n ≤ 47 then Bits.bit e.supportMapFrom1mbTo128tb (n - 16)
  else if n ≤ 63 then Bits.bit e.control.supportMapFrom256tbTo8eb (n - 48)
  else false

/-- The sizes that the register can be given. -/
def supportedSizes (e : Entry) : List String :=
  (List.range 44).filterMap fun n : Nat =>
    if e.supportsPowerOfTwo ↑(20 + n) then (sizeName n).toOption else none

/-- The size that the register has. -/
def currentSize (e : Entry) : Except Undefined String :=
  sizeName e.control.barSize

end Entry

instance : Describe Entry :=
  ⟨fun r => .record
    [("support_map_from_1mb_to_128tb", describe r.supportMapFrom1mbTo128tb),
     ("control", describe r.control)]
    [("supported_sizes", describe r.supportedSizes), ("current_size", describe r.currentSize)]⟩

/-- The `k`th entry. -/
def entry {count : Nat} (p : Bytes.AtLeast (8 * count)) (k : Fin count) : Entry where
  supportMapFrom1mbTo128tb := p.u32 (8 * k)
  control := .ofWord (p.u32 (8 * k + 4))

/-- The number of entries that the control register with the value `w` says. -/
def entryCount (w : Nat) : Nat :=
  field w 5 3

/-- Reads the table of the capability called `name`. -/
def readEntries (name : String) (payload : Bytes) : Except Fault (List Entry) :=
  payload.require name 8 fun p =>
    let count := entryCount (p.u32 4)
    if 1 ≤ count ∧ count ≤ 6 then
      payload.require name (8 * count) fun p => .ok (List.ofFn (entry p))
    else .error (.countOutOfRange name count 1 6)

end ResizableBar

/-- Resizable base address registers. -/
structure ResizableBar where
  entries : List ResizableBar.Entry
  deriving DecidableEq, Repr

/-- Reads the table of resizable base address registers. -/
def ResizableBar.decode (p : Bytes) : Except Fault ResizableBar :=
  (ResizableBar.readEntries "Resizable BAR" p).map .mk

instance : Describe ResizableBar :=
  ⟨fun r => .record
    [("entries", describe r.entries)] []⟩

/-- Resizable base address registers of virtual functions. -/
structure VfResizableBar where
  entries : List ResizableBar.Entry
  deriving DecidableEq, Repr

/-- Reads the table of resizable base address registers of virtual functions. -/
def VfResizableBar.decode (p : Bytes) : Except Fault VfResizableBar :=
  (ResizableBar.readEntries "VF Resizable BAR" p).map .mk

instance : Describe VfResizableBar :=
  ⟨fun r => .record
    [("entries", describe r.entries)] []⟩

end ConfigSpace
