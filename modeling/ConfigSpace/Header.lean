import ConfigSpace.Bits
import ConfigSpace.Cursor

/-!
# Capability headers

Configuration space holds two lists of capabilities.  The legacy list lies in
the first 256 bytes and starts where the Capabilities Pointer says; the extended
list starts at 0x100.  Every capability opens with a header:

* legacy, two bytes: the identifier, then the offset of the next capability;
* extended, one 32-bit word: bits 15:0 the identifier, bits 19:16 the version,
  bits 31:20 the offset of the next capability, of which bits 1:0 are reserved.
  A word of zeros or of ones is no header but the end of the list; ones are what
  an absent device reads as.
-/

namespace ConfigSpace

/-- The two regions of configuration space that hold a list of capabilities. -/
inductive Region where
  /-- The first 256 bytes. -/
  | legacy
  /-- The 4096 bytes of PCI Express, from 0x100 on. -/
  | extended
  deriving DecidableEq, Repr

namespace Region

/-- The end of a region. -/
def limit : Region → Nat
  | .legacy => 0x100
  | .extended => 0x1000

/-- How far the bytes of `buffer` can be read in a region. -/
def readable (r : Region) (buffer : Bytes) : Nat :=
  min buffer.length r.limit

/-- The size of a header. -/
def headerSize : Region → Nat
  | .legacy => 2
  | .extended => 4

end Region

/-- What a header says. -/
structure Header where
  /-- The identifier of the capability. -/
  capId : Nat
  /-- The offset of the next capability, zero at the end of the list. -/
  nextPtr : Nat
  /-- The version, in an extended header. -/
  version : Option Nat := none
  deriving DecidableEq, Repr

namespace Header

/-- The size of a header: only the extended one has a version. -/
def size (h : Header) : Nat :=
  if h.version.isNone then Region.legacy.headerSize else Region.extended.headerSize

/-- What an extended header word says; nothing if it ends the list. -/
def ofWord (w : Nat) : Option Header :=
  if w = 0 ∨ w = 0xFFFFFFFF then none
  else some { capId := field w 0 16, version := some (field w 16 4), nextPtr := 4 * field w 22 10 }

/-- Reads the legacy header at `position`. -/
def readLegacy (c : Cursor) (position : Int) : Except ReadError Header × Cursor :=
  match { c with offset := position }.number 1 with
  | (.error e, c₁) => (.error e, c₁)
  | (.ok capId, c₁) =>
    match c₁.number 1 with
    | (.error e, c₂) => (.error e, c₂)
    | (.ok nextPtr, c₂) => (.ok { capId, nextPtr }, c₂)

/-- Reads the extended header at `position`, or finds the end of the list there. -/
def readExtended (c : Cursor) (position : Int) : Except ReadError (Option Header) × Cursor :=
  match { c with offset := position }.number 4 with
  | (.error e, c₁) => (.error e, c₁)
  | (.ok w, c₁) => (.ok (ofWord w), c₁)

/-- Reads the header at `position` in a region. -/
def read (r : Region) (c : Cursor) (position : Int) : Except ReadError (Option Header) × Cursor :=
  match r with
  | .legacy => let (h, c') := readLegacy c position; (h.map some, c')
  | .extended => readExtended c position

end Header

/-! ## The root of the legacy list -/

/-- Where the legacy list starts: the Capabilities Pointer at 0x34, its two low
bits being reserved, provided that bit 4 of the Status register at 0x06
advertises a list. -/
def capabilitiesRoot (buffer : Bytes) : Option Nat :=
  (buffer.atLeast? 0x35).bind fun space =>
    if flag (space.u16 0x06) 4 then some (4 * field (space.u8 0x34) 2 6) else none

end ConfigSpace
