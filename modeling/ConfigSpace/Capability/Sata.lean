import ConfigSpace.Payload

/-!
# Serial ATA (legacy 12h)

The revision of the structure, and where the index and data registers of the
controller are.
-/

namespace ConfigSpace

/-- Serial ATA Data/Index Configuration. -/
structure Sata where
  (revisionMajor revisionMinor barLocation barOffset : Int)
  deriving DecidableEq, Repr

namespace Sata

/-- Reads the serial ATA registers; the byte behind the revision is reserved. -/
def decode (payload : Bytes) : Except Fault Sata :=
  payload.require "Serial ATA" 6 fun p => .ok {
    revisionMajor := field (p.u8 0) 4 4
    revisionMinor := field (p.u8 0) 0 4
    barLocation := field (p.u32 2) 0 4
    barOffset := field (p.u32 2) 4 20 }

/-- The base address register that maps the registers, or the structure itself. -/
def barLocationName (s : Sata) : String :=
  match s.barLocation with
  | 0b0100 => "BAR0"
  | 0b0101 => "BAR1"
  | 0b0110 => "BAR2"
  | 0b0111 => "BAR3"
  | 0b1000 => "BAR4"
  | 0b1001 => "BAR5"
  | 0b1111 => "SATA Capability 1"
  | n => s!"Reserved({n})"

/-- The offset of the registers in bytes; the structure counts dwords. -/
def barOffsetBytes (s : Sata) : Int :=
  4 * s.barOffset

end Sata

instance : Describe Sata :=
  ⟨fun r => .record
    [("revision_major", describe r.revisionMajor), ("revision_minor", describe r.revisionMinor),
     ("bar_location", describe r.barLocation), ("bar_offset", describe r.barOffset)]
    [("bar_location_name", describe r.barLocationName),
     ("bar_offset_bytes", describe r.barOffsetBytes)]⟩

end ConfigSpace
