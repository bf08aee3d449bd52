import ConfigSpace.Header

/-!
# Records

What a walk finds is a *record*: the header of a capability, the offset it was
read at, and where the bytes that follow it end.  The record does not hold those
bytes; they are read from the buffer when they are wanted (`Record.payload`), so
that they are always the bytes of the buffer as it is then.

A payload runs from the end of the header to the next capability, or to the end
of the region if the next capability lies before this one or the list ends here.
That is an upper bound: a structure may declare a smaller length itself.

A `RawCapability` is a record together with its payload, ready to be decoded.
-/

namespace ConfigSpace

/-- A capability as a walk finds it. -/
structure Record where
  /-- The offset of the header. -/
  offset : Nat
  /-- What the header says. -/
  header : Header
  /-- The offset at which the payload ends. -/
  stop : Nat
  deriving DecidableEq, Repr

namespace Record

/-- The record of a header found at `offset`, where bytes can be read up to `limit`. -/
def ofHeader (offset : Nat) (header : Header) (limit : Nat) : Record :=
  let next := if offset < header.nextPtr then header.nextPtr else limit
  { offset, header, stop := max (offset + header.size) (min next limit) }

/-- The offset at which the payload starts. -/
def start (r : Record) : Nat :=
  r.offset + r.header.size

/-- The payload of a record in the buffer as it is. -/
def payload (r : Record) (buffer : Bytes) : Bytes :=
  buffer.window r.start (r.stop - r.start)

theorem start_le_stop_ofHeader (offset : Nat) (header : Header) (limit : Nat) :
    (ofHeader offset header limit).start ≤ (ofHeader offset header limit).stop := by
  simp only [ofHeader, start]
  omega

end Record

/-- A capability to be decoded: its header, where it was found, and the bytes
that follow the header. -/
structure RawCapability where
  /-- The offset of the header. -/
  offset : Int
  /-- The identifier. -/
  capId : Int
  /-- The offset of the next capability. -/
  nextPtr : Int := 0
  /-- The version of an extended capability; legacy ones have none. -/
  version : Option Int := none
  /-- The bytes that follow the header. -/
  payload : Bytes
  deriving DecidableEq, Repr

namespace RawCapability

/-- Whether the capability is one of the extended list. -/
def extended (c : RawCapability) : Bool :=
  c.version.isSome

end RawCapability

/-- A record with its payload in the buffer as it is. -/
def Record.load (r : Record) (buffer : Bytes) : RawCapability where
  offset := r.offset
  capId := r.header.capId
  nextPtr := r.header.nextPtr
  version := r.header.version.map (↑·)
  payload := r.payload buffer

end ConfigSpace
