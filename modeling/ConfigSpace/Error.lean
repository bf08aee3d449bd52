import ConfigSpace.Text.Hex

/-!
# What can go wrong

A *fault* says what is wrong: a payload too short for its structure, a length or
a count that contradicts itself, a list of capabilities that cannot be followed
to its end, or the failure of a decoder for the inside of a container.  An
*error* is a fault together with the place it was found at, as far as the place
is known.

* `Fault.message` is the wording of every fault.
* `Fault.origin` is the offset that a fault names itself.
* `Error.locate` fills in the place of an error where it is still unknown; an
  error that knows its place keeps it.
* `Error.kind` forgets the details.
* `Fault.inner?` and `Error.cause?` tell what an error comes from.
-/

namespace ConfigSpace

/-! ## Faults of a list -/

/-- Why a list of capabilities has no end. -/
inductive Unterminated where
  /-- The next header does not lie within the readable bytes. -/
  | headerPastEnd
  /-- The next pointer leads below the extended region. -/
  | belowRegion (target : Int)
  /-- Any other reason, in words. -/
  | because (text : String)
  deriving DecidableEq, Repr

/-- The reason in words. -/
def Unterminated.text : Unterminated → String
  | .headerPastEnd => "header extends past end of buffer"
  | .belowRegion target => s!"next pointer {Text.hex target} is below the extended region"
  | .because text => text

/-- A condition that stops the walk of a capability list. -/
inductive WalkFault where
  /-- A condition given in words only. -/
  | plain (text : String)
  /-- The capability at `offset` points to `target`, which was visited before. -/
  | cycle (offset target : Int)
  /-- The list breaks off at `offset`. -/
  | unterminated (offset : Int) (reason : Unterminated)
  /-- The capability at `offset` points to `target`, where none may be. -/
  | invalidPointer (offset target : Int)
  deriving DecidableEq, Repr

namespace WalkFault

/-- The wording of a walk fault. -/
def message : WalkFault → String
  | .plain text => text
  | .cycle offset target =>
      s!"capability at {Text.hex offset} points back to visited offset {Text.hex target}"
  | .unterminated offset reason =>
      s!"capability list unterminated at {Text.hex offset}: {reason.text}"
  | .invalidPointer offset target =>
      s!"capability at {Text.hex offset} has invalid next pointer {Text.hex target}"

/-- The offset that a walk fault names itself. -/
def origin : WalkFault → Option Int
  | .plain _ => none
  | .cycle offset _ => some offset
  | .unterminated offset _ => some offset
  | .invalidPointer offset _ => some offset

end WalkFault

/-! ## Faults and errors -/

/-- A place in configuration space, as far as it is known. -/
structure Site where
  /-- The offset of the capability. -/
  offset : Option Int := none
  /-- The identifier of the capability. -/
  capId : Option Int := none
  deriving DecidableEq, Repr

/-- What is wrong. -/
inductive Fault where
  /-- A condition given in words only. -/
  | plain (text : String)
  /-- A read of `needed` bytes at `offset`, where only `available` are left. -/
  | outOfData (offset needed available : Int)
  /-- The required part of a structure takes `size` bytes, and `available` are there. -/
  | unreadable (name : String) (size available : Int)
  /-- The length that a vendor's registers declare contradicts the bytes there are. -/
  | lengthMismatch (vendorId revision declared structureId available : Int)
  /-- A count lies outside its range. -/
  | countOutOfRange (name : String) (value minimum maximum : Int)
  /-- A length is below the least possible one. -/
  | invalidLength (name : String) (value minimum : Int)
  /-- The decoder for the inside of a container failed with `inner`, found at `innerSite`. -/
  | nested (name : String) (vendorId subId : Int) (revision length : Option Int)
      (inner : Fault) (innerSite : Site)
  /-- The walk of a list was stopped. -/
  | walk (fault : WalkFault)
  deriving DecidableEq, Repr

namespace Fault

/-- The wording of a fault. -/
def message : Fault → String
  | .plain text => text
  | .outOfData offset needed available =>
      s!"need {needed} byte(s) at offset {Text.hex offset}, only {available} available"
  | .unreadable name size available =>
      s!"{name}: mandatory fields are unreadable (expected {size} bytes, real: {available})"
  | .lengthMismatch vendorId revision declared structureId available =>
      s!"Vendor-specific registers (VID: {Text.hexLower vendorId 4}, "
        ++ s!"rev: {Text.hexLower revision 2}, ID: {Text.hexLower structureId 4}) are unreadable. "
        ++ s!"Length expected: {declared}, real: {available}"
  | .countOutOfRange name value minimum maximum =>
      s!"{name}: should have {minimum}..={maximum} entries, not {value}"
  | .invalidLength name value minimum => s!"{name}: length should be >= {minimum}, not {value}"
  | .nested name vendorId subId _ _ inner _ =>
      s!"{name} (VID: {Text.hexLower vendorId 4}, ID: {Text.hexLower subId 4}) error: "
        ++ inner.message
  | .walk fault => fault.message

/-- The offset that a fault names itself. -/
def origin : Fault → Option Int
  | .outOfData offset _ _ => some offset
  | .walk fault => fault.origin
  | _ => none

end Fault

/-- A fault and where it was found. -/
structure Error where
  /-- What is wrong. -/
  fault : Fault
  /-- Where, as far as it is known. -/
  site : Site
  deriving DecidableEq, Repr

/-- The error that a fault wraps: that of the decoder for the inside of a container. -/
def Fault.inner? : Fault → Option Error
  | .nested _ _ _ _ _ inner site => some ⟨inner, site⟩
  | _ => none

/-- The sorts of error there are. -/
inductive Error.Kind where
  | general | outOfData | unreadable | lengthMismatch | countOutOfRange | invalidLength | nested
  | walk | cycle | unterminated | invalidPointer
  deriving DecidableEq, Repr

namespace Error

/-- The error of a fault, at the place that the fault names itself. -/
def ofFault (f : Fault) : Error :=
  ⟨f, { offset := f.origin }⟩

/-- The error of a container whose inside could not be decoded.  The inner error
is kept as it is; the place of the container is not known yet. -/
def nested (name : String) (vendorId subId : Int) (revision length : Option Int)
    (inner : Error) : Error :=
  ofFault (.nested name vendorId subId revision length inner.fault inner.site)

/-- The wording of an error does not depend on its place. -/
def message (e : Error) : String :=
  e.fault.message

/-- Fills in the place of an error where it is still unknown. -/
def locate (e : Error) (offset capId : Int) : Error :=
  { e with site := ⟨e.site.offset <|> some offset, e.site.capId <|> some capId⟩ }

/-- The sort of an error. -/
def kind (e : Error) : Kind :=
  match e.fault with
  | .plain _ => .general
  | .outOfData .. => .outOfData
  | .unreadable .. => .unreadable
  | .lengthMismatch .. => .lengthMismatch
  | .countOutOfRange .. => .countOutOfRange
  | .invalidLength .. => .invalidLength
  | .nested .. => .nested
  | .walk (.plain _) => .walk
  | .walk (.cycle ..) => .cycle
  | .walk (.unterminated ..) => .unterminated
  | .walk (.invalidPointer ..) => .invalidPointer

/-- The sort of the error that an error was raised from.  A container fails with the
error inside it, and a list breaks off with the read that found too little left. -/
def cause? (e : Error) : Option Kind :=
  match e.fault with
  | .walk (.unterminated _ .headerPastEnd) => some .outOfData
  | fault => fault.inner?.map kind

/-- Whether an error stops the walk of a list. -/
def isWalkError (e : Error) : Bool :=
  match e.fault with
  | .walk _ => true
  | _ => false

/-- Whether two errors are of one sort, at one place and worded alike.  Equal
errors are; the converse does not hold, for a message need not show everything. -/
def alike (a b : Error) : Bool :=
  a.kind == b.kind && a.message == b.message && a.site == b.site

/-- An error that was found in two places keeps the first. -/
theorem locate_locate (e : Error) (o o' c c' : Int) :
    (e.locate o c).locate o' c' = e.locate o c := by
  cases ho : e.site.offset <;> cases hc : e.site.capId <;> simp [locate, ho, hc]

@[simp] theorem fault_locate (e : Error) (o c : Int) : (e.locate o c).fault = e.fault := rfl

end Error

end ConfigSpace
