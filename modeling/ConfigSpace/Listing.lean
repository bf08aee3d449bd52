import ConfigSpace.Decoding
import ConfigSpace.Walk

/-!
# Listings

A listing has an entry for every capability of a list, in the order of the walk.
A capability that cannot be decoded does not harm its neighbours: its entry holds
the error instead.  Only a caller who asks to fail fast gets the first error
raised.

Capabilities are decoded while the walk goes on, so their events come between the
events of the walk.

Apart from an error that the caller asked for, a listing can fail in one way: the
root given for the legacy list may be no offset of configuration space.
-/

namespace ConfigSpace

/-! ## Entries -/

/-- A capability that was found, but could not be decoded. -/
structure DecodeFailure where
  /-- The offset of the header. -/
  offset : Int
  /-- The identifier. -/
  capId : Int
  /-- The version of an extended capability. -/
  version : Option Int
  /-- Why it could not be decoded. -/
  error : Error
  deriving DecidableEq, Repr

/-- The wording of a failure. -/
def DecodeFailure.message (f : DecodeFailure) : String :=
  f.error.message

/-- An entry of a listing. -/
inductive Entry where
  | decoded (d : Decoded)
  | failed (f : DecodeFailure)
  deriving DecidableEq, Repr

namespace Entry

/-- The decoded capability of an entry that has one. -/
def decoded? : Entry → Option Decoded
  | decoded d => some d
  | failed _ => none

/-- The failure of an entry that has one. -/
def failed? : Entry → Option DecodeFailure
  | decoded _ => none
  | failed f => some f

end Entry

/-- The entry of a capability. -/
def RawCapability.entry (raw : RawCapability) (options : Options) : Logged (Except Error Entry) :=
  match raw.decode options with
  | ⟨.ok d, events⟩ => ⟨.ok (.decoded d), events⟩
  | ⟨.error e, events⟩ =>
      if options.failFast then ⟨.error e, events⟩
      else
        ⟨.ok (.failed { raw with error := e }),
          events ++ [.decodeFailed raw.offset raw.capId e.message]⟩

/-- The entries of capabilities that come with the events on the way to them. -/
def decodeSteps (options : Options) :
    List (Logged RawCapability) → Logged (Except Error (List Entry))
  | [] => ⟨.ok [], []⟩
  | ⟨raw, arrival⟩ :: rest =>
      match raw.entry options with
      | ⟨.error e, events⟩ => ⟨.error e, arrival ++ events⟩
      | ⟨.ok entry, events⟩ =>
          ((decodeSteps options rest).map (·.map (entry :: ·))).after (arrival ++ events)

/-- The entries of capabilities. -/
def decodeAll (options : Options) (raws : List RawCapability) :
    Logged (Except Error (List Entry)) :=
  decodeSteps options (raws.map fun raw => ⟨raw, []⟩)

/-! ## The listing of a region -/

/-- The decoded capabilities of one region. -/
structure Listing where
  /-- The entries, in the order of the walk. -/
  entries : List Entry := []
  /-- How the walk ended. -/
  state : WalkState := .terminated
  /-- What the walk noted. -/
  notes : List String := []
  deriving DecidableEq, Repr

namespace Listing

/-- The capabilities that were decoded. -/
def capabilities (l : Listing) : List Decoded :=
  l.entries.filterMap Entry.decoded?

/-- The capabilities that could not be decoded. -/
def failures (l : Listing) : List DecodeFailure :=
  l.entries.filterMap Entry.failed?

/-- Whether the list was walked to its end and everything was decoded. -/
def ok (l : Listing) : Bool :=
  l.state.fault?.isNone && l.failures.isEmpty

/-- The first decoded capability with an identifier. -/
def find (l : Listing) (capId : Int) : Option Decoded :=
  l.capabilities.find? (·.capId = capId)

end Listing

/-- Why there is no listing. -/
inductive Raised where
  /-- A capability could not be decoded, and the caller asked to fail fast. -/
  | error (e : Error)
  /-- The root is not an offset of configuration space. -/
  | offset (e : OffsetError)
  deriving DecidableEq, Repr

/-- The listing of a walk over a buffer. -/
def Walk.listing (k : Walk) (buffer : Bytes) (options : Options) : Logged (Except Raised Listing) :=
  match decodeSteps options (k.steps.map (·.map (·.load buffer))) with
  | ⟨.error e, events⟩ => ⟨.error (.error e), events⟩
  | ⟨.ok entries, events⟩ =>
      match k.escape with
      | some e => ⟨.error (.offset e), events ++ k.closing⟩
      | none => ⟨.ok { entries, state := k.run.state, notes := k.run.notes }, events ++ k.closing⟩

/-! ## Whole regions -/

/-- The options with the identity of the device, which is read from the start of
configuration space as far as it is not given. -/
def Options.withIdentity (options : Options) (buffer : Bytes) : Options :=
  match buffer.atLeast? 4 with
  | none => options
  | some space =>
      { options with
        vendorId := options.vendorId <|> some (Int.ofNat (space.u16 0x00))
        deviceId := options.deviceId <|> some (Int.ofNat (space.u16 0x02)) }

/-- The legacy capabilities.  Without a root the list starts where configuration
space says, if it says that there is one. -/
def decodeCapabilities (buffer : Bytes) (root : Option Int := none) (options : Options := {}) :
    Logged (Except Raised Listing) :=
  match root <|> (capabilitiesRoot buffer).map Int.ofNat with
  | none => ⟨.ok {}, [.listAbsent]⟩
  | some root =>
      ((Walker.legacy root options.strictAlignment).walk buffer).listing buffer
        (options.withIdentity buffer)

/-- The extended capabilities. -/
def decodeExtendedCapabilities (buffer : Bytes) (options : Options := {}) :
    Logged (Except Raised Listing) :=
  ((Walker.extended options.strictAlignment).walk buffer).listing buffer options

/-- Both lists of a function's configuration space. -/
structure ConfigSpaceListing where
  /-- The legacy list. -/
  legacy : Listing
  /-- The extended list. -/
  extended : Listing
  deriving DecidableEq, Repr

/-- Both lists of capabilities, the legacy one first. -/
def decodeConfigSpace (buffer : Bytes) (options : Options := {}) :
    Logged (Except Raised ConfigSpaceListing) :=
  match decodeCapabilities buffer none options with
  | ⟨.error e, events⟩ => ⟨.error e, events⟩
  | ⟨.ok legacy, events⟩ =>
      ((decodeExtendedCapabilities buffer options).map
        (·.map fun extended => { legacy, extended })).after events

end ConfigSpace
