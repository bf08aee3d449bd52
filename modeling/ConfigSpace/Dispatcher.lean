import ConfigSpace.Error
import ConfigSpace.Log

/-!
# Dispatchers

Some capabilities are containers: they hold the registers of a vendor, and what
those mean depends on who the vendor is and on a second identifier, of the
device or of the structure.  A *dispatcher* selects a decoder for the inside of
one container by that pair.

A decoder for the exact pair wins over one for all of a vendor's identifiers.  If
the selected decoder fails, the container fails with an error that holds the
inner one (`Error.nested`), and the failure is reported.  If there is none, the
dispatcher answers nothing, which is no error.

A decoder may itself be a dispatcher; its errors are then wrapped once for every
dispatcher on the way.
-/

namespace ConfigSpace

/-- A decoder for the inside of a container: it gets the registers, and the second
identifier that selected it. -/
abbrev NestedDecoder (α : Type) :=
  Bytes → Int → Logged (Except Error α)

/-- A selection of decoders for the inside of one container. -/
structure Dispatcher (α : Type) where
  /-- What the container is called. -/
  name : String
  /-- The decoder for a vendor and a second identifier. -/
  exact : Int → Int → Option (NestedDecoder α)
  /-- The decoder for all second identifiers of a vendor. -/
  fallback : Int → Option (NestedDecoder α)

namespace Dispatcher

variable {α : Type}

/-- The dispatcher with the given tables.  Of several entries for one key the last
one counts. -/
def ofTables (name : String) (exact : List ((Int × Int) × NestedDecoder α))
    (fallback : List (Int × NestedDecoder α)) : Dispatcher α where
  name := name
  exact vendorId subId := exact.reverse.lookup (vendorId, subId)
  fallback vendorId := fallback.reverse.lookup vendorId

/-- The decoder selected by a pair. -/
def lookup (d : Dispatcher α) (vendorId subId : Int) : Option (NestedDecoder α) :=
  d.exact vendorId subId <|> d.fallback vendorId

/-- Whether a pair selects a decoder. -/
def contains (d : Dispatcher α) (vendorId subId : Int) : Bool :=
  (d.lookup vendorId subId).isSome

/-- Decodes the registers with the decoder selected by a pair, if there is one.
The revision and the length that the container declares go into the error. -/
def dispatch (d : Dispatcher α) (vendorId subId : Int) (data : Bytes)
    (revision length : Option Int := none) : Logged (Except Error (Option α)) :=
  match d.lookup vendorId subId with
  | none => ⟨.ok none, []⟩
  | some decoder =>
      match decoder data subId with
      | ⟨.ok inside, events⟩ => ⟨.ok (some inside), events⟩
      | ⟨.error e, events⟩ =>
          ⟨.error (.nested d.name vendorId subId revision length e),
            events ++ [.nestedFailed d.name vendorId subId e.message]⟩

end Dispatcher

end ConfigSpace
