import ConfigSpace.Header

/-!
# Events

Walking and decoding report what they do.  `Event` has one constructor for each
thing reported; its name, its level and its fields are what a log line shows.

Reports are results like any other: an operation that reports is one that
returns a `Logged` value, the events in the order in which they happened.
-/

namespace ConfigSpace

/-! ## Levels -/

/-- How much attention an event deserves. -/
inductive Level where
  | unset | debug | info | warning | error | critical
  deriving DecidableEq, Repr

namespace Level

/-- The weight of a level. -/
def weight : Level → Nat
  | .unset => 0
  | .debug => 10
  | .info => 20
  | .warning => 30
  | .error => 40
  | .critical => 50

/-- The name of a level in a log line. -/
def name : Level → String
  | .unset => "notset"
  | .debug => "debug"
  | .info => "info"
  | .warning => "warning"
  | .error => "error"
  | .critical => "critical"

/-- The upper case of a letter that may occur in a level's name: the ASCII
letters, and the two other letters whose upper case is an ASCII one, dotless i
and long s. -/
def upper (c : Char) : Char :=
  if c = '\u0131' then 'I' else if c = '\u017f' then 'S' else c.toUpper

/-- The level with the given name, in any letter case.  An unknown name asks for
the usual level. -/
def ofName (s : String) : Level :=
  match String.ofList (s.toList.map upper) with
  | "NOTSET" => .unset
  | "DEBUG" => .debug
  | "WARNING" | "WARN" => .warning
  | "ERROR" => .error
  | "CRITICAL" | "FATAL" => .critical
  | _ => .info

end Level

/-! ## Events -/

/-- What walking and decoding report. -/
inductive Event where
  /-- A capability was found by the walk. -/
  | walkStep (offset capId nextPtr : Int)
  /-- A pointer is odd, but followed. -/
  | pointerNote (note : String) (source target : Int)
  /-- The walk of a region's list was stopped. -/
  | walkTruncated (region : Region) (fault : WalkFault)
  /-- No decoder is registered for a capability. -/
  | unknownCapability (offset capId : Int) (extended : Bool)
  /-- A capability could not be decoded, for the reason given. -/
  | decodeFailed (offset capId : Int) (reason : String)
  /-- The inside of a container could not be decoded, for the reason given. -/
  | nestedFailed (container : String) (vendorId subId : Int) (reason : String)
  /-- The Status register advertises no list. -/
  | listAbsent
  deriving DecidableEq, Repr

/-- The part of the library that reports an event. -/
inductive Event.Reporter where
  | walk | decoding | nesting
  deriving DecidableEq, Repr

namespace Event

/-- The value of an event's field. -/
inductive Value where
  | text (s : String)
  | truth (b : Bool)
  | none
  deriving DecidableEq, Repr

/-- The name of an event. -/
def name : Event → String
  | .walkStep .. => "capability_walk_step"
  | .pointerNote .. => "capability_pointer_note"
  | .walkTruncated .. => "capability_walk_truncated"
  | .unknownCapability .. => "capability_unknown"
  | .decodeFailed .. => "capability_decode_failed"
  | .nestedFailed .. => "nested_decode_failed"
  | .listAbsent => "capability_list_absent"

/-- The level of an event. -/
def level : Event → Level
  | .pointerNote .. | .walkTruncated .. | .decodeFailed .. => .warning
  | _ => .debug

/-- Which part of the library reports an event. -/
def reporter : Event → Reporter
  | .walkStep .. | .pointerNote .. | .walkTruncated .. => .walk
  | .nestedFailed .. => .nesting
  | _ => .decoding

/-- What an event calls the walk of a region. -/
def regionLabel : Region → String
  | .legacy => "LegacyCapabilityWalker"
  | .extended => "ExtendedCapabilityWalker"

/-- The fields of an event.  Offsets and identifiers are written in hexadecimal. -/
def fields : Event → List (String × Value)
  | .walkStep offset capId nextPtr =>
      [("offset", .text (Text.hex offset)), ("cap_id", .text (Text.hex capId)),
        ("next_ptr", .text (Text.hex nextPtr))]
  | .pointerNote note source target =>
      [("note", .text note), ("source", .text (Text.hex source)),
        ("target", .text (Text.hex target))]
  | .walkTruncated region fault =>
      [("region", .text (regionLabel region)), ("error", .text fault.message),
        ("offset", (fault.origin.map fun o => .text (Text.hex o)).getD .none)]
  | .unknownCapability offset capId extended =>
      [("offset", .text (Text.hex offset)), ("cap_id", .text (Text.hex capId)),
        ("extended", .truth extended)]
  | .decodeFailed offset capId reason =>
      [("offset", .text (Text.hex offset)), ("cap_id", .text (Text.hex capId)),
        ("error", .text reason)]
  | .nestedFailed container vendorId subId reason =>
      [("container", .text container), ("vendor_id", .text (Text.hexUpper vendorId 4)),
        ("sub_id", .text (Text.hexUpper subId 4)), ("error", .text reason)]
  | .listAbsent => []

/-- The events that a log at the given level shows. -/
def visible (threshold : Level) (events : List Event) : List Event :=
  events.filter fun e => threshold.weight ≤ e.level.weight

end Event

/-! ## Results with events -/

/-- A result and the events reported on the way to it. -/
structure Logged (α : Type) where
  /-- The result. -/
  value : α
  /-- The events, in order. -/
  events : List Event := []
  deriving DecidableEq, Repr

namespace Logged

/-- A result without events; a fault is placed where it says itself. -/
def quiet {α : Type} (r : Except Fault α) : Logged (Except Error α) :=
  ⟨r.mapError .ofFault, []⟩

/-- The same result, with other events reported first. -/
def after {α : Type} (earlier : List Event) (l : Logged α) : Logged α :=
  { l with events := earlier ++ l.events }

/-- Another result of the same events. -/
def map {α β : Type} (f : α → β) (l : Logged α) : Logged β :=
  ⟨f l.value, l.events⟩

end Logged

end ConfigSpace
