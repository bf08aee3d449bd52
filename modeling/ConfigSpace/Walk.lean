import ConfigSpace.Walk.Run

/-!
# Whole walks

A walk is a run asked for records until it stops: the records in the order of the
list, each with the events reported on the way to it, the events of the end, and
the run as it is then.

Every record takes a fresh slot among the visited offsets, so a run stops after
at most as many records as there are slots; `Run.drain` therefore counts
requests down from one more than that.
-/

namespace ConfigSpace

/-- A run that has been asked for all its records. -/
structure Walk where
  /-- The records, each with the events on the way to it. -/
  steps : List (Logged Record) := []
  /-- The events of the end. -/
  closing : List Event := []
  /-- The run at the end. -/
  run : Run
  /-- The root was not an offset of configuration space. -/
  escape : Option OffsetError := none
  deriving DecidableEq, Repr

namespace Walk

/-- The records of a walk. -/
def records (k : Walk) : List Record :=
  k.steps.map Logged.value

/-- The events of a walk. -/
def events (k : Walk) : List Event :=
  k.steps.flatMap Logged.events ++ k.closing

end Walk

/-- Asks a run for records until it stops, at most `fuel` times. -/
def Run.drain (w : Walker) (buffer : Bytes) : Nat → Run → Walk
  | 0, r => { run := r }
  | fuel + 1, r =>
      match r.next w buffer with
      | ⟨.found record r', events⟩ =>
          let k := drain w buffer fuel r'
          { k with steps := ⟨record, events⟩ :: k.steps }
      | ⟨.stopped r', events⟩ => { closing := events, run := r' }
      | ⟨.escaped e r', events⟩ => { closing := events, run := r', escape := some e }

/-- The rest of a run: everything it has not given yet. -/
def Run.rest (r : Run) (w : Walker) (buffer : Bytes) : Walk :=
  drain w buffer (r.visited.slots + 1) r

/-- The walk of a list from its root. -/
def Walker.walk (w : Walker) (buffer : Bytes) : Walk :=
  (Run.begin w buffer).rest w buffer

end ConfigSpace
