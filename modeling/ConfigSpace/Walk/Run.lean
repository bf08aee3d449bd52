import ConfigSpace.Log
import ConfigSpace.Walk.Record
import ConfigSpace.Walk.Visited

/-!
# One run over a capability list

A *walker* says which list is walked, from which root, and whether pointers are
checked strictly.  A *run* is one pass over the list.  It is lazy: nothing is
read before the first record is asked for, and each header is read only when its
record is asked for, from the buffer as it is then.  Between two requests a run
remembers the offset and the next pointer of the record it gave last, and the
offsets it has visited.

`Run.next` is one request.  A run ends

* at a zero pointer, or at an extended header word of zeros or of ones;
* at a pointer to a visited offset, a header that does not fit the readable
  bytes, a pointer below the extended region, or, when pointers are checked
  strictly, a legacy pointer that is misaligned or out of range.

Endings of the second kind are kept in the state of the run; the records given
before stay good.  In a lenient legacy walk a misplaced pointer leaves a note and
is followed.
-/

namespace ConfigSpace

/-! ## Walkers -/

/-- Which list is walked, and how. -/
structure Walker where
  /-- The list. -/
  region : Region
  /-- The offset of its first capability. -/
  root : Int
  /-- Whether a misplaced legacy pointer stops the walk. -/
  strict : Bool := false
  deriving DecidableEq, Repr

namespace Walker

/-- The walker of the legacy list from `root`. -/
def legacy (root : Int) (strict : Bool := false) : Walker :=
  ⟨.legacy, root, strict⟩

/-- The walker of the extended list, which starts where its region does. -/
def extended (strict : Bool := false) : Walker :=
  ⟨.extended, 0x100, strict⟩

/-- What is odd about a legacy pointer. -/
def oddities (target : Int) : List String :=
  (if target % 4 = 0 then [] else ["not dword aligned"]) ++
    (if 0x40 ≤ target ∧ target < 0x100 then [] else ["outside [0x40, 0x100)"])

/-- The note on a legacy pointer with the given oddities. -/
def note (target : Int) (odd : List String) : String :=
  s!"capability pointer {Text.hex target} is " ++ " and ".intercalate odd

/-- Checks the pointer to `target`, found in the capability at `source`, before it
is followed: a fault stops the walk, and a note lets it go on. -/
def check (w : Walker) (source target : Int) : Except WalkFault (Option String) :=
  match w.region with
  | .extended =>
      if target < 0x100 then .error (.unterminated source (.belowRegion target)) else .ok none
  | .legacy =>
      match oddities target with
      | [] => .ok none
      | odd => if w.strict then .error (.invalidPointer source target)
               else .ok (some (note target odd))

end Walker

/-! ## Runs -/

/-- How far a run has come. -/
inductive WalkState where
  /-- No record has been asked for. -/
  | start
  /-- Records have been given, and there may be more. -/
  | following
  /-- The list came to its end. -/
  | terminated
  /-- The walk was stopped. -/
  | failed (fault : WalkFault)
  deriving DecidableEq, Repr

/-- The fault that stopped a walk. -/
def WalkState.fault? : WalkState → Option WalkFault
  | .failed fault => some fault
  | _ => none

/-- Where the next request continues. -/
inductive Position where
  /-- At the root of the list. -/
  | root
  /-- Behind the record at `offset`, whose next pointer was `next`. -/
  | behind (offset next : Nat)
  /-- Nowhere. -/
  | ended
  deriving DecidableEq, Repr

/-- One pass over a list. -/
structure Run where
  /-- How far it has come. -/
  state : WalkState := .start
  /-- What it has noted. -/
  notes : List String := []
  /-- The offsets it has visited. -/
  visited : Visited
  /-- Where it continues. -/
  position : Position := .root
  deriving DecidableEq, Repr

/-- What a request answers. -/
inductive Step where
  /-- A record, and the run that continues behind it. -/
  | found (record : Record) (run : Run)
  /-- There is no further record. -/
  | stopped (run : Run)
  /-- The root is not an offset of configuration space. -/
  | escaped (error : OffsetError) (run : Run)
  deriving DecidableEq, Repr

namespace Run

/-- No offset of a region visited.  Extended capabilities are dword aligned, so
their slots have four offsets; legacy ones may be anywhere. -/
def unvisited : Region → Visited
  | .legacy => .empty 0x100
  | .extended => .empty 0x400 4

/-- A new run.  A buffer without an extended region has no extended list, and the
run over it is over before it starts. -/
def begin (w : Walker) (buffer : Bytes) : Run :=
  match w.region with
  | .legacy => { visited := unvisited .legacy }
  | .extended =>
      if buffer.length ≤ 0x100 then
        { visited := unvisited .extended, state := .terminated, position := .ended }
      else { visited := unvisited .extended }

/-- The end of a run. -/
def finish (r : Run) (state : WalkState) : Run :=
  { r with state, position := .ended }

/-- Stops a run. -/
def fail (r : Run) (w : Walker) (fault : WalkFault) : Logged Step :=
  ⟨.stopped (r.finish (.failed fault)), [.walkTruncated w.region fault]⟩

/-- Takes the header read at `target`: marks the offset and gives its record. -/
def accept (r : Run) (w : Walker) (buffer : Bytes) (target : Int) (header : Header) :
    Logged Step :=
  let r := { r with state := .following }
  match r.visited.add target with
  | .error e => ⟨.escaped e { r with position := .ended }, []⟩
  | .ok visited =>
      ⟨.found (.ofHeader target.toNat header (w.region.readable buffer))
        { r with visited, position := .behind target.toNat header.nextPtr },
      [.walkStep target header.capId header.nextPtr]⟩

/-- Reads the header at `target` and goes on from there. -/
def visit (r : Run) (w : Walker) (buffer : Bytes) (target : Int) : Logged Step :=
  match (Header.read w.region ⟨buffer.take (w.region.readable buffer), 0⟩ target).1 with
  | .error (.wrapped _) => ⟨.escaped .unaddressed (r.finish r.state), []⟩
  | .error _ => r.fail w (.unterminated target .headerPastEnd)
  | .ok none => ⟨.stopped (r.finish .terminated), []⟩
  | .ok (some header) => r.accept w buffer target header

/-- Follows the pointer to `target`, found in the capability at `source`. -/
def follow (r : Run) (w : Walker) (buffer : Bytes) (source target : Int) : Logged Step :=
  if target = 0 then ⟨.stopped (r.finish .terminated), []⟩
  else match w.check source target with
    | .error fault => r.fail w fault
    | .ok none => r.visit w buffer target
    | .ok (some note) =>
        ({ r with notes := r.notes ++ [note] }.visit w buffer target).after
          [.pointerNote note source target]

/-- One request: the next record of the list in the buffer as it is. -/
def next (r : Run) (w : Walker) (buffer : Bytes) : Logged Step :=
  match r.position with
  | .ended => ⟨.stopped r, []⟩
  | .root => r.follow w buffer w.root w.root
  | .behind offset next =>
      if next ≠ 0 ∧ r.visited.contains next then r.fail w (.cycle offset next)
      else r.follow w buffer offset next

end Run

end ConfigSpace
