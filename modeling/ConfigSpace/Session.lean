import ConfigSpace.Decoding
import ConfigSpace.Walk

/-!
# Sessions

A session is one walker at work on one buffer that may change.  Any number of
runs can be under way at once, each at its own pace; runs that were started one
by one are numbered, and so are the records that they give.  Between two requests
the bytes of the buffer, the root and the strictness of the walker may be
changed.

The walker shows the status of the run that was started last, whether that run is
numbered or was asked for everything at once (`Op.collect`).

`Session.perform` carries out one operation, and `Session.run` a sequence.
-/

namespace ConfigSpace

/-- The run that was started last. -/
inductive LatestRun where
  /-- No run was started yet. -/
  | none
  /-- A numbered run. -/
  | numbered (run : Nat)
  /-- A run that was asked for everything at once. -/
  | collected (run : Run)
  deriving DecidableEq, Repr

/-- A walker at work on a buffer. -/
structure Session where
  /-- The buffer as it is. -/
  buffer : Bytes
  /-- The walker as it is. -/
  walker : Walker
  /-- The numbered runs. -/
  runs : List Run := []
  /-- The records that numbered runs have given one by one. -/
  records : List Record := []
  /-- The run that was started last. -/
  latest : LatestRun := .none
  deriving DecidableEq, Repr

/-- How far a run has come. -/
structure Status where
  state : WalkState := .start
  notes : List String := []
  deriving DecidableEq, Repr

/-- The status of a run. -/
def Run.status (r : Run) : Status :=
  ⟨r.state, r.notes⟩

namespace Session

/-- What can be done in a session. -/
inductive Op where
  /-- Start a run. -/
  | start
  /-- Ask a run for its next record. -/
  | next (run : Nat)
  /-- Look at the status of a run. -/
  | status (run : Nat)
  /-- Look at the walker. -/
  | walker
  /-- Ask a run for everything it has not given yet. -/
  | result (run : Nat)
  /-- Start a run without a number, and ask it for everything. -/
  | collect
  /-- Overwrite bytes of the buffer. -/
  | poke (offset : Nat) (patch : Bytes)
  /-- Change the root. -/
  | root (offset : Int)
  /-- Change whether pointers are checked strictly. -/
  | strict (on : Bool)
  /-- Look at the payload of a record. -/
  | payload (record : Nat)
  /-- Decode a record. -/
  | decode (record : Nat) (options : Options)
  deriving DecidableEq, Repr

/-- What an operation answers. -/
inductive Answer where
  /-- A run was started, and this is its number. -/
  | started (run : Nat) (status : Status)
  /-- A run has given a record, which has this number. -/
  | record (record : RawCapability) (index : Nat) (status : Status)
  /-- A run has stopped. -/
  | stopped (status : Status)
  /-- A run has met a root that is no offset. -/
  | escaped (error : OffsetError) (status : Status)
  | status (status : Status)
  | walker (limit : Nat) (root : Int) (status : Status)
  /-- A run has given all these records. -/
  | walk (records : List RawCapability) (status : Status)
  /-- A run that was asked for everything has met a root that is no offset. -/
  | raised (error : OffsetError)
  | payload (bytes : Bytes)
  | decoded (result : Except Error Decoded)
  /-- Something was changed. -/
  | done
  /-- There is no run or no record with that number. -/
  | missing
  deriving Repr

/-- The status that the walker shows. -/
def walkerStatus (s : Session) : Status :=
  match s.latest with
  | .none => {}
  | .numbered run => (s.runs[run]?.map Run.status).getD {}
  | .collected run => run.status

/-- The answer of a walk. -/
def walkAnswer (s : Session) (k : Walk) : Answer :=
  match k.escape with
  | some e => .raised e
  | none => .walk (k.records.map (·.load s.buffer)) k.run.status

/-- Carries out one operation: its answer with the events on the way to it, and the
session afterwards. -/
def perform (s : Session) : Op → Logged Answer × Session
  | .start =>
      let run := Run.begin s.walker s.buffer
      (⟨.started s.runs.length run.status, []⟩,
        { s with runs := s.runs ++ [run], latest := .numbered s.runs.length })
  | .next i =>
      match s.runs[i]? with
      | none => (⟨.missing, []⟩, s)
      | some run =>
          match run.next s.walker s.buffer with
          | ⟨.found record run, events⟩ =>
              (⟨.record (record.load s.buffer) s.records.length run.status, events⟩,
                { s with runs := s.runs.set i run, records := s.records ++ [record] })
          | ⟨.stopped run, events⟩ =>
              (⟨.stopped run.status, events⟩, { s with runs := s.runs.set i run })
          | ⟨.escaped e run, events⟩ =>
              (⟨.escaped e run.status, events⟩, { s with runs := s.runs.set i run })
  | .status i =>
      match s.runs[i]? with
      | none => (⟨.missing, []⟩, s)
      | some run => (⟨.status run.status, []⟩, s)
  | .walker =>
      (⟨.walker (s.walker.region.readable s.buffer) s.walker.root s.walkerStatus, []⟩, s)
  | .result i =>
      match s.runs[i]? with
      | none => (⟨.missing, []⟩, s)
      | some run =>
          let k := run.rest s.walker s.buffer
          (⟨s.walkAnswer k, k.events⟩, { s with runs := s.runs.set i k.run })
  | .collect =>
      let k := s.walker.walk s.buffer
      (⟨s.walkAnswer k, k.events⟩, { s with latest := .collected k.run })
  | .poke offset patch => (⟨.done, []⟩, { s with buffer := s.buffer.overwrite offset patch })
  | .root offset => (⟨.done, []⟩, { s with walker := { s.walker with root := offset } })
  | .strict on => (⟨.done, []⟩, { s with walker := { s.walker with strict := on } })
  | .payload i =>
      match s.records[i]? with
      | none => (⟨.missing, []⟩, s)
      | some record => (⟨.payload (record.payload s.buffer), []⟩, s)
  | .decode i options =>
      match s.records[i]? with
      | none => (⟨.missing, []⟩, s)
      | some record =>
          (((record.load s.buffer).decode options).map .decoded, s)

/-- Carries out operations one after the other. -/
def run (s : Session) : List Op → List (Logged Answer) × Session
  | [] => ([], s)
  | op :: rest =>
      let (answer, s) := s.perform op
      let (answers, s) := s.run rest
      (answer :: answers, s)

end Session

end ConfigSpace
