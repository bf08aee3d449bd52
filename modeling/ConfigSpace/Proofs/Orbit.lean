import ConfigSpace.Proofs.Reading
import ConfigSpace.Walk
import Mathlib.Data.Fintype.Card
import Mathlib.Data.Nat.Find

/-!
# The orbit of a walk

A walker and a buffer fix a sequence of offsets: the root, and from then on the
offset that the header at the one before points to.  The sequence goes on for ever,
through cycles and beyond the end of the buffer; a walk follows it up to the first
offset where it has to end (`Walker.ending`).  This file proves that this is all a
walk does.

* `Visited.Tracks` — the marks of a run are exactly the offsets it has given.
* `Walker.Live` and `Walker.Ends` — what there has to be at an offset for the walk to go
  on, and the five ways in which it ends there otherwise.
* `Run.Reached` — the state of a run that has given the first `i` offsets of the
  orbit.  `Run.Reached.next_live` and `Run.Reached.next_ending` say what one request
  makes of it, and `drain_of_reached` what any number of them do.
* `Walker.exists_ending` — every orbit comes to an end: as long as it does not, its
  offsets have slots of their own, of which there are finitely many.
* `Walker.walk_followsOrbit` — the walk, from the first offset to the last.
-/

namespace ConfigSpace

/-! ## Slots -/

namespace Region

/-- How many offsets share a slot among the visited ones. -/
def granule : Region → Nat
  | .legacy => 1
  | .extended => 4

theorem slots_mul_granule (r : Region) : (Run.unvisited r).slots * r.granule = r.limit := by
  cases r <;> rfl

theorem granule_dvd_nextPtr (r : Region) (buffer : Bytes) (o : Nat) :
    r.granule ∣ (r.header buffer o).nextPtr := by
  cases r with
  | legacy => exact one_dvd _
  | extended => exact ⟨_, (Header.pointer_eq_and _).symm⟩

end Region

namespace Visited

/-- The marks are those of a region's offsets, and mark just the given ones. -/
structure Tracks (v : Visited) (r : Region) (offsets : List Nat) : Prop where
  /-- The slots are those of the region. -/
  slots_eq : v.slots = (Run.unvisited r).slots
  /-- So is their size. -/
  granularity_eq : v.granularity = r.granule
  /-- An offset at the start of a slot is marked if it is one of the given ones. -/
  contains_iff : ∀ o : Nat, r.granule ∣ o → (v.contains o = true ↔ o ∈ offsets)

theorem tracks_unvisited (r : Region) : (Run.unvisited r).Tracks r [] := by
  refine ⟨rfl, by cases r <;> rfl, fun o _ => ?_⟩
  have hnone : (Run.unvisited r).contains o = false := by cases r <;> exact contains_empty _ _ _
  simp [hnone]

namespace Tracks

variable {v : Visited} {r : Region} {offsets : List Nat} {o : Nat}

theorem slot?_natCast (h : v.Tracks r offsets) (o : Nat) :
    v.slot? o = if o / r.granule < v.slots then some (o / r.granule) else none := by
  have hdiv : (o : Int) / v.granularity = ((o / r.granule : Nat) : Int) := by
    rw [h.granularity_eq, Int.natCast_ediv]
  have hpos : 0 ≤ v.granularity := by
    rw [h.granularity_eq]
    exact Int.natCast_nonneg _
  rw [Visited.slot?_eq hpos, hdiv]
  simp only [Int.natCast_nonneg, true_and, Int.ofNat_lt, Int.toNat_natCast]

theorem div_lt_slots (h : v.Tracks r offsets) (ho : o < r.limit) : o / r.granule < v.slots := by
  rw [h.slots_eq]
  apply Nat.div_lt_of_lt_mul
  rw [Nat.mul_comm, r.slots_mul_granule]
  exact ho

/-- An offset of the region can be marked, and then it is one of those marked. -/
theorem add (h : v.Tracks r offsets) (halign : r.granule ∣ o) (ho : o < r.limit) :
    ∃ v', v.add o = .ok v' ∧ v'.Tracks r (offsets ++ [o]) := by
  have hslot : v.slot? o = some (o / r.granule) := by
    rw [h.slot?_natCast, if_pos (h.div_lt_slots ho)]
  have hadd := add_of_some hslot
  refine ⟨_, hadd, h.slots_eq, h.granularity_eq, ?_⟩
  intro o' halign'
  have hsame : (v.slot? o' == v.slot? o) = true ↔ o' = o := by
    rw [beq_iff_eq, hslot, h.slot?_natCast]
    constructor
    · intro heq
      split at heq
      · have hdiv := Option.some.inj heq
        rw [← Nat.mul_div_cancel' halign', ← Nat.mul_div_cancel' halign, hdiv]
      · cases heq
    · rintro rfl
      rw [if_pos (h.div_lt_slots ho)]
  rw [contains_add hadd, Bool.or_eq_true, h.contains_iff o' halign', hsame, List.mem_append,
    List.mem_singleton]

end Tracks

end Visited

/-! ## The orbit -/

namespace Walker

/-- The offsets that the pointers of a list lead to, one after the other, from the root
on. -/
def orbit (w : Walker) (buffer : Bytes) : Nat → Nat
  | 0 => w.root.toNat
  | i + 1 => (w.region.header buffer (orbit w buffer i)).nextPtr

/-- The orbit is back at an offset that it has been at before. -/
def Revisits (w : Walker) (buffer : Bytes) (i : Nat) : Prop :=
  ∃ j < i, w.orbit buffer j = w.orbit buffer i

instance (w : Walker) (buffer : Bytes) (i : Nat) : Decidable (w.Revisits buffer i) :=
  inferInstanceAs (Decidable (∃ j, j < i ∧ w.orbit buffer j = w.orbit buffer i))

/-- How the walk ends at the `i`th offset of its orbit, if it does.  The pointer to it
was found in the capability before; at the root, in the root itself. -/
def ending (w : Walker) (buffer : Bytes) (i : Nat) : Option WalkState :=
  if w.orbit buffer i = 0 then some .terminated
  else if w.Revisits buffer i then
    some (.failed (.cycle (w.orbit buffer (i - 1)) (w.orbit buffer i)))
  else match w.check (w.orbit buffer (i - 1)) (w.orbit buffer i) with
    | .error fault => some (.failed fault)
    | .ok _ =>
        if w.region.readable buffer < w.orbit buffer i + w.region.headerSize then
          some (.failed (.unterminated (w.orbit buffer i) .headerPastEnd))
        else if w.region.Terminates buffer (w.orbit buffer i) then some .terminated
        else none

/-- The notes on the pointer from `source` to `target`, if it may be followed. -/
def pointerNotes (w : Walker) (source target : Int) : List String :=
  match w.check source target with
  | .error _ => []
  | .ok note => note.toList

/-- What the walk notes on the way to the `i`th offset of its orbit. -/
def notesAt (w : Walker) (buffer : Bytes) (i : Nat) : List String :=
  if w.orbit buffer i = 0 ∨ w.Revisits buffer i then []
  else w.pointerNotes (w.orbit buffer (i - 1)) (w.orbit buffer i)

/-- What the walk notes on the way to the first `n` offsets of its orbit. -/
def notesBefore (w : Walker) (buffer : Bytes) (n : Nat) : List String :=
  (List.range n).flatMap (w.notesAt buffer)

/-- The record of the `i`th offset of the orbit. -/
def recordAt (w : Walker) (buffer : Bytes) (i : Nat) : Record :=
  .ofHeader (w.orbit buffer i) (w.region.header buffer (w.orbit buffer i))
    (w.region.readable buffer)

/-- The first `n` offsets of the orbit. -/
def offsetsBefore (w : Walker) (buffer : Bytes) (n : Nat) : List Nat :=
  (List.range n).map (w.orbit buffer)

/-- Where a walk that has given these records finds the pointer it looks at next: in the
last of them or, before it has given any, in the root. -/
def sourceAfter (w : Walker) (records : List Record) : Nat :=
  records.getLast?.elim w.root.toNat Record.offset

/-- The pointer that a walk that has given these records looks at next. -/
def targetAfter (w : Walker) (records : List Record) : Nat :=
  records.getLast?.elim w.root.toNat fun record => record.header.nextPtr

/-- A walker that starts at an offset of configuration space, at the start of a slot. -/
structure Proper (w : Walker) : Prop where
  /-- The root does not count from the end. -/
  root_nonneg : 0 ≤ w.root
  /-- The root lies at the start of a slot. -/
  root_aligned : w.region.granule ∣ w.root.toNat

/-- There is a list to walk: a buffer without an extended region has no extended one. -/
def Opens (w : Walker) (buffer : Bytes) : Prop :=
  w.region = .extended → 0x100 < buffer.length

end Walker

namespace Walker

variable {w : Walker} {buffer : Bytes} {i : Nat}

theorem mem_offsetsBefore {n o : Nat} :
    o ∈ w.offsetsBefore buffer n ↔ ∃ j < n, w.orbit buffer j = o := by
  simp [offsetsBefore]

theorem offsetsBefore_succ (n : Nat) :
    w.offsetsBefore buffer (n + 1) = w.offsetsBefore buffer n ++ [w.orbit buffer n] := by
  simp [offsetsBefore, List.range_succ]

theorem notesBefore_succ (n : Nat) :
    w.notesBefore buffer (n + 1) = w.notesBefore buffer n ++ w.notesAt buffer n := by
  simp [notesBefore, List.range_succ]

/-- A walk that has given the first `k` records of its orbit stands behind the last one. -/
theorem sourceAfter_range (k : Nat) :
    w.sourceAfter ((List.range k).map (w.recordAt buffer)) = w.orbit buffer (k - 1) := by
  cases k with
  | zero => rfl
  | succ k =>
    rw [List.range_succ, List.map_append, List.map_singleton, sourceAfter, List.getLast?_concat]
    rfl

theorem targetAfter_range (k : Nat) :
    w.targetAfter ((List.range k).map (w.recordAt buffer)) = w.orbit buffer k := by
  cases k with
  | zero => rfl
  | succ k =>
    rw [List.range_succ, List.map_append, List.map_singleton, targetAfter, List.getLast?_concat]
    rfl

theorem notesBefore_mono {m n : Nat} (h : m ≤ n) :
    w.notesBefore buffer m <+: w.notesBefore buffer n := by
  induction n, h using Nat.le_induction with
  | base => exact List.prefix_refl _
  | succ n _ ih =>
    rw [notesBefore_succ]
    exact ih.trans (List.prefix_append _ _)

/-- Every offset of the orbit lies at the start of a slot. -/
theorem Proper.orbit_aligned (hw : w.Proper) (i : Nat) : w.region.granule ∣ w.orbit buffer i := by
  cases i with
  | zero => exact hw.root_aligned
  | succ j => exact w.region.granule_dvd_nextPtr buffer _

/-- What there has to be at the `i`th offset of the orbit for the walk to go on. -/
structure Live (w : Walker) (buffer : Bytes) (i : Nat) : Prop where
  /-- The pointer leads somewhere. -/
  ne_zero : w.orbit buffer i ≠ 0
  /-- It leads to an offset that was not visited. -/
  fresh : ¬ w.Revisits buffer i
  /-- It may be followed. -/
  checked : ∃ note, w.check (w.orbit buffer (i - 1)) (w.orbit buffer i) = .ok note
  /-- The header there can be read. -/
  fits : w.orbit buffer i + w.region.headerSize ≤ w.region.readable buffer
  /-- It does not end the list. -/
  continues : ¬ w.region.Terminates buffer (w.orbit buffer i)

/-- The walk goes on where none of its endings is. -/
theorem live_of_ending_eq_none (h : w.ending buffer i = none) : w.Live buffer i := by
  unfold ending at h
  split at h
  · cases h
  rename_i hzero
  split at h
  · cases h
  rename_i hfresh
  split at h
  · cases h
  rename_i note hcheck
  split at h
  · cases h
  rename_i hfits
  split at h
  · cases h
  rename_i hcontinues
  exact ⟨hzero, hfresh, ⟨note, hcheck⟩, Nat.not_lt.1 hfits, hcontinues⟩

theorem ending_eq_none_of_live (h : w.Live buffer i) : w.ending buffer i = none := by
  obtain ⟨hzero, hfresh, ⟨note, hcheck⟩, hfits, hcontinues⟩ := h
  unfold ending
  rw [if_neg hzero, if_neg hfresh, hcheck]
  exact (if_neg (Nat.not_lt.2 hfits)).trans (if_neg hcontinues)

/-- How a walk ends at the `i`th offset of its orbit.  Each way excludes those before it. -/
inductive Ends (w : Walker) (buffer : Bytes) (i : Nat) : WalkState → Prop where
  /-- The pointer is zero. -/
  | zero (hzero : w.orbit buffer i = 0) : Ends w buffer i .terminated
  /-- The offset was visited before. -/
  | cycle (hzero : w.orbit buffer i ≠ 0) (hvisited : w.Revisits buffer i) :
      Ends w buffer i (.failed (.cycle (w.orbit buffer (i - 1)) (w.orbit buffer i)))
  /-- The pointer may not be followed. -/
  | refused {fault : WalkFault} (hzero : w.orbit buffer i ≠ 0) (hfresh : ¬ w.Revisits buffer i)
      (hcheck : w.check (w.orbit buffer (i - 1)) (w.orbit buffer i) = .error fault) :
      Ends w buffer i (.failed fault)
  /-- The header does not fit. -/
  | pastEnd {note : Option String} (hzero : w.orbit buffer i ≠ 0) (hfresh : ¬ w.Revisits buffer i)
      (hcheck : w.check (w.orbit buffer (i - 1)) (w.orbit buffer i) = .ok note)
      (hpast : w.region.readable buffer < w.orbit buffer i + w.region.headerSize) :
      Ends w buffer i (.failed (.unterminated (w.orbit buffer i) .headerPastEnd))
  /-- The header ends the list. -/
  | terminator {note : Option String} (hzero : w.orbit buffer i ≠ 0)
      (hfresh : ¬ w.Revisits buffer i)
      (hcheck : w.check (w.orbit buffer (i - 1)) (w.orbit buffer i) = .ok note)
      (hfits : w.orbit buffer i + w.region.headerSize ≤ w.region.readable buffer)
      (hterm : w.region.Terminates buffer (w.orbit buffer i)) : Ends w buffer i .terminated

/-- An ending is one of these. -/
theorem ends_of_ending {s : WalkState} (h : w.ending buffer i = some s) : w.Ends buffer i s := by
  unfold ending at h
  split at h
  · cases h
    exact .zero ‹_›
  rename_i hzero
  split at h
  · cases h
    exact .cycle hzero ‹_›
  rename_i hfresh
  split at h
  · cases h
    exact .refused hzero hfresh ‹_›
  rename_i note hcheck
  split at h
  · cases h
    exact .pastEnd hzero hfresh hcheck ‹_›
  rename_i hfits
  split at h
  · cases h
    exact .terminator hzero hfresh hcheck (Nat.not_lt.1 hfits) ‹_›
  · cases h

theorem Ends.terminated_or_failed {s : WalkState} (h : w.Ends buffer i s) :
    s = .terminated ∨ ∃ fault, s = .failed fault := by
  cases h with
  | zero | terminator => exact Or.inl rfl
  | cycle | refused | pastEnd => exact Or.inr ⟨_, rfl⟩

/-- An offset at which the walk goes on lies in its region. -/
theorem Live.lt_limit (h : w.Live buffer i) : w.orbit buffer i < w.region.limit := by
  have hfits := h.fits
  have hreadable : w.region.readable buffer ≤ w.region.limit := Nat.min_le_right _ _
  have hpos : 0 < w.region.headerSize := by cases w.region <;> decide
  omega

end Walker

/-! ## One request -/

namespace Run

variable {w : Walker} {buffer : Bytes} {r : Run} {i : Nat}

/-- The run with more notes. -/
def noting (r : Run) (notes : List String) : Run :=
  { r with notes := r.notes ++ notes }

/-- The events on a pointer that is followed with this note, if there is one. -/
def noteEvents (note : Option String) (source target : Int) : List Event :=
  note.toList.map fun text => .pointerNote text source target

/-- Following a pointer that may be followed is to note what there is to note, and then to
visit its target. -/
theorem follow_of_checked {source target : Int} {note : Option String} (hne : target ≠ 0)
    (hcheck : w.check source target = .ok note) :
    r.follow w buffer source target =
      ((r.noting note.toList).visit w buffer target).after (noteEvents note source target) := by
  unfold follow
  rw [if_neg hne, hcheck]
  cases note with
  | none => simp [noting, noteEvents, Logged.after]
  | some text => rfl

theorem value_follow_of_checked {source target : Int} {note : Option String} (hne : target ≠ 0)
    (hcheck : w.check source target = .ok note) :
    (r.follow w buffer source target).value =
      ((r.noting note.toList).visit w buffer target).value := by
  rw [follow_of_checked hne hcheck]
  rfl

section Visit

variable {o : Nat}

theorem visit_of_lt (h : w.region.readable buffer < o + w.region.headerSize) :
    r.visit w buffer o = r.fail w (.unterminated o .headerPastEnd) := by
  obtain ⟨offset, needed, left, hread⟩ := Header.read_of_lt h
  unfold visit
  rw [hread]

theorem visit_of_terminates (hfits : o + w.region.headerSize ≤ w.region.readable buffer)
    (hterm : w.region.Terminates buffer o) :
    r.visit w buffer o = ⟨.stopped (r.finish .terminated), []⟩ := by
  unfold visit
  rw [Header.read_of_le hfits, if_pos hterm]

theorem visit_of_header (hfits : o + w.region.headerSize ≤ w.region.readable buffer)
    (hterm : ¬ w.region.Terminates buffer o) :
    r.visit w buffer o = r.accept w buffer o (w.region.header buffer o) := by
  unfold visit
  rw [Header.read_of_le hfits, if_neg hterm]

end Visit

/-- A run that has given the first `i` offsets of the orbit, and has not stopped. -/
structure Reached (w : Walker) (buffer : Bytes) (i : Nat) (r : Run) : Prop where
  /-- It stands behind the offset it has given last. -/
  position_eq :
    r.position = if i = 0 then .root else .behind (w.orbit buffer (i - 1)) (w.orbit buffer i)
  /-- It is under way once it has given an offset. -/
  state_eq : r.state = if i = 0 then .start else .following
  /-- It has noted what there was to note. -/
  notes_eq : r.notes = w.notesBefore buffer i
  /-- It has marked the offsets it has given. -/
  tracks : r.visited.Tracks w.region (w.offsetsBefore buffer i)

theorem reached_begin (hopen : w.Opens buffer) : Reached w buffer 0 (begin w buffer) := by
  have hbegin : begin w buffer = { visited := unvisited w.region } := by
    unfold begin
    cases hr : w.region with
    | legacy => rfl
    | extended =>
      have hlen := hopen hr
      simp only [if_neg (Nat.not_le.2 hlen)]
  rw [hbegin]
  exact ⟨rfl, rfl, rfl, Visited.tracks_unvisited w.region⟩

namespace Reached

/-- A request follows the pointer to the next offset of the orbit, unless that offset
was visited before. -/
theorem next_eq (h : Reached w buffer i r) (hw : w.Proper) :
    r.next w buffer =
      if w.orbit buffer i ≠ 0 ∧ w.Revisits buffer i then
        r.fail w (.cycle (w.orbit buffer (i - 1)) (w.orbit buffer i))
      else r.follow w buffer (w.orbit buffer (i - 1)) (w.orbit buffer i) := by
  unfold next
  rw [h.position_eq]
  cases i with
  | zero =>
    have hroot : (w.orbit buffer 0 : Int) = w.root := Int.toNat_of_nonneg hw.root_nonneg
    have hfresh : ¬ w.Revisits buffer 0 := by
      rintro ⟨j, hj, -⟩
      exact Nat.not_lt_zero j hj
    simp only [if_true, hfresh, and_false, if_false, Nat.zero_sub, hroot]
  | succ j =>
    have hmark :
        r.visited.contains (w.orbit buffer (j + 1)) = true ↔ w.Revisits buffer (j + 1) := by
      rw [h.tracks.contains_iff _ (hw.orbit_aligned _), Walker.mem_offsetsBefore]
      rfl
    simp only [Nat.add_one_ne_zero, if_false, Nat.add_sub_cancel, hmark]

/-- Where the walk goes on, a request gives the record of the offset. -/
theorem next_live (h : Reached w buffer i r) (hw : w.Proper) (hlive : w.Live buffer i) :
    ∃ r', (r.next w buffer).value = .found (w.recordAt buffer i) r' ∧
      Reached w buffer (i + 1) r' := by
  obtain ⟨note, hcheck⟩ := hlive.checked
  obtain ⟨v, hadd, htracks⟩ := h.tracks.add (hw.orbit_aligned i) hlive.lt_limit
  have hne : (w.orbit buffer i : Int) ≠ 0 := Int.natCast_ne_zero.2 hlive.ne_zero
  have hnotes : w.notesAt buffer i = note.toList := by
    rw [Walker.notesAt, if_neg (not_or.2 ⟨hlive.ne_zero, hlive.fresh⟩), Walker.pointerNotes,
      hcheck]
  have hadd' : (r.noting note.toList).visited.add (w.orbit buffer i) = .ok v := hadd
  rw [h.next_eq hw, if_neg fun hrevisit => hlive.fresh hrevisit.2,
    value_follow_of_checked hne hcheck, visit_of_header hlive.fits hlive.continues, accept]
  simp only [hadd']
  refine ⟨_, rfl, ?_, ?_, ?_, ?_⟩
  · simp [Walker.orbit]
  · simp
  · simp only [noting, h.notes_eq, Walker.notesBefore_succ, hnotes]
  · rw [Walker.offsetsBefore_succ]
    exact htracks

/-- Where the walk has an ending, a request stops the run. -/
theorem next_ending (h : Reached w buffer i r) (hw : w.Proper) {s : WalkState}
    (hend : w.ending buffer i = some s) :
    ∃ r', (r.next w buffer).value = .stopped r' ∧ r'.state = s ∧
      r'.notes = w.notesBefore buffer (i + 1) := by
  -- A pointer that may be followed is noted before its target is visited.
  have hfollow : ∀ {note}, w.orbit buffer i ≠ 0 → ¬ w.Revisits buffer i →
      w.check (w.orbit buffer (i - 1)) (w.orbit buffer i) = .ok note →
      (r.next w buffer).value =
        ((r.noting note.toList).visit w buffer (w.orbit buffer i)).value ∧
      (r.noting note.toList).notes = w.notesBefore buffer (i + 1) := by
    intro note hzero hfresh hcheck
    constructor
    · rw [h.next_eq hw, if_neg fun hrevisit => hfresh hrevisit.2]
      exact value_follow_of_checked (Int.natCast_ne_zero.2 hzero) hcheck
    · rw [Walker.notesBefore_succ, Walker.notesAt, if_neg (not_or.2 ⟨hzero, hfresh⟩)]
      simp only [noting, h.notes_eq, Walker.pointerNotes, hcheck]
  cases Walker.ends_of_ending hend with
  | zero hzero =>
    rw [h.next_eq hw, if_neg fun hrevisit => hrevisit.1 hzero, hzero]
    refine ⟨_, rfl, rfl, ?_⟩
    simp [finish, h.notes_eq, Walker.notesBefore_succ, Walker.notesAt, hzero]
  | cycle hzero hvisited =>
    rw [h.next_eq hw, if_pos ⟨hzero, hvisited⟩]
    refine ⟨_, rfl, rfl, ?_⟩
    simp [finish, h.notes_eq, Walker.notesBefore_succ, Walker.notesAt, hvisited]
  | refused hzero hfresh hcheck =>
    rw [h.next_eq hw, if_neg fun hrevisit => hfresh hrevisit.2]
    unfold follow
    rw [if_neg (Int.natCast_ne_zero.2 hzero), hcheck]
    refine ⟨_, rfl, rfl, ?_⟩
    simp [finish, h.notes_eq, Walker.notesBefore_succ, Walker.notesAt, Walker.pointerNotes, hcheck]
  | pastEnd hzero hfresh hcheck hpast =>
    obtain ⟨hvalue, hnotes⟩ := hfollow hzero hfresh hcheck
    rw [hvalue, visit_of_lt hpast, ← hnotes]
    exact ⟨_, rfl, rfl, rfl⟩
  | terminator hzero hfresh hcheck hfits hterm =>
    obtain ⟨hvalue, hnotes⟩ := hfollow hzero hfresh hcheck
    rw [hvalue, visit_of_terminates hfits hterm, ← hnotes]
    exact ⟨_, rfl, rfl, rfl⟩

end Reached

end Run

/-! ## Any number of requests -/

namespace Run

variable {w : Walker} {buffer : Bytes} {r r' : Run} {record : Record}

/-- A run that gives a record goes on from there. -/
theorem drain_of_found (fuel : Nat) (h : (r.next w buffer).value = .found record r') :
    drain w buffer (fuel + 1) r =
      { drain w buffer fuel r' with
        steps := ⟨record, (r.next w buffer).events⟩ :: (drain w buffer fuel r').steps } := by
  rw [drain]
  rcases hnext : r.next w buffer with ⟨value, events⟩
  rw [hnext] at h
  cases h
  rfl

theorem drain_of_stopped (fuel : Nat) (h : (r.next w buffer).value = .stopped r') :
    drain w buffer (fuel + 1) r = { closing := (r.next w buffer).events, run := r' } := by
  rw [drain]
  rcases hnext : r.next w buffer with ⟨value, events⟩
  rw [hnext] at h
  cases h
  rfl

theorem drain_of_escaped {e : OffsetError} (fuel : Nat)
    (h : (r.next w buffer).value = .escaped e r') :
    drain w buffer (fuel + 1) r =
      { closing := (r.next w buffer).events, run := r', escape := some e } := by
  rw [drain]
  rcases hnext : r.next w buffer with ⟨value, events⟩
  rw [hnext] at h
  cases h
  rfl

/-- Where every request is answered alike, so are any number of them. -/
theorem drain_congr {w' : Walker} {buffer' : Bytes}
    (h : ∀ r : Run, r.next w buffer = r.next w' buffer') (fuel : Nat) (r : Run) :
    drain w buffer fuel r = drain w' buffer' fuel r := by
  induction fuel generalizing r with
  | zero => rfl
  | succ fuel ih => simp only [drain, h, ih]

theorem rest_of_ended (h : r.position = .ended) (w : Walker) (buffer : Bytes) :
    r.rest w buffer = { run := r } := by
  have hnext : r.next w buffer = ⟨.stopped r, []⟩ := by
    unfold next
    rw [h]
  rw [rest, drain, hnext]

end Run

/-- A walk that gives the first `k` offsets of the orbit and then ends in state `s`. -/
structure Walk.FollowsOrbit (walk : Walk) (w : Walker) (buffer : Bytes) (k : Nat)
    (s : WalkState) : Prop where
  /-- The walk goes on at the first `k` offsets. -/
  live : ∀ i < k, w.ending buffer i = none
  /-- It ends at the next one. -/
  ending : w.ending buffer k = some s
  /-- It gives a record for each offset at which it goes on. -/
  records_eq : walk.records = (List.range k).map (w.recordAt buffer)
  /-- No offset is without a slot. -/
  escape_eq : walk.escape = none
  /-- The run is over. -/
  state_eq : walk.run.state = s
  /-- What was noted is what there was to note. -/
  notes_eq : walk.run.notes = w.notesBefore buffer (k + 1)

/-- A walk ends where its orbit first comes to an end. -/
theorem Walk.FollowsOrbit.eq_of_first {walk : Walk} {w : Walker} {buffer : Bytes} {k j : Nat}
    {s t : WalkState} (h : walk.FollowsOrbit w buffer k s)
    (hlive : ∀ i < j, w.ending buffer i = none) (hend : w.ending buffer j = some t) :
    k = j ∧ s = t := by
  have hkj : k = j := by
    rcases Nat.lt_trichotomy k j with hlt | heq | hgt
    · exact absurd (h.ending.symm.trans (hlive k hlt)) (by simp)
    · exact heq
    · exact absurd (hend.symm.trans (h.live j hgt)) (by simp)
  subst hkj
  exact ⟨rfl, Option.some.inj (h.ending.symm.trans hend)⟩

/-- Draining a run that has given the first `i` offsets gives those from there on, up to
the ending; there need only be enough requests left. -/
theorem drain_of_reached {w : Walker} {buffer : Bytes} {k : Nat} {s : WalkState} (hw : w.Proper)
    (hlive : ∀ i < k, w.ending buffer i = none) (hend : w.ending buffer k = some s)
    {fuel i : Nat} (hi : i ≤ k) (hfuel : k - i < fuel) {r : Run}
    (hr : Run.Reached w buffer i r) :
    let walk := Run.drain w buffer fuel r
    walk.records = (List.range' i (k - i)).map (w.recordAt buffer) ∧ walk.escape = none ∧
      walk.run.state = s ∧ walk.run.notes = w.notesBefore buffer (k + 1) := by
  induction fuel generalizing i r with
  | zero => exact absurd hfuel (Nat.not_lt_zero _)
  | succ fuel ih =>
    rcases Nat.lt_or_eq_of_le hi with hlt | rfl
    · -- The walk goes on at the `i`th offset, and the rest of it is known.
      obtain ⟨r', hnext, hr'⟩ := hr.next_live hw (Walker.live_of_ending_eq_none (hlive i hlt))
      obtain ⟨hrecords, hescape, hstate, hnotes⟩ := ih hlt (by omega) hr'
      have hrange : List.range' i (k - i) = i :: List.range' (i + 1) (k - (i + 1)) := by
        rw [show k - i = k - (i + 1) + 1 by omega, List.range'_succ]
      rw [Run.drain_of_found fuel hnext, hrange, List.map_cons, ← hrecords]
      exact ⟨rfl, hescape, hstate, hnotes⟩
    · obtain ⟨r', hnext, hstate, hnotes⟩ := hr.next_ending hw hend
      rw [Run.drain_of_stopped fuel hnext, Nat.sub_self]
      exact ⟨rfl, rfl, hstate, hnotes⟩

/-! ## The whole walk -/

namespace Walker

variable {w : Walker} {buffer : Bytes}

/-- Offsets at which the walk goes on are different, and there are no more of them than
the region has slots. -/
theorem exists_ending (hw : w.Proper) (buffer : Bytes) :
    ∃ k ≤ (Run.unvisited w.region).slots, (w.ending buffer k).isSome := by
  by_contra hno
  push Not at hno
  have hlive : ∀ i ≤ (Run.unvisited w.region).slots, w.Live buffer i := by
    intro i hi
    refine live_of_ending_eq_none ?_
    simpa using hno i hi
  have hbound : ∀ i ≤ (Run.unvisited w.region).slots,
      w.orbit buffer i / w.region.granule < (Run.unvisited w.region).slots := by
    intro i hi
    apply Nat.div_lt_of_lt_mul
    rw [Nat.mul_comm, w.region.slots_mul_granule]
    exact (hlive i hi).lt_limit
  let slot : Fin ((Run.unvisited w.region).slots + 1) → Fin (Run.unvisited w.region).slots :=
    fun i => ⟨w.orbit buffer i / w.region.granule, hbound i (Nat.le_of_lt_succ i.isLt)⟩
  have hinj : Function.Injective slot := by
    intro i j hij
    have hdiv : w.orbit buffer i / w.region.granule = w.orbit buffer j / w.region.granule :=
      congrArg Fin.val hij
    have horbit : w.orbit buffer i = w.orbit buffer j := by
      rw [← Nat.mul_div_cancel' (hw.orbit_aligned i), ← Nat.mul_div_cancel' (hw.orbit_aligned j),
        hdiv]
    rcases Nat.lt_trichotomy i j with hlt | heq | hgt
    · exact absurd ⟨i, hlt, horbit⟩ (hlive j (Nat.le_of_lt_succ j.isLt)).fresh
    · exact Fin.ext heq
    · exact absurd ⟨j, hgt, horbit.symm⟩ (hlive i (Nat.le_of_lt_succ i.isLt)).fresh
  have hcard := Fintype.card_le_of_injective slot hinj
  simp only [Fintype.card_fin] at hcard
  omega

/-- Every walk follows its orbit to the first ending. -/
theorem walk_followsOrbit (hw : w.Proper) (hopen : w.Opens buffer) :
    ∃ k s, (w.walk buffer).FollowsOrbit w buffer k s := by
  obtain ⟨n, hn, hsome⟩ := exists_ending hw buffer
  have hex : ∃ k, (w.ending buffer k).isSome := ⟨n, hsome⟩
  have hle : Nat.find hex ≤ n := Nat.find_min' hex hsome
  have hlive : ∀ i < Nat.find hex, w.ending buffer i = none := by
    intro i hi
    simpa using Nat.find_min hex hi
  obtain ⟨s, hend⟩ := Option.isSome_iff_exists.1 (Nat.find_spec hex)
  have hr := Run.reached_begin hopen
  have hfuel : Nat.find hex - 0 < (Run.begin w buffer).visited.slots + 1 := by
    rw [hr.tracks.slots_eq]
    omega
  obtain ⟨hrecords, hescape, hstate, hnotes⟩ :=
    drain_of_reached hw hlive hend (Nat.zero_le _) hfuel hr
  rw [Nat.sub_zero, ← List.range_eq_range'] at hrecords
  exact ⟨Nat.find hex, s, hlive, hend, hrecords, hescape, hstate, hnotes⟩

end Walker

end ConfigSpace
