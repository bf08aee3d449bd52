import ConfigSpace.Proofs.LegacyWalk
import ConfigSpace.Text.Hex.Laws

/-!
# The strict walk of the legacy list

A strict walk does not note a misplaced pointer but stops at it.  Both walks look at a
pointer in the same order, first whether it is zero, then whether it leads to an offset
that was given before, and only then where it is placed; so the strict walk is the
lenient one, cut at the first pointer that the lenient one notes (`strict_walk_cut`).

A note is a text.  That the first one tells at which pointer the walk is cut is because
the pointer can be read back from the text (`misplacedNote_injective`).
-/

namespace ConfigSpace

/-! ## Which pointer a note is about -/

theorem toList_note (target : Int) (odd : List String) :
    (Walker.note target odd).toList =
      "capability pointer ".toList ++
        ((Text.hex target).toList ++
          ' ' :: ("is ".toList ++ (" and ".intercalate odd).toList)) := by
  unfold Walker.note
  simp only [String.toList_append, List.append_assoc]
  rfl

/-- Notes on different pointers differ. -/
theorem misplacedNote_injective {p q : Nat} (h : misplacedNote p = misplacedNote q) : p = q := by
  have hlist : (misplacedNote p).toList = (misplacedNote q).toList := congrArg String.toList h
  unfold misplacedNote at hlist
  rw [toList_note, toList_note] at hlist
  exact Text.hex_append_inj (List.append_cancel_left hlist)

/-! ## Where the two walks part -/

/-- A strict walk does not follow a misplaced pointer, and notes nothing. -/
theorem check_strict (root source : Int) (target : Nat) :
    (Walker.legacy root true).check source target =
      if Misplaced target then .error (.invalidPointer source target) else .ok none := by
  rw [check_legacy]
  split <;> rfl

section Orbit

variable (buffer : Bytes) (root : Nat)

/-- A lenient walk that comes to the `i`th offset of the orbit notes the pointer to it. -/
def Noted (i : Nat) : Prop :=
  legacyOrbit buffer root i ≠ 0 ∧
    (∀ j < i, legacyOrbit buffer root j ≠ legacyOrbit buffer root i) ∧
    Misplaced (legacyOrbit buffer root i)

instance (i : Nat) : Decidable (Noted buffer root i) :=
  inferInstanceAs (Decidable (_ ∧ (∀ j, j < i → _) ∧ _))

variable {buffer root} {i : Nat}

theorem notesAt_of_noted (h : Noted buffer root i) :
    (Walker.legacy root).notesAt buffer i = [misplacedNote (legacyOrbit buffer root i)] := by
  obtain ⟨hzero, hfresh, hmisplaced⟩ := h
  have hother : ¬ (LegacyEnding.zero.At buffer root i ∨ LegacyEnding.cycle.At buffer root i) := by
    rintro (hz | ⟨j, hj, heq⟩)
    · exact hzero hz
    · exact hfresh j hj heq
  rw [notesAt_lenient, if_neg hother]
  simp [hmisplaced]

theorem notesAt_of_not_noted (h : ¬ Noted buffer root i) :
    (Walker.legacy root).notesAt buffer i = [] := by
  rw [notesAt_lenient]
  split
  · rfl
  · rename_i hother
    obtain ⟨hzero, hcycle⟩ := not_or.1 hother
    have hplaced : ¬ Misplaced (legacyOrbit buffer root i) := by
      intro hmisplaced
      exact h ⟨hzero, fun j hj heq => hcycle ⟨j, hj, heq⟩, hmisplaced⟩
    simp [hplaced]

/-- A strict walk ends where a lenient one notes something. -/
theorem ending_strict_of_noted (h : Noted buffer root i) :
    (Walker.legacy root true).ending buffer i =
      some (.failed (.invalidPointer (legacyOrbit buffer root (i - 1))
        (legacyOrbit buffer root i))) := by
  obtain ⟨hzero, hfresh, hmisplaced⟩ := h
  have hrevisit : ¬ ∃ j < i, legacyOrbit buffer root j = legacyOrbit buffer root i := by
    rintro ⟨j, hj, heq⟩
    exact hfresh j hj heq
  simp only [Walker.ending, Walker.Revisits, orbit_legacy, check_strict, if_neg hzero,
    if_neg hrevisit, if_pos hmisplaced]

theorem ending_strict_of_not_noted (h : ¬ Noted buffer root i) :
    (Walker.legacy root true).ending buffer i = (Walker.legacy root).ending buffer i := by
  simp only [Walker.ending, Walker.Revisits, orbit_legacy, check_strict, check_lenient]
  split
  · rfl
  rename_i hzero
  split
  · rfl
  rename_i hrevisit
  have hplaced : ¬ Misplaced (legacyOrbit buffer root i) := by
    intro hmisplaced
    exact h ⟨hzero, fun j hj heq => hrevisit ⟨j, hj, heq⟩, hmisplaced⟩
  rw [if_neg hplaced]
  rfl

/-- At each offset the two walks would give the same record. -/
theorem recordAt_strict (i : Nat) :
    (Walker.legacy root true).recordAt buffer i = (Walker.legacy root).recordAt buffer i := by
  rw [Walker.recordAt, Walker.recordAt, orbit_legacy, orbit_legacy]
  rfl

end Orbit

theorem notesBefore_strict (buffer : Bytes) (root n : Nat) :
    (Walker.legacy root true).notesBefore buffer n = [] := by
  unfold Walker.notesBefore
  rw [List.flatMap_eq_nil_iff]
  intro i _
  simp only [Walker.notesAt, Walker.pointerNotes, check_strict]
  split
  · rfl
  · by_cases h : Misplaced ((Walker.legacy root true).orbit buffer i)
    · rw [if_pos h]
    · rw [if_neg h]
      rfl

/-! ## The walk -/

/-- The strict walk of the legacy list from `root` is the lenient one, cut at its first
note, which is on the pointer to `target`. -/
structure CutAtFirstNote (root : Nat) (lenient strict : Walk) (target : Nat) : Prop where
  /-- The first note is on this pointer, and on no other one. -/
  named : ∀ p : Nat, lenient.run.notes.head? = some (misplacedNote p) ↔ p = target
  /-- The strict walk gives the records that the lenient one gives before it. -/
  records_eq : strict.records = lenient.records.takeWhile (·.offset ≠ target)
  /-- This is the pointer that it looks at then. -/
  target_eq : (Walker.legacy root).targetAfter strict.records = target
  /-- The strict walk stops there. -/
  state_eq : strict.run.state =
    .failed (.invalidPointer ((Walker.legacy root).sourceAfter strict.records) target)
  /-- It notes nothing. -/
  notes_eq : strict.run.notes = []

section Orbit

variable {buffer : Bytes} {root k : Nat}

theorem takeWhile_records {j : Nat} (hj : j ≤ k)
    (hfresh : ∀ i < j, legacyOrbit buffer root i ≠ legacyOrbit buffer root j) :
    ((List.range k).map ((Walker.legacy root).recordAt buffer)).takeWhile
        (·.offset ≠ legacyOrbit buffer root j) =
      (List.range j).map ((Walker.legacy root).recordAt buffer) := by
  have hoffset : ∀ i, ((Walker.legacy root).recordAt buffer i).offset =
      legacyOrbit buffer root i := fun i => orbit_legacy buffer root false i
  obtain ⟨n, rfl⟩ := Nat.exists_eq_add_of_le hj
  rw [List.range_add, List.map_append, List.takeWhile_append_of_pos]
  · -- If there is a record of the `j`th offset, it comes next.
    cases n with
    | zero => simp
    | succ n => simp [List.range_succ_eq_map, hoffset]
  · intro record hrecord
    obtain ⟨i, hi, rfl⟩ := List.mem_map.1 hrecord
    rw [hoffset, decide_eq_true_iff]
    exact hfresh i (List.mem_range.1 hi)

/-- A walk that comes to no pointer it would note has no notes. -/
theorem notesBefore_of_not_noted {n : Nat} (h : ∀ i < n, ¬ Noted buffer root i) :
    (Walker.legacy root).notesBefore buffer n = [] := by
  unfold Walker.notesBefore
  rw [List.flatMap_eq_nil_iff]
  intro i hi
  exact notesAt_of_not_noted (h i (List.mem_range.1 hi))

/-- The first note is on the first pointer that is noted. -/
theorem head?_notesBefore {j n : Nat} (hjn : j < n) (hnoted : Noted buffer root j)
    (hfirst : ∀ i < j, ¬ Noted buffer root i) :
    ((Walker.legacy root).notesBefore buffer n).head? =
      some (misplacedNote (legacyOrbit buffer root j)) := by
  obtain ⟨rest, hrest⟩ : (Walker.legacy root).notesBefore buffer (j + 1) <+:
      (Walker.legacy root).notesBefore buffer n := Walker.notesBefore_mono hjn
  rw [← hrest, Walker.notesBefore_succ, notesBefore_of_not_noted hfirst, notesAt_of_noted hnoted]
  rfl

/-- A strict walk goes only to offsets that are well placed. -/
theorem not_misplaced_of_live_strict {i : Nat} (h : (Walker.legacy root true).Live buffer i) :
    ¬ Misplaced (legacyOrbit buffer root i) := by
  obtain ⟨note, hcheck⟩ := h.checked
  intro hmisplaced
  rw [check_strict, orbit_legacy, if_pos hmisplaced] at hcheck
  cases hcheck

end Orbit

section Both

variable {buffer : Bytes} {root k k' : Nat} {s s' : WalkState} {lenient strict : Walk}

section Strict

variable (hstrict : strict.FollowsOrbit (Walker.legacy root true) buffer k' s')

include hstrict

/-- The records that the strict walk gives are the first ones of the lenient walk. -/
theorem records_strict :
    strict.records = (List.range k').map ((Walker.legacy root).recordAt buffer) := by
  rw [hstrict.records_eq]
  exact List.map_congr_left fun i _ => recordAt_strict i

theorem placed_of_mem_strict {record : Record} (h : record ∈ strict.records) :
    4 ∣ record.offset ∧ 0x40 ≤ record.offset ∧ record.offset < 0x100 := by
  rw [hstrict.records_eq] at h
  obtain ⟨i, hi, rfl⟩ := List.mem_map.1 h
  have hlive := Walker.live_of_ending_eq_none (hstrict.live i (List.mem_range.1 hi))
  have hplaced := not_misplaced_of_live_strict hlive
  rw [← orbit_legacy buffer root true, Misplaced, not_or, not_not, not_not] at hplaced
  exact hplaced

end Strict

variable (hlenient : lenient.FollowsOrbit (Walker.legacy root) buffer k s)
  (hstrict : strict.FollowsOrbit (Walker.legacy root true) buffer k' s')

include hlenient hstrict

/-- Where the lenient walk notes nothing, the strict one ends like it. -/
theorem strict_of_not_noted (hclean : ∀ i ≤ k, ¬ Noted buffer root i) : k' = k ∧ s' = s := by
  refine hstrict.eq_of_first (fun i hi => ?_) ?_
  · rw [ending_strict_of_not_noted (hclean i (Nat.le_of_lt hi))]
    exact hlenient.live i hi
  · rw [ending_strict_of_not_noted (hclean k (Nat.le_refl k))]
    exact hlenient.ending

theorem strict_of_noted {j : Nat} (hj : j ≤ k) (hnoted : Noted buffer root j)
    (hfirst : ∀ i < j, ¬ Noted buffer root i) :
    k' = j ∧ s' = .failed (.invalidPointer (legacyOrbit buffer root (j - 1))
      (legacyOrbit buffer root j)) := by
  refine hstrict.eq_of_first (fun i hi => ?_) (ending_strict_of_noted hnoted)
  rw [ending_strict_of_not_noted (hfirst i hi)]
  exact hlenient.live i (Nat.lt_of_lt_of_le hi hj)

theorem cutAtFirstNote_of_noted {j : Nat} (hj : j ≤ k) (hnoted : Noted buffer root j)
    (hfirst : ∀ i < j, ¬ Noted buffer root i) :
    CutAtFirstNote root lenient strict (legacyOrbit buffer root j) := by
  obtain ⟨rfl, rfl⟩ := strict_of_noted hlenient hstrict hj hnoted hfirst
  have hrecords := records_strict hstrict
  have hhead := head?_notesBefore (Nat.lt_succ_of_le hj) hnoted hfirst
  refine ⟨fun p => ?_, ?_, ?_, ?_, ?_⟩
  · rw [hlenient.notes_eq, hhead, Option.some_inj]
    constructor
    · exact fun h => (misplacedNote_injective h).symm
    · rintro rfl
      rfl
  · rw [hrecords, hlenient.records_eq, takeWhile_records hj hnoted.2.1]
  · rw [hrecords, Walker.targetAfter_range, orbit_legacy]
  · rw [hrecords, Walker.sourceAfter_range, orbit_legacy, hstrict.state_eq]
  · rw [hstrict.notes_eq, notesBefore_strict]

end Both

/-- **A strict walk is the lenient one cut at its first note.**  From any root that does
not count from the end both walks return.  If the lenient one notes nothing the strict one
is the same, and otherwise it stops at the pointer that the first note is about.  So it gives
well-placed offsets only. -/
theorem strict_walk_cut (buffer : Bytes) (root : Nat) :
    let lenient := (Walker.legacy root false).walk buffer
    let strict := (Walker.legacy root true).walk buffer
    lenient.escape = none ∧ strict.escape = none ∧
    (lenient.run.notes = [] →
      strict.records = lenient.records ∧ strict.run.state = lenient.run.state ∧
        strict.run.notes = lenient.run.notes) ∧
    (lenient.run.notes ≠ [] → ∃ target, CutAtFirstNote root lenient strict target) ∧
    ∀ record ∈ strict.records,
      4 ∣ record.offset ∧ 0x40 ≤ record.offset ∧ record.offset < 0x100 := by
  intro lenient strict
  obtain ⟨k, s, hlenient⟩ :=
    Walker.walk_followsOrbit (proper_legacy root false) (opens_legacy root false buffer)
  obtain ⟨k', s', hstrict⟩ :=
    Walker.walk_followsOrbit (proper_legacy root true) (opens_legacy root true buffer)
  refine ⟨hlenient.escape_eq, hstrict.escape_eq, ?_⟩
  by_cases hex : ∃ i, i ≤ k ∧ Noted buffer root i
  · -- The lenient walk comes to a pointer that it notes, and the strict one stops there.
    obtain ⟨hj, hnoted⟩ := Nat.find_spec hex
    have hfirst : ∀ i < Nat.find hex, ¬ Noted buffer root i :=
      fun i hi hi' => Nat.find_min hex hi ⟨Nat.le_trans (Nat.le_of_lt hi) hj, hi'⟩
    have hcut := cutAtFirstNote_of_noted hlenient hstrict hj hnoted hfirst
    refine ⟨fun hnone => ?_, fun _ => ⟨_, hcut⟩, fun _ => placed_of_mem_strict hstrict⟩
    have hhead := (hcut.named _).2 rfl
    rw [hnone] at hhead
    cases hhead
  · -- It comes to no such pointer, and the two walks are one.
    have hclean : ∀ i ≤ k, ¬ Noted buffer root i := fun i hi hi' => hex ⟨i, hi, hi'⟩
    have hnone : lenient.run.notes = [] := by
      rw [hlenient.notes_eq]
      exact notesBefore_of_not_noted fun i hi => hclean i (Nat.le_of_lt_succ hi)
    obtain ⟨rfl, rfl⟩ := strict_of_not_noted hlenient hstrict hclean
    refine ⟨fun _ => ⟨?_, ?_, ?_⟩, fun hsome => absurd hnone hsome,
      fun _ => placed_of_mem_strict hstrict⟩
    · rw [records_strict hstrict, hlenient.records_eq]
    · rw [hstrict.state_eq, hlenient.state_eq]
    · rw [hstrict.notes_eq, notesBefore_strict, hnone]

end ConfigSpace
