import ConfigSpace.Options
import ConfigSpace.Proofs.Orbit

/-!
# The lenient walk of the legacy list

The legacy list is given by its pointers alone: from the root on, the second byte of
each header says where the next one is (`legacyOrbit`).  A lenient walk follows them
until one of three things happens (`LegacyEnding`): a pointer is zero, or leads to an
offset that was given before, or leads to a header that the readable bytes do not hold.

The main result, `walk_legacy_lenient`, says that the walk gives exactly the offsets
before the first such index, that at this index only one of the three holds, and that
nothing is noted but the misplaced pointers that were followed.

A zero pointer ends the list wherever the readable bytes end.  In a buffer of fewer than
two bytes this matters: `zero_root_in_short_buffer` shows that offset zero is then past
the end as well, and the walk is terminated all the same.
-/

namespace ConfigSpace

/-! ## The orbit of the legacy list -/

/-- The offsets that the pointers of the legacy list lead to from `root` on. -/
def legacyOrbit (buffer : Bytes) (root : Nat) : Nat → Nat
  | 0 => root
  | i + 1 => buffer.u8 (legacyOrbit buffer root i + 1)

theorem orbit_legacy (buffer : Bytes) (root : Nat) (strict : Bool) (i : Nat) :
    (Walker.legacy root strict).orbit buffer i = legacyOrbit buffer root i := by
  induction i with
  | zero => exact Int.toNat_natCast root
  | succ i ih =>
    rw [Walker.orbit, ih]
    rfl

theorem proper_legacy (root : Nat) (strict : Bool) : (Walker.legacy root strict).Proper :=
  ⟨Int.natCast_nonneg root, one_dvd _⟩

theorem opens_legacy (root : Int) (strict : Bool) (buffer : Bytes) :
    (Walker.legacy root strict).Opens buffer := by
  intro h
  cases h

/-! ## Misplaced pointers -/

/-- A pointer that is not dword aligned, or lies outside the part of the region where
capabilities are. -/
def Misplaced (target : Nat) : Prop :=
  ¬ (4 ∣ target) ∨ ¬ (0x40 ≤ target ∧ target < 0x100)

instance (target : Nat) : Decidable (Misplaced target) :=
  inferInstanceAs (Decidable (_ ∨ _))

/-- The note on a misplaced pointer. -/
def misplacedNote (target : Nat) : String :=
  Walker.note target (Walker.oddities target)

theorem oddities_eq_nil_iff (target : Nat) : Walker.oddities target = [] ↔ ¬ Misplaced target := by
  have haligned : (target : Int) % 4 = 0 ↔ 4 ∣ target := by omega
  have hrange : (0x40 ≤ (target : Int) ∧ (target : Int) < 0x100) ↔
      (0x40 ≤ target ∧ target < 0x100) := by omega
  simp only [Walker.oddities, List.append_eq_nil_iff, haligned, hrange, Misplaced, not_or, not_not]
  constructor
  · rintro ⟨h₁, h₂⟩
    split at h₁
    · split at h₂
      · exact ⟨‹_›, ‹_›⟩
      · cases h₂
    · cases h₁
  · rintro ⟨h₁, h₂⟩
    rw [if_pos h₁, if_pos h₂]
    exact ⟨rfl, rfl⟩

/-- A misplaced pointer is not followed in a strict walk, and noted in a lenient one. -/
theorem check_legacy (root source : Int) (strict : Bool) (target : Nat) :
    (Walker.legacy root strict).check source target =
      if Misplaced target then
        if strict then .error (.invalidPointer source target)
        else .ok (some (misplacedNote target))
      else .ok none := by
  have hodd := oddities_eq_nil_iff target
  simp only [Walker.check, Walker.legacy, misplacedNote]
  split
  · rename_i hnil
    rw [if_neg (hodd.1 hnil)]
  · rename_i hne
    rw [if_pos (not_not.1 fun h => hne (hodd.2 h))]
    rfl

/-- A lenient walk follows every pointer, and notes the misplaced ones. -/
theorem check_lenient (root source : Int) (target : Nat) :
    (Walker.legacy root).check source target =
      .ok (if Misplaced target then some (misplacedNote target) else none) := by
  rw [check_legacy]
  split <;> rfl

/-! ## Endings -/

/-- What can bring a lenient walk of the legacy list to its end. -/
inductive LegacyEnding where
  /-- A pointer is zero. -/
  | zero
  /-- A pointer leads to an offset that was given before. -/
  | cycle
  /-- A pointer leads to a header that is not within the readable bytes. -/
  | pastEnd
  deriving DecidableEq, Repr

namespace LegacyEnding

/-- An ending holds at the `k`th offset of the orbit. -/
def At (buffer : Bytes) (root k : Nat) : LegacyEnding → Prop
  | zero => legacyOrbit buffer root k = 0
  | cycle => ∃ j < k, legacyOrbit buffer root j = legacyOrbit buffer root k
  | pastEnd =>
      legacyOrbit buffer root k ≠ 0 ∧ min buffer.length 0x100 < legacyOrbit buffer root k + 2

instance (buffer : Bytes) (root k : Nat) : ∀ e, Decidable (At buffer root k e)
  | zero => inferInstanceAs (Decidable (_ = _))
  | cycle => inferInstanceAs
      (Decidable (∃ j, j < k ∧ legacyOrbit buffer root j = legacyOrbit buffer root k))
  | pastEnd => inferInstanceAs (Decidable (_ ∧ _))

/-- The state of a walk that an ending has stopped at the `k`th offset of the orbit. -/
def state (buffer : Bytes) (root k : Nat) : LegacyEnding → WalkState
  | zero => .terminated
  | cycle =>
      .failed (.cycle (legacyOrbit buffer root (k - 1)) (legacyOrbit buffer root k))
  | pastEnd => .failed (.unterminated (legacyOrbit buffer root k) .headerPastEnd)

/-- The pointers that a walk has tried to follow: one to every offset it has given, and
the last one too if it could be followed but not read. -/
def tried (buffer : Bytes) (root k : Nat) (e : LegacyEnding) : List Nat :=
  (List.range k).map (legacyOrbit buffer root) ++
    if e = pastEnd then [legacyOrbit buffer root k] else []

variable {buffer : Bytes} {root k : Nat}

section First

variable (hfirst : ∀ i < k, ∀ e : LegacyEnding, ¬ e.At buffer root i)

include hfirst

/-- An offset that was given before has no other ending, for the walk went on there. -/
theorem eq_cycle (hcycle : cycle.At buffer root k) {e : LegacyEnding} (he : e.At buffer root k) :
    e = cycle := by
  obtain ⟨j, hj, heq⟩ := hcycle
  have hbefore := hfirst j hj e
  cases e with
  | cycle => rfl
  | zero | pastEnd =>
    rw [At, heq] at hbefore
    exact absurd he hbefore

/-- Where the orbit first comes to an end, only one ending holds. -/
theorem unique {e e' : LegacyEnding} (he : e.At buffer root k) (he' : e'.At buffer root k) :
    e' = e := by
  by_cases hcycle : cycle.At buffer root k
  · rw [eq_cycle hfirst hcycle he, eq_cycle hfirst hcycle he']
  · cases e with
    | cycle => exact absurd he hcycle
    | zero =>
      cases e' with
      | zero => rfl
      | cycle => exact absurd he' hcycle
      | pastEnd => exact absurd he he'.1
    | pastEnd =>
      cases e' with
      | zero => exact absurd he' he.1
      | cycle => exact absurd he' hcycle
      | pastEnd => rfl

end First

theorem not_at_of_live (h : (Walker.legacy root).Live buffer k) (e : LegacyEnding) :
    ¬ e.At buffer root k := by
  have hzero := h.ne_zero
  have hfresh := h.fresh
  have hfits := h.fits
  simp only [Walker.Revisits, orbit_legacy] at hzero hfresh hfits
  cases e with
  | zero => exact hzero
  | cycle => exact hfresh
  | pastEnd =>
    rintro ⟨-, hpast⟩
    exact absurd hfits (Nat.not_le.2 hpast)

/-- Where a lenient walk ends, one of the endings holds, and tells the state. -/
theorem exists_at_of_ends {s : WalkState} (h : (Walker.legacy root).Ends buffer k s) :
    ∃ e : LegacyEnding, e.At buffer root k ∧ s = e.state buffer root k := by
  cases h with
  | zero hzero =>
    rw [orbit_legacy] at hzero
    exact ⟨zero, hzero, rfl⟩
  | cycle hzero hvisited =>
    simp only [Walker.Revisits, orbit_legacy] at hvisited ⊢
    exact ⟨cycle, hvisited, rfl⟩
  | refused hzero hfresh hcheck =>
    rw [check_lenient] at hcheck
    cases hcheck
  | pastEnd hzero hfresh hcheck hpast =>
    rw [orbit_legacy] at hzero hpast ⊢
    exact ⟨pastEnd, ⟨hzero, hpast⟩, rfl⟩
  | terminator hzero hfresh hcheck hfits hterm => cases hterm.1

end LegacyEnding

/-! ## Notes -/

section Notes

variable (buffer : Bytes) (root : Nat)

theorem notesAt_lenient (i : Nat) :
    (Walker.legacy root).notesAt buffer i =
      if LegacyEnding.zero.At buffer root i ∨ LegacyEnding.cycle.At buffer root i then []
      else ([legacyOrbit buffer root i].filter fun o => Misplaced o).map misplacedNote := by
  simp only [Walker.notesAt, Walker.Revisits, Walker.pointerNotes, orbit_legacy, check_lenient]
  refine if_congr Iff.rfl rfl ?_
  by_cases h : Misplaced (legacyOrbit buffer root i) <;> simp [h]

/-- As long as the walk goes on, its notes are those on the misplaced pointers. -/
theorem notesBefore_lenient {n : Nat} (hlive : ∀ i < n, ∀ e : LegacyEnding, ¬ e.At buffer root i) :
    (Walker.legacy root).notesBefore buffer n =
      (((List.range n).map (legacyOrbit buffer root)).filter fun o => Misplaced o).map
        misplacedNote := by
  induction n with
  | zero => rfl
  | succ n ih =>
    have hzero := hlive n (Nat.lt_succ_self n) .zero
    have hcycle := hlive n (Nat.lt_succ_self n) .cycle
    rw [Walker.notesBefore_succ, ih fun i hi => hlive i (Nat.lt_succ_of_lt hi), notesAt_lenient,
      if_neg (not_or.2 ⟨hzero, hcycle⟩), List.range_succ, List.map_append, List.filter_append,
      List.map_append, List.map_singleton]

end Notes

/-! ## The walk -/

/-- The lenient walk of the legacy list from `root`, where `k` is the first index at which
its orbit comes to an end, and `e` is how. -/
structure LenientWalk (buffer : Bytes) (root k : Nat) (e : LegacyEnding) (walk : Walk) : Prop where
  /-- No ending holds before. -/
  first : ∀ i < k, ∀ e' : LegacyEnding, ¬ e'.At buffer root i
  /-- The ending holds at `k`. -/
  holds : e.At buffer root k
  /-- No other one does. -/
  only : ∀ e' : LegacyEnding, e'.At buffer root k → e' = e
  /-- The walk returns. -/
  returns : walk.escape = none
  /-- Its records are those of the offsets before, in their order. -/
  records_eq : walk.records = (List.range k).map fun i =>
    .ofHeader (legacyOrbit buffer root i)
      { capId := buffer.u8 (legacyOrbit buffer root i)
        nextPtr := buffer.u8 (legacyOrbit buffer root i + 1)
        version := none }
      (min buffer.length 0x100)
  /-- The ending tells its state. -/
  state_eq : walk.run.state = e.state buffer root k
  /-- Its notes are those on the misplaced pointers that it has tried to follow. -/
  notes_eq : walk.run.notes =
    ((e.tried buffer root k).filter fun o => Misplaced o).map misplacedNote

/-- **A lenient walk is its pointer orbit.**  From any root that does not count from the
end, the walk gives the offsets of the orbit before its first ending. -/
theorem walk_legacy_lenient (buffer : Bytes) (root : Nat) (options : Options)
    (lenient : options.strictAlignment = false) :
    ∃ k e, LenientWalk buffer root k e
      ((Walker.legacy root options.strictAlignment).walk buffer) := by
  rw [lenient]
  obtain ⟨k, s, hwalk⟩ :=
    Walker.walk_followsOrbit (proper_legacy root false) (opens_legacy root false buffer)
  have hfirst : ∀ i < k, ∀ e : LegacyEnding, ¬ e.At buffer root i := by
    intro i hi
    exact LegacyEnding.not_at_of_live (Walker.live_of_ending_eq_none (hwalk.live i hi))
  obtain ⟨e, he, hs⟩ := LegacyEnding.exists_at_of_ends (Walker.ends_of_ending hwalk.ending)
  refine ⟨k, e, hfirst, he, fun e' he' => LegacyEnding.unique hfirst he he', hwalk.escape_eq,
    ?_, ?_, ?_⟩
  · rw [hwalk.records_eq]
    refine List.map_congr_left fun i _ => ?_
    rw [Walker.recordAt, orbit_legacy]
    rfl
  · rw [hwalk.state_eq, hs]
  · rw [hwalk.notes_eq, Walker.notesBefore_succ, notesBefore_lenient buffer root hfirst,
      notesAt_lenient, LegacyEnding.tried, List.filter_append, List.map_append]
    congr 1
    -- Of the endings, only the last one leaves a pointer that was tried and not followed.
    cases e with
    | zero =>
      rw [if_pos (Or.inl he)]
      rfl
    | cycle =>
      rw [if_pos (Or.inr he)]
      rfl
    | pastEnd =>
      have hother :
          ¬ (LegacyEnding.zero.At buffer root k ∨ LegacyEnding.cycle.At buffer root k) := by
        rintro (h | h) <;> cases LegacyEnding.unique hfirst he h
      rw [if_neg hother, if_pos rfl]

/-- A capability that points to itself: the walk gives it once and then meets it again. -/
theorem walk_legacy_lenient_self_pointer :
    let buffer : Bytes := List.replicate 0x42 0x40
    let walk := (Walker.legacy 0x40 ({ failFast := true } : Options).strictAlignment).walk buffer
    ({ failFast := true } : Options).strictAlignment = false ∧
      walk.run.state = .failed (.cycle 0x40 0x40) ∧ ∃ k e, LenientWalk buffer 0x40 k e walk := by
  intro buffer walk
  have hlenient : ({ failFast := true } : Options).strictAlignment = false := rfl
  have hstate : walk.run.state = .failed (.cycle 0x40 0x40) := by decide +kernel
  exact ⟨hlenient, hstate, walk_legacy_lenient buffer 0x40 { failFast := true } hlenient⟩

/-- A zero pointer ends the walk even where the header at offset zero is past the end of
the buffer, so two endings can hold at once, and being past the end does not by itself tell
the state of the walk. -/
theorem zero_root_in_short_buffer :
    (legacyOrbit [] 0 0 = 0 ∧ min ([] : Bytes).length 0x100 < legacyOrbit [] 0 0 + 2) ∧
      ¬ ∀ (buffer : Bytes) (root k : Nat),
        (∀ i < k, legacyOrbit buffer root i ≠ 0 ∧
          (∀ j < i, legacyOrbit buffer root j ≠ legacyOrbit buffer root i) ∧
          legacyOrbit buffer root i + 2 ≤ min buffer.length 0x100) →
        min buffer.length 0x100 < legacyOrbit buffer root k + 2 →
        ((Walker.legacy root).walk buffer).run.state =
          .failed (.unterminated (legacyOrbit buffer root k) .headerPastEnd) := by
  refine ⟨by decide, ?_⟩
  intro h
  have hstate := h [] 0 0 (fun i hi => absurd hi (Nat.not_lt_zero i)) (by decide)
  exact absurd hstate (by decide)

end ConfigSpace
