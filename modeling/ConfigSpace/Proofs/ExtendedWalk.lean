import ConfigSpace.Options
import ConfigSpace.Proofs.Orbit

/-!
# The walk of the extended list

The extended list starts at 0x100, and bits 31:20 of each header word, the two low ones
masked out, say where the next header is (`extendedOrbit`).  Five things can end the walk
(`ExtendedEnding`), and they are looked at in this order: the pointer is zero; it leads
to an offset that was given before; it leads below the region; the word it leads to is
not within the readable bytes; that word ends the list.

The order matters in one place only.  Below the region the bytes may well read as a word
that ends a list, but the walk does not read them, and fails.

The main result is `walk_extended`: the walk gives exactly the offsets before the first
ending, the first of the endings that hold there tells its state, and the strictness of
the walker makes no difference.
-/

namespace ConfigSpace

/-! ## The orbit of the extended list -/

/-- The offsets that the pointers of the extended list lead to. -/
def extendedOrbit (buffer : Bytes) : Nat → Nat
  | 0 => 0x100
  | i + 1 => (buffer.u32 (extendedOrbit buffer i) >>> 20) &&& 0xFFC

theorem orbit_extended (buffer : Bytes) (strict : Bool) (i : Nat) :
    (Walker.extended strict).orbit buffer i = extendedOrbit buffer i := by
  induction i with
  | zero => rfl
  | succ i ih =>
    rw [Walker.orbit, ih]
    rfl

theorem proper_extended (strict : Bool) : (Walker.extended strict).Proper :=
  ⟨show (0 : Int) ≤ 0x100 by decide, show 4 ∣ 0x100 by decide⟩

/-- Every offset of the extended orbit is dword aligned. -/
theorem four_dvd_extendedOrbit (buffer : Bytes) (i : Nat) : 4 ∣ extendedOrbit buffer i := by
  rw [← orbit_extended buffer false]
  exact (proper_extended false).orbit_aligned i

/-! ## What strictness changes -/

/-- Extended pointers are checked in one way, whatever the strictness. -/
theorem check_extended (strict : Bool) (source target : Int) :
    (Walker.extended strict).check source target =
      if target < 0x100 then .error (.unterminated source (.belowRegion target)) else .ok none :=
  rfl

/-- Strictness makes no difference to where an extended pointer leads. -/
theorem follow_extended (r : Run) (buffer : Bytes) (strict : Bool) (source target : Int) :
    r.follow (Walker.extended strict) buffer source target =
      r.follow (Walker.extended false) buffer source target := by
  have hvisit : r.visit (Walker.extended strict) buffer target =
      r.visit (Walker.extended false) buffer target := rfl
  rw [Run.follow, check_extended, hvisit]
  rfl

theorem next_extended (r : Run) (buffer : Bytes) (strict : Bool) :
    r.next (Walker.extended strict) buffer = r.next (Walker.extended false) buffer := by
  unfold Run.next
  split
  · rfl
  · exact follow_extended r buffer strict 0x100 0x100
  · split
    · rfl
    · exact follow_extended r buffer strict _ _

theorem walk_extended_strict (buffer : Bytes) (strict : Bool) :
    (Walker.extended strict).walk buffer = (Walker.extended false).walk buffer :=
  Run.drain_congr (fun r => next_extended r buffer strict) _ _

/-! ## Endings -/

/-- What can bring a walk of the extended list to its end. -/
inductive ExtendedEnding where
  /-- A pointer is zero. -/
  | zero
  /-- A pointer leads to an offset that was given before. -/
  | cycle
  /-- A pointer leads below the region. -/
  | belowRegion
  /-- A pointer leads to a word that is not within the readable bytes. -/
  | pastEnd
  /-- A pointer leads to a word of zeros or of ones. -/
  | terminator
  deriving DecidableEq, Repr

namespace ExtendedEnding

/-- An ending holds at the `k`th offset of the orbit. -/
def At (buffer : Bytes) (k : Nat) : ExtendedEnding → Prop
  | zero => 0 < k ∧ extendedOrbit buffer k = 0
  | cycle => ∃ j < k, extendedOrbit buffer j = extendedOrbit buffer k
  | belowRegion => 0 < extendedOrbit buffer k ∧ extendedOrbit buffer k < 0x100
  | pastEnd => min buffer.length 0x1000 < extendedOrbit buffer k + 4
  | terminator =>
      extendedOrbit buffer k + 4 ≤ min buffer.length 0x1000 ∧
        (buffer.u32 (extendedOrbit buffer k) = 0 ∨
          buffer.u32 (extendedOrbit buffer k) = 0xFFFFFFFF)

instance (buffer : Bytes) (k : Nat) : ∀ e, Decidable (At buffer k e)
  | zero => inferInstanceAs (Decidable (_ ∧ _))
  | cycle => inferInstanceAs
      (Decidable (∃ j, j < k ∧ extendedOrbit buffer j = extendedOrbit buffer k))
  | belowRegion => inferInstanceAs (Decidable (_ ∧ _))
  | pastEnd => inferInstanceAs (Decidable (_ < _))
  | terminator => inferInstanceAs (Decidable (_ ∧ _))

/-- The first of the endings that hold at the `k`th offset of the orbit. -/
def first? (buffer : Bytes) (k : Nat) : Option ExtendedEnding :=
  if zero.At buffer k then some zero
  else if cycle.At buffer k then some cycle
  else if belowRegion.At buffer k then some belowRegion
  else if pastEnd.At buffer k then some pastEnd
  else if terminator.At buffer k then some terminator
  else none

/-- The state of a walk that an ending has stopped at the `k`th offset of the orbit. -/
def state (buffer : Bytes) (k : Nat) : ExtendedEnding → WalkState
  | zero => .terminated
  | cycle => .failed (.cycle (extendedOrbit buffer (k - 1)) (extendedOrbit buffer k))
  | belowRegion =>
      .failed (.unterminated (extendedOrbit buffer (k - 1)) (.belowRegion (extendedOrbit buffer k)))
  | pastEnd => .failed (.unterminated (extendedOrbit buffer k) .headerPastEnd)
  | terminator => .terminated

variable {buffer : Bytes} {k : Nat}

/-- A pointer that may be followed does not lead below the region. -/
theorem not_below_of_check {source : Int} {note : Option String}
    (h : Walker.extended.check source (Walker.extended.orbit buffer k) = .ok note) :
    ¬ extendedOrbit buffer k < 0x100 := by
  rw [orbit_extended, check_extended] at h
  intro hbelow
  rw [if_pos (by exact_mod_cast hbelow)] at h
  cases h

/-- No ending holds where the walk goes on. -/
theorem not_at_of_live (h : Walker.extended.Live buffer k) (e : ExtendedEnding) :
    ¬ e.At buffer k := by
  obtain ⟨hzero, hfresh, ⟨note, hcheck⟩, hfits, hcontinues⟩ := h
  have hbelow := not_below_of_check hcheck
  simp only [Walker.Revisits, orbit_extended] at hzero hfresh hfits hcontinues
  cases e with
  | zero => exact fun h => hzero h.2
  | cycle => exact hfresh
  | belowRegion => exact fun h => hbelow h.2
  | pastEnd => exact Nat.not_lt.2 hfits
  | terminator => exact fun h => hcontinues ⟨rfl, h.2⟩

/-- Where the walk ends, the first of the endings that hold tells its state. -/
theorem exists_first_of_ends {s : WalkState} (h : Walker.extended.Ends buffer k s) :
    ∃ e, first? buffer k = some e ∧ s = e.state buffer k := by
  have hnotzero : extendedOrbit buffer k ≠ 0 → ¬ zero.At buffer k := fun hne h => hne h.2
  have hnotbelow : ¬ extendedOrbit buffer k < 0x100 → ¬ belowRegion.At buffer k :=
    fun hge h => hge h.2
  cases h with
  | zero hzero =>
    rw [orbit_extended] at hzero
    have hpos : 0 < k := by
      rw [Nat.pos_iff_ne_zero]
      rintro rfl
      cases hzero
    exact ⟨zero, if_pos ⟨hpos, hzero⟩, rfl⟩
  | cycle hzero hvisited =>
    simp only [Walker.Revisits, orbit_extended] at hzero hvisited ⊢
    refine ⟨cycle, ?_, rfl⟩
    rw [first?, if_neg (hnotzero hzero), if_pos (show cycle.At buffer k from hvisited)]
  | refused hzero hfresh hcheck =>
    simp only [Walker.Revisits, orbit_extended, check_extended] at hzero hfresh hcheck
    split at hcheck
    · rename_i hbelow
      have hat : belowRegion.At buffer k := ⟨Nat.pos_of_ne_zero hzero, by exact_mod_cast hbelow⟩
      cases hcheck
      refine ⟨belowRegion, ?_, rfl⟩
      rw [first?, if_neg (hnotzero hzero), if_neg (show ¬ cycle.At buffer k from hfresh),
        if_pos hat]
    · cases hcheck
  | pastEnd hzero hfresh hcheck hpast =>
    have hbelow := not_below_of_check hcheck
    simp only [Walker.Revisits, orbit_extended] at hzero hfresh hpast ⊢
    refine ⟨pastEnd, ?_, rfl⟩
    rw [first?, if_neg (hnotzero hzero), if_neg (show ¬ cycle.At buffer k from hfresh),
      if_neg (hnotbelow hbelow), if_pos (show pastEnd.At buffer k from hpast)]
  | terminator hzero hfresh hcheck hfits hterm =>
    have hbelow := not_below_of_check hcheck
    simp only [Walker.Revisits, orbit_extended] at hzero hfresh hfits hterm
    refine ⟨terminator, ?_, rfl⟩
    rw [first?, if_neg (hnotzero hzero), if_neg (show ¬ cycle.At buffer k from hfresh),
      if_neg (hnotbelow hbelow), if_neg (show ¬ pastEnd.At buffer k from Nat.not_lt.2 hfits),
      if_pos (show terminator.At buffer k from ⟨hfits, hterm.2⟩)]

section First

variable (hfirst : ∀ i < k, ∀ e : ExtendedEnding, ¬ e.At buffer i)

include hfirst

/-- An offset that was given before has no other ending, for the walk went on there. -/
theorem eq_cycle (hcycle : cycle.At buffer k) {e : ExtendedEnding} (he : e.At buffer k) :
    e = cycle := by
  obtain ⟨j, hj, heq⟩ := hcycle
  have hbefore := hfirst j hj e
  cases e with
  | zero =>
    cases j with
    | zero =>
      rw [he.2] at heq
      cases heq
    | succ j => exact absurd ⟨Nat.succ_pos j, heq.trans he.2⟩ hbefore
  | cycle => rfl
  | belowRegion | pastEnd | terminator =>
    rw [At, heq] at hbefore
    exact absurd he hbefore

/-- Where the orbit first comes to an end, two endings hold at once in one case only: below
the region the bytes may read as a word that ends a list. -/
theorem eq_first_or_terminator (hlen : 0x100 < buffer.length) {e e' : ExtendedEnding}
    (he : first? buffer k = some e) (he' : e'.At buffer k) :
    e' = e ∨ (e' = terminator ∧ extendedOrbit buffer k < 0x100) := by
  have haligned := four_dvd_extendedOrbit buffer k
  have hvisited : e' ≠ cycle → ¬ cycle.At buffer k := fun hne h => hne (eq_cycle hfirst h he')
  -- Every ending but the last is the first of those that hold wherever it does.
  have heq : first? buffer k = some e' → e' = e := fun h => Option.some.inj (h.symm.trans he)
  cases e' with
  | zero => exact Or.inl (heq (if_pos he'))
  | cycle =>
    have hzero : ¬ zero.At buffer k := by
      intro h
      cases eq_cycle hfirst he' h
    exact Or.inl (heq (by rw [first?, if_neg hzero, if_pos he']))
  | belowRegion =>
    have hzero : ¬ zero.At buffer k := fun h => absurd h.2 (Nat.pos_iff_ne_zero.1 he'.1)
    have hcycle := hvisited (by decide)
    exact Or.inl (heq (by rw [first?, if_neg hzero, if_neg hcycle, if_pos he']))
  | pastEnd =>
    have hpast : min buffer.length 0x1000 < extendedOrbit buffer k + 4 := he'
    have hzero : ¬ zero.At buffer k := by
      rintro ⟨-, hz⟩
      omega
    have hcycle := hvisited (by decide)
    have hbelow : ¬ belowRegion.At buffer k := by
      rintro ⟨-, hb⟩
      omega
    exact Or.inl (heq (by rw [first?, if_neg hzero, if_neg hcycle, if_neg hbelow, if_pos he']))
  | terminator =>
    by_cases hb : extendedOrbit buffer k < 0x100
    · exact Or.inr ⟨rfl, hb⟩
    have hzero : ¬ zero.At buffer k := by
      rintro ⟨-, hz⟩
      omega
    have hcycle := hvisited (by decide)
    have hbelow : ¬ belowRegion.At buffer k := fun h => hb h.2
    have hpast : ¬ pastEnd.At buffer k := Nat.not_lt.2 he'.1
    exact Or.inl (heq (by
      rw [first?, if_neg hzero, if_neg hcycle, if_neg hbelow, if_neg hpast, if_pos he']))

end First

end ExtendedEnding

/-! ## Notes -/

/-- Extended pointers leave no notes. -/
theorem pointerNotes_extended (source target : Int) :
    Walker.extended.pointerNotes source target = [] := by
  unfold Walker.pointerNotes
  rw [check_extended]
  by_cases h : target < 0x100
  · rw [if_pos h]
  · rw [if_neg h]
    rfl

theorem notesBefore_extended (buffer : Bytes) (n : Nat) :
    Walker.extended.notesBefore buffer n = [] := by
  unfold Walker.notesBefore
  rw [List.flatMap_eq_nil_iff]
  intro i _
  rw [Walker.notesAt, pointerNotes_extended, ite_self]

/-! ## The walk -/

/-- The walk of the extended list, where `k` is the first index at which its orbit comes to
an end, and `e` is how. -/
structure ExtendedWalk (buffer : Bytes) (k : Nat) (e : ExtendedEnding) (walk : Walk) : Prop where
  /-- No ending holds before. -/
  first : ∀ i < k, ∀ e' : ExtendedEnding, ¬ e'.At buffer i
  /-- The ending is the first of those that hold at `k`. -/
  holds : ExtendedEnding.first? buffer k = some e
  /-- No other one does, but that below the region the bytes may read as a word that ends
  a list. -/
  only : ∀ e' : ExtendedEnding, e'.At buffer k →
    e' = e ∨ (e' = .terminator ∧ extendedOrbit buffer k < 0x100)
  /-- The walk returns. -/
  returns : walk.escape = none
  /-- Its records are those of the offsets before, in their order. -/
  records_eq : walk.records = (List.range k).map fun i =>
    .ofHeader (extendedOrbit buffer i)
      { capId := buffer.u32 (extendedOrbit buffer i) &&& 0xFFFF
        version := some ((buffer.u32 (extendedOrbit buffer i) >>> 16) &&& 0xF)
        nextPtr := extendedOrbit buffer (i + 1) }
      (min buffer.length 0x1000)
  /-- The ending tells its state. -/
  state_eq : walk.run.state = e.state buffer k
  /-- It notes nothing. -/
  notes_eq : walk.run.notes = []

/-- A buffer without an extended region has nothing to walk. -/
theorem walk_extended_of_le {buffer : Bytes} (h : buffer.length ≤ 0x100) (strict : Bool) :
    (Walker.extended strict).walk buffer =
      { run :=
          { visited := Run.unvisited .extended, state := .terminated, position := .ended } } := by
  have hbegin : Run.begin (Walker.extended strict) buffer =
      { visited := Run.unvisited .extended, state := .terminated, position := .ended } :=
    if_pos h
  rw [Walker.walk, hbegin]
  rfl

/-- **The extended walk is its pointer orbit.**  A buffer without an extended region has
an empty list; in any other, the walk gives the offsets of the orbit before its first
ending.  Strict or not, the walk is the same. -/
theorem walk_extended (buffer : Bytes) (options : Options) :
    let walk := (Walker.extended options.strictAlignment).walk buffer
    (buffer.length ≤ 0x100 → walk.records = [] ∧ walk.run.state = .terminated ∧
      walk.run.notes = [] ∧ walk.escape = none) ∧
    (0x100 < buffer.length → ∃ k e, ExtendedWalk buffer k e walk) ∧
    ∀ strict, (Walker.extended strict).walk buffer = walk := by
  intro walk
  have hwalk : walk = Walker.extended.walk buffer := walk_extended_strict buffer _
  refine ⟨fun hshort => ?_, fun hlen => ?_, fun strict => ?_⟩
  · rw [hwalk, walk_extended_of_le hshort]
    exact ⟨rfl, rfl, rfl, rfl⟩
  · rw [hwalk]
    obtain ⟨k, s, horbit⟩ := Walker.walk_followsOrbit (proper_extended false) (fun _ => hlen)
    have hfirst : ∀ i < k, ∀ e : ExtendedEnding, ¬ e.At buffer i := by
      intro i hi
      exact ExtendedEnding.not_at_of_live (Walker.live_of_ending_eq_none (horbit.live i hi))
    obtain ⟨e, he, hs⟩ := ExtendedEnding.exists_first_of_ends (Walker.ends_of_ending horbit.ending)
    refine ⟨k, e, hfirst, he, fun e' he' => ?_, horbit.escape_eq, ?_, ?_, ?_⟩
    · exact ExtendedEnding.eq_first_or_terminator hfirst hlen he he'
    · rw [horbit.records_eq]
      refine List.map_congr_left fun i _ => ?_
      rw [Walker.recordAt, orbit_extended]
      rfl
    · rw [horbit.state_eq, hs]
    · rw [horbit.notes_eq, notesBefore_extended]
  · rw [hwalk, walk_extended_strict]

end ConfigSpace
