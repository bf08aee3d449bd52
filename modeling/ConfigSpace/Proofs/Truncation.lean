import ConfigSpace.Proofs.ExtendedWalk
import ConfigSpace.Proofs.LegacyWalk
import Mathlib.Data.List.Forall2

/-!
# The walk of a truncated buffer

A dump that was cut short still holds the first capabilities of its lists.  As long as the
headers lie before the cut, the orbits in both buffers are the same (`orbit_take`), and the
two walks go on and end alike (`ending_take`).  The one new thing that can happen is that a
header falls off the end.  So the walk of the shorter buffer is that of the longer one, cut
at the first such header if there is one (`walk_take`).

The payloads are cut too.  One that is bounded by the next capability is cut where the
buffer is, and one that is bounded by the region ends where the readable bytes do; in
either case what is left of it is its first part (`payload_take_isPrefix`).
-/

namespace ConfigSpace

/-! ## What the cut leaves alone -/

namespace Region

/-- A cut leaves fewer readable bytes, and only such that lie before it. -/
theorem readable_take_le (r : Region) (buffer : Bytes) (n : Nat) :
    r.readable (buffer.take n) ≤ n ∧ r.readable (buffer.take n) ≤ r.readable buffer := by
  simp only [readable, List.length_take]
  omega

end Region

namespace Record

/-- What is left of a payload is its first part. -/
theorem payload_take_isPrefix (o : Nat) (header : Header) (buffer : Bytes) (n : Nat)
    {limit limit' : Nat} (h : limit ≤ limit') :
    (ofHeader o header limit).payload (buffer.take n) <+:
      (ofHeader o header limit').payload buffer := by
  refine Bytes.window_take_isPrefix buffer ?_
  simp only [ofHeader, start]
  split <;> omega

end Record

namespace Walker

section Orbit

variable {w : Walker} {buffer : Bytes} {n i : Nat}

/-- The orbit is the same up to the first offset at which the walk of the shorter buffer
does not go on. -/
theorem orbit_take (hlive : ∀ j < i, w.ending (buffer.take n) j = none) :
    ∀ j ≤ i, w.orbit (buffer.take n) j = w.orbit buffer j := by
  intro j hj
  induction j with
  | zero => rfl
  | succ j ih =>
    have hfits := (live_of_ending_eq_none (hlive j hj)).fits
    have hbefore := (w.region.readable_take_le buffer n).1
    rw [orbit, orbit, Region.header_take (by omega), ih (by omega)]

variable (horbit : ∀ j ≤ i, w.orbit (buffer.take n) j = w.orbit buffer j)

include horbit

theorem revisits_take : w.Revisits (buffer.take n) i ↔ w.Revisits buffer i := by
  unfold Revisits
  rw [horbit i (Nat.le_refl i)]
  constructor
  · rintro ⟨j, hj, heq⟩
    exact ⟨j, hj, horbit j (Nat.le_of_lt hj) ▸ heq⟩
  · rintro ⟨j, hj, heq⟩
    exact ⟨j, hj, (horbit j (Nat.le_of_lt hj)).trans heq⟩

theorem notesAt_take : w.notesAt (buffer.take n) i = w.notesAt buffer i := by
  simp only [notesAt, revisits_take horbit, horbit i (Nat.le_refl i),
    horbit (i - 1) (Nat.sub_le i 1)]

/-- The two walks end alike, unless the header falls off the end of the shorter buffer and
the walk of the longer one goes on, or ends at that header. -/
theorem ending_take :
    w.ending (buffer.take n) i = w.ending buffer i ∨
      w.ending (buffer.take n) i =
          some (.failed (.unterminated (w.orbit buffer i) .headerPastEnd)) ∧
        (w.ending buffer i = none ∨
          w.ending buffer i = some .terminated ∧
            w.orbit buffer i + w.region.headerSize ≤ w.region.readable buffer ∧
            w.region.Terminates buffer (w.orbit buffer i)) := by
  have hreadable := w.region.readable_take_le buffer n
  simp only [ending, revisits_take horbit, horbit i (Nat.le_refl i),
    horbit (i - 1) (Nat.sub_le i 1)]
  split
  · exact Or.inl rfl
  split
  · exact Or.inl rfl
  split
  · exact Or.inl rfl
  by_cases hcut : w.region.readable (buffer.take n) < w.orbit buffer i + w.region.headerSize
  · rw [if_pos hcut]
    by_cases hpast : w.region.readable buffer < w.orbit buffer i + w.region.headerSize
    · rw [if_pos hpast]
      exact Or.inl rfl
    · rw [if_neg hpast]
      by_cases hterm : w.region.Terminates buffer (w.orbit buffer i)
      · rw [if_pos hterm]
        exact Or.inr ⟨rfl, Or.inr ⟨rfl, Nat.not_lt.1 hpast, hterm⟩⟩
      · rw [if_neg hterm]
        exact Or.inr ⟨rfl, Or.inl rfl⟩
  · -- The header lies before the cut.
    have hterm : w.region.Terminates (buffer.take n) (w.orbit buffer i) ↔
        w.region.Terminates buffer (w.orbit buffer i) := Region.terminates_take (by omega)
    have hfits : ¬ w.region.readable buffer < w.orbit buffer i + w.region.headerSize := by omega
    rw [if_neg hcut, if_neg hfits]
    exact Or.inl (if_congr hterm rfl rfl)

end Orbit

end Walker

/-! ## The walk -/

/-- The walk of a buffer that is cut after `n` bytes is the walk of the whole buffer, cut
short. -/
structure CutShort (w : Walker) (buffer : Bytes) (n : Nat) (part whole : Walk) : Prop where
  /-- Both walks return. -/
  returns : part.escape = none ∧ whole.escape = none
  /-- The records are the first ones of the whole walk: they say the same and were found at
  the same offsets, and what is left of their payloads is the first part. -/
  records : List.Forall₂
    (fun cut record : Record => cut.offset = record.offset ∧ cut.header = record.header ∧
      cut.payload (buffer.take n) <+: record.payload buffer)
    part.records (whole.records.take part.records.length)
  /-- So are the notes. -/
  notes : part.run.notes <+: whole.run.notes
  /-- Either the walk has all the records and ends alike, or the header that it comes to
  next is off the end: that of the next record, or the one that ends the whole list. -/
  ending :
    part.records.length = whole.records.length ∧ part.run.state = whole.run.state ∨
    part.run.state =
        .failed (.unterminated (w.targetAfter part.records) .headerPastEnd) ∧
      ((∃ record, whole.records[part.records.length]? = some record ∧
          record.offset = w.targetAfter part.records) ∨
        whole.records.length = part.records.length ∧ whole.run.state = .terminated ∧
          w.targetAfter part.records + w.region.headerSize ≤ w.region.readable buffer ∧
          w.region.Terminates buffer (w.targetAfter part.records))

section FollowsOrbit

variable {w : Walker} {buffer : Bytes} {n k k' : Nat} {s s' : WalkState} {part whole : Walk}
  (hpart : part.FollowsOrbit w (buffer.take n) k s)

include hpart

theorem orbit_take_of_le {i : Nat} (hi : i ≤ k) :
    ∀ j ≤ i, w.orbit (buffer.take n) j = w.orbit buffer j :=
  Walker.orbit_take fun j hj => hpart.live j (Nat.lt_of_lt_of_le hj hi)

/-- A record of the shorter buffer is one of the longer, with the first part of its payload. -/
theorem recordAt_take {i : Nat} (hi : i < k) :
    (w.recordAt (buffer.take n) i).offset = (w.recordAt buffer i).offset ∧
      (w.recordAt (buffer.take n) i).header = (w.recordAt buffer i).header ∧
      (w.recordAt (buffer.take n) i).payload (buffer.take n) <+:
        (w.recordAt buffer i).payload buffer := by
  have hfits := (Walker.live_of_ending_eq_none (hpart.live i hi)).fits
  have hreadable := w.region.readable_take_le buffer n
  have horbit := orbit_take_of_le hpart (Nat.le_of_lt hi) i (Nat.le_refl i)
  rw [Walker.recordAt, horbit, Region.header_take (by omega)]
  exact ⟨rfl, rfl, Record.payload_take_isPrefix _ _ _ _ hreadable.2⟩

theorem notesBefore_take :
    w.notesBefore (buffer.take n) (k + 1) = w.notesBefore buffer (k + 1) := by
  refine List.flatMap_congr fun i hi => ?_
  exact Walker.notesAt_take (orbit_take_of_le hpart (Nat.le_of_lt_succ (List.mem_range.1 hi)))

theorem targetAfter_take : w.targetAfter part.records = w.orbit buffer k := by
  rw [hpart.records_eq, Walker.targetAfter_range]
  exact orbit_take_of_le hpart (Nat.le_refl k) k (Nat.le_refl k)

variable (hwhole : whole.FollowsOrbit w buffer k' s')

include hwhole

/-- The walk of the longer buffer goes on at least as far. -/
theorem length_le_of_take : k ≤ k' := by
  by_contra hnot
  have hlt : k' < k := Nat.not_le.1 hnot
  have hlive := hpart.live k' hlt
  have hend := hwhole.ending
  rcases Walker.ending_take (orbit_take_of_le hpart (Nat.le_of_lt hlt)) with hsame | ⟨hpast, -⟩
  · rw [hlive, hend] at hsame
    cases hsame
  · rw [hlive] at hpast
    cases hpast

/-- A walk that follows its orbit in the cut buffer is the walk of the whole, cut short. -/
theorem cutShort_of_followsOrbit : CutShort w buffer n part whole := by
  have hle := length_le_of_take hpart hwhole
  have hlength : part.records.length = k := by simp [hpart.records_eq]
  have hlength' : whole.records.length = k' := by simp [hwhole.records_eq]
  refine ⟨⟨hpart.escape_eq, hwhole.escape_eq⟩, ?_, ?_, ?_⟩
  · rw [hlength, hwhole.records_eq, ← List.map_take, List.take_range, Nat.min_eq_left hle,
      hpart.records_eq, List.forall₂_map_left_iff, List.forall₂_map_right_iff, List.forall₂_same]
    exact fun i hi => recordAt_take hpart (List.mem_range.1 hi)
  · rw [hpart.notes_eq, hwhole.notes_eq, notesBefore_take hpart]
    exact w.notesBefore_mono (Nat.succ_le_succ hle)
  · rw [targetAfter_take hpart, hlength, hlength', hpart.state_eq, hwhole.state_eq]
    have hlive : ∀ i < k, w.ending buffer i = none :=
      fun i hi => hwhole.live i (Nat.lt_of_lt_of_le hi hle)
    rcases Walker.ending_take (orbit_take_of_le hpart (Nat.le_refl k)) with
      hsame | ⟨hpast, hgoes | ⟨hstops, hfits, hterm⟩⟩
    · -- The walks end alike.
      obtain ⟨rfl, rfl⟩ := hwhole.eq_of_first hlive (hsame.symm.trans hpart.ending)
      exact Or.inl ⟨rfl, rfl⟩
    · -- The walk of the longer buffer goes on at the header that is off the end.
      have hne : k ≠ k' := by
        rintro rfl
        cases hgoes.symm.trans hwhole.ending
      have hlt : k < k' := Nat.lt_of_le_of_ne hle hne
      refine Or.inr ⟨Option.some.inj (hpart.ending.symm.trans hpast), Or.inl ?_⟩
      refine ⟨w.recordAt buffer k, ?_, rfl⟩
      rw [hwhole.records_eq, List.getElem?_map, List.getElem?_range hlt]
      rfl
    · -- It ends at that header.
      obtain ⟨rfl, rfl⟩ := hwhole.eq_of_first hlive hstops
      refine Or.inr ⟨Option.some.inj (hpart.ending.symm.trans hpast), Or.inr ?_⟩
      exact ⟨rfl, rfl, hfits, hterm⟩

end FollowsOrbit

theorem cutShort_of_proper {w : Walker} (hw : w.Proper) {buffer : Bytes} {n : Nat}
    (hopen : w.Opens (buffer.take n)) :
    CutShort w buffer n (w.walk (buffer.take n)) (w.walk buffer) := by
  have hopen' : w.Opens buffer := by
    intro hr
    exact Nat.lt_of_lt_of_le (hopen hr) (List.length_take_le' n buffer)
  obtain ⟨k, s, hpart⟩ := Walker.walk_followsOrbit hw hopen
  obtain ⟨k', s', hwhole⟩ := Walker.walk_followsOrbit hw hopen'
  exact cutShort_of_followsOrbit hpart hwhole

/-- **Truncating a dump only truncates its walks.**  This is so for the legacy list, from any
root that does not count from the end, and for the extended one as long as something of its
region is left. -/
theorem walk_take (buffer : Bytes) (n : Nat) (h : n ≤ buffer.length) (options : Options) :
    (∀ root : Nat,
      let w := Walker.legacy root options.strictAlignment
      CutShort w buffer n (w.walk (buffer.take n)) (w.walk buffer)) ∧
    (0x100 < n →
      let w := Walker.extended options.strictAlignment
      CutShort w buffer n (w.walk (buffer.take n)) (w.walk buffer)) := by
  constructor
  · intro root w
    exact cutShort_of_proper (proper_legacy root _) (opens_legacy root _ _)
  · intro hn w
    refine cutShort_of_proper (proper_extended _) fun _ => ?_
    rw [List.length_take, Nat.min_eq_left h]
    exact hn

/-- In a blank dump the cut takes away the word of zeros that ends the extended list. -/
theorem walk_take_blank :
    0x102 ≤ (List.replicate 0x104 0 : Bytes).length ∧ 0x100 < 0x102 ∧
      CutShort (Walker.legacy 0x40) (List.replicate 0x104 0) 0x102
        ((Walker.legacy 0x40).walk ((List.replicate 0x104 0).take 0x102))
        ((Walker.legacy 0x40).walk (List.replicate 0x104 0)) ∧
      CutShort Walker.extended (List.replicate 0x104 0) 0x102
        (Walker.extended.walk ((List.replicate 0x104 0).take 0x102))
        (Walker.extended.walk (List.replicate 0x104 0)) := by
  have hlength : 0x102 ≤ (List.replicate 0x104 0 : Bytes).length := by
    rw [List.length_replicate]
    decide
  obtain ⟨hlegacy, hextended⟩ := walk_take (List.replicate 0x104 0) 0x102 hlength {}
  exact ⟨hlength, by decide, hlegacy 0x40, hextended (by decide)⟩

end ConfigSpace
