import ConfigSpace.Proofs.ExtendedWalk
import ConfigSpace.Proofs.LegacyWalk
import ConfigSpace.Proofs.Writing

/-!
# Walking a list that was written

A list of capabilities is written by copying the header and the body of each of them to its
offset, where the header points to the capability that comes next in the list.  The
capabilities may lie in any order, and the bytes between them, and those that they are
written over, may be anything.  A walk of such a buffer gives back what was written.

* `Element` and `Element.patches` — a capability to be written, and what is to be copied
  where for a list of them.  The spans of the capabilities must not overlap
  (`Element.Apart`); then no copy disturbs another.
* `Walker.Serves` — a buffer that holds a list for a walker.  The orbit of the walker then
  leads from one capability to the next (`Serves.orbit_eq`) and ends behind the last one, no
  sooner (`Serves.live`) and no later (`Serves.ending_length`).
* `Walk.Recovers` — a walk that gives back a list.

The main result is `walk_written`.
-/

namespace ConfigSpace

/-! ## Lists to be written -/

/-- A capability to be written into a list. -/
structure Element where
  /-- The offset of the header. -/
  offset : Nat
  /-- The identifier. -/
  capId : Nat
  /-- The version of an extended capability; legacy ones have none. -/
  version : Option Nat := none
  /-- The bytes that follow the header. -/
  body : Bytes
  deriving DecidableEq, Repr

namespace Element

/-- The header, if the next capability is at `next`. -/
def header (e : Element) (next : Nat) : Header :=
  { capId := e.capId, nextPtr := next, version := e.version }

/-- The offset of the body. -/
def bodyOffset (e : Element) : Nat :=
  e.offset + (e.header 0).size

/-- The offset at which the body ends. -/
def stop (e : Element) : Nat :=
  e.bodyOffset + e.body.length

/-- Two capabilities whose spans do not overlap. -/
def Apart (a b : Element) : Prop :=
  a.stop ≤ b.offset ∨ b.stop ≤ a.offset

instance (a b : Element) : Decidable (a.Apart b) :=
  inferInstanceAs (Decidable (_ ∨ _))

/-- The identifier and the version fit the fields of a region's headers. -/
def Fits (e : Element) : Region → Prop
  | .legacy => e.version = none ∧ e.capId < 2 ^ 8
  | .extended => ∃ version, e.version = some version ∧ version < 2 ^ 4 ∧ e.capId < 2 ^ 16

/-- The offset of the first of some capabilities, zero if there are none. -/
def firstOffset : List Element → Nat
  | [] => 0
  | e :: _ => e.offset

/-- What is to be copied for a list: every header points to the capability that comes next,
and the last one nowhere. -/
def patches : List Element → List Bytes.Patch
  | [] => []
  | e :: rest =>
      ⟨e.offset, (e.header (firstOffset rest)).encode⟩ :: ⟨e.bodyOffset, e.body⟩ :: patches rest

variable {e : Element} {elements : List Element}

theorem offset_lt_stop (e : Element) : e.offset < e.stop := by
  have hpos : 0 < (e.header 0).size := by
    unfold Header.size
    split <;> decide
  rw [stop, bodyOffset]
  omega

theorem exists_of_mem_patches {p : Bytes.Patch} (hp : p ∈ patches elements) :
    ∃ e ∈ elements, e.offset ≤ p.offset ∧ p.stop ≤ e.stop := by
  induction elements with
  | nil => cases hp
  | cons e rest ih =>
    rcases List.mem_cons.1 hp with rfl | hp
    · refine ⟨e, List.mem_cons_self, Nat.le_refl _, ?_⟩
      rw [Bytes.Patch.stop, Header.length_encode, stop]
      exact Nat.le_add_right _ _
    rcases List.mem_cons.1 hp with rfl | hp
    · exact ⟨e, List.mem_cons_self, Nat.le_add_right _ _, Nat.le_refl _⟩
    · obtain ⟨e', he', hspan⟩ := ih hp
      exact ⟨e', List.mem_cons_of_mem _ he', hspan⟩

/-- Patches for capabilities that do not overlap do not overlap. -/
theorem pairwise_patches (h : elements.Pairwise Apart) :
    (patches elements).Pairwise Bytes.Patch.Apart := by
  induction elements with
  | nil => exact .nil
  | cons e rest ih =>
    obtain ⟨he, hrest⟩ := List.pairwise_cons.1 h
    -- What lies in the span of `e` is apart from the patches of the others.
    have hother : ∀ p : Bytes.Patch, e.offset ≤ p.offset → p.stop ≤ e.stop →
        ∀ q ∈ patches rest, p.Apart q := by
      intro p hstart hstop q hq
      obtain ⟨e', he', hstart', hstop'⟩ := exists_of_mem_patches hq
      rcases he e' he' with hbefore | hbehind
      · exact .inl (hstop.trans (hbefore.trans hstart'))
      · exact .inr (hstop'.trans (hbehind.trans hstart))
    have hheader : (⟨e.offset, (e.header (firstOffset rest)).encode⟩ : Bytes.Patch).stop =
        e.bodyOffset := by
      rw [Bytes.Patch.stop, Header.length_encode]
      rfl
    refine List.pairwise_cons.2 ⟨fun q hq => ?_, List.pairwise_cons.2 ⟨fun q hq => ?_, ih hrest⟩⟩
    · rcases List.mem_cons.1 hq with rfl | hq
      · exact .inl (Nat.le_of_eq hheader)
      · refine hother _ (Nat.le_refl _) ?_ q hq
        rw [hheader]
        exact Nat.le_add_right _ _
    · exact hother _ (Nat.le_add_right _ _) (Nat.le_refl _) q hq

theorem patches_drop_subset (elements : List Element) (i : Nat) :
    patches (elements.drop i) ⊆ patches elements := by
  induction elements generalizing i with
  | nil => simp
  | cons e rest ih =>
    cases i with
    | zero => exact List.Subset.refl _
    | succ i =>
      rw [List.drop_succ_cons]
      intro p hp
      exact List.mem_cons_of_mem _ (List.mem_cons_of_mem _ (ih i hp))

end Element

/-! ## Buffers that hold a list -/

/-- A buffer holds a list of capabilities, where a walker finds it. -/
structure Walker.Serves (w : Walker) (buffer : Bytes) (elements : List Element) : Prop where
  /-- The walker starts at the first of them. -/
  root_eq : w.root = Element.firstOffset elements
  /-- Their values fit the headers of the region. -/
  fits : ∀ e ∈ elements, e.Fits w.region
  /-- They do not overlap. -/
  apart : elements.Pairwise Element.Apart
  /-- They lie within the readable bytes. -/
  inside : ∀ e ∈ elements, e.stop ≤ w.region.readable buffer
  /-- None of them is where a zero pointer leads. -/
  positive : ∀ e ∈ elements, 0 < e.offset
  /-- They start at the start of a slot. -/
  aligned : ∀ e ∈ elements, w.region.granule ∣ e.offset
  /-- The walker follows pointers to them. -/
  checked : ∀ e ∈ elements, ∀ source, ∃ note, w.check source e.offset = .ok note
  /-- The last header does not end the list by itself. -/
  closed : ∀ e, elements.getLast? = some e → ¬ (e.capId = 0 ∧ e.version = some 0)
  /-- The buffer holds what was copied. -/
  held : ∀ p ∈ Element.patches elements, buffer.window p.offset p.bytes.length = p.bytes

/-- A record gives back a capability that was written. -/
structure Record.Recovers (record : Record) (buffer : Bytes) (e : Element) : Prop where
  offset_eq : record.offset = e.offset
  capId_eq : record.header.capId = e.capId
  version_eq : record.header.version = e.version
  /-- The payload begins with the body. -/
  body_isPrefix : e.body <+: record.payload buffer

/-- A walk gives back a list that was written, and ends behind it. -/
structure Walk.Recovers (walk : Walk) (buffer : Bytes) (elements : List Element) : Prop where
  /-- The walk returns. -/
  returns : walk.escape = none
  /-- It came to the end of the list. -/
  state_eq : walk.run.state = .terminated
  /-- Its records are the capabilities, in the order of the list. -/
  records : List.Forall₂ (fun record e => record.Recovers buffer e) walk.records elements

namespace Walker.Serves

open Element

variable {w : Walker} {buffer : Bytes} {elements rest : List Element} {e : Element} {i : Nat}

theorem proper (h : w.Serves buffer elements) : w.Proper := by
  refine ⟨?_, ?_⟩
  · rw [h.root_eq]
    exact Int.natCast_nonneg _
  · rw [h.root_eq, Int.toNat_natCast]
    cases elements with
    | nil => exact dvd_zero _
    | cons e rest => exact h.aligned e List.mem_cons_self

theorem firstOffset_lt (h : w.Serves buffer elements) (i : Nat) :
    firstOffset (elements.drop i) < w.region.limit ∧
      w.region.granule ∣ firstOffset (elements.drop i) := by
  cases hdrop : elements.drop i with
  | nil =>
    refine ⟨?_, dvd_zero _⟩
    cases w.region <;> decide
  | cons e rest =>
    have he : e ∈ elements := List.mem_of_mem_drop (hdrop ▸ List.mem_cons_self)
    have hstop := h.inside e he
    have hlt := e.offset_lt_stop
    have hreadable : w.region.readable buffer ≤ w.region.limit := Nat.min_le_right _ _
    refine ⟨?_, h.aligned e he⟩
    change e.offset < w.region.limit
    omega

section At

variable (h : w.Serves buffer elements) (hi : i < elements.length)

include h hi

/-- The header of a capability, with the pointer to the next one, fits its region. -/
theorem fits_header :
    (elements[i].header (firstOffset (elements.drop (i + 1)))).Fits w.region := by
  have hfits := h.fits elements[i] (List.getElem_mem hi)
  obtain ⟨hlt, halign⟩ := h.firstOffset_lt (i + 1)
  cases hr : w.region with
  | legacy =>
    rw [hr] at hfits hlt
    exact ⟨hfits.1, hfits.2, hlt⟩
  | extended =>
    rw [hr] at hfits hlt halign
    obtain ⟨version, hversion, hsmall, hid⟩ := hfits
    exact ⟨version, hversion, hsmall, hid, hlt, halign⟩

theorem held_at :
    buffer.window elements[i].offset w.region.headerSize =
        (elements[i].header (firstOffset (elements.drop (i + 1)))).encode ∧
      buffer.window elements[i].bodyOffset elements[i].body.length = elements[i].body := by
  have hdrop : elements.drop i = elements[i] :: elements.drop (i + 1) :=
    List.drop_eq_getElem_cons hi
  have hsubset := patches_drop_subset elements i
  rw [hdrop] at hsubset
  have hheader := h.held _ (hsubset List.mem_cons_self)
  have hbody := h.held _ (hsubset (List.mem_cons_of_mem _ List.mem_cons_self))
  rw [Header.length_encode, (h.fits_header hi).size_eq] at hheader
  exact ⟨hheader, hbody⟩

/-- The header that is read at the offset of a capability. -/
theorem header_eq :
    w.region.header buffer elements[i].offset =
      elements[i].header (firstOffset (elements.drop (i + 1))) :=
  Region.header_of_encode (h.fits_header hi) (h.held_at hi).1

theorem not_terminates : ¬ w.region.Terminates buffer elements[i].offset := by
  refine Region.not_terminates_of_encode (h.fits_header hi) (h.held_at hi).1 ?_
  rintro ⟨hid, hversion, hnext⟩
  cases hrest : elements.drop (i + 1) with
  | nil =>
    have hlen : elements.length = i + 1 :=
      Nat.le_antisymm (List.drop_eq_nil_iff.1 hrest) hi
    have hlast : elements.getLast? = some elements[i] := by
      rw [List.getLast?_eq_getElem?, hlen, Nat.add_sub_cancel, List.getElem?_eq_getElem hi]
    exact h.closed _ hlast ⟨hid, hversion⟩
  | cons e rest =>
    have he : e ∈ elements := List.mem_of_mem_drop (hrest ▸ List.mem_cons_self)
    rw [hrest] at hnext
    exact absurd hnext (h.positive e he).ne'

omit hi in
/-- The orbit leads from one capability to the next, and to zero behind the last one. -/
theorem orbit_eq (i : Nat) (hi : i ≤ elements.length) :
    w.orbit buffer i = firstOffset (elements.drop i) := by
  induction i with
  | zero =>
    rw [Walker.orbit, h.root_eq]
    exact Int.toNat_natCast _
  | succ i ih =>
    rw [Walker.orbit, ih (Nat.le_of_succ_le hi), List.drop_eq_getElem_cons hi]
    change (w.region.header buffer elements[i].offset).nextPtr = _
    rw [h.header_eq hi]
    rfl

theorem orbit_eq_offset : w.orbit buffer i = elements[i].offset := by
  rw [h.orbit_eq i hi.le, List.drop_eq_getElem_cons hi]
  rfl

theorem bodyOffset_eq : elements[i].bodyOffset = elements[i].offset + w.region.headerSize := by
  have hsize : (elements[i].header 0).size = w.region.headerSize := (h.fits_header hi).size_eq
  rw [bodyOffset, hsize]

/-- The walk goes on at every capability. -/
theorem live : w.Live buffer i := by
  have horbit := h.orbit_eq_offset hi
  have hmem := List.getElem_mem hi
  refine ⟨?_, ?_, ?_, ?_, ?_⟩
  · rw [horbit]
    exact (h.positive _ hmem).ne'
  · -- Capabilities that do not overlap have offsets of their own.
    rintro ⟨j, hj, hback⟩
    rw [horbit, h.orbit_eq_offset (hj.trans hi)] at hback
    have hapart := List.pairwise_iff_getElem.1 h.apart j i (hj.trans hi) hi hj
    have hlt := elements[i].offset_lt_stop
    have hlt' := elements[j].offset_lt_stop
    rcases hapart with hbefore | hbehind <;> omega
  · rw [horbit]
    exact h.checked _ hmem _
  · have hstop := h.inside _ hmem
    rw [stop, h.bodyOffset_eq hi] at hstop
    rw [horbit]
    omega
  · rw [horbit]
    exact h.not_terminates hi

omit hi in
theorem ending_length : w.ending buffer elements.length = some .terminated := by
  have hzero : w.orbit buffer elements.length = 0 := by
    rw [h.orbit_eq _ (Nat.le_refl _), List.drop_length]
    rfl
  rw [ending, if_pos hzero]

/-- A capability that comes behind in the region and next in the list starts behind the
body. -/
theorem stop_le_next (hnext : elements[i].offset < firstOffset (elements.drop (i + 1))) :
    elements[i].stop ≤ firstOffset (elements.drop (i + 1)) := by
  cases hrest : elements.drop (i + 1) with
  | nil =>
    rw [hrest] at hnext
    exact absurd hnext (Nat.not_lt_zero _)
  | cons e rest =>
    have hdrop : elements.drop i = elements[i] :: e :: rest := by
      rw [← hrest]
      exact List.drop_eq_getElem_cons hi
    have hpair : (elements[i] :: e :: rest).Pairwise Apart := by
      rw [← hdrop]
      exact h.apart.sublist (List.drop_sublist i elements)
    have hlt := e.offset_lt_stop
    rw [hrest] at hnext
    change elements[i].offset < e.offset at hnext
    change elements[i].stop ≤ e.offset
    rcases (List.pairwise_cons.1 hpair).1 e List.mem_cons_self with hbefore | hbehind
    · exact hbefore
    · omega

/-- The record of a capability gives it back: the payload is not cut off before the end of
the body. -/
theorem recovers_recordAt : (w.recordAt buffer i).Recovers buffer elements[i] := by
  obtain ⟨-, hbody⟩ := h.held_at hi
  have hstop := h.inside _ (List.getElem_mem hi)
  have hnext := h.stop_le_next hi
  rw [recordAt, h.orbit_eq_offset hi, h.header_eq hi]
  refine ⟨rfl, rfl, rfl, ?_⟩
  let next := firstOffset (elements.drop (i + 1))
  -- The payload ends at the next capability or at the end of the region.
  have hend : elements[i].stop ≤
      min (if elements[i].offset < next then next else w.region.readable buffer)
        (w.region.readable buffer) := by
    refine Nat.le_min.2 ⟨?_, hstop⟩
    by_cases hlt : elements[i].offset < next
    · rw [if_pos hlt]
      exact hnext hlt
    · rw [if_neg hlt]
      exact hstop
  have hfit : elements[i].bodyOffset + elements[i].body.length ≤
      (Record.ofHeader elements[i].offset (elements[i].header next)
        (w.region.readable buffer)).stop :=
    hend.trans (Nat.le_max_right _ _)
  have hprefix : buffer.window elements[i].bodyOffset elements[i].body.length <+:
      (Record.ofHeader elements[i].offset (elements[i].header next)
        (w.region.readable buffer)).payload buffer :=
    List.take_prefix_take_left (Nat.le_sub_of_add_le' hfit)
  rw [hbody] at hprefix
  exact hprefix

end At

/-- A walker that is served gives back the list. -/
theorem recovers (h : w.Serves buffer elements) (hopen : w.Opens buffer) :
    (w.walk buffer).Recovers buffer elements := by
  obtain ⟨k, s, hwalk⟩ := walk_followsOrbit h.proper hopen
  obtain ⟨rfl, rfl⟩ := hwalk.eq_of_first
    (fun i hi => ending_eq_none_of_live (h.live hi)) h.ending_length
  refine ⟨hwalk.escape_eq, hwalk.state_eq, ?_⟩
  rw [hwalk.records_eq, List.forall₂_iff_get]
  refine ⟨by simp, fun i hi hi' => ?_⟩
  simp only [List.get_eq_getElem, List.getElem_map, List.getElem_range]
  exact h.recovers_recordAt hi'

end Walker.Serves

/-! ## Writing a list -/

/-- A region of a buffer has room for the capabilities of a list. -/
structure Region.HasRoomFor (r : Region) (background : Bytes) (elements : List Element) :
    Prop where
  /-- Their values fit the headers of the region. -/
  fits : ∀ e ∈ elements, e.Fits r
  /-- They lie within the region and the buffer. -/
  inside : ∀ e ∈ elements, e.stop ≤ r.readable background
  /-- They do not overlap. -/
  apart : elements.Pairwise Element.Apart

namespace Region.HasRoomFor

variable {r : Region} {background : Bytes} {elements : List Element} {patches : List Bytes.Patch}

theorem patches_fit (h : r.HasRoomFor background elements)
    (hperm : patches.Perm (Element.patches elements)) :
    ∀ p ∈ patches, p.stop ≤ background.length := by
  intro p hp
  obtain ⟨e, he, -, hstop⟩ := Element.exists_of_mem_patches (hperm.mem_iff.1 hp)
  exact hstop.trans ((h.inside e he).trans (Nat.min_le_left _ _))

theorem readable_eq (h : r.HasRoomFor background elements)
    (hperm : patches.Perm (Element.patches elements)) :
    r.readable (background.patch patches) = r.readable background := by
  rw [readable, Bytes.length_patch (h.patches_fit hperm), readable]

/-- Whatever the order of the patches, the buffer holds all of them. -/
theorem held (h : r.HasRoomFor background elements)
    (hperm : patches.Perm (Element.patches elements)) :
    ∀ p ∈ Element.patches elements,
      (background.patch patches).window p.offset p.bytes.length = p.bytes := by
  intro p hp
  have hapart : patches.Pairwise Bytes.Patch.Apart :=
    hperm.symm.pairwise (Element.pairwise_patches h.apart) fun hpq => hpq.symm
  exact Bytes.window_patch (h.patches_fit hperm) hapart (hperm.mem_iff.2 hp)

/-- A walker of the region that starts at the first capability, and may follow pointers to
all of them, is served by the buffer. -/
theorem serves {w : Walker} (h : w.region.HasRoomFor background elements)
    (hperm : patches.Perm (Element.patches elements))
    (hroot : w.root = Element.firstOffset elements)
    (hoffsets : ∀ e ∈ elements, 0 < e.offset ∧ w.region.granule ∣ e.offset)
    (hcheck : ∀ e ∈ elements, ∀ source, ∃ note, w.check source e.offset = .ok note)
    (hclosed : ∀ e, elements.getLast? = some e → ¬ (e.capId = 0 ∧ e.version = some 0)) :
    w.Serves (background.patch patches) elements where
  root_eq := hroot
  fits := h.fits
  apart := h.apart
  inside e he := by
    rw [h.readable_eq hperm]
    exact h.inside e he
  positive e he := (hoffsets e he).1
  aligned e he := (hoffsets e he).2
  checked := hcheck
  closed := hclosed
  held := h.held hperm

end Region.HasRoomFor

/-- **Walking undoes building a list.**  Capabilities whose spans do not overlap are written
into a region, over whatever the bytes were before and in whatever order, each with a
pointer to the one that comes next and the last one with a zero pointer.  Then the walk of
the region gives them back in the order of the list, every payload beginning with the body
that was written, and comes to the end of the list.

The extended list starts at 0x100, its offsets are dword aligned, and its last header must
not be all zeros; the legacy list starts wherever the first capability is, and is walked
leniently. -/
theorem walk_written (background : Bytes) (first : Element) (rest : List Element)
    (patches : List Bytes.Patch) (hperm : patches.Perm (Element.patches (first :: rest)))
    (options : Options) :
    let elements := first :: rest
    let buffer := background.patch patches
    (Region.extended.HasRoomFor background elements → first.offset = 0x100 →
      (∀ e ∈ elements, 0x100 ≤ e.offset ∧ 4 ∣ e.offset) →
      (∀ e, elements.getLast? = some e → ¬ (e.capId = 0 ∧ e.version = some 0)) →
        ((Walker.extended options.strictAlignment).walk buffer).Recovers buffer elements) ∧
    (Region.legacy.HasRoomFor background elements → (∀ e ∈ elements, 1 ≤ e.offset) →
      options.strictAlignment = false →
        ((Walker.legacy first.offset options.strictAlignment).walk buffer).Recovers buffer
          elements) := by
  intro elements buffer
  constructor
  · intro hroom hfirst hoffsets hclosed
    have hserves : (Walker.extended options.strictAlignment).Serves buffer elements := by
      refine hroom.serves hperm ?_ (fun e he => ?_) (fun e he source => ?_) hclosed
      · change (0x100 : Int) = first.offset
        rw [hfirst]
        rfl
      · obtain ⟨hge, halign⟩ := hoffsets e he
        exact ⟨by omega, halign⟩
      · have hge := (hoffsets e he).1
        exact ⟨none, (check_extended _ _ _).trans (if_neg (by omega))⟩
    refine hserves.recovers fun _ => ?_
    have hstop := hserves.inside first List.mem_cons_self
    have hlt := first.offset_lt_stop
    have hreadable : Region.extended.readable buffer ≤ buffer.length := Nat.min_le_left _ _
    change first.stop ≤ Region.extended.readable buffer at hstop
    omega
  · intro hroom hoffsets hlenient
    rw [hlenient]
    have hserves : (Walker.legacy first.offset).Serves buffer elements := by
      refine hroom.serves hperm rfl (fun e he => ⟨hoffsets e he, one_dvd _⟩)
        (fun e he source => ⟨_, check_lenient _ _ _⟩) fun e hlast => ?_
      rintro ⟨-, hversion⟩
      have hnone := (hroom.fits e (List.mem_of_getLast? hlast)).1
      rw [hnone] at hversion
      cases hversion
    exact hserves.recovers (opens_legacy _ _ _)

/-- A list in each region, of which the legacy one runs backwards, written from its end over
ones. -/
theorem walk_written_backwards :
    let background : Bytes := List.replicate 0x120 0xFF
    let first : Element := { offset := 0x50, capId := 0x05, body := [0x80, 0x00] }
    let last : Element := { offset := 0x40, capId := 0x09, body := [] }
    let first' : Element := { offset := 0x100, capId := 0x0B, version := some 1, body := [0x07] }
    let last' : Element := { offset := 0x110, capId := 0, version := some 2, body := [0xAA] }
    let patches := (Element.patches [first, last]).reverse
    let patches' := (Element.patches [first', last']).reverse
    ((Walker.legacy 0x50).walk (background.patch patches)).Recovers (background.patch patches)
        [first, last] ∧
      ((Walker.extended).walk (background.patch patches')).Recovers (background.patch patches')
        [first', last'] := by
  intro background first last first' last' patches patches'
  have hlegacy : Region.legacy.HasRoomFor background [first, last] := by
    have hreadable : Region.legacy.readable background = 0x100 := by
      rw [Region.readable, List.length_replicate]
      rfl
    refine ⟨?_, by rw [hreadable]; decide, by decide⟩
    intro e he
    simp only [List.mem_cons, List.not_mem_nil, or_false] at he
    rcases he with rfl | rfl <;> exact ⟨rfl, by decide⟩
  have hextended : Region.extended.HasRoomFor background [first', last'] := by
    have hreadable : Region.extended.readable background = 0x120 := by
      rw [Region.readable, List.length_replicate]
      rfl
    refine ⟨?_, by rw [hreadable]; decide, by decide⟩
    intro e he
    simp only [List.mem_cons, List.not_mem_nil, or_false] at he
    rcases he with rfl | rfl <;> exact ⟨_, rfl, by decide, by decide⟩
  constructor
  · exact (walk_written background first [last] patches (List.reverse_perm _) {}).2 hlegacy
      (by decide) rfl
  · refine (walk_written background first' [last'] patches' (List.reverse_perm _) {}).1 hextended
      rfl (by decide) fun e he => ?_
    cases he
    decide

end ConfigSpace
