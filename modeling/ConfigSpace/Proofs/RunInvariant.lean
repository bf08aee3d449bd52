import ConfigSpace.Proofs.Orbit
import ConfigSpace.Session
import Mathlib.Data.Finset.Card
import Mathlib.Data.List.Nodup

/-!
# What a run keeps while everything around it changes

Between two requests the bytes of the buffer, the root and the strictness of the walker
may all be changed, so a run follows no fixed orbit.  Whatever it finds, every record it
gives takes a slot that none of the records before it took, and that is enough to bring
it to an end.

* `Status.Advances` — how the status of a run may change: the state moves on, notes are
  added, and once the run is over nothing changes any more.
* `Run.Given` — the invariant: the marks of the run are the slots of the offsets it has
  given, no two of these offsets share a slot, and all lie in the region.
* `Run.Given.length_le` — so it has given at most 254 legacy capabilities, or 960 extended
  ones.
* `Run.Given.next` — one request keeps the invariant: it gives a record, or the run is over.
* `Run.Drains` — a run over a buffer that stays as it is, asked until it stops, without any
  bound on the requests.  `Run.Given.exists_drains` says that it does stop, and
  `Run.Given.restOf` that the requests `Run.rest` allows itself are enough.
-/

namespace ConfigSpace

/-! ## How a status changes -/

/-- A run in this state is over. -/
inductive WalkState.Ended : WalkState → Prop where
  /-- The list came to its end. -/
  | terminated : Ended .terminated
  /-- The walk was stopped. -/
  | failed (fault : WalkFault) : Ended (.failed fault)

/-- One change of the state of a run. -/
inductive WalkState.Moves : WalkState → WalkState → Prop where
  /-- The first record is given. -/
  | follow : Moves .start .following
  /-- The run ends before it has given a record. -/
  | finish_start {s : WalkState} (ended : s.Ended) : Moves .start s
  /-- The run ends after it has given records. -/
  | finish_following {s : WalkState} (ended : s.Ended) : Moves .following s

theorem WalkState.Ended.ne_start {s : WalkState} (h : s.Ended) : s ≠ .start := by
  cases h <;> simp

theorem WalkState.fault?_eq_some_iff {s : WalkState} {fault : WalkFault} :
    s.fault? = some fault ↔ s = .failed fault := by
  cases s <;> simp [WalkState.fault?]

/-- How the status of a run may differ from what it was before. -/
structure Status.Advances (before after : Status) : Prop where
  /-- The state is the same, or has moved on. -/
  state : after.state = before.state ∨ before.state.Moves after.state
  /-- Notes were only added. -/
  notes : before.notes <+: after.notes
  /-- A run that was over is as it was. -/
  settled : before.state.Ended → after = before

namespace Status.Advances

variable {a b c : Status}

protected theorem refl (a : Status) : a.Advances a :=
  ⟨Or.inl rfl, List.prefix_refl _, fun _ => rfl⟩

protected theorem trans (hab : a.Advances b) (hbc : b.Advances c) : a.Advances c := by
  refine ⟨?_, hab.notes.trans hbc.notes, fun hover => ?_⟩
  · rcases hab.state with hsame | hmove
    · rw [← hsame]
      exact hbc.state
    rcases hbc.state with hsame | hmove'
    · rw [hsame]
      exact Or.inr hmove
    -- Two moves in a row lead from the start over the following state to an end.
    right
    generalize b.state = sb at hmove hmove'
    generalize a.state = sa at hmove
    cases hmove with
    | follow => cases hmove' with | finish_following ended => exact .finish_start ended
    | finish_start ended | finish_following ended => cases ended <;> cases hmove'
  · have hb := hab.settled hover
    rw [← hb] at hover
    rw [hbc.settled hover, hb]

end Status.Advances

/-! ## Slots of any offsets -/

namespace Region

/-- The first offset of the slot that an offset lies in. -/
def slotStart (r : Region) (o : Nat) : Nat :=
  r.granule * (o / r.granule)

/-- The least offset at which a run gives a capability. -/
def least : Region → Nat
  | .legacy => 1
  | .extended => 0x100

/-- How many capabilities a list can hold.  The last two offsets of the legacy region, and
the last three of the extended one, leave no room for a header. -/
def capacity : Region → Nat
  | .legacy => 254
  | .extended => 960

theorem granule_pos (r : Region) : 0 < r.granule := by
  cases r <;> decide

theorem granule_dvd_slotStart (r : Region) (o : Nat) : r.granule ∣ r.slotStart o :=
  Nat.dvd_mul_right _ _

theorem slotStart_le (r : Region) (o : Nat) : r.slotStart o ≤ o :=
  Nat.mul_div_le o r.granule

theorem slotStart_div (r : Region) (o : Nat) : r.slotStart o / r.granule = o / r.granule :=
  Nat.mul_div_cancel_left _ r.granule_pos

theorem slotStart_of_dvd {r : Region} {o : Nat} (h : r.granule ∣ o) : r.slotStart o = o :=
  Nat.mul_div_cancel' h

/-- The slots of the offsets at which there is room for a capability are `capacity` many. -/
theorem exists_slotStart_eq {r : Region} {o : Nat} (hleast : r.least ≤ o)
    (hfits : o + r.headerSize ≤ r.limit) :
    ∃ i < r.capacity, r.least + r.granule * i = r.slotStart o := by
  cases r with
  | legacy =>
    simp only [least, headerSize, limit, capacity, slotStart, granule] at *
    exact ⟨o - 1, by omega, by omega⟩
  | extended =>
    simp only [least, headerSize, limit, capacity, slotStart, granule] at *
    exact ⟨o / 4 - 0x40, by omega, by omega⟩

end Region

namespace Visited.Tracks

variable {v : Visited} {r : Region} {offsets : List Nat} {o : Nat}

/-- To mark an offset is to mark the start of its slot, so any offset of the region can be
marked. -/
theorem add_slotStart (h : v.Tracks r (offsets.map r.slotStart)) (ho : o < r.limit) :
    ∃ v', v.add o = .ok v' ∧ v'.Tracks r ((offsets ++ [o]).map r.slotStart) := by
  have hstart : r.slotStart o < r.limit := Nat.lt_of_le_of_lt (r.slotStart_le o) ho
  obtain ⟨v', hadd, htracks⟩ := h.add (r.granule_dvd_slotStart o) hstart
  refine ⟨v', ?_, ?_⟩
  · have hslot : v.slot? o = some (o / r.granule) := by
      rw [h.slot?_natCast, if_pos (h.div_lt_slots ho)]
    have hslot' : v.slot? (r.slotStart o) = some (o / r.granule) := by
      rw [h.slot?_natCast, if_pos (h.div_lt_slots hstart), r.slotStart_div]
    rw [← hadd, Visited.add_of_some hslot, Visited.add_of_some hslot']
  · rw [List.map_append, List.map_singleton]
    exact htracks

end Visited.Tracks

/-! ## The invariant -/

/-- A run that has given these offsets, whatever the buffer and the walker were meanwhile. -/
structure Run.Given (region : Region) (offsets : List Nat) (r : Run) : Prop where
  /-- It has marked the slots of the offsets. -/
  tracks : r.visited.Tracks region (offsets.map region.slotStart)
  /-- No two of the offsets share a slot. -/
  nodup : (offsets.map region.slotStart).Nodup
  /-- At each of them there is room for a capability. -/
  room : ∀ o ∈ offsets, region.least ≤ o ∧ o + region.headerSize ≤ region.limit
  /-- At the root it has given nothing, and noted nothing. -/
  root : r.position = .root → r.status = {} ∧ offsets = []
  /-- Behind a record, the one it has given last, it is under way; the next pointer leads to
  the start of a slot. -/
  behind : ∀ o next, r.position = .behind o next →
    r.state = .following ∧ offsets.getLast? = some o ∧ region.granule ∣ next
  /-- Nowhere it is over. -/
  ended : r.position = .ended → r.state.Ended

/-- What a request makes of a run that has given these offsets. -/
inductive Run.Continues (region : Region) (offsets : List Nat) (r : Run) : Step → Prop where
  /-- It gives one more, and is under way. -/
  | found {record : Record} {r' : Run} (given : r'.Given region (offsets ++ [record.offset]))
      (following : r'.state = .following) (advances : r.status.Advances r'.status) :
      Continues region offsets r (.found record r')
  /-- It is over. -/
  | stopped {r' : Run} (given : r'.Given region offsets) (ended : r'.state.Ended)
      (advances : r.status.Advances r'.status) : Continues region offsets r (.stopped r')

namespace Run

variable {w : Walker} {buffer : Bytes} {region : Region} {offsets : List Nat} {r : Run}

theorem noting_nil (r : Run) : r.noting [] = r := by
  simp [noting]

theorem unnoted_begin (w : Walker) (buffer : Bytes) :
    (begin w buffer).state.fault? = none ∧ (begin w buffer).notes = [] := by
  unfold begin
  cases w.region with
  | legacy => exact ⟨rfl, rfl⟩
  | extended =>
    simp only
    split <;> exact ⟨rfl, rfl⟩

theorem given_begin (w : Walker) (buffer : Bytes) : (begin w buffer).Given w.region [] := by
  have hvisited : (begin w buffer).visited = unvisited w.region := by
    unfold begin
    cases w.region with
    | legacy => rfl
    | extended => simp only; split <;> rfl
  refine ⟨?_, List.nodup_nil, fun o ho => absurd ho List.not_mem_nil, ?_, ?_, ?_⟩
  · rw [hvisited]
    exact Visited.tracks_unvisited w.region
  all_goals
    unfold begin
    cases w.region with
    | legacy => simp [status]
    | extended =>
      by_cases hlen : buffer.length ≤ 0x100
      · simp [hlen, WalkState.Ended.terminated]
      · simp [hlen, status]

namespace Given

theorem state_of_root (h : r.Given region offsets) (hposition : r.position = .root) :
    r.state = .start :=
  congrArg Status.state (h.root hposition).1

theorem offsets_nodup (h : r.Given region offsets) : offsets.Nodup :=
  h.nodup.of_map _

/-- No more offsets are given than the region has slots to offer. -/
theorem length_le (h : r.Given region offsets) : offsets.length ≤ region.capacity := by
  let starts := (Finset.range region.capacity).image fun i => region.least + region.granule * i
  have hsub : (offsets.map region.slotStart).toFinset ⊆ starts := by
    intro s hs
    obtain ⟨o, ho, rfl⟩ := List.mem_map.1 (List.mem_toFinset.1 hs)
    obtain ⟨hleast, hfits⟩ := h.room o ho
    obtain ⟨i, hi, heq⟩ := Region.exists_slotStart_eq hleast hfits
    exact Finset.mem_image.2 ⟨i, Finset.mem_range.2 hi, heq⟩
  calc offsets.length = (offsets.map region.slotStart).length := (List.length_map _).symm
    _ = (offsets.map region.slotStart).toFinset.card := (List.toFinset_card_of_nodup h.nodup).symm
    _ ≤ starts.card := Finset.card_le_card hsub
    _ ≤ (Finset.range region.capacity).card := Finset.card_image_le
    _ = region.capacity := Finset.card_range _

theorem position_of_ended (h : r.Given region offsets) (hended : r.state.Ended) :
    r.position = .ended := by
  cases hposition : r.position with
  | root =>
    rw [h.state_of_root hposition] at hended
    cases hended
  | behind o next =>
    rw [(h.behind o next hposition).1] at hended
    cases hended
  | ended => rfl

theorem not_ended (h : r.Given region offsets) (hposition : r.position ≠ .ended) :
    ¬ r.state.Ended :=
  fun hended => hposition (h.position_of_ended hended)

/-- Ending a run that has given these offsets. -/
theorem finish (h : r.Given region offsets) (notes : List String) {s : WalkState}
    (hended : s.Ended) : ((r.noting notes).finish s).Given region offsets where
  tracks := h.tracks
  nodup := h.nodup
  room := h.room
  root := fun hposition => absurd hposition (by simp [Run.finish])
  behind := fun o next hposition => absurd hposition (by simp [Run.finish])
  ended := fun _ => hended

theorem advances_finish (h : r.Given region offsets) (hposition : r.position ≠ .ended)
    (notes : List String) {s : WalkState} (hended : s.Ended) :
    r.status.Advances ((r.noting notes).finish s).status := by
  refine ⟨Or.inr ?_, List.prefix_append _ _, fun hover => absurd hover (h.not_ended hposition)⟩
  change WalkState.Moves r.state s
  cases hp : r.position with
  | root =>
    rw [h.state_of_root hp]
    exact .finish_start hended
  | behind o next =>
    rw [(h.behind o next hp).1]
    exact .finish_following hended
  | ended => exact absurd hp hposition

/-- A run that can go on may be ended at any time, after some last notes. -/
theorem continues_noting_finish (h : r.Given region offsets) (hposition : r.position ≠ .ended)
    (notes : List String) {s : WalkState} (hended : s.Ended) :
    r.Continues region offsets (.stopped ((r.noting notes).finish s)) :=
  .stopped (h.finish notes hended) hended (h.advances_finish hposition notes hended)

theorem continues_finish (h : r.Given region offsets) (hposition : r.position ≠ .ended)
    {s : WalkState} (hended : s.Ended) : r.Continues region offsets (.stopped (r.finish s)) := by
  have hquiet := h.continues_noting_finish hposition [] hended
  rwa [noting_nil] at hquiet

/-- Visiting an offset that shares its slot with none of those given. -/
theorem visit {o : Nat} (h : r.Given w.region offsets) (hposition : r.position ≠ .ended)
    (hleast : w.region.least ≤ o) (hfresh : w.region.slotStart o ∉ offsets.map w.region.slotStart)
    (notes : List String) :
    r.Continues w.region offsets ((r.noting notes).visit w buffer o).value := by
  rcases Nat.lt_or_ge (w.region.readable buffer) (o + w.region.headerSize) with hpast | hfits
  · rw [visit_of_lt hpast]
    exact h.continues_noting_finish hposition notes (.failed _)
  by_cases hterm : w.region.Terminates buffer o
  · rw [visit_of_terminates hfits hterm]
    exact h.continues_noting_finish hposition notes .terminated
  -- The header is taken, so its slot is marked and the run stands behind it.
  have hlimit : o + w.region.headerSize ≤ w.region.limit :=
    hfits.trans (Nat.min_le_right _ _)
  have hsize : 0 < w.region.headerSize := by cases w.region <;> decide
  obtain ⟨v, hadd, htracks⟩ := h.tracks.add_slotStart (show o < w.region.limit by omega)
  have hadd' : (r.noting notes).visited.add o = .ok v := hadd
  rw [visit_of_header hfits hterm, accept]
  simp only [hadd']
  refine .found ⟨htracks, ?_, ?_, ?_, ?_, ?_⟩ rfl ⟨?_, ?_, ?_⟩
  · rw [List.map_append, List.map_singleton]
    refine h.nodup.append (List.nodup_singleton _) ?_
    rw [List.disjoint_singleton]
    exact hfresh
  · intro o' ho'
    rcases List.mem_append.1 ho' with hold | hnew
    · exact h.room o' hold
    · rw [List.mem_singleton.1 hnew]
      exact ⟨hleast, hlimit⟩
  · intro hroot
    cases hroot
  · intro o' next hbehind
    cases hbehind
    exact ⟨rfl, List.getLast?_concat, w.region.granule_dvd_nextPtr buffer _⟩
  · intro hended
    cases hended
  · change WalkState.following = r.state ∨ r.state.Moves .following
    cases hp : r.position with
    | root =>
      rw [h.state_of_root hp]
      exact Or.inr .follow
    | behind o' next => exact Or.inl (h.behind o' next hp).1.symm
    | ended => exact absurd hp hposition
  · exact List.prefix_append _ _
  · exact fun hover => absurd hover (h.not_ended hposition)

/-- Following a pointer that leads to none of the slots of the offsets given. -/
theorem follow {source target : Int} (h : r.Given w.region offsets)
    (hposition : r.position ≠ .ended) (hnonneg : w.region = .legacy → 0 ≤ target)
    (hfresh : ∀ o : Nat, (o : Int) = target →
      w.region.slotStart o ∉ offsets.map w.region.slotStart) :
    r.Continues w.region offsets (r.follow w buffer source target).value := by
  by_cases hzero : target = 0
  · rw [Run.follow, if_pos hzero]
    exact h.continues_finish hposition .terminated
  cases hcheck : w.check source target with
  | error fault =>
    unfold Run.follow
    rw [if_neg hzero, hcheck]
    exact h.continues_finish hposition (.failed fault)
  | ok note =>
    -- A pointer that may be followed leads to an offset of the region.
    have hleast : (w.region.least : Int) ≤ target := by
      cases hregion : w.region with
      | legacy =>
        have hpos := hnonneg hregion
        simp only [Region.least]
        omega
      | extended =>
        simp only [Walker.check, hregion] at hcheck
        split at hcheck
        · cases hcheck
        · simp only [Region.least]
          omega
    obtain ⟨o, rfl⟩ := Int.eq_ofNat_of_zero_le (show 0 ≤ target by omega)
    rw [value_follow_of_checked hzero hcheck]
    exact h.visit hposition (by exact_mod_cast hleast) (hfresh o rfl) note.toList

/-- **One request.**  Whatever the walker and the buffer are by now, a run gives a record
with a slot of its own, or it is over.  The root is only looked at by the first request,
and only that of a legacy walker may not count from the end. -/
theorem next (h : r.Given w.region offsets)
    (hroot : r.position = .root → w.region = .legacy → 0 ≤ w.root) (buffer : Bytes) :
    r.Continues w.region offsets (r.next w buffer).value := by
  cases hposition : r.position with
  | root =>
    have hne : r.position ≠ .ended := by simp [hposition]
    have hnone := (h.root hposition).2
    unfold Run.next
    rw [hposition]
    refine h.follow hne (hroot hposition) fun o _ => ?_
    rw [hnone]
    exact List.not_mem_nil
  | behind o next =>
    have hne : r.position ≠ .ended := by simp [hposition]
    have haligned := (h.behind o next hposition).2.2
    unfold Run.next
    simp only [hposition]
    split
    · exact h.continues_finish hne (.failed _)
    · rename_i hunvisited
      by_cases hzero : next = 0
      · rw [Run.follow, if_pos (Int.natCast_eq_zero.2 hzero)]
        exact h.continues_finish hne .terminated
      refine h.follow hne (fun _ => Int.natCast_nonneg next) fun o' ho' => ?_
      rw [Int.ofNat_inj.1 ho', Region.slotStart_of_dvd haligned,
        ← h.tracks.contains_iff next haligned]
      exact fun hcontains => hunvisited ⟨hzero, hcontains⟩
  | ended =>
    unfold Run.next
    rw [hposition]
    exact .stopped h (h.ended hposition) (.refl _)

end Given

/-! ## Asking until a run stops -/

/-- A run over a buffer that stays as it is, asked until it stops: the records it gives, and
the run as it is then. -/
inductive Drains (w : Walker) (buffer : Bytes) : Run → List Record → Run → Prop where
  /-- The run stops at once. -/
  | stop {r r' : Run} (stopped : (r.next w buffer).value = .stopped r') : Drains w buffer r [] r'
  /-- The run gives a record, and goes on from there. -/
  | step {r r₁ r' : Run} {record : Record} {records : List Record}
      (found : (r.next w buffer).value = .found record r₁) (rest : Drains w buffer r₁ records r') :
      Drains w buffer r (record :: records) r'

/-- Any number of requests that is large enough gives all the records. -/
theorem Drains.drain_eq {records : List Record} {r' : Run} (h : Drains w buffer r records r')
    {fuel : Nat} (hfuel : records.length < fuel) :
    (drain w buffer fuel r).records = records ∧ (drain w buffer fuel r).run = r' ∧
      (drain w buffer fuel r).escape = none := by
  induction h generalizing fuel with
  | stop hstopped =>
    cases fuel with
    | zero => cases hfuel
    | succ fuel =>
      rw [drain_of_stopped fuel hstopped]
      exact ⟨rfl, rfl, rfl⟩
  | @step r r₁ r' record records hfound _ ih =>
    cases fuel with
    | zero => cases hfuel
    | succ fuel =>
      obtain ⟨hrecords, hrun, hescape⟩ := ih (Nat.lt_of_succ_lt_succ hfuel)
      rw [drain_of_found fuel hfound]
      refine ⟨?_, hrun, hescape⟩
      rw [← hrecords]
      rfl

namespace Given

theorem position_ne_root (h : r.Given region offsets) (hstate : r.state ≠ .start) :
    r.position ≠ .root :=
  fun hposition => hstate (h.state_of_root hposition)

/-- Every run stops: each record it gives takes one of the slots that are left. -/
theorem exists_drains (h : r.Given w.region offsets)
    (hroot : r.position = .root → w.region = .legacy → 0 ≤ w.root) (buffer : Bytes) :
    ∃ records r', Drains w buffer r records r' ∧
      r'.Given w.region (offsets ++ records.map Record.offset) ∧ r'.state.Ended ∧
      r.status.Advances r'.status := by
  induction hleft : w.region.capacity - offsets.length using Nat.strong_induction_on
    generalizing r offsets with
  | h left ih =>
    have hnext := h.next hroot buffer
    generalize hstep : (r.next w buffer).value = step at hnext
    cases hnext with
    | @stopped r' given ended advances =>
      refine ⟨[], r', .stop hstep, ?_, ended, advances⟩
      rw [List.map_nil, List.append_nil]
      exact given
    | @found record r₁ given following advances =>
      have hlength := given.length_le
      rw [List.length_append, List.length_singleton] at hlength
      have hlater : r₁.position ≠ .root := given.position_ne_root (by simp [following])
      obtain ⟨records, r', hdrains, hgiven, hended, hadvances⟩ :=
        ih (w.region.capacity - (offsets ++ [record.offset]).length)
          (by rw [List.length_append, List.length_singleton]; omega) given
          (fun hposition => absurd hposition hlater) rfl
      refine ⟨record :: records, r', .step hstep hdrains, ?_, hended, advances.trans hadvances⟩
      rw [List.map_cons, ← List.singleton_append, ← List.append_assoc]
      exact hgiven

/-- The requests that draining a run allows itself are enough for any run. -/
theorem rest_eq (h : r.Given w.region offsets) {records : List Record} {r' : Run}
    (hdrains : Drains w buffer r records r')
    (hgiven : r'.Given w.region (offsets ++ records.map Record.offset)) :
    (r.rest w buffer).records = records ∧ (r.rest w buffer).run = r' ∧
      (r.rest w buffer).escape = none := by
  apply hdrains.drain_eq
  have hlength := hgiven.length_le
  rw [List.length_append, List.length_map] at hlength
  have hcapacity : w.region.capacity ≤ (unvisited w.region).slots := by
    cases w.region <;> decide
  rw [h.tracks.slots_eq]
  omega

end Given

/-- What the rest of a run is: a run that has given some offsets goes on until it stops, and
is over then. -/
structure RestOf (w : Walker) (buffer : Bytes) (offsets : List Nat) (r : Run) (rest : Walk) :
    Prop where
  /-- The records are those that the run gives until it stops. -/
  drains : Drains w buffer r rest.records rest.run
  /-- Their offsets come after those given before. -/
  given : rest.run.Given w.region (offsets ++ rest.records.map Record.offset)
  /-- The run is over. -/
  ended : rest.run.state.Ended
  /-- Its status has moved on. -/
  advances : r.status.Advances rest.run.status
  /-- No offset is without a slot. -/
  escape_eq : rest.escape = none

theorem Given.restOf (h : r.Given w.region offsets)
    (hroot : r.position = .root → w.region = .legacy → 0 ≤ w.root) (buffer : Bytes) :
    RestOf w buffer offsets r (r.rest w buffer) := by
  obtain ⟨records, r', hdrains, hgiven, hended, hadvances⟩ := h.exists_drains hroot buffer
  obtain ⟨hrecords, hrun, hescape⟩ := h.rest_eq hdrains hgiven
  subst hrecords hrun
  exact ⟨hdrains, hgiven, hended, hadvances, hescape⟩

end Run

end ConfigSpace
