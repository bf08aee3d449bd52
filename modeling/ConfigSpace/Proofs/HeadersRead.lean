import ConfigSpace.Proofs.RunInvariant
import ConfigSpace.Proofs.Writing

/-!
# What a run reads of the buffer

A run looks at the buffer when it is asked, and then only at the header that the pointer
before it leads to and at how far the buffer can be read.  All other bytes may be rewritten
without any effect on it.

* `Bytes.AgreeOff` — two strings that differ at most where patches were copied to.  It is
  kept by whatever is written over both, and the windows that the patches miss are the same.
* `Run.Leads` — what a request can answer, and where it leaves the run;
  `Run.eq_ofHeader_of_found` says what the bounds of a payload are.
* `Run.headerAhead?` and `Run.restReads` — the headers that a run reads in answer to its next
  request, and to all that are left.

The main results are `Run.next_eq_of_reads` and `Run.drain_eq_of_reads`: over two buffers that
agree on these headers a run is answered alike.  `Run.Given.headerAhead_apart` and
`Run.Given.drainReads_apart` say that none of them starts in a slot of an offset that the run
has given.
-/

namespace ConfigSpace

/-! ## Bytes that patches miss -/

namespace Bytes

/-- A patch that writes to no position from `i` up to `j`. -/
def Patch.Misses (p : Patch) (i j : Nat) : Prop :=
  ∀ k, i ≤ k → k < j → ¬ (p.offset ≤ k ∧ k < p.stop)

/-- Two strings of one length that hold the same bytes wherever none of the patches was
copied to. -/
structure AgreeOff (patches : List Patch) (a b : Bytes) : Prop where
  /-- They are equally long. -/
  length_eq : a.length = b.length
  /-- A byte that no patch writes to is the same in both. -/
  getElem?_eq : ∀ k, (∀ p ∈ patches, ¬ (p.offset ≤ k ∧ k < p.stop)) → a[k]? = b[k]?

/-- The byte at a position after a patch has been copied over a string. -/
theorem getElem?_overwrite (b patch : Bytes) {i : Nat} (hi : i ≤ b.length) (k : Nat) :
    (b.overwrite i patch)[k]? =
      if k < i then b[k]? else if k < i + patch.length then patch[k - i]? else b[k]? := by
  have hlen : (b.take i).length = i := by rw [List.length_take, Nat.min_eq_left hi]
  rw [overwrite, List.append_assoc]
  split
  · rename_i hbefore
    rw [List.getElem?_append_left (by omega), List.getElem?_take_of_lt hbefore]
  rename_i hbehind
  rw [List.getElem?_append_right (by omega), hlen]
  split
  · rw [List.getElem?_append_left (by omega)]
  · rw [List.getElem?_append_right (by omega), List.getElem?_drop]
    congr 1
    omega

theorem overwrite_of_length_le (b patch : Bytes) {i : Nat} (hi : b.length ≤ i) :
    b.overwrite i patch = b ++ patch := by
  rw [overwrite, List.take_of_length_le hi, List.drop_eq_nil_of_le (by omega), List.append_nil]

namespace AgreeOff

variable {patches : List Patch} {a b : Bytes}

theorem window_eq (h : a.AgreeOff patches b) {i n : Nat}
    (hmiss : ∀ p ∈ patches, p.Misses i (i + n)) : a.window i n = b.window i n := by
  apply List.ext_getElem?
  intro j
  simp only [window, List.getElem?_take, List.getElem?_drop]
  split
  · exact h.getElem?_eq (i + j) fun p hp => hmiss p hp (i + j) (by omega) (by omega)
  · rfl

/-- Copying patches over a string leaves it alone where none of them is copied to. -/
theorem patch (hfit : ∀ p ∈ patches, p.stop ≤ b.length) :
    b.AgreeOff patches (b.patch patches) := by
  refine ⟨(length_patch hfit).symm, fun k hk => ?_⟩
  induction patches generalizing b with
  | nil => rfl
  | cons p rest ih =>
    have hp : p.offset + p.bytes.length ≤ b.length := hfit p List.mem_cons_self
    have hlen : (b.overwrite p.offset p.bytes).length = b.length :=
      length_overwrite b p.offset p.bytes hp
    have hmissed : ¬ (p.offset ≤ k ∧ k < p.offset + p.bytes.length) := hk p List.mem_cons_self
    have hfirst : (b.overwrite p.offset p.bytes)[k]? = b[k]? := by
      rw [getElem?_overwrite b p.bytes (by omega)]
      split
      · rfl
      · rw [if_neg (by omega)]
    have hrest := ih (b := b.overwrite p.offset p.bytes)
      (fun q hq => by rw [hlen]; exact hfit q (List.mem_cons_of_mem _ hq))
      fun q hq => hk q (List.mem_cons_of_mem _ hq)
    exact hfirst.symm.trans hrest

theorem overwrite (h : a.AgreeOff patches b) (i : Nat) (bytes : Bytes) :
    (a.overwrite i bytes).AgreeOff patches (b.overwrite i bytes) := by
  have hlength := h.length_eq
  rcases Nat.le_total i a.length with hin | hout
  · refine ⟨?_, fun k hk => ?_⟩
    · simp only [Bytes.overwrite, List.length_append, List.length_take, List.length_drop, hlength]
    · rw [getElem?_overwrite a bytes hin, getElem?_overwrite b bytes (by omega),
        h.getElem?_eq k hk]
  · rw [overwrite_of_length_le a bytes hout, overwrite_of_length_le b bytes (by omega)]
    refine ⟨by rw [List.length_append, List.length_append, hlength], fun k hk => ?_⟩
    rw [List.getElem?_append, List.getElem?_append, h.getElem?_eq k hk, hlength]

end AgreeOff

end Bytes

/-- None of the patches writes into a header at one of the offsets. -/
def Region.Spared (r : Region) (offsets : List Nat) (patches : List Bytes.Patch) : Prop :=
  ∀ o ∈ offsets, ∀ p ∈ patches, p.Misses o (o + r.headerSize)

/-! ## What a run reads -/

/-- The run that a request leaves. -/
def Step.run : Step → Run
  | .found _ run => run
  | .stopped run => run
  | .escaped _ run => run

/-- The records that a request gives: one, or none. -/
def Step.records : Step → List Record
  | .found record _ => [record]
  | _ => []

namespace Run

/-- The offset of the header that a run behind a record reads in answer to its next request.
Where the run is going to stop without reading, or the header does not fit, there is none. -/
def headerAhead? (r : Run) (w : Walker) (buffer : Bytes) : Option Nat :=
  match r.position with
  | .behind offset next =>
      if next = 0 ∨ r.visited.contains next then none
      else match w.check offset next with
        | .error _ => none
        | .ok _ =>
            if next + w.region.headerSize ≤ w.region.readable buffer then some next else none
  | _ => none

/-- The offsets of the headers that draining a run reads, whether they are taken or end the
list. -/
def drainReads (w : Walker) (buffer : Bytes) : Nat → Run → List Nat
  | 0, _ => []
  | fuel + 1, r =>
      (r.headerAhead? w buffer).toList ++
        match (r.next w buffer).value with
        | .found _ r' => drainReads w buffer fuel r'
        | _ => []

/-- The offsets of the headers that the rest of a run reads. -/
def restReads (r : Run) (w : Walker) (buffer : Bytes) : List Nat :=
  drainReads w buffer (r.visited.slots + 1) r

variable {w : Walker} {a b buffer : Bytes} {r r' : Run} {o : Nat} {record : Record}

/-- A header that a run reads next was not visited, may be looked at, and fits. -/
theorem headerAhead?_eq_some :
    r.headerAhead? w buffer = some o ↔ ∃ offset note, r.position = .behind offset o ∧ o ≠ 0 ∧
      r.visited.contains o = false ∧ w.check offset o = .ok note ∧
      o + w.region.headerSize ≤ w.region.readable buffer := by
  constructor
  · intro h
    unfold headerAhead? at h
    split at h
    · rename_i offset next hposition
      split at h
      · cases h
      rename_i hgo
      obtain ⟨hzero, hcontains⟩ := not_or.1 hgo
      split at h
      · cases h
      rename_i note hcheck
      split at h
      · rename_i hfits
        cases h
        exact ⟨offset, note, hposition, hzero, Bool.eq_false_of_not_eq_true hcontains, hcheck,
          hfits⟩
      · cases h
    · cases h
  · rintro ⟨offset, note, hposition, hzero, hcontains, hcheck, hfits⟩
    simp only [headerAhead?, hposition, hzero, hcontains, hcheck, hfits, false_or, if_true,
      Bool.false_eq_true, if_false]

/-- What a request answers, whatever the root is: the record of some header, and the run stands
behind it; or nothing, and the run is over. -/
inductive Leads (w : Walker) (buffer : Bytes) : Step → Prop where
  /-- There is a further record. -/
  | found (o : Nat) (header : Header) {r' : Run}
      (behind : r'.position = .behind o header.nextPtr) :
      Leads w buffer (.found (.ofHeader o header (w.region.readable buffer)) r')
  /-- There is none. -/
  | stopped {r' : Run} (ended : r'.position = .ended) : Leads w buffer (.stopped r')
  /-- The root is no offset. -/
  | escaped {e : OffsetError} {r' : Run} (ended : r'.position = .ended) :
      Leads w buffer (.escaped e r')

theorem leads_visit (r : Run) (w : Walker) (buffer : Bytes) (target : Int) :
    Leads w buffer (r.visit w buffer target).value := by
  unfold visit
  split
  · exact .escaped rfl
  · exact .stopped rfl
  · exact .stopped rfl
  · unfold accept
    simp only
    split
    · exact .escaped rfl
    · exact .found _ _ rfl

theorem leads_follow (r : Run) (w : Walker) (buffer : Bytes) (source target : Int) :
    Leads w buffer (r.follow w buffer source target).value := by
  unfold follow
  split
  · exact .stopped rfl
  · split
    · exact .stopped rfl
    · exact leads_visit r w buffer target
    · exact leads_visit _ w buffer target

theorem leads_next (r : Run) (w : Walker) (buffer : Bytes) :
    Leads w buffer (r.next w buffer).value := by
  unfold next
  split
  · rename_i hended
    exact .stopped hended
  · exact leads_follow r w buffer _ _
  · split
    · exact .stopped rfl
    · exact leads_follow r w buffer _ _

theorem position_run_next (r : Run) (w : Walker) (buffer : Bytes) :
    (r.next w buffer).value.run.position ≠ .root := by
  have hleads := leads_next r w buffer
  generalize (r.next w buffer).value = step at hleads
  cases hleads with
  | found o header hposition | stopped hposition | escaped hposition =>
    rw [Step.run, hposition]
    exact Position.noConfusion

/-- Draining a run that gives a record reads a header for it, and goes on from there. -/
theorem drainReads_of_found (fuel : Nat) (h : (r.next w buffer).value = .found record r') :
    drainReads w buffer (fuel + 1) r =
      (r.headerAhead? w buffer).toList ++ drainReads w buffer fuel r' := by
  rw [drainReads, h]

/-- **What a request sees.**  A run that does not stand at the root answers alike over two
buffers that can be read equally far, if they agree on the header that it reads. -/
theorem next_eq_of_reads (hposition : r.position ≠ .root)
    (hreadable : w.region.readable a = w.region.readable b)
    (hread : ∀ o ∈ r.headerAhead? w a,
      a.window o w.region.headerSize = b.window o w.region.headerSize) :
    r.next w a = r.next w b := by
  unfold next
  cases hp : r.position with
  | root => exact absurd hp hposition
  | ended => rfl
  | behind offset next =>
    simp only
    split
    · rfl
    rename_i hcycle
    by_cases hzero : (next : Int) = 0
    · rw [follow, if_pos hzero, follow, if_pos hzero]
    cases hcheck : w.check offset next with
    | error fault => rw [follow, if_neg hzero, hcheck, follow, if_neg hzero, hcheck]
    | ok note =>
      rw [follow_of_checked hzero hcheck, follow_of_checked hzero hcheck]
      congr 1
      rcases Nat.lt_or_ge (w.region.readable a) (next + w.region.headerSize) with hpast | hfits
      · rw [visit_of_lt hpast, visit_of_lt (hreadable ▸ hpast)]
      -- Only here the bytes of the buffer matter, and the run reads them.
      have hne : next ≠ 0 := by simpa using hzero
      have hnew : r.visited.contains next = false := by simpa [hne] using hcycle
      have hsame := hread next (headerAhead?_eq_some.2 ⟨offset, note, hp, hne, hnew, hcheck, hfits⟩)
      have hfits' : next + w.region.headerSize ≤ w.region.readable b := hreadable ▸ hfits
      by_cases hterm : w.region.Terminates a next
      · rw [visit_of_terminates hfits hterm,
          visit_of_terminates hfits' ((Region.terminates_congr hsame).1 hterm)]
      · rw [visit_of_header hfits hterm,
          visit_of_header hfits' (mt (Region.terminates_congr hsame).2 hterm),
          Region.header_congr hsame, accept, accept, hreadable]

theorem drain_eq_of_reads (hposition : r.position ≠ .root)
    (hreadable : w.region.readable a = w.region.readable b) {fuel : Nat}
    (hread : ∀ o ∈ drainReads w a fuel r,
      a.window o w.region.headerSize = b.window o w.region.headerSize) :
    drain w a fuel r = drain w b fuel r := by
  induction fuel generalizing r with
  | zero => rfl
  | succ fuel ih =>
    have hnext : r.next w a = r.next w b :=
      next_eq_of_reads hposition hreadable fun o ho =>
        hread o (List.mem_append_left _ (Option.mem_toList.2 ho))
    cases hstep : (r.next w a).value with
    | found record r' =>
      have hbehind := position_run_next r w a
      rw [hstep] at hbehind
      rw [drainReads_of_found fuel hstep] at hread
      have hrest : drain w a fuel r' = drain w b fuel r' :=
        ih hbehind fun o ho => hread o (List.mem_append_right _ ho)
      rw [drain_of_found fuel hstep, drain_of_found fuel (hnext ▸ hstep), hnext, hrest]
    | stopped r' =>
      rw [drain_of_stopped fuel hstep, drain_of_stopped fuel (hnext ▸ hstep), hnext]
    | escaped e r' =>
      rw [drain_of_escaped fuel hstep, drain_of_escaped fuel (hnext ▸ hstep), hnext]

theorem position_run_drain (hposition : r.position ≠ .root) (w : Walker) (buffer : Bytes)
    (fuel : Nat) : (drain w buffer fuel r).run.position ≠ .root := by
  induction fuel generalizing r with
  | zero => exact hposition
  | succ fuel ih =>
    have hbehind := position_run_next r w buffer
    cases hstep : (r.next w buffer).value with
    | found record r' =>
      rw [drain_of_found fuel hstep]
      rw [hstep] at hbehind
      exact ih hbehind
    | stopped r' =>
      rw [drain_of_stopped fuel hstep]
      rw [hstep] at hbehind
      exact hbehind
    | escaped e r' =>
      rw [drain_of_escaped fuel hstep]
      rw [hstep] at hbehind
      exact hbehind

theorem headerAhead?_of_found (hposition : r.position ≠ .root)
    (h : (r.next w buffer).value = .found record r') :
    r.headerAhead? w buffer = some record.offset := by
  unfold next at h
  cases hp : r.position with
  | root => exact absurd hp hposition
  | ended =>
    rw [hp] at h
    cases h
  | behind offset next =>
    rw [hp] at h
    simp only at h
    split at h
    · cases h
    rename_i hcycle
    by_cases hzero : (next : Int) = 0
    · rw [follow, if_pos hzero] at h
      cases h
    cases hcheck : w.check offset next with
    | error fault =>
      rw [follow, if_neg hzero, hcheck] at h
      cases h
    | ok note =>
      have hne : next ≠ 0 := by simpa using hzero
      have hnew : r.visited.contains next = false := by simpa [hne] using hcycle
      rw [value_follow_of_checked hzero hcheck] at h
      rcases Nat.lt_or_ge (w.region.readable buffer) (next + w.region.headerSize) with hpast | hfits
      · rw [visit_of_lt hpast] at h
        cases h
      by_cases hterm : w.region.Terminates buffer next
      · rw [visit_of_terminates hfits hterm] at h
        cases h
      rw [visit_of_header hfits hterm, accept] at h
      simp only at h
      split at h
      · cases h
      · cases h
        exact headerAhead?_eq_some.2 ⟨offset, note, hp, hne, hnew, hcheck, hfits⟩

theorem terminates_of_stopped (h : (r.next w buffer).value = .stopped r')
    (ho : r.headerAhead? w buffer = some o) : w.region.Terminates buffer o := by
  obtain ⟨offset, note, hposition, hzero, hcontains, hcheck, hfits⟩ := headerAhead?_eq_some.1 ho
  by_contra hterm
  have hnext : (r.next w buffer).value =
      ((r.noting note.toList).accept w buffer o (w.region.header buffer o)).value := by
    rw [next, hposition]
    simp only [hcontains, Bool.false_eq_true, and_false, if_false]
    rw [value_follow_of_checked (Int.natCast_ne_zero.2 hzero) hcheck, visit_of_header hfits hterm]
  rw [hnext, accept] at h
  simp only at h
  split at h <;> cases h

/-! ### Bounds -/

/-- The bounds of a payload are fixed by the header, and by how far the buffer can be read
then. -/
theorem eq_ofHeader_of_found (h : (r.next w buffer).value = .found record r') :
    record = .ofHeader record.offset record.header (w.region.readable buffer) := by
  have hleads := leads_next r w buffer
  rw [h] at hleads
  cases hleads with
  | found o header => rfl

theorem eq_ofHeader_of_mem_drain {fuel : Nat} (h : record ∈ (drain w buffer fuel r).records) :
    record = .ofHeader record.offset record.header (w.region.readable buffer) := by
  induction fuel generalizing r with
  | zero => cases h
  | succ fuel ih =>
    cases hstep : (r.next w buffer).value with
    | found record' r' =>
      rw [drain_of_found fuel hstep] at h
      rcases List.mem_cons.1 h with rfl | hrest
      · exact eq_ofHeader_of_found hstep
      · exact ih hrest
    | stopped r' =>
      rw [drain_of_stopped fuel hstep] at h
      cases h
    | escaped e r' =>
      rw [drain_of_escaped fuel hstep] at h
      cases h

end Run

/-! ## What a run reads lies apart from what it has given -/

namespace Run

variable {w : Walker} {buffer : Bytes} {offsets : List Nat} {r : Run} {o : Nat}

/-- An offset at the start of a slot in which none of the given ones lies. -/
structure Apart (region : Region) (offsets : List Nat) (o : Nat) : Prop where
  /-- It is the start of a slot. -/
  aligned : region.granule ∣ o
  /-- The slot has none of the offsets. -/
  ne_slotStart : ∀ o' ∈ offsets, region.slotStart o' ≠ o

theorem Apart.of_append {region : Region} {more : List Nat}
    (h : Apart region (offsets ++ more) o) : Apart region offsets o :=
  ⟨h.aligned, fun o' ho' => h.ne_slotStart o' (List.mem_append_left _ ho')⟩

/-- A run does not read a header in a slot that it has marked. -/
theorem Given.headerAhead_apart (h : r.Given w.region offsets)
    (ho : r.headerAhead? w buffer = some o) : Apart w.region offsets o := by
  obtain ⟨offset, note, hposition, -, hcontains, -, -⟩ := headerAhead?_eq_some.1 ho
  have haligned := (h.behind offset o hposition).2.2
  refine ⟨haligned, fun o' ho' heq => ?_⟩
  have hmem := (h.tracks.contains_iff o haligned).2 (heq ▸ List.mem_map_of_mem ho')
  rw [hcontains] at hmem
  cases hmem

theorem Given.drainReads_apart (h : r.Given w.region offsets) (hposition : r.position ≠ .root)
    {fuel : Nat} (ho : o ∈ drainReads w buffer fuel r) : Apart w.region offsets o := by
  induction fuel generalizing r offsets with
  | zero => cases ho
  | succ fuel ih =>
    rw [drainReads] at ho
    rcases List.mem_append.1 ho with hhead | hlater
    · exact h.headerAhead_apart (Option.mem_toList.1 hhead)
    have hnext := h.next (fun hroot => absurd hroot hposition) buffer
    have hbehind := position_run_next r w buffer
    generalize (r.next w buffer).value = step at hnext hbehind hlater
    cases hnext with
    | found given => exact (ih given hbehind hlater).of_append
    | stopped => cases hlater

/-- **The headers that are read** when a run is drained are those of the records that it gives
and, in the end, one that ends the list, if there is one. -/
theorem Given.drainReads_eq (h : r.Given w.region offsets) (hposition : r.position ≠ .root)
    (buffer : Bytes) (fuel : Nat) : ∃ terminator : Option Nat,
      drainReads w buffer fuel r =
        (drain w buffer fuel r).records.map Record.offset ++ terminator.toList ∧
      ∀ o ∈ terminator, w.region.Terminates buffer o := by
  induction fuel generalizing r offsets with
  | zero => exact ⟨none, rfl, fun o ho => absurd ho (by simp)⟩
  | succ fuel ih =>
    have hnext := h.next (fun hroot => absurd hroot hposition) buffer
    have hbehind := position_run_next r w buffer
    generalize hstep : (r.next w buffer).value = step at hnext hbehind
    cases hnext with
    | found given =>
      obtain ⟨terminator, hreads, hterm⟩ := ih given hbehind
      refine ⟨terminator, ?_, hterm⟩
      rw [drainReads_of_found fuel hstep, drain_of_found fuel hstep,
        headerAhead?_of_found hposition hstep, hreads]
      rfl
    | stopped =>
      refine ⟨r.headerAhead? w buffer, ?_, fun o ho => terminates_of_stopped hstep ho⟩
      rw [drainReads, drain_of_stopped fuel hstep, hstep]
      exact List.append_nil _

end Run

end ConfigSpace
