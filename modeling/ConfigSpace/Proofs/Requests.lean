import ConfigSpace.Proofs.Orbit

/-!
# What one request does

A run that is asked for a record answers with one, or stops, and reports what it does.  The
answer and the reports belong together, and this file says once in which ways:

* `Run.Answers` — the answers a request can have, each with its reports and with what it
  makes of the run.
* `Run.answers_next` — every request answers in one of these ways.
* `Run.within_of_mem_drain` — so the records of a run lie within the readable bytes of their
  region.
-/

namespace ConfigSpace

/-! ## Checked pointers -/

namespace Walker

variable {w : Walker} {source target : Int}

theorem origin_of_check {fault : WalkFault} (h : w.check source target = .error fault) :
    fault.origin = some source := by
  unfold check at h
  split at h
  · split at h
    · cases h
      rfl
    · cases h
  · split at h
    · cases h
    · split at h
      · cases h
        rfl
      · cases h

theorem eq_note_of_check {text : String} (h : w.check source target = .ok (some text)) :
    w.region = .legacy ∧ text = note target (oddities target) := by
  unfold check at h
  split at h
  · split at h <;> cases h
  · rename_i hregion
    refine ⟨hregion, ?_⟩
    split at h
    · cases h
    · split at h <;> cases h
      rfl

end Walker

/-! ## Answers -/

/-- What a request answers and reports. -/
inductive Run.Answers (w : Walker) (buffer : Bytes) (r : Run) : Logged Step → Prop where
  /-- The run is over already. -/
  | idle : Answers w buffer r ⟨.stopped r, []⟩
  /-- The list comes to its end. -/
  | finished : Answers w buffer r ⟨.stopped (r.finish .terminated), []⟩
  /-- The walk is stopped at the capability that a pointer was found in, or at its target. -/
  | truncated {fault : WalkFault} {offset : Int} (origin_eq : fault.origin = some offset) :
      Answers w buffer r (r.fail w fault)
  /-- A pointer is noted and followed, but its target cannot be read. -/
  | unreadable {source : Int} {target : Nat} {text : String}
      (checked : w.check source target = .ok (some text)) :
      Answers w buffer r
        ⟨.stopped ((r.noting [text]).finish (.failed (.unterminated target .headerPastEnd))),
          noteEvents (some text) source target ++
            [.walkTruncated w.region (.unterminated target .headerPastEnd)]⟩
  /-- A pointer is followed to a capability, and the run continues behind it. -/
  | found {source : Int} {target : Nat} {note : Option String} {visited : Visited}
      (checked : w.check source target = .ok note)
      (fits : target + w.region.headerSize ≤ w.region.readable buffer) :
      Answers w buffer r
        ⟨.found (.ofHeader target (w.region.header buffer target) (w.region.readable buffer))
            { state := .following, notes := r.notes ++ note.toList, visited
              position := .behind target (w.region.header buffer target).nextPtr },
          noteEvents note source target ++
            [.walkStep target (w.region.header buffer target).capId
              (w.region.header buffer target).nextPtr]⟩
  /-- The target has no slot among the visited offsets. -/
  | escaped {error : OffsetError} {r' : Run} {events : List Event} :
      Answers w buffer r ⟨.escaped error r', events⟩

namespace Run

variable {w : Walker} {buffer : Bytes} {r : Run}

/-- What visiting the target of a pointer answers and reports. -/
theorem answers_visit {source : Int} {target : Nat} {note : Option String}
    (hcheck : w.check source target = .ok note) :
    r.Answers w buffer
      (((r.noting note.toList).visit w buffer target).after (noteEvents note source target)) := by
  rcases Nat.lt_or_ge (w.region.readable buffer) (target + w.region.headerSize) with hpast | hfits
  · rw [visit_of_lt hpast]
    cases note with
    | none =>
      have hquiet : (r.noting []).fail w (.unterminated target .headerPastEnd) =
          r.fail w (.unterminated target .headerPastEnd) := by
        simp [noting]
      simp only [Option.toList_none, hquiet]
      exact .truncated rfl
    | some text => exact .unreadable hcheck
  by_cases hterm : w.region.Terminates buffer target
  · -- Only an extended header ends the list, and extended pointers are not noted.
    rw [visit_of_terminates hfits hterm]
    cases note with
    | none =>
      have hquiet : (r.noting []).finish .terminated = r.finish .terminated := by
        simp [noting]
      simp only [Option.toList_none, hquiet]
      exact .finished
    | some text =>
      have hlegacy := (Walker.eq_note_of_check hcheck).1
      rw [hterm.1] at hlegacy
      cases hlegacy
  · rw [visit_of_header hfits hterm, accept]
    cases hadd : (r.noting note.toList).visited.add target with
    | error e => exact .escaped
    | ok visited => exact .found hcheck hfits

theorem answers_follow (source : Int) (target : Nat) :
    r.Answers w buffer (r.follow w buffer source target) := by
  by_cases hzero : (target : Int) = 0
  · rw [follow, if_pos hzero]
    exact .finished
  cases hcheck : w.check source target with
  | error fault =>
    rw [follow, if_neg hzero, hcheck]
    exact .truncated (Walker.origin_of_check hcheck)
  | ok note =>
    rw [follow_of_checked hzero hcheck]
    exact answers_visit hcheck

/-- **One request.**  As long as the root, which only the first one looks at, does not count
from the end, a request answers and reports in one of these ways. -/
theorem answers_next (hroot : r.position = .root → 0 ≤ w.root) (buffer : Bytes) :
    r.Answers w buffer (r.next w buffer) := by
  cases hposition : r.position with
  | root =>
    obtain ⟨root, hnat⟩ := Int.eq_ofNat_of_zero_le (hroot hposition)
    rw [next, hposition, hnat]
    exact answers_follow _ root
  | behind offset next =>
    rw [Run.next, hposition]
    simp only
    split
    · exact .truncated rfl
    · exact answers_follow _ next
  | ended =>
    rw [next, hposition]
    exact .idle

end Run

/-! ## Records -/

/-- The offset at which a region starts. -/
def Region.base : Region → Nat
  | .legacy => 0
  | .extended => 0x100

/-- A record whose payload lies in its region, as far as it can be read. -/
structure Record.Within (region : Region) (buffer : Bytes) (record : Record) : Prop where
  /-- An extended capability lies behind the legacy region. -/
  base_le : region.base ≤ record.start
  /-- It ends no earlier than it starts. -/
  start_le : record.start ≤ record.stop
  /-- It can be read to its end. -/
  stop_le : record.stop ≤ region.readable buffer

theorem Walker.base_le_of_check {w : Walker} {source : Int} {target : Nat} {note : Option String}
    (h : w.check source target = .ok note) : w.region.base ≤ target := by
  cases hregion : w.region with
  | legacy => exact Nat.zero_le target
  | extended =>
    simp only [check, hregion] at h
    split at h
    · cases h
    · simp only [Region.base]
      omega

theorem Record.within_ofHeader {w : Walker} {buffer : Bytes} {source : Int} {target : Nat}
    {note : Option String} (hcheck : w.check source target = .ok note)
    (hfits : target + w.region.headerSize ≤ w.region.readable buffer) :
    (ofHeader target (w.region.header buffer target) (w.region.readable buffer)).Within
      w.region buffer := by
  refine ⟨?_, start_le_stop_ofHeader _ _ _, ?_⟩
  · have hbase := Walker.base_le_of_check hcheck
    simp only [ofHeader, start]
    omega
  · have hsize : (w.region.header buffer target).size = w.region.headerSize := by
      cases w.region <;> rfl
    simp only [ofHeader, hsize]
    split <;> omega

/-- The records of a run lie in the region. -/
theorem Run.within_of_mem_drain {w : Walker} {buffer : Bytes} {fuel : Nat} {r : Run}
    (hroot : r.position = .root → 0 ≤ w.root) {record : Record}
    (hmem : record ∈ (drain w buffer fuel r).records) : record.Within w.region buffer := by
  induction fuel generalizing r with
  | zero => cases hmem
  | succ fuel ih =>
    have hanswer := answers_next hroot buffer
    rw [drain] at hmem
    rcases hnext : r.next w buffer with ⟨value, events⟩
    rw [hnext] at hanswer hmem
    cases hanswer with
    | idle | finished | truncated | unreadable | escaped => cases hmem
    | found checked fits =>
      rcases List.mem_cons.1 hmem with rfl | hrest
      · exact Record.within_ofHeader checked fits
      · exact ih (by simp) hrest

end ConfigSpace
