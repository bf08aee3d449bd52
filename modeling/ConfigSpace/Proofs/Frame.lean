import ConfigSpace.Proofs.HeadersRead
import ConfigSpace.Proofs.LazyRuns
import ConfigSpace.Proofs.RootOffsets

/-!
# What rewriting the buffer changes

The buffer of a session may be overwritten while runs over it are under way.  What a record
says was read when it was given, and the payload is read when it is wanted; the header of
the next capability is read when its record is asked for.  So three kinds of bytes have to
be told apart, and this file says what each of them can change.

* `Session.Kept` and `Session.Answered` — what a capability that was given is at a later
  moment, and what a session answers about it.
* `Session.reads` — the headers that a run reads while operations are carried out.
* `Session.AgreeOn` — two sessions in which a run stands at the same place, over buffers that
  agree off some patches.  `Session.AgreeOn.perform` is one operation, and
  `Session.AgreeOn.run_course` any sequence of them.
* `Session.Holds.mem_reads` — a header that is read is that of a capability that is given, or
  it ends the list; `Session.Holds.reads_apart` — none starts in a slot of an offset that was
  given before.
* `Session.Placed` — where a run stands in a session that began without any.

The main result is `Session.frame_law`.
-/

namespace ConfigSpace

/-! ## Answers -/

/-- A capability without its payload. -/
def RawCapability.heading (c : RawCapability) : RawCapability :=
  { c with payload := [] }

/-- What a record says apart from the payload does not depend on the buffer. -/
theorem Record.heading_load (record : Record) (a b : Bytes) :
    (record.load a).heading = (record.load b).heading :=
  rfl

namespace Session

section Perform

variable {s s' : Session} {n : Nat} {r : Run} {op : Op}

theorem perform_next (hrun : s.runs[n]? = some r) :
    (s.perform (.next n)).2.runs[n]? = some (r.next s.walker s.buffer).value.run ∧
      (s.perform (.next n)).1.value.records =
        (r.next s.walker s.buffer).value.records.map (·.load s.buffer) := by
  have hlt := (List.getElem?_eq_some_iff.1 hrun).1
  simp only [perform, hrun]
  rcases r.next s.walker s.buffer with ⟨value, events⟩
  cases value with
  | found record r' | stopped r' | escaped e r' => exact ⟨List.getElem?_set_self hlt, rfl⟩

theorem perform_rest (hrun : s.runs[n]? = some r) :
    (s.perform (.result n)).2.runs[n]? = some (r.rest s.walker s.buffer).run ∧
      (s.perform (.result n)).1.value = s.walkAnswer (r.rest s.walker s.buffer) := by
  have hlt := (List.getElem?_eq_some_iff.1 hrun).1
  simp only [perform, hrun]
  exact ⟨List.getElem?_set_self hlt, trivial⟩

/-- The records that a walk is answered with are those that it has given. -/
theorem mem_records_walkAnswer {k : Walk} {raw : RawCapability}
    (hmem : raw ∈ (s.walkAnswer k).records) :
    ∃ record ∈ k.records, record.load s.buffer = raw := by
  unfold walkAnswer at hmem
  split at hmem
  · cases hmem
  · exact List.mem_map.1 hmem

theorem heading_walkAnswer (s s' : Session) (k : Walk) :
    (s.walkAnswer k).records.map RawCapability.heading =
      (s'.walkAnswer k).records.map RawCapability.heading := by
  unfold walkAnswer
  split
  · rfl
  · simp only [Answer.records, List.map_map]
    exact List.map_congr_left fun record _ => record.heading_load _ _

theorem walker_perform_congr (h : s.walker = s'.walker) (op : Op) :
    (s.perform op).2.walker = (s'.perform op).2.walker := by
  cases hop : op.changes with
  | false => rw [(perform_unchanged hop).1, (perform_unchanged hop).1, h]
  | true =>
    cases op with
    | poke _ _ => exact h
    | root offset | strict on => simp only [perform, h]
    | _ => cases hop

theorem records_perform (s : Session) (op : Op) : s.records <+: (s.perform op).2.records := by
  cases op with
  | next i =>
    simp only [perform]
    split
    · exact List.prefix_refl _
    · split
      · exact List.prefix_append _ _
      · exact List.prefix_refl _
      · exact List.prefix_refl _
  | status i | result i | payload i | decode i options =>
    simp only [perform]
    split <;> exact List.prefix_refl _
  | _ => exact List.prefix_refl _

end Perform

theorem records_run (s : Session) (ops : List Op) : s.records <+: (s.run ops).2.records := by
  induction ops generalizing s with
  | nil => exact List.prefix_refl _
  | cons op ops ih => exact (records_perform s op).trans (ih _)

/-! ## Capabilities that were given -/

/-- What a capability that was given as `raw` is at some moment: `record` is what it was read
as, and where. -/
structure Kept (record : Record) (raw : RawCapability) (now : Session) : Prop where
  /-- Its payload is the bytes of the buffer within its bounds, and all else is as it was. -/
  load_eq : record.load now.buffer =
    { raw with payload := now.buffer.slice record.start record.stop }
  /-- A patch beside the payload leaves it alone. -/
  spared : ∀ p : Bytes.Patch, p.stop ≤ now.buffer.length →
    p.Misses record.start record.stop →
      record.load (now.perform (.poke p.offset p.bytes)).2.buffer = record.load now.buffer

/-- What a session answers about a capability that was given with a number. -/
structure Answered (index : Nat) (record : Record) (raw : RawCapability) (now : Session) :
    Prop where
  /-- The number stands for the same record. -/
  record_eq : now.records[index]? = some record
  /-- The payload is answered as it is. -/
  payload : (now.perform (.payload index)).1 =
    ⟨.payload (now.buffer.slice record.start record.stop), []⟩
  /-- What is decoded is a capability with these bytes. -/
  decode : ∀ options, (now.perform (.decode index options)).1 =
    (({ raw with payload := now.buffer.slice record.start record.stop } : RawCapability).decode
      options).map .decoded
  /-- A patch beside the payload makes no difference to either. -/
  spared : ∀ p : Bytes.Patch, p.stop ≤ now.buffer.length →
    p.Misses record.start record.stop →
      let poked := (now.perform (.poke p.offset p.bytes)).2
      (poked.perform (.payload index)).1 = (now.perform (.payload index)).1 ∧
        ∀ options, (poked.perform (.decode index options)).1 =
          (now.perform (.decode index options)).1

section Kept

variable {s now : Session} {record : Record} {raw : RawCapability}

/-- A payload that a patch misses is what it was. -/
theorem load_overwrite {b : Bytes} {p : Bytes.Patch} (hfit : p.stop ≤ b.length)
    (hmiss : p.Misses record.start record.stop) :
    record.load (b.overwrite p.offset p.bytes) = record.load b := by
  have hagree : b.AgreeOff [p] (b.patch [p]) :=
    .patch fun q hq => by rw [List.mem_singleton.1 hq]; exact hfit
  have hwindow : b.window record.start (record.stop - record.start) =
      (b.overwrite p.offset p.bytes).window record.start (record.stop - record.start) := by
    refine hagree.window_eq fun q hq k hle hlt => ?_
    rw [List.mem_singleton.1 hq]
    exact hmiss k hle (by omega)
  rw [Record.load, Record.load, Record.payload, Record.payload, hwindow]

theorem kept (h : raw = record.load s.buffer) (now : Session) : Kept record raw now := by
  refine ⟨?_, fun p hfit hmiss => load_overwrite hfit hmiss⟩
  rw [Bytes.slice_natCast, h]
  rfl

theorem answered {index : Nat} (h : raw = record.load s.buffer)
    (hrecord : now.records[index]? = some record) : Answered index record raw now := by
  have hdecode : ∀ options, (now.perform (.decode index options)).1 =
      ((record.load now.buffer).decode options).map .decoded := by
    intro options
    simp only [perform, hrecord]
  refine ⟨hrecord, ?_, fun options => ?_, fun p hfit hmiss => ?_⟩
  · simp only [perform, hrecord]
    rw [Bytes.slice_natCast]
    rfl
  · rw [hdecode, (kept h now).load_eq]
  · have hload := (kept h now).spared p hfit hmiss
    have hpayload := congrArg RawCapability.payload hload
    refine ⟨?_, fun options => ?_⟩
    · simp only [perform, hrecord]
      exact congrArg (fun bytes => (⟨.payload bytes, []⟩ : Logged Answer)) hpayload
    · rw [hdecode, ← hload]
      simp only [perform, hrecord]

/-- A capability that a run gives one by one comes from a record, which gets the next number. -/
theorem exists_record_next {n : Nat} (hmem : raw ∈ (s.perform (.next n)).1.value.records) :
    ∃ record : Record, raw = record.load s.buffer ∧
      record = .ofHeader record.offset record.header (s.walker.region.readable s.buffer) ∧
      ∀ index status, (s.perform (.next n)).1.value = .record raw index status →
        (s.perform (.next n)).2.records[index]? = some record := by
  cases hrun : s.runs[n]? with
  | none =>
    simp only [perform, hrun] at hmem
    cases hmem
  | some r =>
    rw [(perform_next hrun).2] at hmem
    cases hstep : (r.next s.walker s.buffer).value with
    | found record r' =>
      rw [hstep] at hmem
      obtain ⟨hvalue, hsession⟩ := perform_next_of_found hrun hstep
      refine ⟨record, List.mem_singleton.1 hmem, Run.eq_ofHeader_of_found hstep, ?_⟩
      intro index status heq
      rw [hvalue] at heq
      cases heq
      rw [hsession]
      exact List.getElem?_concat_length
    | stopped r' | escaped e r' =>
      rw [hstep] at hmem
      cases hmem

/-- A capability that is given among others comes from a record too, which gets no number. -/
theorem exists_record_rest {r : Run}
    (hmem : raw ∈ (s.walkAnswer (r.rest s.walker s.buffer)).records) :
    ∃ record : Record, raw = record.load s.buffer ∧
      record = .ofHeader record.offset record.header (s.walker.region.readable s.buffer) ∧
      ∀ index status, s.walkAnswer (r.rest s.walker s.buffer) ≠ .record raw index status := by
  obtain ⟨record, hrecord, rfl⟩ := mem_records_walkAnswer hmem
  refine ⟨record, rfl, Run.eq_ofHeader_of_mem_drain hrecord, fun index status heq => ?_⟩
  unfold walkAnswer at heq
  split at heq <;> cases heq

/-- Every capability in an answer comes from a record, whose bounds are those of the buffer as
it is; if the answer has a number for it, this is the number of the record. -/
theorem exists_record {op : Op} (hmem : raw ∈ (s.perform op).1.value.records) :
    ∃ record : Record, raw = record.load s.buffer ∧
      record = .ofHeader record.offset record.header (s.walker.region.readable s.buffer) ∧
      ∀ index status, (s.perform op).1.value = .record raw index status →
        (s.perform op).2.records[index]? = some record := by
  cases op with
  | next i => exact exists_record_next hmem
  | result i =>
    cases hrun : s.runs[i]? with
    | none =>
      simp only [perform, hrun] at hmem
      cases hmem
    | some r =>
      rw [(perform_rest hrun).2] at hmem ⊢
      obtain ⟨record, hraw, hbounds, hne⟩ := exists_record_rest hmem
      exact ⟨record, hraw, hbounds, fun index status heq => absurd heq (hne index status)⟩
  | collect =>
    obtain ⟨record, hraw, hbounds, hne⟩ :=
      exists_record_rest (s := s) (r := .begin s.walker s.buffer) hmem
    exact ⟨record, hraw, hbounds, fun index status heq => absurd heq (hne index status)⟩
  | status i | payload i | decode i options =>
    simp only [perform] at hmem
    split at hmem <;> cases hmem
  | start | walker | poke _ _ | root _ | strict _ => cases hmem

end Kept

/-! ## Runs that go on alike -/

/-- The offsets of the headers that run `n` reads in answer to an operation. -/
def readBy (s : Session) (n : Nat) (op : Op) : List Nat :=
  match s.runs[n]? with
  | none => []
  | some r =>
      if op = .next n then (r.headerAhead? s.walker s.buffer).toList
      else if op = .result n then r.restReads s.walker s.buffer
      else []

/-- The offsets of the headers that run `n` reads while operations are carried out. -/
def reads (s : Session) (n : Nat) : List Op → List Nat
  | [] => []
  | op :: rest => s.readBy n op ++ (s.perform op).2.reads n rest

theorem readBy_next {s : Session} {n : Nat} {r : Run} (hrun : s.runs[n]? = some r) :
    s.readBy n (.next n) = (r.headerAhead? s.walker s.buffer).toList := by
  simp only [readBy, hrun, if_true]

theorem readBy_result {s : Session} {n : Nat} {r : Run} (hrun : s.runs[n]? = some r) :
    s.readBy n (.result n) = r.restReads s.walker s.buffer := by
  simp only [readBy, hrun, reduceCtorEq, if_false, if_true]

theorem readBy_of_not_asked {s : Session} {n : Nat} {op : Op} (h : op.asked? ≠ some n) :
    s.readBy n op = [] := by
  have hnext : op ≠ .next n := fun heq => h (by rw [heq]; rfl)
  have hresult : op ≠ .result n := fun heq => h (by rw [heq]; rfl)
  unfold readBy
  split
  · rfl
  · rw [if_neg hnext, if_neg hresult]

/-- Two sessions in which run `n` stands at the same place, behind the root, over buffers that
agree off the patches. -/
structure AgreeOn (n : Nat) (patches : List Bytes.Patch) (s s' : Session) : Prop where
  /-- The walkers are the same. -/
  walker_eq : s.walker = s'.walker
  /-- The buffers agree. -/
  buffer : s.buffer.AgreeOff patches s'.buffer
  /-- So do the runs. -/
  run : ∃ r, s.runs[n]? = some r ∧ s'.runs[n]? = some r ∧ r.position ≠ .root

/-- Two sessions in which run `n` goes on alike while the same operations are carried out. -/
structure SameCourse (n : Nat) (later : List Op) (s s' : Session) : Prop where
  /-- It gives the same capabilities, apart from their payloads. -/
  given_eq : (s.given n later).map RawCapability.heading =
    (s'.given n later).map RawCapability.heading
  /-- Its status is the same in the end. -/
  status_eq : (s.run later).2.statusOf? n = (s'.run later).2.statusOf? n

namespace AgreeOn

variable {n : Nat} {patches : List Bytes.Patch} {s s' : Session} {op : Op}

theorem readable_eq (h : AgreeOn n patches s s') :
    s.walker.region.readable s.buffer = s.walker.region.readable s'.buffer := by
  rw [Region.readable, Region.readable, h.buffer.length_eq]

/-- A header that is spared is the same in both. -/
theorem window_eq (h : AgreeOn n patches s s') {offsets : List Nat}
    (hspared : s.walker.region.Spared offsets patches) :
    ∀ o ∈ offsets, s.buffer.window o s.walker.region.headerSize =
      s'.buffer.window o s.walker.region.headerSize :=
  fun o ho => h.buffer.window_eq (hspared o ho)

theorem buffer_perform (h : AgreeOn n patches s s') (op : Op) :
    (s.perform op).2.buffer.AgreeOff patches (s'.perform op).2.buffer := by
  cases hop : op.changes with
  | false =>
    rw [(perform_unchanged hop).2, (perform_unchanged hop).2]
    exact h.buffer
  | true =>
    cases op with
    | poke offset bytes => exact h.buffer.overwrite offset bytes
    | root _ | strict _ => exact h.buffer
    | _ => cases hop

/-- **One operation.**  If the headers that the run reads are spared, it does the same in both
sessions. -/
theorem perform (h : AgreeOn n patches s s')
    (hspared : s.walker.region.Spared (s.readBy n op) patches) :
    AgreeOn n patches (s.perform op).2 (s'.perform op).2 ∧
      (s.givenBy n op).map RawCapability.heading =
        (s'.givenBy n op).map RawCapability.heading := by
  obtain ⟨r, hrun, hrun', hposition⟩ := h.run
  suffices hsuff : (∃ r, (s.perform op).2.runs[n]? = some r ∧
      (s'.perform op).2.runs[n]? = some r ∧ r.position ≠ .root) ∧
      (s.givenBy n op).map RawCapability.heading =
        (s'.givenBy n op).map RawCapability.heading from
    ⟨⟨walker_perform_congr h.walker_eq op, h.buffer_perform op, hsuff.1⟩, hsuff.2⟩
  have hlt := (List.getElem?_eq_some_iff.1 hrun).1
  have hlt' := (List.getElem?_eq_some_iff.1 hrun').1
  by_cases hasked : op.asked? = some n
  · rw [givenBy_of_asked hasked, givenBy_of_asked hasked]
    cases op with
    | next i =>
      cases hasked
      rw [readBy_next hrun] at hspared
      have hsame : r.next s.walker s.buffer = r.next s'.walker s'.buffer := by
        rw [← h.walker_eq]
        exact Run.next_eq_of_reads hposition h.readable_eq fun o ho =>
          h.window_eq hspared o (Option.mem_toList.2 ho)
      obtain ⟨hruns, hgiven⟩ := perform_next hrun
      obtain ⟨hruns', hgiven'⟩ := perform_next hrun'
      rw [← hsame] at hruns' hgiven'
      refine ⟨⟨_, hruns, hruns', Run.position_run_next r _ _⟩, ?_⟩
      rw [hgiven, hgiven', List.map_map, List.map_map]
      exact List.map_congr_left fun record _ => record.heading_load _ _
    | result i =>
      cases hasked
      rw [readBy_result hrun] at hspared
      have hsame : r.rest s.walker s.buffer = r.rest s'.walker s'.buffer := by
        rw [← h.walker_eq]
        exact Run.drain_eq_of_reads hposition h.readable_eq (h.window_eq hspared)
      obtain ⟨hruns, hgiven⟩ := perform_rest hrun
      obtain ⟨hruns', hgiven'⟩ := perform_rest hrun'
      rw [← hsame] at hruns' hgiven'
      refine ⟨⟨_, hruns, hruns', Run.position_run_drain hposition _ _ _⟩, ?_⟩
      rw [hgiven, hgiven']
      exact heading_walkAnswer s s' _
    | _ => cases hasked
  · rw [givenBy_of_not_asked hasked, givenBy_of_not_asked hasked,
      runs_perform_of_not_asked hlt hasked, runs_perform_of_not_asked hlt' hasked]
    exact ⟨⟨r, hrun, hrun', hposition⟩, rfl⟩

theorem run_course {later : List Op} (h : AgreeOn n patches s s')
    (hspared : s.walker.region.Spared (s.reads n later) patches) : SameCourse n later s s' := by
  induction later generalizing s s' with
  | nil =>
    obtain ⟨r, hrun, hrun', -⟩ := h.run
    refine ⟨rfl, ?_⟩
    change s.statusOf? n = s'.statusOf? n
    rw [statusOf?, statusOf?, hrun, hrun']
  | cons op later ih =>
    obtain ⟨hagree, hgiven⟩ := h.perform fun o ho => hspared o (List.mem_append_left _ ho)
    have hcourse := ih hagree fun o ho => by
      rw [region_perform]
      exact hspared o (List.mem_append_right _ ho)
    refine ⟨?_, hcourse.status_eq⟩
    rw [given, given, List.map_append, List.map_append, hgiven, hcourse.given_eq]

end AgreeOn

/-- To carry out patches one after the other is to patch the buffer. -/
theorem run_pokes (s : Session) (patches : List Bytes.Patch) :
    (s.run (patches.map fun p => .poke p.offset p.bytes)).2 =
      { s with buffer := s.buffer.patch patches } := by
  induction patches generalizing s with
  | nil => rfl
  | cons p rest ih => exact ih _

/-- A run that is not at the root finds itself in an agreeing session when the buffer is
patched. -/
theorem agreeOn_pokes {s : Session} {n : Nat} {r : Run} (hrun : s.runs[n]? = some r)
    (hposition : r.position ≠ .root) {patches : List Bytes.Patch}
    (hfit : ∀ p ∈ patches, p.stop ≤ s.buffer.length) :
    AgreeOn n patches s (s.run (patches.map fun p => .poke p.offset p.bytes)).2 := by
  rw [run_pokes]
  exact ⟨rfl, .patch hfit, r, hrun, hrun, hposition⟩

end Session

namespace Run

variable {w : Walker} {buffer : Bytes} {r : Run}

/-- A legacy root that counts from the end gives nothing. -/
theorem records_next_of_negative (hregion : w.region = .legacy) (hneg : w.root < 0)
    (hslots : r.visited.granularity = 1) (hposition : r.position = .root) :
    (r.next w buffer).value.records = [] := by
  have hzero : w.root ≠ 0 := by omega
  unfold next
  rw [hposition]
  simp only
  cases hcheck : w.check w.root w.root with
  | error fault =>
    rw [follow, if_neg hzero, hcheck]
    rfl
  | ok note =>
    rw [value_follow_of_checked hzero hcheck]
    have hslots' : (r.noting note.toList).visited.granularity = 1 := hslots
    by_cases hreach : w.region.Reaches buffer w.root
    · rw [visit_of_reaching hregion hslots' hreach]
      rfl
    · rw [visit_of_astray hregion hneg hreach]
      rfl

/-- A run that gives nothing in answer to a request is over, and everything left is
nothing. -/
theorem rest_of_silent (hsilent : (r.next w buffer).value.records = []) :
    (r.next w buffer).value.run.position = .ended ∧ (r.rest w buffer).records = [] ∧
      (r.rest w buffer).run.position = .ended := by
  have hleads := leads_next r w buffer
  cases hstep : (r.next w buffer).value with
  | found record r' =>
    rw [hstep] at hsilent
    cases hsilent
  | stopped r' =>
    rw [hstep] at hleads
    cases hleads with
    | stopped hended =>
      rw [rest, drain_of_stopped _ hstep]
      exact ⟨hended, rfl, hended⟩
  | escaped e r' =>
    rw [hstep] at hleads
    cases hleads with
    | escaped hended =>
      rw [rest, drain_of_escaped _ hstep]
      exact ⟨hended, rfl, hended⟩

end Run

namespace Session

section Placed

variable {s fresh : Session} {n : Nat} {offsets : List Nat} {r : Run} {op : Op} {ops : List Op}

/-- A run that is not at the root does not get there. -/
theorem exists_run_perform (hrun : s.runs[n]? = some r) (hposition : r.position ≠ .root)
    (op : Op) : ∃ r', (s.perform op).2.runs[n]? = some r' ∧ r'.position ≠ .root := by
  -- The session agrees with itself off no patches at all.
  have hagree : AgreeOn n [] s s := ⟨rfl, ⟨rfl, fun _ _ => rfl⟩, r, hrun, hrun, hposition⟩
  obtain ⟨r', hrun', -, hposition'⟩ :=
    (hagree.perform fun _ _ p hp => absurd hp List.not_mem_nil).1.run
  exact ⟨r', hrun', hposition'⟩

/-- A run that keeps its invariant does so before an operation that asks it from an offset, if
it asks it for the first time. -/
theorem Holds.before (h : s.Holds n offsets r [])
    (hroot : op.asked? = some n → r.position = .root → s.walker.region = .legacy →
      0 ≤ s.walker.root) : s.Holds n offsets r [op] := by
  refine ⟨h.run_eq, h.given, fun hposition => ?_⟩
  by_cases hasked : op.asked? = some n
  · rw [RootedWhenAsked, if_pos hasked]
    exact hroot hasked hposition
  · rw [RootedWhenAsked, if_neg hasked]
    trivial

/-- **One operation.**  A run behind the root stays there, and keeps its invariant. -/
theorem Holds.perform_behind (h : s.Holds n offsets r []) (hposition : r.position ≠ .root)
    (op : Op) : ∃ new r', (s.perform op).2.Holds n (offsets ++ new) r' [] ∧
      r'.position ≠ .root ∧ (s.givenBy n op).map RawCapability.offset = new.map Nat.cast := by
  obtain ⟨new, r', hkeeps⟩ := (h.before fun _ hroot => absurd hroot hposition).perform
  obtain ⟨r'', hrun, hposition'⟩ := exists_run_perform h.run_eq hposition op
  cases Option.some.inj (hrun.symm.trans hkeeps.holds.run_eq)
  exact ⟨new, r', hkeeps.holds, hposition', hkeeps.given_eq⟩

theorem Holds.readBy_apart (h : s.Holds n offsets r []) (hposition : r.position ≠ .root)
    {o : Nat} (ho : o ∈ s.readBy n op) : Run.Apart s.walker.region offsets o := by
  by_cases hasked : op.asked? = some n
  · cases op with
    | next i =>
      cases hasked
      rw [readBy_next h.run_eq] at ho
      exact h.given.headerAhead_apart (Option.mem_toList.1 ho)
    | result i =>
      cases hasked
      rw [readBy_result h.run_eq] at ho
      exact h.given.drainReads_apart hposition ho
    | _ => cases hasked
  · rw [readBy_of_not_asked hasked] at ho
    cases ho

/-- **Whatever is done later**, this remains so. -/
theorem Holds.reads_apart (h : s.Holds n offsets r []) (hposition : r.position ≠ .root)
    {later : List Op} {o : Nat} (ho : o ∈ s.reads n later) :
    Run.Apart s.walker.region offsets o := by
  induction later generalizing s offsets r with
  | nil => cases ho
  | cons op later ih =>
    rcases List.mem_append.1 ho with hnow | hlater
    · exact h.readBy_apart hposition hnow
    · obtain ⟨new, r', hholds, hposition', -⟩ := h.perform_behind hposition op
      have hapart := ih hholds hposition' hlater
      rw [region_perform] at hapart
      exact hapart.of_append

section ReadBy

variable {new : List Nat}

/-- A run that is asked for its next record reads the header of the capability that it gives
or, if it gives none, perhaps one that ends the list. -/
theorem Holds.readBy_next_eq (h : s.Holds n offsets r []) (hposition : r.position ≠ .root)
    (hgiven : (s.givenBy n (.next n)).map RawCapability.offset = new.map Nat.cast) :
    ∃ terminator : Option Nat, s.readBy n (.next n) = new ++ terminator.toList ∧
      ∀ o ∈ terminator, s.walker.region.Terminates s.buffer o := by
  rw [givenBy_of_asked rfl, (Session.perform_next h.run_eq).2, List.map_map] at hgiven
  rw [readBy_next h.run_eq]
  have hcontinues := h.given.next (fun hroot => absurd hroot hposition) s.buffer
  generalize hstep : (r.next s.walker s.buffer).value = step at hcontinues hgiven
  cases hcontinues with
  | @found record r' =>
    have hnew : new = [record.offset] :=
      (List.map_injective_iff.2 Nat.cast_injective hgiven).symm
    refine ⟨none, ?_, fun o ho => absurd ho (by simp)⟩
    rw [Run.headerAhead?_of_found hposition hstep, hnew]
    rfl
  | stopped =>
    have hnew : new = [] := List.map_eq_nil_iff.1 hgiven.symm
    refine ⟨r.headerAhead? s.walker s.buffer, ?_, fun o ho => ?_⟩
    · rw [hnew]
      rfl
    · exact Run.terminates_of_stopped hstep ho

/-- A run that is asked for everything reads the headers of all capabilities that it gives, and
perhaps one that ends the list. -/
theorem Holds.readBy_result_eq (h : s.Holds n offsets r []) (hposition : r.position ≠ .root)
    (hgiven : (s.givenBy n (.result n)).map RawCapability.offset = new.map Nat.cast) :
    ∃ terminator : Option Nat, s.readBy n (.result n) = new ++ terminator.toList ∧
      ∀ o ∈ terminator, s.walker.region.Terminates s.buffer o := by
  have hescape := (h.given.restOf (fun hroot => absurd hroot hposition) s.buffer).escape_eq
  rw [givenBy_of_asked rfl, (Session.perform_result h.run_eq hescape).1, Answer.records,
    List.map_map] at hgiven
  have hnew : new = (r.rest s.walker s.buffer).records.map Record.offset := by
    refine List.map_injective_iff.2 (Nat.cast_injective (R := Int)) ?_
    rw [← hgiven, List.map_map]
    rfl
  rw [readBy_result h.run_eq, hnew]
  exact h.given.drainReads_eq hposition s.buffer _

/-- An operation at which a run gives capabilities at some offsets reads their headers, and
perhaps one more, which ends the list. -/
theorem Holds.readBy_eq (h : s.Holds n offsets r []) (hposition : r.position ≠ .root)
    (hgiven : (s.givenBy n op).map RawCapability.offset = new.map Nat.cast) :
    ∃ terminator : Option Nat, s.readBy n op = new ++ terminator.toList ∧
      ∀ o ∈ terminator, s.walker.region.Terminates s.buffer o := by
  by_cases hasked : op.asked? = some n
  · cases op with
    | next i =>
      cases hasked
      exact h.readBy_next_eq hposition hgiven
    | result i =>
      cases hasked
      exact h.readBy_result_eq hposition hgiven
    | _ => cases hasked
  · rw [givenBy_of_not_asked hasked] at hgiven
    have hnew : new = [] := List.map_eq_nil_iff.1 hgiven.symm
    refine ⟨none, ?_, fun o ho => absurd ho (by simp)⟩
    rw [readBy_of_not_asked hasked, hnew]
    rfl

end ReadBy

/-- **The headers that a run still reads** are those of the capabilities that it still gives, or
end the list as it is then. -/
theorem Holds.mem_reads (h : s.Holds n offsets r []) (hposition : r.position ≠ .root)
    {later : List Op} {o : Nat} (ho : o ∈ s.reads n later) :
    (o : Int) ∈ (s.given n later).map RawCapability.offset ∨
      ∃ before op, before ++ [op] <+: later ∧
        s.walker.region.Terminates (s.run before).2.buffer o := by
  induction later generalizing s offsets r with
  | nil => cases ho
  | cons op later ih =>
    obtain ⟨new, r', hholds, hposition', hgiven⟩ := h.perform_behind hposition op
    obtain ⟨terminator, hreads, hterm⟩ := h.readBy_eq hposition hgiven
    rw [reads, hreads] at ho
    rw [Session.given, List.map_append, hgiven]
    rcases List.mem_append.1 ho with hnow | hlater
    · rcases List.mem_append.1 hnow with hnew | hend
      · exact Or.inl (List.mem_append_left _ (List.mem_map_of_mem hnew))
      · exact Or.inr ⟨[], op, List.prefix_append [op] later, hterm o (Option.mem_toList.1 hend)⟩
    · rcases ih hholds hposition' hlater with hgave | ⟨before, op', hprefix, hends⟩
      · exact Or.inl (List.mem_append_right _ hgave)
      · rw [region_perform] at hends
        exact Or.inr ⟨op :: before, op', List.prefix_cons_inj op |>.2 hprefix, hends⟩

theorem Holds.exists_mem_reads (h : s.Holds n offsets r []) (hposition : r.position ≠ .root)
    {later : List Op} {raw : RawCapability} (hraw : raw ∈ s.given n later) :
    ∃ o ∈ s.reads n later, raw.offset = o := by
  induction later generalizing s offsets r with
  | nil => cases hraw
  | cons op later ih =>
    obtain ⟨new, r', hholds, hposition', hgiven⟩ := h.perform_behind hposition op
    obtain ⟨terminator, hreads, -⟩ := h.readBy_eq hposition hgiven
    rw [reads, hreads]
    rcases List.mem_append.1 hraw with hnow | hlater
    · have hcast : raw.offset ∈ new.map Nat.cast := hgiven ▸ List.mem_map_of_mem hnow
      obtain ⟨o, ho, hoffset⟩ := List.mem_map.1 hcast
      exact ⟨o, List.mem_append_left _ (List.mem_append_left _ ho), hoffset.symm⟩
    · obtain ⟨o, ho, hoffset⟩ := ih hholds hposition' hlater
      exact ⟨o, List.mem_append_right _ ho, hoffset⟩

/-- A run that gives nothing when it is asked is over. -/
theorem exists_run_of_silent (hrun : s.runs[n]? = some r)
    (hsilent : (r.next s.walker s.buffer).value.records = []) (hasked : op.asked? = some n) :
    ∃ r', (s.perform op).2.runs[n]? = some r' ∧ r'.position = .ended ∧ s.givenBy n op = [] := by
  obtain ⟨hnext, hrecords, hrest⟩ := Run.rest_of_silent hsilent
  rw [givenBy_of_asked hasked]
  cases op with
  | next i =>
    cases hasked
    obtain ⟨hruns, hgiven⟩ := perform_next hrun
    rw [hsilent] at hgiven
    exact ⟨_, hruns, hnext, hgiven⟩
  | result i =>
    cases hasked
    obtain ⟨hruns, hvalue⟩ := perform_rest hrun
    refine ⟨_, hruns, hrest, ?_⟩
    rw [hvalue, List.eq_nil_iff_forall_not_mem]
    intro raw hmem
    obtain ⟨record, hrecord, -⟩ := mem_records_walkAnswer hmem
    rw [hrecords] at hrecord
    cases hrecord
  | _ => cases hasked

/-- How run `n` of a session that began as `fresh` stands after some operations. -/
inductive Placed (fresh : Session) (ops : List Op) (n : Nat) : Prop where
  /-- It keeps the invariant of the offsets that it has given. -/
  | keeps {offsets : List Nat} {r : Run} (holds : (fresh.run ops).2.Holds n offsets r [])
      (given_eq : (fresh.given n ops).map RawCapability.offset = offsets.map Nat.cast)
  /-- Its root was no offset, and it has given nothing. -/
  | escaped {r : Run} (run_eq : (fresh.run ops).2.runs[n]? = some r)
      (ended : r.position = .ended) (given_eq : fresh.given n ops = [])

/-- A run that has given nothing, and gives nothing when it is asked. -/
theorem placed_of_silent (hrun : (fresh.run ops).2.runs[n]? = some r)
    (hnone : fresh.given n ops = [])
    (hsilent : (r.next (fresh.run ops).2.walker (fresh.run ops).2.buffer).value.records = [])
    (hasked : op.asked? = some n) : Placed fresh (ops ++ [op]) n := by
  obtain ⟨r', hrun', hended, hgiven⟩ := exists_run_of_silent hrun hsilent hasked
  refine .escaped (r := r') ?_ hended ?_
  · rw [run_concat]
    exact hrun'
  · rw [given_concat, hnone, hgiven]
    rfl

theorem Placed.concat (h : Placed fresh ops n) (op : Op) : Placed fresh (ops ++ [op]) n := by
  cases h with
  | @keeps offsets r hholds hgiven =>
    by_cases hroot : op.asked? = some n → r.position = .root →
        (fresh.run ops).2.walker.region = .legacy → 0 ≤ (fresh.run ops).2.walker.root
    · obtain ⟨new, r', hkeeps⟩ := (hholds.before hroot).perform
      have hholds' : (fresh.run (ops ++ [op])).2.Holds n (offsets ++ new) r' [] := by
        rw [run_concat]
        exact hkeeps.holds
      refine .keeps hholds' ?_
      rw [given_concat, List.map_append, List.map_append, hgiven, hkeeps.given_eq]
    · -- The run is asked for the first time, and the root counts from the end.
      simp only [Classical.not_imp, Int.not_le] at hroot
      obtain ⟨hasked, hposition, hregion, hneg⟩ := hroot
      have hslots : r.visited.granularity = 1 := by
        rw [hholds.given.tracks.granularity_eq, hregion]
        rfl
      have hnone : fresh.given n ops = [] := by
        rw [(hholds.given.root hposition).2] at hgiven
        exact List.map_eq_nil_iff.1 hgiven
      exact placed_of_silent hholds.run_eq hnone
        (Run.records_next_of_negative hregion hneg hslots hposition) hasked
  | @escaped r hrun hended hgiven =>
    by_cases hasked : op.asked? = some n
    · have hsilent : (r.next (fresh.run ops).2.walker (fresh.run ops).2.buffer).value.records =
          [] := by
        rw [Run.next, hended]
        rfl
      exact placed_of_silent hrun hgiven hsilent hasked
    · have hlt := (List.getElem?_eq_some_iff.1 hrun).1
      refine .escaped (r := r) ?_ hended ?_
      · rw [run_concat, runs_perform_of_not_asked hlt hasked, hrun]
      · rw [given_concat, hgiven, givenBy_of_not_asked hasked]
        rfl

/-- In a fresh session every run is placed, and one that does not exist has given nothing. -/
theorem placed_run (w : Walker) (buffer : Bytes) (ops : List Op) (n : Nat) :
    let fresh : Session := { buffer, walker := w }
    ((fresh.run ops).2.runs[n]? = none → fresh.given n ops = []) ∧
      ((fresh.run ops).2.runs[n]? ≠ none → Placed fresh ops n) := by
  intro fresh
  induction ops using List.reverseRecOn with
  | nil => exact ⟨fun _ => rfl, fun hne => absurd rfl hne⟩
  | append_singleton ops op ih =>
    obtain ⟨habsent, hplaced⟩ := ih
    by_cases hbefore : (fresh.run ops).2.runs[n]? = none
    · have hnone := habsent hbefore
      have hgiven : fresh.given n (ops ++ [op]) = [] := by
        rw [given_concat, hnone, givenBy_of_absent hbefore]
        rfl
      refine ⟨fun _ => hgiven, fun hne => ?_⟩
      obtain ⟨r, hrun⟩ := Option.ne_none_iff_exists'.1 hne
      have hrun' := hrun
      rw [run_concat] at hrun'
      have hnew := eq_begin_of_absent hbefore hrun'
      have hholds : (fresh.run (ops ++ [op])).2.Holds n [] r [] := by
        refine ⟨hrun, ?_, fun _ => trivial⟩
        rw [run_concat, region_perform, hnew]
        exact Run.given_begin _ _
      refine .keeps hholds ?_
      rw [hgiven]
      rfl
    · refine ⟨fun hafter => ?_, fun _ => (hplaced hbefore).concat op⟩
      rw [run_concat, List.getElem?_eq_none_iff] at hafter
      exact absurd (List.getElem?_eq_none_iff.2 ((runs_length_le_perform _ op).trans hafter))
        hbefore

/-- A run that has given something is behind the root, and keeps its invariant. -/
theorem exists_holds_of_given {w : Walker} {buffer : Bytes}
    (hgiven : ({ buffer, walker := w } : Session).given n ops ≠ []) :
    let fresh : Session := { buffer, walker := w }
    ∃ offsets r, (fresh.run ops).2.Holds n offsets r [] ∧ r.position ≠ .root ∧
      (fresh.given n ops).map RawCapability.offset = offsets.map Nat.cast := by
  intro fresh
  obtain ⟨habsent, hplaced⟩ := placed_run w buffer ops n
  cases hplaced fun hnone => hgiven (habsent hnone) with
  | @keeps offsets r hholds heq =>
    refine ⟨offsets, r, hholds, fun hroot => hgiven ?_, heq⟩
    rw [(hholds.given.root hroot).2] at heq
    exact List.map_eq_nil_iff.1 heq
  | escaped _ _ hnone => exact absurd hnone hgiven

end Placed

/-! ## The main result -/

/-- Bytes of a header behind its first byte belong to no header that lies apart from it and
does not begin inside it. -/
theorem misses_of_apart {region : Region} {o o' : Nat} {p : Bytes.Patch}
    (hapart : Run.Apart region [o] o')
    (houtside : ¬ (o < o' ∧ o' < o + region.headerSize)) (hstart : o < p.offset)
    (hstop : p.stop ≤ o + region.headerSize) : p.Misses o' (o' + region.headerSize) := by
  obtain ⟨haligned, hslot⟩ := hapart
  have hne := hslot o (List.mem_singleton_self o)
  intro k hle hlt hwritten
  cases region with
  | legacy =>
    simp only [Region.slotStart, Region.granule, Region.headerSize] at *
    omega
  | extended =>
    simp only [Region.slotStart, Region.granule, Region.headerSize] at *
    omega

/-- What patches of the buffer can change once operations have been carried out: `fresh` is the
session before them, without any run, and `s` the one after them. -/
structure FrameLaw (fresh : Session) (ops : List Op) (s : Session) : Prop where
  /-- A capability that is given keeps its header and the bounds of its payload, whatever is
  done later; the payload is always that of the buffer as it is. -/
  capabilities : ∀ op, ∀ raw ∈ (s.perform op).1.value.records, ∃ record : Record,
    raw = record.load s.buffer ∧
    record = .ofHeader record.offset record.header (s.walker.region.readable s.buffer) ∧
    ∀ later, let now := ((s.perform op).2.run later).2
      Kept record raw now ∧ ∀ index status, (s.perform op).1.value = .record raw index status →
        Answered index record raw now
  /-- A run that has given something goes on alike if the headers that it still reads are
  spared, whether it is drained or asked among other operations. -/
  runs : ∀ n, fresh.given n ops ≠ [] → ∀ patches : List Bytes.Patch,
    (∀ p ∈ patches, p.stop ≤ s.buffer.length) →
      let s' := (s.run (patches.map fun p => .poke p.offset p.bytes)).2
      (∃ r, s.runs[n]? = some r ∧ s'.runs[n]? = some r ∧
        (s.walker.region.Spared (r.restReads s.walker s.buffer) patches →
          r.rest s.walker s.buffer = r.rest s'.walker s'.buffer)) ∧
      ∀ later, s.walker.region.Spared (s.reads n later) patches → SameCourse n later s s'
  /-- These headers are those of the capabilities that it still gives, and such as end the
  list. -/
  reads : ∀ n, fresh.given n ops ≠ [] → ∀ later,
    (∀ raw ∈ s.given n later, ∃ o ∈ s.reads n later, raw.offset = o) ∧
      ∀ o ∈ s.reads n later, (∃ raw ∈ s.given n later, raw.offset = o) ∨
        ∃ before op, before ++ [op] <+: later ∧
          s.walker.region.Terminates (s.run before).2.buffer o
  /-- In particular it goes on alike if a capability that it has given is rewritten from the
  second byte of the header on, where the next pointer is, unless a header that is still read
  begins inside that header. -/
  pointers : ∀ n, ∀ raw ∈ fresh.given n ops, ∀ p : Bytes.Patch, p.stop ≤ s.buffer.length →
    let o := raw.offset.toNat
    o < p.offset → p.stop ≤ o + s.walker.region.headerSize →
      ∀ later, (∀ o' ∈ s.reads n later, ¬ (o < o' ∧ o' < o + s.walker.region.headerSize)) →
        SameCourse n later s (s.perform (.poke p.offset p.bytes)).2

/-- **The frame law of a session.**  What was read stays as it is, what is borrowed is that of
the buffer as it is, and only the headers that are still read can change what follows. -/
theorem frame_law (w : Walker) (buffer : Bytes) (ops : List Op) :
    let fresh : Session := { buffer, walker := w }
    FrameLaw fresh ops (fresh.run ops).2 := by
  intro fresh
  refine ⟨fun op raw hmem => ?_, fun n hgiven patches hfit => ?_, fun n hgiven later => ?_,
    fun n raw hraw p hfit hstart hstop later houtside => ?_⟩
  · obtain ⟨record, hraw, hbounds, hnumber⟩ := exists_record hmem
    refine ⟨record, hraw, hbounds, fun later => ⟨kept hraw _, fun index status hvalue => ?_⟩⟩
    have hrecord := hnumber index status hvalue
    obtain ⟨more, hmore⟩ := records_run ((fresh.run ops).2.perform op).2 later
    refine answered hraw ?_
    rw [← hmore, List.getElem?_append_left (List.getElem?_eq_some_iff.1 hrecord).1]
    exact hrecord
  · obtain ⟨offsets, r, hholds, hposition, -⟩ := exists_holds_of_given hgiven
    have hagree := agreeOn_pokes hholds.run_eq hposition hfit
    refine ⟨⟨r, hholds.run_eq, ?_, fun hspared => ?_⟩, fun later => hagree.run_course⟩
    · rw [run_pokes]
      exact hholds.run_eq
    · rw [← hagree.walker_eq]
      exact Run.drain_eq_of_reads hposition hagree.readable_eq (hagree.window_eq hspared)
  · obtain ⟨offsets, r, hholds, hposition, -⟩ := exists_holds_of_given hgiven
    refine ⟨fun raw hraw => hholds.exists_mem_reads hposition hraw, fun o ho => ?_⟩
    exact (hholds.mem_reads hposition ho).imp_left List.mem_map.1
  · obtain ⟨offsets, r, hholds, hposition, heq⟩ := exists_holds_of_given (List.ne_nil_of_mem hraw)
    have hmem : raw.offset.toNat ∈ offsets := by
      have hcast : raw.offset ∈ offsets.map Nat.cast := heq ▸ List.mem_map_of_mem hraw
      obtain ⟨o, ho, hoffset⟩ := List.mem_map.1 hcast
      rwa [← hoffset, Int.toNat_natCast]
    have hagree : AgreeOn n [p] (fresh.run ops).2 _ := agreeOn_pokes hholds.run_eq hposition
      fun q hq => by rw [List.mem_singleton.1 hq]; exact hfit
    refine hagree.run_course fun o' ho' q hq => ?_
    rw [List.mem_singleton.1 hq]
    obtain ⟨haligned, hslot⟩ := hholds.reads_apart hposition ho'
    refine misses_of_apart ⟨haligned, fun o ho => ?_⟩ (houtside o' ho') hstart hstop
    rw [List.mem_singleton.1 ho]
    exact hslot _ hmem

/-- A run over three capabilities, the last of which begins with the pointer of the second one.
After the first record its pointer and its payload are rewritten; then the run is asked for the
second record, and for everything.  The headers it reads are spared. -/
theorem frame_law_overlapping :
    let fresh : Session :=
      { buffer := List.replicate 0x40 0 ++ [0x01, 0x44, 0xAA, 0xBB, 0x09, 0x45, 0x00, 0xCC],
        walker := .legacy 0x40 }
    let ops : List Op := [.start, .next 0]
    let s := (fresh.run ops).2
    let patches : List Bytes.Patch := [⟨0x41, [0x00]⟩, ⟨0x42, [0x11, 0x22]⟩]
    let later : List Op := [.next 0, .result 0]
    FrameLaw fresh ops s ∧ fresh.given 0 ops ≠ [] ∧ (∀ p ∈ patches, p.stop ≤ s.buffer.length) ∧
      s.reads 0 later = [0x44, 0x45] ∧ s.walker.region.Spared (s.reads 0 later) patches ∧
      SameCourse 0 later s (s.run (patches.map fun p => .poke p.offset p.bytes)).2 ∧
      (s.given 0 later).map RawCapability.offset = [0x44, 0x45] := by
  intro fresh ops s patches later
  have hlaw : FrameLaw fresh ops s := frame_law (.legacy 0x40) _ ops
  have hgiven : fresh.given 0 ops ≠ [] := by decide +kernel
  have hfit : ∀ p ∈ patches, p.stop ≤ s.buffer.length := by decide +kernel
  have hreads : s.reads 0 later = [0x44, 0x45] := by decide +kernel
  have hspared : s.walker.region.Spared (s.reads 0 later) patches := by
    rw [hreads]
    have hlow : ∀ o ∈ [0x44, 0x45], 0x44 ≤ o := by decide
    have hhigh : ∀ p ∈ patches, p.stop ≤ 0x44 := by decide
    intro o ho p hp k hle hlt hwritten
    have ho' := hlow o ho
    have hp' := hhigh p hp
    omega
  exact ⟨hlaw, hgiven, hfit, hreads, hspared, (hlaw.runs 0 hgiven patches hfit).2 later hspared,
    by decide +kernel⟩

end Session

end ConfigSpace
