import ConfigSpace.Proofs.RunInvariant

/-!
# What a run keeps throughout a session

In a session any number of runs are under way at once, and between two requests the bytes
of the buffer, the root and the strictness of the walker may be changed.  A run that was
started in a session is touched by the requests to itself and by nothing else
(`Session.runs_perform_of_not_asked`), and each request keeps its invariant
(`Run.Given.next`), so the invariant lasts for as long as the session does.

* `Session.Op.asked?` and `Session.Answer.records` — which run an operation asks for
  records, and which records an answer holds; `Session.given` collects what one run gives.
* `Session.Reported` — run `n` has stopped because of a fault while operations were carried out.
* `Session.Holds` — the invariant of one run within a session.  `Session.Holds.perform` says
  what one operation makes of it, and `Session.Holds.run` what a sequence does;
  `Session.Holds.fault?_run` follows the fault of the run through the sequence.

The main result is `Session.started_run_disciplined`: the offsets that a run gives are
different, and no more than its list can hold; every request is answered by a record or by
the end; the status of the run only ever moves on, until it is over; and the run has a fault
if one of its answers was to stop because of it, and only then.
-/

namespace ConfigSpace

namespace Session

/-! ## What an operation asks, and what it is answered -/

/-- The run that an operation asks for records. -/
def Op.asked? : Op → Option Nat
  | .next run => some run
  | .result run => some run
  | _ => none

/-- The records that an answer holds. -/
def Answer.records : Answer → List RawCapability
  | .record raw _ _ => [raw]
  | .walk raws _ => raws
  | _ => []

/-- How a run that is left with a status answers the operation that asked it: with a record,
and under way; with the end, and over; or with all that was left, and over. -/
inductive Op.AnsweredBy : Op → Answer → Status → Prop where
  /-- There was a further record. -/
  | record (n : Nat) (raw : RawCapability) (index : Nat) {status : Status}
      (following : status.state = .following) :
      AnsweredBy (.next n) (.record raw index status) status
  /-- There was none. -/
  | stopped (n : Nat) {status : Status} (ended : status.state.Ended) :
      AnsweredBy (.next n) (.stopped status) status
  /-- Everything was asked for. -/
  | walk (n : Nat) (raws : List RawCapability) {status : Status} (ended : status.state.Ended) :
      AnsweredBy (.result n) (.walk raws status) status

/-- The status of a numbered run. -/
def statusOf? (s : Session) (n : Nat) : Option Status :=
  s.runs[n]?.map Run.status

/-- The records that run `n` gives in answer to an operation. -/
def givenBy (s : Session) (n : Nat) (op : Op) : List RawCapability :=
  if op.asked? = some n then (s.perform op).1.value.records else []

/-- The records that run `n` gives while operations are carried out. -/
def given (s : Session) (n : Nat) : List Op → List RawCapability
  | [] => []
  | op :: rest => s.givenBy n op ++ (s.perform op).2.given n rest

/-- Run `n` has stopped in answer to an operation because of a fault. -/
def ReportedBy (s : Session) (n : Nat) (fault : WalkFault) (op : Op) : Prop :=
  op.asked? = some n ∧ ∃ status, op.AnsweredBy (s.perform op).1.value status ∧
    status.state = .failed fault

/-- Run `n` has stopped because of a fault while operations were carried out. -/
def Reported (s : Session) (n : Nat) (fault : WalkFault) : List Op → Prop
  | [] => False
  | op :: rest => s.ReportedBy n fault op ∨ (s.perform op).2.Reported n fault rest

/-- When run `n` is asked for the first time, the root of a legacy walker does not count from
the end. -/
def RootedWhenAsked (s : Session) (n : Nat) : List Op → Prop
  | [] => True
  | op :: rest =>
      if op.asked? = some n then s.walker.region = .legacy → 0 ≤ s.walker.root
      else (s.perform op).2.RootedWhenAsked n rest

instance (n : Nat) : (s : Session) → (ops : List Op) → Decidable (s.RootedWhenAsked n ops)
  | _, [] => .isTrue trivial
  | s, op :: rest =>
      if hasked : op.asked? = some n then
        decidable_of_iff (s.walker.region = .legacy → 0 ≤ s.walker.root)
          (by rw [RootedWhenAsked, if_pos hasked])
      else
        have := instDecidableRootedWhenAsked n (s.perform op).2 rest
        decidable_of_iff ((s.perform op).2.RootedWhenAsked n rest)
          (by rw [RootedWhenAsked, if_neg hasked])

theorem Op.AnsweredBy.status_eq {op : Op} {answer : Answer} {status status' : Status}
    (h : op.AnsweredBy answer status) (h' : op.AnsweredBy answer status') :
    status = status' := by
  cases h <;> cases h' <;> rfl

/-! ## One operation -/

section Perform

variable {s : Session} {n : Nat} {r r' : Run} {record : Record} {op : Op}

theorem perform_next_of_found (hrun : s.runs[n]? = some r)
    (hfound : (r.next s.walker s.buffer).value = .found record r') :
    (s.perform (.next n)).1.value =
        .record (record.load s.buffer) s.records.length r'.status ∧
      (s.perform (.next n)).2 =
        { s with runs := s.runs.set n r', records := s.records ++ [record] } := by
  simp only [perform, hrun]
  rcases hnext : r.next s.walker s.buffer with ⟨value, events⟩
  rw [hnext] at hfound
  cases hfound
  exact ⟨rfl, rfl⟩

theorem perform_next_of_stopped (hrun : s.runs[n]? = some r)
    (hstopped : (r.next s.walker s.buffer).value = .stopped r') :
    (s.perform (.next n)).1.value = .stopped r'.status ∧
      (s.perform (.next n)).2 = { s with runs := s.runs.set n r' } := by
  simp only [perform, hrun]
  rcases hnext : r.next s.walker s.buffer with ⟨value, events⟩
  rw [hnext] at hstopped
  cases hstopped
  exact ⟨rfl, rfl⟩

/-- A run that is asked for everything answers with all it has not given yet. -/
theorem perform_result (hrun : s.runs[n]? = some r)
    (hescape : (r.rest s.walker s.buffer).escape = none) :
    (s.perform (.result n)).1.value =
        .walk ((r.rest s.walker s.buffer).records.map (·.load s.buffer))
          (r.rest s.walker s.buffer).run.status ∧
      (s.perform (.result n)).2 =
        { s with runs := s.runs.set n (r.rest s.walker s.buffer).run } := by
  simp only [perform, hrun, walkAnswer, hescape]
  exact ⟨trivial, trivial⟩

theorem givenBy_of_asked (hasked : op.asked? = some n) :
    s.givenBy n op = (s.perform op).1.value.records :=
  if_pos hasked

theorem givenBy_of_not_asked (hasked : op.asked? ≠ some n) : s.givenBy n op = [] :=
  if_neg hasked

theorem givenBy_of_absent (hrun : s.runs[n]? = none) (op : Op) : s.givenBy n op = [] := by
  unfold givenBy
  split
  · rename_i hasked
    cases op with
    | next i | result i =>
      cases hasked
      simp only [perform, hrun]
      rfl
    | _ => cases hasked
  · rfl

theorem region_perform (s : Session) (op : Op) :
    (s.perform op).2.walker.region = s.walker.region := by
  cases op with
  | next i =>
    simp only [perform]
    split
    · rfl
    · split <;> rfl
  | status i | result i | payload i | decode i options => simp only [perform]; split <;> rfl
  | _ => rfl

/-- An operation touches no run but the one that it asks. -/
theorem runs_perform_of_not_asked (hn : n < s.runs.length) (hasked : op.asked? ≠ some n) :
    (s.perform op).2.runs[n]? = s.runs[n]? := by
  cases op with
  | start => exact List.getElem?_append_left hn
  | next i =>
    have hne : i ≠ n := fun heq => hasked (congrArg some heq)
    simp only [perform]
    split
    · rfl
    · split <;> exact List.getElem?_set_ne hne
  | result i =>
    have hne : i ≠ n := fun heq => hasked (congrArg some heq)
    simp only [perform]
    split
    · rfl
    · exact List.getElem?_set_ne hne
  | status i | payload i | decode i options => simp only [perform]; split <;> rfl
  | _ => rfl

theorem statusOf?_perform_of_not_asked (hn : n < s.runs.length) (hasked : op.asked? ≠ some n) :
    (s.perform op).2.statusOf? n = s.statusOf? n := by
  rw [statusOf?, runs_perform_of_not_asked hn hasked, statusOf?]

end Perform

/-! ## Sequences of operations -/

theorem run_append (s : Session) (before after : List Op) :
    (s.run (before ++ after)).2 = ((s.run before).2.run after).2 := by
  induction before generalizing s with
  | nil => rfl
  | cons op before ih => exact ih _

theorem run_concat (s : Session) (before : List Op) (op : Op) :
    (s.run (before ++ [op])).2 = ((s.run before).2.perform op).2 := by
  rw [run_append]
  rfl

theorem region_run (s : Session) (ops : List Op) :
    (s.run ops).2.walker.region = s.walker.region := by
  induction ops generalizing s with
  | nil => rfl
  | cons op ops ih => exact (ih _).trans (region_perform s op)

theorem given_append (s : Session) (n : Nat) (before after : List Op) :
    s.given n (before ++ after) = s.given n before ++ (s.run before).2.given n after := by
  induction before generalizing s with
  | nil => rfl
  | cons op before ih =>
    rw [List.cons_append, given, given, ih, List.append_assoc]
    rfl

theorem given_concat (s : Session) (n : Nat) (before : List Op) (op : Op) :
    s.given n (before ++ [op]) = s.given n before ++ (s.run before).2.givenBy n op := by
  rw [given_append, given, given, List.append_nil]

/-! ## The invariant of one run -/

/-- Run `n` of a session has given these offsets, and if it has not been asked yet, the root
will be an offset when it is. -/
structure Holds (s : Session) (n : Nat) (offsets : List Nat) (r : Run) (later : List Op) :
    Prop where
  /-- The run is there. -/
  run_eq : s.runs[n]? = some r
  /-- It has given the offsets. -/
  given : r.Given s.walker.region offsets
  /-- It will start from an offset. -/
  rooted : r.position = .root → s.RootedWhenAsked n later

namespace Holds

variable {s : Session} {n : Nat} {offsets : List Nat} {r : Run} {op : Op} {later : List Op}

theorem lt_length (h : s.Holds n offsets r later) : n < s.runs.length :=
  (List.getElem?_eq_some_iff.1 h.run_eq).1

theorem statusOf?_eq (h : s.Holds n offsets r later) : s.statusOf? n = some r.status := by
  rw [statusOf?, h.run_eq]
  rfl

/-- A run that is asked starts from an offset, if it has not started before. -/
theorem rooted_of_asked (h : s.Holds n offsets r (op :: later)) (hasked : op.asked? = some n) :
    r.position = .root → s.walker.region = .legacy → 0 ≤ s.walker.root := by
  intro hposition
  have hrooted := h.rooted hposition
  rwa [RootedWhenAsked, if_pos hasked] at hrooted

theorem of_set {new : List Nat} {r' : Run} {s' : Session} (h : s.Holds n offsets r later)
    (hruns : s'.runs = s.runs.set n r') (hregion : s'.walker.region = s.walker.region)
    (hgiven : r'.Given s.walker.region (offsets ++ new)) (hstate : r'.state ≠ .start)
    (later' : List Op) : s'.Holds n (offsets ++ new) r' later' where
  run_eq := by rw [hruns, List.getElem?_set_self h.lt_length]
  given := by rw [hregion]; exact hgiven
  rooted := fun hposition => absurd hposition (hgiven.position_ne_root hstate)

end Holds

/-- What an operation makes of a run that has given some offsets: it may give new ones. -/
structure Keeps (s : Session) (n : Nat) (offsets : List Nat) (r : Run) (op : Op)
    (later : List Op) (new : List Nat) (r' : Run) : Prop where
  /-- The invariant holds afterwards. -/
  holds : (s.perform op).2.Holds n (offsets ++ new) r' later
  /-- The records given are those at the new offsets. -/
  given_eq : (s.givenBy n op).map RawCapability.offset = new.map Nat.cast
  /-- The status has moved on. -/
  advances : r.status.Advances r'.status
  /-- A run that was asked has answered. -/
  answered : op.asked? = some n → op.AnsweredBy (s.perform op).1.value r'.status

namespace Holds

variable {s : Session} {n : Nat} {offsets : List Nat} {r : Run} {op : Op} {later : List Op}

/-- An operation that asks another run, or none, leaves a run alone. -/
theorem perform_of_not_asked (h : s.Holds n offsets r (op :: later))
    (hasked : op.asked? ≠ some n) : s.Keeps n offsets r op later [] r where
  holds :=
    { run_eq := by rw [runs_perform_of_not_asked h.lt_length hasked, h.run_eq]
      given := by
        rw [region_perform, List.append_nil]
        exact h.given
      rooted := fun hposition => by
        have hrooted := h.rooted hposition
        rwa [RootedWhenAsked, if_neg hasked] at hrooted }
  given_eq := by
    rw [givenBy_of_not_asked hasked]
    rfl
  advances := .refl _
  answered := fun hasked' => absurd hasked' hasked

theorem perform_next (h : s.Holds n offsets r (.next n :: later)) :
    ∃ new r', s.Keeps n offsets r (.next n) later new r' := by
  have hnext := h.given.next (h.rooted_of_asked rfl) s.buffer
  generalize hstep : (r.next s.walker s.buffer).value = step at hnext
  cases hnext with
  | @found record r' given following advances =>
    obtain ⟨hvalue, hsession⟩ := perform_next_of_found h.run_eq hstep
    refine ⟨[record.offset], r', ?_, ?_, advances, fun _ => ?_⟩
    · exact h.of_set (by rw [hsession]) (region_perform s _) given (by simp [following]) later
    · rw [givenBy_of_asked rfl, hvalue]
      rfl
    · rw [hvalue]
      exact .record n _ _ following
  | @stopped r' given ended advances =>
    obtain ⟨hvalue, hsession⟩ := perform_next_of_stopped h.run_eq hstep
    refine ⟨[], r', ?_, ?_, advances, fun _ => ?_⟩
    · rw [← List.append_nil offsets] at given
      exact h.of_set (by rw [hsession]) (region_perform s _) given ended.ne_start later
    · rw [givenBy_of_asked rfl, hvalue]
      rfl
    · rw [hvalue]
      exact .stopped n ended

theorem perform_result (h : s.Holds n offsets r (.result n :: later)) :
    ∃ new r', s.Keeps n offsets r (.result n) later new r' := by
  have hrest := h.given.restOf (h.rooted_of_asked rfl) s.buffer
  obtain ⟨hvalue, hsession⟩ := Session.perform_result h.run_eq hrest.escape_eq
  refine ⟨(r.rest s.walker s.buffer).records.map Record.offset, (r.rest s.walker s.buffer).run,
    ?_, ?_, hrest.advances, fun _ => ?_⟩
  · exact h.of_set (by rw [hsession]) (region_perform s _) hrest.given hrest.ended.ne_start later
  · rw [givenBy_of_asked rfl, hvalue, Answer.records, List.map_map, List.map_map]
    rfl
  · rw [hvalue]
    exact .walk n _ hrest.ended

/-- One operation keeps the invariant of every run. -/
theorem perform (h : s.Holds n offsets r (op :: later)) :
    ∃ new r', s.Keeps n offsets r op later new r' := by
  by_cases hasked : op.asked? = some n
  · cases op with
    | next i =>
      cases hasked
      exact h.perform_next
    | result i =>
      cases hasked
      exact h.perform_result
    | _ => cases hasked
  · exact ⟨[], r, h.perform_of_not_asked hasked⟩

theorem run {ops : List Op} (h : s.Holds n offsets r (ops ++ later)) :
    ∃ new r', (s.run ops).2.Holds n (offsets ++ new) r' later ∧
      (s.given n ops).map RawCapability.offset = new.map Nat.cast ∧
      r.status.Advances r'.status := by
  induction ops generalizing s offsets r with
  | nil =>
    refine ⟨[], r, ?_, rfl, .refl _⟩
    rw [List.append_nil]
    exact h
  | cons op ops ih =>
    obtain ⟨new, r₁, hkeeps⟩ := h.perform
    obtain ⟨new', r', hholds, hgiven, hadvances⟩ := ih hkeeps.holds
    refine ⟨new ++ new', r', ?_, ?_, hkeeps.advances.trans hadvances⟩
    · rw [← List.append_assoc]
      exact hholds
    · rw [Session.given, List.map_append, List.map_append, hkeeps.given_eq, hgiven]

/-- An operation leaves a fault to a run that had one, or that stops because of it. -/
theorem fault?_perform {new : List Nat} {r' : Run} (h : s.Holds n offsets r (op :: later))
    (hkeeps : s.Keeps n offsets r op later new r') (fault : WalkFault) :
    r'.state.fault? = some fault ↔ r.state.fault? = some fault ∨ s.ReportedBy n fault op := by
  rw [WalkState.fault?_eq_some_iff, WalkState.fault?_eq_some_iff]
  constructor
  · intro hfault
    by_cases hasked : op.asked? = some n
    · exact .inr ⟨hasked, r'.status, hkeeps.answered hasked, hfault⟩
    · have hstatus := statusOf?_perform_of_not_asked h.lt_length hasked
      rw [hkeeps.holds.statusOf?_eq, h.statusOf?_eq, Option.some.injEq] at hstatus
      exact .inl ((congrArg Status.state hstatus).symm.trans hfault)
  · rintro (hfault | ⟨hasked, status, hanswer, hfault⟩)
    · have hended : r.status.state.Ended := by
        change r.state.Ended
        rw [hfault]
        exact .failed fault
      exact (congrArg Status.state (hkeeps.advances.settled hended)).trans hfault
    · rw [← hfault, hanswer.status_eq (hkeeps.answered hasked)]
      rfl

/-- The faults that a run has in the end are those it had and those it has reported. -/
theorem fault?_run {ops : List Op} (h : s.Holds n offsets r (ops ++ later)) {status : Status}
    (hstatus : (s.run ops).2.statusOf? n = some status) (fault : WalkFault) :
    status.state.fault? = some fault ↔
      r.state.fault? = some fault ∨ s.Reported n fault ops := by
  induction ops generalizing s offsets r with
  | nil =>
    cases h.statusOf?_eq.symm.trans hstatus
    simp [Reported, Run.status]
  | cons op ops ih =>
    obtain ⟨new, r₁, hkeeps⟩ := h.perform
    rw [ih hkeeps.holds hstatus, h.fault?_perform hkeeps, Reported, or_assoc]

end Holds

/-! ## The main result -/

/-- How run `n` conducts itself while operations are carried out from session `s` on. -/
structure RunDisciplined (s : Session) (n : Nat) (ops : List Op) : Prop where
  /-- The offsets that it gives are different. -/
  distinct : ((s.given n ops).map RawCapability.offset).Nodup
  /-- It gives no more records than its list can hold. -/
  bounded : (s.given n ops).length ≤ s.walker.region.capacity
  /-- Whenever it is asked, it answers with a record or with the end, and its status is then
  what it says. -/
  answered : ∀ before op, before ++ [op] <+: ops → op.asked? = some n →
    ∃ status, op.AnsweredBy ((s.run before).2.perform op).1.value status ∧
      (s.run (before ++ [op])).2.statusOf? n = some status
  /-- From any moment to any later one its status advances. -/
  advances : ∀ before between, before ++ between <+: ops → ∃ status status',
    (s.run before).2.statusOf? n = some status ∧
      (s.run (before ++ between)).2.statusOf? n = some status' ∧ status.Advances status'
  /-- At any moment its state holds a fault just if it has stopped because of this fault, in
  answer to one of the operations before. -/
  fault_iff : ∀ before, before <+: ops → ∀ status,
    (s.run before).2.statusOf? n = some status →
      ∀ fault, status.state.fault? = some fault ↔ s.Reported n fault before

/-- **A run keeps its discipline, whatever happens in its session.**  Between the requests to
a run the buffer may be overwritten, the root and the strictness of the walker changed, and
other runs started and asked. -/
theorem started_run_disciplined (s : Session) (ops : List Op)
    (rooted : (s.perform .start).2.RootedWhenAsked s.runs.length ops) :
    (s.perform .start).2.RunDisciplined s.runs.length ops := by
  have hfault := (Run.unnoted_begin s.walker s.buffer).1
  have hstarted : ∀ later, (s.perform .start).2.RootedWhenAsked s.runs.length later →
      (s.perform .start).2.Holds s.runs.length [] (Run.begin s.walker s.buffer) later := by
    intro later hrooted
    refine ⟨?_, Run.given_begin s.walker s.buffer, fun _ => hrooted⟩
    simp [Session.perform]
  generalize (s.perform .start).2 = s₀ at *
  generalize s.runs.length = n at *
  generalize Run.begin s.walker s.buffer = r at *
  have hall : s₀.Holds n [] r (ops ++ []) := by
    rw [List.append_nil]
    exact hstarted ops rooted
  obtain ⟨offsets, r', hholds, hgiven, -⟩ := hall.run
  have hregion : (s₀.run ops).2.walker.region = s₀.walker.region := region_run s₀ ops
  refine ⟨?_, ?_, ?_, ?_, ?_⟩
  · rw [hgiven]
    exact hholds.given.offsets_nodup.map Nat.cast_injective
  · have hlength := congrArg List.length hgiven
    rw [List.length_map, List.length_map] at hlength
    rw [hlength, ← hregion]
    exact hholds.given.length_le
  · rintro before op ⟨after, hsplit⟩ hasked
    rw [List.append_assoc] at hsplit
    obtain ⟨_, r₁, hbefore, -, -⟩ := (hstarted (before ++ ([op] ++ after)) (hsplit ▸ rooted)).run
    obtain ⟨_, r₂, hkeeps⟩ := hbefore.perform
    refine ⟨r₂.status, hkeeps.answered hasked, ?_⟩
    rw [run_concat]
    exact hkeeps.holds.statusOf?_eq
  · rintro before between ⟨after, hsplit⟩
    rw [List.append_assoc] at hsplit
    obtain ⟨_, r₁, hbefore, -, -⟩ := (hstarted (before ++ (between ++ after)) (hsplit ▸ rooted)).run
    obtain ⟨_, r₂, hbetween, -, hadvances⟩ := hbefore.run
    refine ⟨r₁.status, r₂.status, hbefore.statusOf?_eq, ?_, hadvances⟩
    rw [run_append]
    exact hbetween.statusOf?_eq
  · rintro before ⟨after, hsplit⟩ status hstatus fault
    have hbefore := hstarted (before ++ after) (hsplit ▸ rooted)
    simp [hbefore.fault?_run hstatus fault, hfault]

/-- A legacy run that is started while the root counts from the end, and asked when it no
longer does; the pointer behind its record is overwritten before it is followed. -/
theorem started_run_disciplined_overwritten :
    let s : Session := { buffer := List.replicate 0x46 0x44, walker := .legacy (-1) }
    let ops : List Op :=
      [.root 0x40, .next 0, .poke 0x41 [0x00, 0x00], .strict true, .start, .next 1, .next 0]
    (s.perform .start).2.RootedWhenAsked s.runs.length ops ∧
      (s.perform .start).2.RunDisciplined s.runs.length ops :=
  ⟨by decide, started_run_disciplined _ _ (by decide)⟩

end Session

end ConfigSpace
