import ConfigSpace.Proofs.SessionInvariant

/-!
# Lazy runs agree with the eager walk

As long as neither the buffer nor the walker is changed, it makes no difference how the
records of a list are asked for: one by one or all at once, by one run or by many whose
requests are interleaved in any order.  Every run has given a first part of the records of
the eager walk, and will give the rest.

* `Run.KeepsUp` — a run that has given some records, and whose rest completes them to the
  records of the eager walk.  `Run.KeepsUp.next` says what one request makes of it.
* `Session.InStep` — a session in which nothing was changed and every run keeps up;
  `Session.InStep.perform` for one operation, `Session.inStep_run` for any sequence.
* `Session.latest_run` — the walker shows the run that was started last.

The main result is `Session.lazy_runs_agree`.
-/

namespace ConfigSpace

/-! ## One run -/

/-- A run that has given some records of the eager walk, in their order, and whose rest is the
rest of that walk. -/
structure Run.KeepsUp (w : Walker) (buffer : Bytes) (done : List Record) (r : Run) : Prop where
  /-- The run has given the records. -/
  given : r.Given w.region (done.map Record.offset)
  /-- What it will give completes them. -/
  records_eq : (w.walk buffer).records = done ++ (r.rest w buffer).records
  /-- It will end as the eager walk does. -/
  run_eq : (w.walk buffer).run = (r.rest w buffer).run

namespace Run

variable {w : Walker} {buffer : Bytes} {done : List Record} {r : Run}

/-- A new run keeps up: the eager walk is its rest. -/
theorem keepsUp_begin (w : Walker) (buffer : Bytes) : KeepsUp w buffer [] (begin w buffer) :=
  ⟨given_begin w buffer, rfl, rfl⟩

theorem restOf_begin (hroot : 0 ≤ w.root) (buffer : Bytes) :
    RestOf w buffer [] (begin w buffer) (w.walk buffer) :=
  (given_begin w buffer).restOf (fun _ _ => hroot) buffer

/-- What a request makes of a run that keeps up. -/
inductive KeepsUp.Next (w : Walker) (buffer : Bytes) (done : List Record) : Step → Prop where
  /-- It gives the next record of the eager walk. -/
  | found {record : Record} {r' : Run}
      (record_eq : (w.walk buffer).records[done.length]? = some record)
      (following : r'.state = .following) (keepsUp : KeepsUp w buffer (done ++ [record]) r') :
      Next w buffer done (.found record r')
  /-- It has given all of them, and ends as the eager walk does. -/
  | stopped (done_eq : (w.walk buffer).records = done) :
      Next w buffer done (.stopped (w.walk buffer).run)

namespace KeepsUp

theorem restOf (h : KeepsUp w buffer done r) (hroot : 0 ≤ w.root) :
    RestOf w buffer (done.map Record.offset) r (r.rest w buffer) :=
  h.given.restOf (fun _ _ => hroot) buffer

theorem rest_records (h : KeepsUp w buffer done r) :
    (r.rest w buffer).records = (w.walk buffer).records.drop done.length := by
  rw [h.records_eq, List.drop_left]

theorem done_eq_take (h : KeepsUp w buffer done r) :
    done = (w.walk buffer).records.take done.length := by
  rw [h.records_eq, List.take_left]

/-- A run that is over, with all records given, keeps up. -/
theorem completed (hroot : 0 ≤ w.root) (buffer : Bytes) :
    KeepsUp w buffer (w.walk buffer).records (w.walk buffer).run := by
  have hrest := restOf_begin hroot buffer
  have hgiven := hrest.given
  rw [List.nil_append] at hgiven
  have hover := rest_of_ended (hgiven.position_of_ended hrest.ended) w buffer
  refine ⟨hgiven, ?_, ?_⟩
  · rw [hover]
    exact (List.append_nil _).symm
  · rw [hover]

/-- One request to a run that keeps up. -/
theorem next (h : KeepsUp w buffer done r) (hroot : 0 ≤ w.root) :
    Next w buffer done (r.next w buffer).value := by
  have hrest := h.restOf hroot
  have hdrains := hrest.drains
  have hfinal := hrest.given
  have hrecords := h.records_eq
  rw [← h.run_eq] at hdrains hfinal
  generalize (r.rest w buffer).records = left at hdrains hfinal hrecords
  cases hdrains with
  | stop hstopped =>
    rw [hstopped]
    rw [List.append_nil] at hrecords
    exact .stopped hrecords
  | @step _ r₁ _ record left hfound hdrains =>
    have hcontinues := h.given.next (fun _ _ => hroot) buffer
    rw [hfound] at hcontinues ⊢
    cases hcontinues with
    | found given following advances =>
      have hleft := given.rest_eq hdrains (by
        rwa [List.map_cons, ← List.singleton_append, ← List.append_assoc] at hfinal)
      refine .found ?_ following ⟨?_, ?_, hleft.2.1.symm⟩
      · rw [hrecords, List.getElem?_append_right (Nat.le_refl _), Nat.sub_self]
        rfl
      · rw [List.map_append, List.map_singleton]
        exact given
      · rw [hrecords, hleft.1, List.append_assoc, List.singleton_append]

/-- How far a run that keeps up can be: it has not been asked, it is under way, or it has
ended as the eager walk does. -/
theorem status (h : KeepsUp w buffer done r) (hroot : 0 ≤ w.root) :
    (done = [] ∧ r.status = {}) ∨
      (done ≠ [] ∧ r.state = .following ∧ r.notes <+: (w.walk buffer).run.notes) ∨
      (done = (w.walk buffer).records ∧ r.status = (w.walk buffer).run.status) := by
  have hrest := h.restOf hroot
  rw [h.run_eq]
  cases hposition : r.position with
  | root =>
    obtain ⟨hstatus, hnone⟩ := h.given.root hposition
    exact Or.inl ⟨List.map_eq_nil_iff.1 hnone, hstatus⟩
  | behind o next =>
    obtain ⟨hfollowing, hlast, -⟩ := h.given.behind o next hposition
    refine Or.inr (Or.inl ⟨?_, hfollowing, hrest.advances.notes⟩)
    rintro rfl
    cases hlast
  | ended =>
    have hover := rest_of_ended hposition w buffer
    refine Or.inr (Or.inr ⟨?_, by rw [hover]⟩)
    rw [h.records_eq, hover]
    exact (List.append_nil _).symm

end KeepsUp

end Run

/-! ## Many runs -/

namespace Session

/-- An operation that changes the buffer or the walker. -/
def Op.changes : Op → Bool
  | .poke _ _ => true
  | .root _ => true
  | .strict _ => true
  | _ => false

/-- An operation that starts a run. -/
def Op.starts : Op → Bool
  | .start => true
  | .collect => true
  | _ => false

section Perform

variable {s : Session} {op : Op} {n : Nat} {r' : Run}

theorem perform_unchanged (h : op.changes = false) :
    (s.perform op).2.walker = s.walker ∧ (s.perform op).2.buffer = s.buffer := by
  cases op with
  | next i =>
    simp only [perform]
    split
    · exact ⟨rfl, rfl⟩
    · split <;> exact ⟨rfl, rfl⟩
  | status i | result i | payload i | decode i options =>
    simp only [perform]
    split <;> exact ⟨rfl, rfl⟩
  | start | walker | collect => exact ⟨rfl, rfl⟩
  | poke _ _ | root _ | strict _ => cases h

/-- Only starting a run with a number makes a new one. -/
theorem runs_perform_of_ne_start (h : op ≠ .start) :
    (s.perform op).2.runs.length = s.runs.length := by
  cases op with
  | start => exact absurd rfl h
  | next i =>
    simp only [perform]
    split
    · rfl
    · split <;> exact List.length_set
  | result i =>
    simp only [perform]
    split
    · rfl
    · exact List.length_set
  | status i | payload i | decode i options => simp only [perform]; split <;> rfl
  | _ => rfl

theorem runs_length_le_perform (s : Session) (op : Op) :
    s.runs.length ≤ (s.perform op).2.runs.length := by
  by_cases h : op = .start
  · rw [h]
    simp [perform]
  · rw [runs_perform_of_ne_start h]

theorem eq_begin_of_absent (hbefore : s.runs[n]? = none)
    (hafter : (s.perform op).2.runs[n]? = some r') : r' = Run.begin s.walker s.buffer := by
  have hle := List.getElem?_eq_none_iff.1 hbefore
  have hlt := (List.getElem?_eq_some_iff.1 hafter).1
  by_cases h : op = .start
  · subst h
    simp only [perform, List.length_append, List.length_singleton] at hlt hafter
    rw [show n = s.runs.length by omega, List.getElem?_concat_length] at hafter
    exact (Option.some.inj hafter).symm
  · rw [runs_perform_of_ne_start h] at hlt
    omega

/-- The walker goes on showing the same run until another one is started. -/
theorem latest_perform (h : op.starts = false) : (s.perform op).2.latest = s.latest := by
  cases op with
  | start | collect => cases h
  | next i =>
    simp only [perform]
    split
    · rfl
    · split <;> rfl
  | status i | result i | payload i | decode i options => simp only [perform]; split <;> rfl
  | _ => rfl

end Perform

theorem latest_run {ops : List Op} (s : Session) (h : ∀ op ∈ ops, op.starts = false) :
    (s.run ops).2.latest = s.latest := by
  induction ops generalizing s with
  | nil => rfl
  | cons op ops ih =>
    have hhead := h op List.mem_cons_self
    have htail := ih (s.perform op).2 fun op' hmem => h op' (List.mem_cons_of_mem _ hmem)
    exact htail.trans (latest_perform hhead)

theorem runs_length_le_run (s : Session) (ops : List Op) :
    s.runs.length ≤ (s.run ops).2.runs.length := by
  induction ops generalizing s with
  | nil => exact Nat.le_refl _
  | cons op ops ih => exact (runs_length_le_perform s op).trans (ih _)

/-- Once a run with a number was started, the walker shows the status of this run. -/
theorem walkerStatus_run_start (s : Session) {after : List Op}
    (h : ∀ op ∈ after, op.starts = false) :
    (s.run (.start :: after)).2.statusOf? s.runs.length =
      some (s.run (.start :: after)).2.walkerStatus := by
  have hlatest : (s.run (.start :: after)).2.latest = .numbered s.runs.length := latest_run _ h
  have hlt : s.runs.length < (s.run (.start :: after)).2.runs.length := by
    refine Nat.lt_of_lt_of_le ?_ (runs_length_le_run (s.perform .start).2 after)
    simp [perform]
  rw [walkerStatus, hlatest, statusOf?]
  simp only [List.getElem?_eq_getElem hlt, Option.map_some, Option.getD_some]

theorem walkerStatus_run_collect (s : Session) {after : List Op}
    (h : ∀ op ∈ after, op.starts = false) :
    (s.run (.collect :: after)).2.walkerStatus = (s.walker.walk s.buffer).run.status := by
  have hlatest : (s.run (.collect :: after)).2.latest =
      .collected (s.walker.walk s.buffer).run := latest_run _ h
  rw [walkerStatus, hlatest]

/-- A session in which neither walker nor buffer was changed, and in which every run keeps up,
having given these records. -/
structure InStep (w : Walker) (buffer : Bytes) (s : Session) (given : Nat → List RawCapability) :
    Prop where
  /-- The walker is as it was. -/
  walker_eq : s.walker = w
  /-- So is the buffer. -/
  buffer_eq : s.buffer = buffer
  /-- A run that does not exist has given nothing. -/
  absent : ∀ n, s.runs[n]? = none → given n = []
  /-- A run that exists keeps up. -/
  running : ∀ n r, s.runs[n]? = some r →
    ∃ done, given n = done.map (·.load buffer) ∧ Run.KeepsUp w buffer done r

namespace InStep

variable {w : Walker} {buffer : Bytes} {s : Session} {given : Nat → List RawCapability}
  {n : Nat} {r : Run} {done : List Record}

/-- A run that is asked for its next record answers with that of the eager walk, or has given
all of them. -/
theorem perform_next (h : InStep w buffer s given) (hroot : 0 ≤ w.root) (hrun : s.runs[n]? = some r)
    (hkeepsUp : Run.KeepsUp w buffer done r) :
    (∃ record r' index, (s.perform (.next n)).1.value =
        .record (record.load buffer) index r'.status ∧
      (w.walk buffer).records[done.length]? = some record ∧ r'.state = .following ∧
      (s.perform (.next n)).2.runs[n]? = some r' ∧
      Run.KeepsUp w buffer (done ++ [record]) r') ∨
    ((s.perform (.next n)).1.value = .stopped (w.walk buffer).run.status ∧
      (w.walk buffer).records = done ∧
      (s.perform (.next n)).2.runs[n]? = some (w.walk buffer).run) := by
  have hlt := (List.getElem?_eq_some_iff.1 hrun).1
  have hnext := hkeepsUp.next hroot
  generalize hstep : (r.next w buffer).value = step at hnext
  rw [← h.walker_eq, ← h.buffer_eq] at hstep
  cases hnext with
  | @found record r' record_eq following keepsUp =>
    obtain ⟨hvalue, hsession⟩ := perform_next_of_found hrun hstep
    rw [h.buffer_eq] at hvalue
    refine Or.inl ⟨record, r', _, hvalue, record_eq, following, ?_, keepsUp⟩
    rw [hsession]
    exact List.getElem?_set_self hlt
  | stopped done_eq =>
    obtain ⟨hvalue, hsession⟩ := perform_next_of_stopped hrun hstep
    refine Or.inr ⟨hvalue, done_eq, ?_⟩
    rw [hsession]
    exact List.getElem?_set_self hlt

theorem perform_result (h : InStep w buffer s given) (hroot : 0 ≤ w.root)
    (hrun : s.runs[n]? = some r) (hkeepsUp : Run.KeepsUp w buffer done r) :
    (s.perform (.result n)).1.value =
        .walk (((w.walk buffer).records.drop done.length).map (·.load buffer))
          (w.walk buffer).run.status ∧
      (s.perform (.result n)).2.runs[n]? = some (w.walk buffer).run := by
  have hlt := (List.getElem?_eq_some_iff.1 hrun).1
  have hescape := (hkeepsUp.restOf hroot).escape_eq
  have hresult := Session.perform_result hrun (by rwa [h.walker_eq, h.buffer_eq])
  rw [h.walker_eq, h.buffer_eq, hkeepsUp.rest_records, ← hkeepsUp.run_eq] at hresult
  refine ⟨hresult.1, ?_⟩
  rw [hresult.2]
  exact List.getElem?_set_self hlt

theorem perform_asked (h : InStep w buffer s given) (hroot : 0 ≤ w.root)
    (hrun : s.runs[n]? = some r)
    (hkeepsUp : Run.KeepsUp w buffer done r) {op : Op} (hasked : op.asked? = some n) :
    ∃ more r', s.givenBy n op = more.map (·.load buffer) ∧
      (s.perform op).2.runs[n]? = some r' ∧ Run.KeepsUp w buffer (done ++ more) r' := by
  rw [givenBy_of_asked hasked]
  cases op with
  | next i =>
    cases hasked
    rcases h.perform_next hroot hrun hkeepsUp with
      ⟨record, r', index, hvalue, -, -, hruns, hkeepsUp'⟩ | ⟨hvalue, hdone, hruns⟩
    · refine ⟨[record], r', ?_, hruns, hkeepsUp'⟩
      rw [hvalue]
      rfl
    · refine ⟨[], (w.walk buffer).run, ?_, hruns, ?_⟩
      · rw [hvalue]
        rfl
      · rw [List.append_nil, ← hdone]
        exact .completed hroot buffer
  | result i =>
    cases hasked
    obtain ⟨hvalue, hruns⟩ := h.perform_result hroot hrun hkeepsUp
    refine ⟨(w.walk buffer).records.drop done.length, (w.walk buffer).run, ?_, hruns, ?_⟩
    · rw [hvalue]
      rfl
    · have hall : done ++ (w.walk buffer).records.drop done.length = (w.walk buffer).records := by
        rw [← hkeepsUp.rest_records, ← hkeepsUp.records_eq]
      rw [hall]
      exact .completed hroot buffer
  | _ => cases hasked

/-- One operation that changes nothing leaves every run in step. -/
theorem perform (h : InStep w buffer s given) (hroot : 0 ≤ w.root) {op : Op}
    (hop : op.changes = false) :
    InStep w buffer (s.perform op).2 fun n => given n ++ s.givenBy n op := by
  obtain ⟨hwalker, hbuffer⟩ := perform_unchanged (s := s) hop
  refine ⟨hwalker.trans h.walker_eq, hbuffer.trans h.buffer_eq, fun n hafter => ?_,
    fun n r' hafter => ?_⟩
  · have hbefore : s.runs[n]? = none := by
      rw [List.getElem?_eq_none_iff] at hafter ⊢
      exact (runs_length_le_perform s op).trans hafter
    rw [h.absent n hbefore, givenBy_of_absent hbefore]
    rfl
  cases hbefore : s.runs[n]? with
  | none =>
    -- A run that was not there before is a new one, and has given nothing.
    rw [eq_begin_of_absent hbefore hafter, h.walker_eq, h.buffer_eq]
    refine ⟨[], ?_, Run.keepsUp_begin w buffer⟩
    rw [h.absent n hbefore, givenBy_of_absent hbefore]
    rfl
  | some r =>
    obtain ⟨done, hgiven, hkeepsUp⟩ := h.running n r hbefore
    by_cases hasked : op.asked? = some n
    · obtain ⟨more, r₁, hmore, hruns, hkeepsUp'⟩ := h.perform_asked hroot hbefore hkeepsUp hasked
      rw [hruns] at hafter
      cases hafter
      refine ⟨done ++ more, ?_, hkeepsUp'⟩
      rw [hgiven, hmore, List.map_append]
    · have hlt := (List.getElem?_eq_some_iff.1 hbefore).1
      rw [runs_perform_of_not_asked hlt hasked, hbefore] at hafter
      cases hafter
      refine ⟨done, ?_, hkeepsUp⟩
      rw [hgiven, givenBy_of_not_asked hasked, List.append_nil]

end InStep

theorem inStep_run {w : Walker} (buffer : Bytes) (hroot : 0 ≤ w.root) {ops : List Op}
    (hops : ∀ op ∈ ops, op.changes = false) :
    InStep w buffer (({ buffer, walker := w } : Session).run ops).2
      fun n => ({ buffer, walker := w } : Session).given n ops := by
  induction ops using List.reverseRecOn with
  | nil =>
    refine ⟨rfl, rfl, fun _ _ => rfl, fun n r hrun => ?_⟩
    cases hrun
  | append_singleton ops op ih =>
    have hbefore := ih fun op' hmem => hops op' (List.mem_append_left _ hmem)
    have hop := hops op (List.mem_append_right _ (List.mem_singleton_self op))
    have hafter := hbefore.perform hroot hop
    simp only [run_concat, given_concat]
    exact hafter

/-! ## The main result -/

/-- How the runs of a session stand to the eager walk once operations have been carried out:
`fresh` is the session before them, without any run, and `s` the one after them; `all` are the
records of the eager walk, and `eager` is its status. -/
structure LazyAgreement (fresh : Session) (ops : List Op) (s : Session)
    (all : List RawCapability) (eager : Status) : Prop where
  /-- Asked for everything at once, the walker answers with the eager walk. -/
  collect : (s.perform .collect).1.value = .walk all eager
  /-- A run has given a first part of the records. -/
  given_eq : ∀ n < s.runs.length, fresh.given n ops = all.take (fresh.given n ops).length
  /-- Before the first record its status is the initial one.  After further ones it is under
  way, without a fault, and its notes are a first part of the eager ones.  When it has stopped,
  all records are given and its status is the eager one. -/
  status_eq : ∀ n < s.runs.length,
    (fresh.given n ops = [] ∧ s.statusOf? n = some {}) ∨
    (fresh.given n ops ≠ [] ∧
      ∃ notes, notes <+: eager.notes ∧ s.statusOf? n = some ⟨.following, notes⟩) ∨
    (fresh.given n ops = all ∧ s.statusOf? n = some eager)
  /-- Its next record is the next one of the eager walk, or else all of them are given. -/
  next : ∀ n < s.runs.length,
    (∃ raw index notes,
      (s.perform (.next n)).1.value = .record raw index ⟨.following, notes⟩ ∧
      all[(fresh.given n ops).length]? = some raw ∧ notes <+: eager.notes) ∨
    ((s.perform (.next n)).1.value = .stopped eager ∧ fresh.given n ops = all)
  /-- Asked for everything, it answers with the records that are left. -/
  result : ∀ n < s.runs.length,
    (s.perform (.result n)).1.value = .walk (all.drop (fresh.given n ops).length) eager
  /-- Its status is not affected by what is asked of other runs. -/
  isolated : ∀ n < s.runs.length, ∀ op : Op, op.asked? ≠ some n →
    (s.perform op).2.statusOf? n = s.statusOf? n
  /-- Before any run is started, the walker shows the initial status. -/
  walker_initial : (∀ op ∈ ops, op.starts = false) → s.walkerStatus = {}
  /-- Once a run with a number was started, and none since, it shows that of this run. -/
  walker_started : ∀ before after, ops = before ++ .start :: after →
    (∀ op ∈ after, op.starts = false) →
      s.statusOf? (fresh.run before).2.runs.length = some s.walkerStatus
  /-- Once a run was started and asked for everything at once, and none since, it shows the
  eager one. -/
  walker_collected : ∀ before after, ops = before ++ .collect :: after →
    (∀ op ∈ after, op.starts = false) → s.walkerStatus = eager

/-- **Lazy runs agree with the eager walk.**  Any number of runs of one walker over one buffer,
their requests interleaved in any order. -/
theorem lazy_runs_agree (w : Walker) (buffer : Bytes) (ops : List Op) (root_nonneg : 0 ≤ w.root)
    (unchanged : ∀ op ∈ ops, op.changes = false) :
    let fresh : Session := { buffer, walker := w }
    LazyAgreement fresh ops (fresh.run ops).2 ((w.walk buffer).records.map (·.load buffer))
      (w.walk buffer).run.status := by
  intro fresh
  have hstep : InStep w buffer (fresh.run ops).2 fun n => fresh.given n ops :=
    inStep_run buffer root_nonneg unchanged
  have hrunning : ∀ n < (fresh.run ops).2.runs.length, ∃ r done,
      (fresh.run ops).2.runs[n]? = some r ∧
      fresh.given n ops = done.map (·.load buffer) ∧ Run.KeepsUp w buffer done r := by
    intro n hn
    obtain ⟨done, hgiven, hkeepsUp⟩ := hstep.running n _ (List.getElem?_eq_getElem hn)
    exact ⟨_, done, List.getElem?_eq_getElem hn, hgiven, hkeepsUp⟩
  refine ⟨?_, ?_, ?_, ?_, ?_, fun n hn op => statusOf?_perform_of_not_asked hn, ?_, ?_, ?_⟩
  · have hescape := (Run.restOf_begin root_nonneg buffer).escape_eq
    simp only [Session.perform, walkAnswer, hstep.walker_eq, hstep.buffer_eq, hescape]
  · intro n hn
    obtain ⟨r, done, -, hgiven, hkeepsUp⟩ := hrunning n hn
    rw [hgiven, List.length_map, ← List.map_take, ← hkeepsUp.done_eq_take]
  · intro n hn
    obtain ⟨r, done, hrun, hgiven, hkeepsUp⟩ := hrunning n hn
    rw [hgiven, statusOf?, hrun]
    rcases hkeepsUp.status root_nonneg with ⟨hdone, hstatus⟩ | ⟨hdone, hfollowing, hnotes⟩ |
      ⟨hdone, hstatus⟩
    · exact Or.inl ⟨by rw [hdone]; rfl, congrArg some hstatus⟩
    · refine Or.inr (Or.inl ⟨?_, r.notes, hnotes, ?_⟩)
      · rwa [Ne, List.map_eq_nil_iff]
      · rw [Option.map_some, Run.status, hfollowing]
    · exact Or.inr (Or.inr ⟨by rw [hdone], congrArg some hstatus⟩)
  · intro n hn
    obtain ⟨r, done, hrun, hgiven, hkeepsUp⟩ := hrunning n hn
    rw [hgiven, List.length_map, List.getElem?_map]
    rcases hstep.perform_next root_nonneg hrun hkeepsUp with
      ⟨record, r', index, hvalue, hrecord, hfollowing, -, hkeepsUp'⟩ | ⟨hvalue, hdone, -⟩
    · have hadvances := (hkeepsUp'.restOf root_nonneg).advances
      rw [← hkeepsUp'.run_eq] at hadvances
      refine Or.inl ⟨record.load buffer, index, r'.notes, ?_, ?_, hadvances.notes⟩
      · rw [hvalue, Run.status, hfollowing]
      · rw [hrecord]
        rfl
    · exact Or.inr ⟨hvalue, by rw [hdone]⟩
  · intro n hn
    obtain ⟨r, done, hrun, hgiven, hkeepsUp⟩ := hrunning n hn
    rw [(hstep.perform_result root_nonneg hrun hkeepsUp).1, hgiven, List.length_map, List.map_drop]
  · intro hnone
    rw [walkerStatus, latest_run fresh hnone]
  · rintro before after rfl hnone
    rw [run_append]
    exact walkerStatus_run_start _ hnone
  · rintro before after rfl hnone
    have hbefore : InStep w buffer (fresh.run before).2 fun n => fresh.given n before :=
      inStep_run buffer root_nonneg fun op hmem => unchanged op (List.mem_append_left _ hmem)
    rw [run_append, walkerStatus_run_collect _ hnone, hbefore.walker_eq, hbefore.buffer_eq]

/-- Two runs of one legacy walker over a capability that points to itself, the second one ahead
of the first. -/
theorem lazy_runs_agree_self_pointer :
    let w : Walker := .legacy 0x40
    let buffer : Bytes := List.replicate 0x46 0x40
    let ops : List Op := [.start, .start, .next 1, .next 1, .next 0, .collect, .walker]
    let fresh : Session := { buffer, walker := w }
    (0 ≤ w.root ∧ ∀ op ∈ ops, op.changes = false) ∧
      LazyAgreement fresh ops (fresh.run ops).2 ((w.walk buffer).records.map (·.load buffer))
        (w.walk buffer).run.status :=
  ⟨⟨by decide, by decide⟩, lazy_runs_agree (.legacy 0x40) _ _ (by decide) (by decide)⟩

end Session

end ConfigSpace
