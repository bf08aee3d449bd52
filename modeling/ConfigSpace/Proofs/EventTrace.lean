import ConfigSpace.Proofs.FailFast
import ConfigSpace.Proofs.Requests

/-!
# Events and listings

Capabilities are decoded while the walk that finds them goes on, so the events of both come
in turns.  For a caller who does not ask to fail fast, what is reported can be read off the
listing, and the other way round.

* `Entry.account` — what is reported while the capability of an entry is decoded.
* `RawCapability.entry_of_tolerant` — so much is reported, and no more.  A decoder only
  reports a failure inside a container, which is then its own failure
  (`Decoder.Built.accounted`).
* `Trace` — the events of a walk and of its decoding, one after the other: each entry is
  found, maybe after a note on the pointer to it, and then accounted for; the walk may be
  stopped after that.
* `trace_drain` — the events of a run are such a trace, by induction on its requests.
* `Listing.TracedBy` — what a trace says about the events of each sort.

The main result is `listing_traced`.
-/

namespace ConfigSpace

/-! ## What decoding reports -/

/-- What an error tells of a container: the failure inside it was reported. -/
def Error.nestedEvents (e : Error) : List Event :=
  match e.fault with
  | .nested name vendorId subId _ _ inner _ => [.nestedFailed name vendorId subId inner.message]
  | _ => []

/-- A fault of a payload by itself is not reported. -/
theorem Error.nestedEvents_ofFault {f : Fault} (own : f.inner? = none) :
    (ofFault f).nestedEvents = [] := by
  cases f with
  | nested => cases own
  | _ => rfl

/-- A result of which nothing was reported but a failure inside a container. -/
def Logged.Accounted {α : Type} : Logged (Except Error α) → Prop
  | ⟨.ok _, events⟩ => events = []
  | ⟨.error e, events⟩ => events = e.nestedEvents

section Accounted

variable {α β : Type}

theorem accounted_quiet {payload : Bytes} {r : Except Fault α} (h : Sound payload r) :
    (Logged.quiet r).Accounted := by
  cases r with
  | ok a => rfl
  | error f => exact (Error.nestedEvents_ofFault (h f rfl).2).symm

theorem accounted_map {l : Logged (Except Error α)} (h : l.Accounted) (g : α → β) :
    (l.map (·.map g)).Accounted := by
  rcases l with ⟨a | e, events⟩ <;> exact h

/-- The registers in a container, as long as their decoders report nothing themselves. -/
theorem accounted_dispatch {d : Dispatcher α} {vendorId subId : Int} {data : Bytes}
    {revision length : Option Int}
    (hd : ∀ decoder, d.lookup vendorId subId = some decoder → (decoder data subId).events = []) :
    (d.dispatch vendorId subId data revision length).Accounted := by
  unfold Dispatcher.dispatch
  cases hlookup : d.lookup vendorId subId with
  | none => rfl
  | some decoder =>
    have hquiet := hd decoder hlookup
    rcases hinside : decoder data subId with ⟨e | inside, events⟩
    all_goals
      rw [hinside] at hquiet
      cases hquiet
      simp only [hinside]
      rfl

end Accounted

theorem VendorSpecific.accounted_decode (payload : Bytes) (vendorId deviceId : Option Int) :
    (VendorSpecific.decode payload vendorId deviceId).Accounted := by
  unfold VendorSpecific.decode
  cases hread : VendorSpecific.read payload with
  | error f => exact (Error.nestedEvents_ofFault (VendorSpecific.sound_read payload f hread).2).symm
  | ok parts =>
    obtain ⟨length, registers⟩ := parts
    simp only
    split
    · refine accounted_map (accounted_dispatch fun decoder hlookup => ?_) _
      rw [VendorSpecific.eq_of_lookup hlookup]
      rfl
    · rfl

theorem DesignatedVendor.accounted_decode (payload : Bytes) :
    (DesignatedVendor.decode payload).Accounted := by
  unfold DesignatedVendor.decode
  cases hread : DesignatedVendor.read payload with
  | error f =>
    exact (Error.nestedEvents_ofFault (DesignatedVendor.sound_read payload f hread).2).symm
  | ok parts =>
    refine accounted_map (accounted_dispatch fun decoder hlookup => ?_) _
    rw [DesignatedVendor.eq_of_lookup hlookup]
    rfl

/-- Every registered decoder reports a failure inside a container, and nothing else. -/
theorem Decoder.Built.accounted {decoder : Decoder} (h : decoder.Built) (payload : Bytes)
    (options : Options) : (decoder payload options).Accounted := by
  cases h with
  | constant body => rfl
  | named id title => rfl
  | plain sound => exact accounted_quiet (sound_map (sound payload) _)
  | vendorSpecific => exact accounted_map (VendorSpecific.accounted_decode _ _ _) _
  | designatedVendor => exact accounted_map (DesignatedVendor.accounted_decode _) _

/-! ## Entries -/

namespace Entry

/-- The offset of the header. -/
def offset : Entry → Int
  | decoded d => d.offset
  | failed f => f.offset

/-- The identifier. -/
def capId : Entry → Int
  | decoded d => d.capId
  | failed f => f.capId

/-- Whether the capability is one of the extended list. -/
def extended : Entry → Bool
  | decoded d => d.version.isSome
  | failed f => f.version.isSome

/-- What is reported while the capability of an entry is decoded: that its identifier has no
decoder, or that it failed, after the failure inside it, if it is one of a container. -/
def account (e : Entry) : List Event :=
  (if isRegistered e.extended e.capId then []
    else [.unknownCapability e.offset e.capId e.extended]) ++
  match e.failed? with
  | none => []
  | some f => f.error.nestedEvents ++ [.decodeFailed f.offset f.capId f.error.message]

end Entry

namespace RawCapability

variable {options : Options}

/-- The entry of a capability has its place and its identifier. -/
theorem place_settled (raw : RawCapability) (options : Options) :
    (raw.settled options).offset = raw.offset ∧ (raw.settled options).capId = raw.capId ∧
      (raw.settled options).extended = raw.extended := by
  unfold settled
  cases hvalue : (raw.decode options).value with
  | ok d =>
    obtain ⟨hoffset, hcapId, hversion⟩ := place_of_decode hvalue
    exact ⟨hoffset, hcapId, congrArg Option.isSome hversion⟩
  | error e => exact ⟨rfl, rfl, rfl⟩

/-- A caller who does not ask to fail fast gets the settled entry of a capability, and an
account of it. -/
theorem entry_of_tolerant (raw : RawCapability) (tolerant : options.failFast = false) :
    raw.entry options = ⟨.ok (raw.settled options), (raw.settled options).account⟩ := by
  obtain ⟨hoffset, hcapId, hextended⟩ := raw.place_settled options
  unfold Entry.account
  rw [hoffset, hcapId, hextended]
  unfold settled entry decode decodeBody isRegistered
  cases hdecoder : decoder? raw.extended raw.capId with
  | none => rfl
  | some decoder =>
    have haccounted := (built_of_decoder? hdecoder).accounted raw.payload options
    simp only
    generalize decoder raw.payload options = answer at haccounted
    rcases answer with ⟨e | body, events⟩
    · cases haccounted
      simp [Logged.map, tolerant, Entry.failed?, Error.nestedEvents, Error.message]
    · cases haccounted
      rfl

end RawCapability

/-! ## Capabilities one after the other -/

/-- What is reported while capabilities are decoded for a caller who does not ask to fail
fast: the way to each of them, and the account of its entry. -/
theorem events_decodeSteps_of_tolerant {options : Options} (tolerant : options.failFast = false)
    (steps : List (Logged RawCapability)) :
    (decodeSteps options steps).events =
      steps.flatMap fun step => step.events ++ (step.value.settled options).account := by
  induction steps with
  | nil => rfl
  | cons step rest ih =>
    simp only [decodeSteps, step.value.entry_of_tolerant tolerant, Logged.after, Logged.map, ih,
      List.flatMap_cons]

/-- What is reported while a walk goes on and what it finds is decoded. -/
def Walk.reported (k : Walk) (buffer : Bytes) (options : Options) : List Event :=
  (k.steps.flatMap fun step =>
    step.events ++ ((step.value.load buffer).settled options).account) ++ k.closing

theorem Walk.reported_cons (k : Walk) (step : Logged Record) (buffer : Bytes)
    (options : Options) :
    Walk.reported { k with steps := step :: k.steps } buffer options =
      step.events ++ (((step.value.load buffer).settled options).account ++
        k.reported buffer options) := by
  simp only [reported, List.flatMap_cons, List.append_assoc]

/-- A caller who does not ask to fail fast gets the settled listing, and the events reported
on the way to it. -/
theorem Walk.listing_of_tolerant {k : Walk} {options : Options} (hescape : k.escape = none)
    (tolerant : options.failFast = false) (buffer : Bytes) :
    k.listing buffer options = ⟨.ok (k.settled buffer options), k.reported buffer options⟩ := by
  have hvalue := value_decodeSteps_of_tolerant tolerant (k.steps.map (·.map (·.load buffer)))
  have hevents := events_decodeSteps_of_tolerant tolerant (k.steps.map (·.map (·.load buffer)))
  rw [k.value_steps_load] at hvalue
  rw [List.flatMap_map] at hevents
  unfold listing
  rcases hsteps : decodeSteps options (k.steps.map (·.map (·.load buffer))) with ⟨value, events⟩
  rw [hsteps] at hvalue hevents
  cases hvalue
  cases hevents
  simp only [hsteps, hescape]
  rfl

/-! ## Traces -/

/-- The events of a walk and of the decoding of what it finds, together with the entries, the
notes and the fault of the listing that comes of it. -/
inductive Trace (region : Region) :
    List Entry → List String → Option WalkFault → List Event → Prop where
  /-- The walk comes to its end. -/
  | finished : Trace region [] [] none []
  /-- The walk is stopped. -/
  | truncated {fault : WalkFault} {offset : Int} (origin_eq : fault.origin = some offset) :
      Trace region [] [] (some fault) [.walkTruncated region fault]
  /-- The walk is stopped because the target of a noted pointer cannot be read. -/
  | unreadable {source : Int} {target : Nat} :
      Trace region [] [misplacedNote target] (some (.unterminated target .headerPastEnd))
        [.pointerNote (misplacedNote target) source target,
          .walkTruncated region (.unterminated target .headerPastEnd)]
  /-- A capability is found and accounted for. -/
  | entry {e : Entry} {nextPtr : Int} {entries : List Entry} {notes : List String}
      {fault : Option WalkFault} {events : List Event}
      (rest : Trace region entries notes fault events) :
      Trace region (e :: entries) notes fault
        (.walkStep e.offset e.capId nextPtr :: (e.account ++ events))
  /-- The pointer to it is noted first. -/
  | noted {e : Entry} {source nextPtr : Int} {target : Nat} {entries : List Entry}
      {notes : List String} {fault : Option WalkFault} {events : List Event}
      (offset_eq : e.offset = target) (rest : Trace region entries notes fault events) :
      Trace region (e :: entries) (misplacedNote target :: notes) fault
        (.pointerNote (misplacedNote target) source target ::
          .walkStep e.offset e.capId nextPtr :: (e.account ++ events))

theorem Trace.of_none {region : Region} {fault : Option WalkFault} (h : fault = none) :
    Trace region [] [] fault [] := by
  subst h
  exact .finished

/-- **The events of a run.**  As long as a run was not stopped and finds a slot for every
offset, what is reported until it stops is a trace of what it finds and notes from now on. -/
theorem trace_drain {w : Walker} {buffer : Bytes} (options : Options) {fuel : Nat} {r : Run}
    (hroot : r.position = .root → 0 ≤ w.root) (hfault : r.state.fault? = none)
    (hescape : (r.drain w buffer fuel).escape = none) :
    ∃ notes, (r.drain w buffer fuel).run.notes = r.notes ++ notes ∧
      Trace w.region ((r.drain w buffer fuel).settled buffer options).entries notes
        (r.drain w buffer fuel).run.state.fault?
        ((r.drain w buffer fuel).reported buffer options) := by
  induction fuel generalizing r with
  | zero => exact ⟨[], (List.append_nil _).symm, .of_none hfault⟩
  | succ fuel ih =>
    have hanswer := Run.answers_next hroot buffer
    rw [Run.drain] at hescape ⊢
    rcases hnext : r.next w buffer with ⟨value, events⟩
    rw [hnext] at hanswer hescape
    cases hanswer with
    | idle => exact ⟨[], (List.append_nil _).symm, .of_none hfault⟩
    | finished => exact ⟨[], (List.append_nil _).symm, .finished⟩
    | truncated origin_eq => exact ⟨[], (List.append_nil _).symm, .truncated origin_eq⟩
    | unreadable checked =>
      obtain ⟨-, rfl⟩ := Walker.eq_note_of_check checked
      exact ⟨[_], rfl, .unreadable⟩
    | @found source target note visited checked fits =>
      -- The record is found and accounted for, and the rest of the run is a trace already.
      obtain ⟨notes, hnotes, htrace⟩ := ih (by simp) rfl hescape
      refine ⟨note.toList ++ notes, ?_, ?_⟩
      · rw [← List.append_assoc]
        exact hnotes
      generalize hrecord : Record.ofHeader target (w.region.header buffer target)
        (w.region.readable buffer) = record at *
      obtain ⟨hoffset, hcapId, -⟩ := (record.load buffer).place_settled options
      have hstep : (Event.walkStep target (w.region.header buffer target).capId
          (w.region.header buffer target).nextPtr) =
          .walkStep ((record.load buffer).settled options).offset
            ((record.load buffer).settled options).capId
            (w.region.header buffer target).nextPtr := by
        rw [hoffset, hcapId, ← hrecord]
        rfl
      rw [Walk.reported_cons, hstep]
      cases note with
      | none => exact .entry htrace
      | some text =>
        obtain ⟨-, rfl⟩ := Walker.eq_note_of_check checked
        refine .noted ?_ htrace
        rw [hoffset, ← hrecord]
        rfl
    | escaped => cases hescape

/-! ## What a trace says -/

namespace Event

/-- The place and the identifier of a capability that the walk found. -/
def step? : Event → Option (Int × Int)
  | walkStep offset capId _ => some (offset, capId)
  | _ => none

/-- A note on a pointer. -/
def note? : Event → Option String
  | pointerNote note _ _ => some note
  | _ => none

/-- The fault that stopped the walk. -/
def truncation? : Event → Option WalkFault
  | walkTruncated _ fault => some fault
  | _ => none

end Event

/-- Events of decoding are none of the walk, and an account does not say that there is no
list. -/
theorem Entry.reporter_of_mem_account {e : Entry} {event : Event} (h : event ∈ e.account) :
    event.reporter ≠ .walk ∧ event ≠ .listAbsent := by
  rcases List.mem_append.1 h with hunknown | hfailed
  · split at hunknown
    · cases hunknown
    · rw [List.mem_singleton.1 hunknown]
      simp [Event.reporter]
  · split at hfailed
    · cases hfailed
    · rcases List.mem_append.1 hfailed with hnested | hlast
      · unfold Error.nestedEvents at hnested
        split at hnested
        · rw [List.mem_singleton.1 hnested]
          simp [Event.reporter]
        · cases hnested
      · rw [List.mem_singleton.1 hlast]
        simp [Event.reporter]

theorem Entry.filterMap_account {β : Type} {p : Event → Option β}
    (hp : ∀ event, event.reporter ≠ .walk → p event = none) (e : Entry) :
    e.account.filterMap p = [] :=
  List.filterMap_eq_nil_iff.2 fun event hmem => hp event (reporter_of_mem_account hmem).1

namespace Trace

variable {region : Region} {entries : List Entry} {notes : List String}
  {fault : Option WalkFault} {events : List Event}

/-- The capabilities found are those of the entries, in order. -/
theorem steps_eq (h : Trace region entries notes fault events) :
    events.filterMap Event.step? = entries.map fun e => (e.offset, e.capId) := by
  have haccount := Entry.filterMap_account (p := Event.step?) fun event hevent => by
    cases event <;> simp_all [Event.reporter, Event.step?]
  induction h with
  | finished => rfl
  | truncated | unreadable => rfl
  | entry rest ih => simp [Event.step?, haccount, ih]
  | noted offset_eq rest ih => simp [List.filterMap_cons, Event.step?, haccount, ih]

/-- The notes reported are those of the listing, in order. -/
theorem notes_eq (h : Trace region entries notes fault events) :
    events.filterMap Event.note? = notes := by
  have haccount := Entry.filterMap_account (p := Event.note?) fun event hevent => by
    cases event <;> simp_all [Event.reporter, Event.note?]
  induction h with
  | finished => rfl
  | truncated | unreadable => rfl
  | entry rest ih => simp [List.filterMap_cons, Event.note?, haccount, ih]
  | noted offset_eq rest ih => simp [List.filterMap_cons, Event.note?, haccount, ih]

theorem truncation_eq (h : Trace region entries notes fault events) :
    events.filterMap Event.truncation? = fault.toList := by
  have haccount := Entry.filterMap_account (p := Event.truncation?) fun event hevent => by
    cases event <;> simp_all [Event.reporter, Event.truncation?]
  induction h with
  | finished => rfl
  | truncated | unreadable => rfl
  | entry rest ih => simp [List.filterMap_cons, Event.truncation?, haccount, ih]
  | noted offset_eq rest ih => simp [List.filterMap_cons, Event.truncation?, haccount, ih]

theorem getLast?_eq (h : Trace region entries notes fault events) {stopped : WalkFault}
    (hstopped : fault = some stopped) :
    events.getLast? = some (.walkTruncated region stopped) := by
  induction h with
  | finished => cases hstopped
  | truncated origin_eq =>
    cases hstopped
    rfl
  | unreadable =>
    cases hstopped
    rfl
  | entry rest ih => simp [List.getLast?_cons, List.getLast?_append, ih hstopped]
  | noted offset_eq rest ih => simp [List.getLast?_cons, List.getLast?_append, ih hstopped]

/-- All that is not reported by the walk itself are the accounts of the entries, in order. -/
theorem accounts_eq (h : Trace region entries notes fault events) :
    events.filter (fun event => event.reporter ≠ .walk) = entries.flatMap Entry.account := by
  have haccount : ∀ e : Entry,
      e.account.filter (fun event => event.reporter ≠ .walk) = e.account := by
    intro e
    refine List.filter_eq_self.2 fun event hmem => ?_
    exact decide_eq_true (Entry.reporter_of_mem_account hmem).1
  induction h with
  | finished => rfl
  | truncated | unreadable => rfl
  | entry rest ih =>
    rw [List.filter_cons_of_neg (by simp [Event.reporter]), List.filter_append, haccount, ih,
      List.flatMap_cons]
  | noted offset_eq rest ih =>
    rw [List.filter_cons_of_neg (by simp [Event.reporter]),
      List.filter_cons_of_neg (by simp [Event.reporter]), List.filter_append, haccount, ih,
      List.flatMap_cons]

theorem listAbsent_notMem (h : Trace region entries notes fault events) :
    .listAbsent ∉ events := by
  have haccount : ∀ e : Entry, .listAbsent ∉ e.account :=
    fun e hmem => (Entry.reporter_of_mem_account hmem).2 rfl
  induction h with
  | finished | truncated | unreadable => simp
  | entry rest ih => simp [haccount, ih]
  | noted offset_eq rest ih => simp [haccount, ih]

end Trace

/-! ## Listings -/

/-- Events that are a trace of a listing; and what this says about the events of each sort. -/
structure Listing.TracedBy (l : Listing) (region : Region) (events : List Event) : Prop where
  /-- The events of the walk and of decoding come in turns. -/
  trace : Trace region l.entries l.notes l.state.fault? events
  /-- The capabilities found are those of the entries, in order. -/
  steps_eq : events.filterMap Event.step? = l.entries.map fun e => (e.offset, e.capId)
  /-- The notes reported are those of the listing, in order. -/
  notes_eq : events.filterMap Event.note? = l.notes
  /-- What is reported besides the walk are the accounts of the entries, in order. -/
  accounts_eq : events.filter (fun event => event.reporter ≠ .walk) =
    l.entries.flatMap Entry.account
  /-- It is reported once that the walk was stopped, if it was. -/
  truncation_eq : events.filterMap Event.truncation? = l.state.fault?.toList
  /-- And then this is the last event. -/
  getLast?_eq : ∀ fault, l.state.fault? = some fault →
    events.getLast? = some (.walkTruncated region fault)
  /-- That there is no list is not reported. -/
  listAbsent_notMem : .listAbsent ∉ events

theorem Trace.tracedBy {l : Listing} {region : Region} {events : List Event}
    (h : Trace region l.entries l.notes l.state.fault? events) : l.TracedBy region events :=
  ⟨h, h.steps_eq, h.notes_eq, h.accounts_eq, h.truncation_eq, fun _ => h.getLast?_eq,
    h.listAbsent_notMem⟩

/-- The events of a whole walk are a trace of its listing. -/
theorem Walker.listing_tracedBy {w : Walker} {options : Options} (hroot : 0 ≤ w.root)
    (tolerant : options.failFast = false) (buffer : Bytes) :
    ∃ l events, (w.walk buffer).listing buffer options = ⟨.ok l, events⟩ ∧
      l.TracedBy w.region events := by
  have hescape := Walker.escape_walk hroot buffer
  obtain ⟨hfault, hunnoted⟩ := Run.unnoted_begin w buffer
  obtain ⟨notes, hnotes, htrace⟩ := trace_drain options (fun _ => hroot) hfault hescape
  refine ⟨_, _, Walk.listing_of_tolerant hescape tolerant buffer, Trace.tracedBy ?_⟩
  rw [hunnoted, List.nil_append] at hnotes
  subst hnotes
  exact htrace

/-- **The events match the listing.**  Whatever the buffer holds, the events on the way to a
listing are a trace of it, if the caller does not ask to fail fast and gives no root that
counts from the end.  Only where no root is given and configuration space has no list there
is one event, which says so, and the listing is empty. -/
theorem listing_traced (buffer : Bytes) (root : Option Nat) (options : Options)
    (tolerant : options.failFast = false) :
    (∃ l events, decodeCapabilities buffer (root.map Int.ofNat) options = ⟨.ok l, events⟩ ∧
      if root = none ∧ (buffer.length ≤ 0x34 ∨ (buffer.u16 0x06).testBit 4 = false) then
        l = {} ∧ events = [.listAbsent]
      else l.TracedBy .legacy events) ∧
    ∃ l events, decodeExtendedCapabilities buffer options = ⟨.ok l, events⟩ ∧
      l.TracedBy .extended events := by
  constructor
  · have hfrom : ∀ start : Nat, ∃ l events,
        ((Walker.legacy start options.strictAlignment).walk buffer).listing buffer
          (options.withIdentity buffer) = ⟨.ok l, events⟩ ∧ l.TracedBy .legacy events := by
      intro start
      have htolerant := (failFast_withIdentity options buffer).trans tolerant
      exact Walker.listing_tracedBy (w := Walker.legacy start options.strictAlignment)
        (Int.natCast_nonneg start) htolerant buffer
    rw [decodeCapabilities_ofNat, capabilitiesRoot_eq]
    cases root with
    | some start => simpa using hfrom start
    | none =>
      by_cases habsent : buffer.length ≤ 0x34 ∨ (buffer.u16 0x06).testBit 4 = false
      · exact ⟨{}, [.listAbsent], by rw [if_pos habsent]; rfl, by simp [habsent]⟩
      · simpa [habsent] using hfrom (buffer.u8 0x34 &&& 0xFC)
  · exact Walker.listing_tracedBy (w := Walker.extended options.strictAlignment)
      (show (0 : Int) ≤ 0x100 by decide) tolerant buffer

/-- A misplaced root, noted and followed to a vendor's capability that is too short. -/
theorem listing_traced_misplaced_root :
    let buffer : Bytes := List.replicate 0x41 0x00 ++ [0x09, 0x00]
    ({} : Options).failFast = false ∧
      (∃ l events, decodeCapabilities buffer (some 0x41) {} = ⟨.ok l, events⟩ ∧
        l.TracedBy .legacy events) ∧
      ∃ l events, decodeExtendedCapabilities buffer {} = ⟨.ok l, events⟩ ∧
        l.TracedBy .extended events := by
  intro buffer
  obtain ⟨⟨l, events, hlisting, htraced⟩, hextended⟩ := listing_traced buffer (some 0x41) {} rfl
  rw [if_neg (fun h => nomatch h.1)] at htraced
  exact ⟨rfl, ⟨l, events, hlisting, htraced⟩, hextended⟩

end ConfigSpace
