import ConfigSpace.Listing
import ConfigSpace.Proofs.DecodeErrors
import ConfigSpace.Proofs.ExtendedWalk
import ConfigSpace.Proofs.LegacyWalk

/-!
# Decoding a whole dump

A dump of configuration space may hold anything.  Unless the caller asks to fail fast,
decoding it always gives two listings, and no capability that was found is lost.

* `Entry.Reports` — an entry of a listing says what decoding its capability answers, be it
  a decoded capability or an error.
* `Listing.Reports` — a listing has one such entry for each record of a walk, in the order
  of the walk, and tells how the walk ended.
* `capabilitiesRoot_eq` — where the legacy list starts, if there is one.
* `decode_eq_of_extended` — the identity of the device matters to no extended capability,
  so that it makes no difference that only the legacy listing is decoded with it.

The main result is `decodeConfigSpace_reports`.
-/

namespace ConfigSpace

/-! ## Entries -/

/-- An entry that says what decoding a capability answers, and where the capability is. -/
inductive Entry.Reports (options : Options) (raw : RawCapability) : Entry → Prop where
  /-- The capability was decoded. -/
  | decoded {d : Decoded} (answer : (raw.decode options).value = .ok d)
      (offset_eq : d.offset = raw.offset) (capId_eq : d.capId = raw.capId)
      (version_eq : d.version = raw.version) : Reports options raw (.decoded d)
  /-- It could not be decoded, and the error is located at it. -/
  | failed {f : DecodeFailure} (answer : (raw.decode options).value = .error f.error)
      (offset_eq : f.offset = raw.offset) (capId_eq : f.capId = raw.capId)
      (version_eq : f.version = raw.version)
      (site_eq : f.error.site = ⟨some raw.offset, some raw.capId⟩) :
      Reports options raw (.failed f)

section Entries

variable {options : Options}

/-- A caller who does not ask to fail fast gets an entry for every capability. -/
theorem RawCapability.exists_entry (raw : RawCapability) (tolerant : options.failFast = false) :
    ∃ entry, (raw.entry options).value = .ok entry ∧ entry.Reports options raw := by
  unfold RawCapability.entry
  rcases hdecode : raw.decode options with ⟨value, events⟩
  have hvalue : (raw.decode options).value = value := by rw [hdecode]
  cases value with
  | ok d =>
    obtain ⟨hoffset, hcapId, hversion⟩ := place_of_decode hvalue
    exact ⟨.decoded d, rfl, .decoded hvalue hoffset hcapId hversion⟩
  | error e =>
    obtain ⟨hsite, -⟩ := fault_of_decode hvalue
    simp only [tolerant, Bool.false_eq_true, if_false]
    exact ⟨_, rfl, .failed hvalue rfl rfl rfl hsite⟩

theorem exists_decodeSteps (tolerant : options.failFast = false)
    (steps : List (Logged RawCapability)) :
    ∃ entries, (decodeSteps options steps).value = .ok entries ∧
      List.Forall₂ (fun step entry => Entry.Reports options step.value entry) steps entries := by
  induction steps with
  | nil => exact ⟨[], rfl, .nil⟩
  | cons step rest ih =>
    obtain ⟨raw, arrival⟩ := step
    obtain ⟨entry, hentry, hreports⟩ := raw.exists_entry tolerant
    obtain ⟨entries, hentries, hall⟩ := ih
    refine ⟨entry :: entries, ?_, .cons hreports hall⟩
    rcases hlogged : raw.entry options with ⟨value, events⟩
    rw [hlogged] at hentry
    cases hentry
    simp only [decodeSteps, hlogged, Logged.after, Logged.map, hentries]
    rfl

end Entries

/-! ## The identity of the device -/

section Identity

variable {options options' : Options}

/-- No decoder of an extended capability looks at the options. -/
theorem ExtendedCapabilityId.decoder?_eq {id : ExtendedCapabilityId} {decoder : Decoder}
    (h : id.decoder? = some decoder) (payload : Bytes) (options options' : Options) :
    decoder payload options = decoder payload options' := by
  cases id <;> cases h <;> rfl

theorem decode_eq_of_extended {raw : RawCapability} (h : raw.extended = true)
    (options options' : Options) : raw.decode options = raw.decode options' := by
  have hbody : raw.decodeBody options = raw.decodeBody options' := by
    unfold RawCapability.decodeBody
    cases hdecoder : decoder? raw.extended raw.capId with
    | none => rfl
    | some decoder =>
      rw [decoder?, h, if_pos rfl] at hdecoder
      obtain ⟨id, -, hid⟩ := Option.bind_eq_some_iff.1 hdecoder
      exact ExtendedCapabilityId.decoder?_eq hid raw.payload options options'
  rw [RawCapability.decode, RawCapability.decode, hbody]

theorem decodeSteps_eq_of_extended (hfast : options.failFast = options'.failFast)
    {steps : List (Logged RawCapability)} (h : ∀ step ∈ steps, step.value.extended = true) :
    decodeSteps options steps = decodeSteps options' steps := by
  induction steps with
  | nil => rfl
  | cons step rest ih =>
    have hhead := h step List.mem_cons_self
    have htail := ih fun step' hmem => h step' (List.mem_cons_of_mem _ hmem)
    have hentry : step.value.entry options = step.value.entry options' := by
      unfold RawCapability.entry
      rw [decode_eq_of_extended hhead options options', hfast]
    simp only [decodeSteps, hentry, htail]

theorem failFast_withIdentity (options : Options) (buffer : Bytes) :
    (options.withIdentity buffer).failFast = options.failFast := by
  unfold Options.withIdentity
  split <;> rfl

end Identity

/-! ## Searching a listing -/

/-- A search finds the first capability with the identifier that was decoded. -/
theorem Listing.find_eq_some_iff (l : Listing) (capId : Int) (d : Decoded) :
    l.find capId = some d ↔ d.capId = capId ∧ ∃ before after,
      l.entries = before ++ .decoded d :: after ∧
        ∀ d', .decoded d' ∈ before → d'.capId ≠ capId := by
  unfold find capabilities
  constructor
  · intro h
    obtain ⟨hid, passed, behind, hsplit, hpassed⟩ := List.find?_eq_some_iff_append.1 h
    obtain ⟨front, back, hentries, hfront, hback⟩ := List.filterMap_eq_append_iff.1 hsplit
    obtain ⟨failures, entry, after, rfl, hfailures, hentry, -⟩ := List.filterMap_eq_cons_iff.1 hback
    have hdecoded : entry = .decoded d := by
      cases entry with
      | decoded d' => rw [Option.some.inj hentry]
      | failed f => cases hentry
    refine ⟨of_decide_eq_true hid, front ++ failures, after, ?_, ?_⟩
    · rw [hentries, hdecoded, List.append_assoc]
    · intro d' hmem
      rcases List.mem_append.1 hmem with hin | hin
      · have hmem' : d' ∈ passed := by
          rw [← hfront]
          exact List.mem_filterMap.2 ⟨_, hin, rfl⟩
        simpa using hpassed d' hmem'
      · cases hfailures _ hin
  · rintro ⟨hid, before, after, hentries, hbefore⟩
    refine List.find?_eq_some_iff_append.2 ⟨decide_eq_true hid, before.filterMap Entry.decoded?,
      after.filterMap Entry.decoded?, ?_, ?_⟩
    · rw [hentries, List.filterMap_append, List.filterMap_cons]
      rfl
    · intro d' hmem
      obtain ⟨entry, hin, hentry⟩ := List.mem_filterMap.1 hmem
      cases entry with
      | decoded d'' =>
        cases hentry
        simpa using hbefore d' hin
      | failed f => cases hentry

/-! ## Listings -/

/-- A listing that reports a walk over a buffer. -/
structure Listing.Reports (l : Listing) (options : Options) (walk : Walk) (buffer : Bytes) :
    Prop where
  /-- The walk returns. -/
  returns : walk.escape = none
  /-- There is one entry for each record of the walk, in the order of the walk. -/
  entries : List.Forall₂ (fun record entry => Entry.Reports options (record.load buffer) entry)
    walk.records l.entries
  /-- The listing tells how the walk ended. -/
  state_eq : l.state = walk.run.state
  /-- It tells what the walk noted. -/
  notes_eq : l.notes = walk.run.notes
  /-- The walk is over: without a fault if it came to its end, and with one if it was stopped. -/
  ended : l.state = .terminated ∧ l.state.fault? = none ∨
    ∃ fault, l.state = .failed fault ∧ l.state.fault? = some fault
  /-- A search finds the first capability with the identifier that was decoded. -/
  find_iff : ∀ capId d, l.find capId = some d ↔ d.capId = capId ∧ ∃ before after,
    l.entries = before ++ .decoded d :: after ∧ ∀ d', .decoded d' ∈ before → d'.capId ≠ capId

/-- The listing of a walk that has come to its end. -/
theorem Walk.exists_listing {walk : Walk} {options : Options}
    (tolerant : options.failFast = false) (hescape : walk.escape = none)
    (hended : walk.run.state = .terminated ∨ ∃ fault, walk.run.state = .failed fault)
    (buffer : Bytes) :
    ∃ l, (walk.listing buffer options).value = .ok l ∧ l.Reports options walk buffer := by
  obtain ⟨entries, hentries, hall⟩ :=
    exists_decodeSteps tolerant (walk.steps.map (·.map (·.load buffer)))
  refine ⟨{ entries, state := walk.run.state, notes := walk.run.notes }, ?_, hescape, ?_, rfl,
    rfl, ?_, Listing.find_eq_some_iff _⟩
  · unfold Walk.listing
    rcases hsteps : decodeSteps options (walk.steps.map (·.map (·.load buffer)))
      with ⟨value, events⟩
    rw [hsteps] at hentries
    cases hentries
    simp only [hsteps, hescape]
  · rw [List.forall₂_map_left_iff] at hall
    rw [Walk.records, List.forall₂_map_left_iff]
    exact hall
  · rcases hended with hstate | ⟨fault, hstate⟩
    · exact .inl ⟨hstate, by rw [hstate]; rfl⟩
    · exact .inr ⟨fault, hstate, by rw [hstate]; rfl⟩

/-! ## The walks of a dump -/

/-- A walk of the extended list is over, and has only found extended capabilities. -/
theorem walk_extended_ended (buffer : Bytes) (strict : Bool) :
    ((Walker.extended strict).walk buffer).escape = none ∧
    (((Walker.extended strict).walk buffer).run.state = .terminated ∨
      ∃ fault, ((Walker.extended strict).walk buffer).run.state = .failed fault) ∧
    ∀ record ∈ ((Walker.extended strict).walk buffer).records,
      (record.load buffer).extended = true := by
  rcases Nat.lt_or_ge 0x100 buffer.length with hlen | hshort
  · obtain ⟨k, s, hwalk⟩ := Walker.walk_followsOrbit (proper_extended strict) (fun _ => hlen)
    refine ⟨hwalk.escape_eq, ?_, ?_⟩
    · rw [hwalk.state_eq]
      exact (Walker.ends_of_ending hwalk.ending).terminated_or_failed
    · rw [hwalk.records_eq]
      intro record hmem
      obtain ⟨i, -, rfl⟩ := List.mem_map.1 hmem
      rfl
  · rw [walk_extended_of_le hshort]
    refine ⟨rfl, Or.inl rfl, fun record hmem => ?_⟩
    cases hmem

/-! ## The dump -/

/-- The legacy list starts where the Capabilities Pointer says, if the buffer holds it and
the Status register advertises a list. -/
theorem capabilitiesRoot_eq (buffer : Bytes) :
    capabilitiesRoot buffer =
      if buffer.length ≤ 0x34 ∨ (buffer.u16 0x06).testBit 4 = false then none
      else some (buffer.u8 0x34 &&& 0xFC) := by
  unfold capabilitiesRoot
  rcases Nat.lt_or_ge buffer.length 0x35 with hlt | hle
  · rw [Bytes.atLeast?_of_lt hlt, if_pos (Or.inl (by omega))]
    rfl
  · rw [Bytes.atLeast?_of_le hle]
    simp only [Option.bind_some, Bytes.AtLeast.u16, Bytes.AtLeast.u8, flag, Header.root_eq_and]
    cases (buffer.u16 0x06).testBit 4 with
    | true =>
      rw [if_pos rfl, if_neg]
      rintro (hshort | hbit)
      · omega
      · cases hbit
    | false => rw [if_neg Bool.false_ne_true, if_pos (Or.inr rfl)]

theorem decodeCapabilities_ofNat (buffer : Bytes) (root : Option Nat) (options : Options) :
    decodeCapabilities buffer (root.map Int.ofNat) options =
      match root <|> capabilitiesRoot buffer with
      | none => ⟨.ok {}, [.listAbsent]⟩
      | some start =>
          ((Walker.legacy start options.strictAlignment).walk buffer).listing buffer
            (options.withIdentity buffer) := by
  unfold decodeCapabilities
  cases root with
  | none => cases capabilitiesRoot buffer <;> rfl
  | some start => rfl

/-- The legacy listing of a dump: an empty one if there is no list, and else that of the
walk from the root. -/
theorem exists_decodeCapabilities (buffer : Bytes) {options : Options}
    (tolerant : options.failFast = false) :
    ∃ l, (decodeCapabilities buffer none options).value = .ok l ∧
      if buffer.length ≤ 0x34 ∨ (buffer.u16 0x06).testBit 4 = false then l = {}
      else l.Reports (options.withIdentity buffer)
        ((Walker.legacy (buffer.u8 0x34 &&& 0xFC : Nat) options.strictAlignment).walk buffer)
        buffer := by
  unfold decodeCapabilities
  rw [capabilitiesRoot_eq]
  by_cases habsent : buffer.length ≤ 0x34 ∨ (buffer.u16 0x06).testBit 4 = false
  · rw [if_pos habsent]
    refine ⟨{}, rfl, ?_⟩
    rw [if_pos habsent]
  · obtain ⟨k, s, hwalk⟩ := Walker.walk_followsOrbit
      (proper_legacy (buffer.u8 0x34 &&& 0xFC) options.strictAlignment)
      (opens_legacy _ _ buffer)
    have hended := (Walker.ends_of_ending hwalk.ending).terminated_or_failed
    rw [← hwalk.state_eq] at hended
    obtain ⟨l, hl, hreports⟩ := Walk.exists_listing
      ((failFast_withIdentity options buffer).trans tolerant) hwalk.escape_eq hended buffer
    rw [if_neg habsent]
    refine ⟨l, hl, ?_⟩
    rw [if_neg habsent]
    exact hreports

theorem exists_decodeExtendedCapabilities (buffer : Bytes) {options : Options}
    (tolerant : options.failFast = false) :
    ∃ l, (decodeExtendedCapabilities buffer options).value = .ok l ∧
      l.Reports (options.withIdentity buffer)
        ((Walker.extended options.strictAlignment).walk buffer) buffer := by
  obtain ⟨hescape, hended, hextended⟩ := walk_extended_ended buffer options.strictAlignment
  have hfast := failFast_withIdentity options buffer
  obtain ⟨l, hl, hreports⟩ := Walk.exists_listing (hfast.trans tolerant) hescape hended buffer
  refine ⟨l, ?_, hreports⟩
  rw [← hl]
  unfold decodeExtendedCapabilities Walk.listing
  rw [decodeSteps_eq_of_extended hfast.symm]
  intro step hmem
  obtain ⟨found, hfound, rfl⟩ := List.mem_map.1 hmem
  exact hextended found.value (List.mem_map_of_mem hfound)

/-- **Decoding a whole dump is total and loses nothing.**  Whatever the buffer holds, a
caller who does not ask to fail fast gets both listings, and each of them reports the walk
of its list; without a legacy list, the legacy listing is empty. -/
theorem decodeConfigSpace_reports (buffer : Bytes) (options : Options)
    (tolerant : options.failFast = false) :
    ∃ listing, (decodeConfigSpace buffer options).value = .ok listing ∧
      listing.extended.Reports (options.withIdentity buffer)
        ((Walker.extended options.strictAlignment).walk buffer) buffer ∧
      if buffer.length ≤ 0x34 ∨ (buffer.u16 0x06).testBit 4 = false then
        listing.legacy = { entries := [], state := .terminated, notes := [] }
      else
        listing.legacy.Reports (options.withIdentity buffer)
          ((Walker.legacy (buffer.u8 0x34 &&& 0xFC : Nat) options.strictAlignment).walk buffer)
          buffer := by
  obtain ⟨legacy, hlegacy, hlegacyReports⟩ := exists_decodeCapabilities buffer tolerant
  obtain ⟨extended, hextended, hextendedReports⟩ :=
    exists_decodeExtendedCapabilities buffer tolerant
  refine ⟨{ legacy, extended }, ?_, hextendedReports, hlegacyReports⟩
  unfold decodeConfigSpace
  rcases hlogged : decodeCapabilities buffer none options with ⟨value, events⟩
  rw [hlogged] at hlegacy
  cases hlegacy
  simp only [Logged.after, Logged.map, hextended]
  rfl

/-- A dump of one byte over and over: a legacy capability that points to itself, and no
extended region. -/
theorem decodeConfigSpace_reports_repeated :
    let buffer : Bytes := List.replicate 0x52 0x50
    ({} : Options).failFast = false ∧
      ∃ listing, (decodeConfigSpace buffer {}).value = .ok listing ∧
        listing.extended.Reports (Options.withIdentity {} buffer) (Walker.extended.walk buffer)
          buffer ∧
        listing.legacy.Reports (Options.withIdentity {} buffer) ((Walker.legacy 0x50).walk buffer)
          buffer := by
  intro buffer
  have hlist : ¬ (buffer.length ≤ 0x34 ∨ (buffer.u16 0x06).testBit 4 = false) := by decide
  have hroot : buffer.u8 0x34 &&& 0xFC = 0x50 := by decide
  obtain ⟨listing, hvalue, hextended, hlegacy⟩ := decodeConfigSpace_reports buffer {} rfl
  rw [if_neg hlist, hroot] at hlegacy
  exact ⟨rfl, listing, hvalue, hextended, hlegacy⟩

end ConfigSpace
