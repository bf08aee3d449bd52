import ConfigSpace.Proofs.RunInvariant
import ConfigSpace.Proofs.WholeDump

/-!
# Failing fast

A caller may ask for the first error instead of a listing that records all of them.  This
changes when decoding stops, and nothing else.

* `RawCapability.settled` — the entry of a capability for a caller who does not ask to fail
  fast.  It depends on the capability and on the options only, and not on whether decoding
  is to fail fast (`settled_failFast`).
* `raiseFirst` — an answer, unless there are failures: then the error of the first of them.
* `value_decodeSteps_of_tolerant`, `value_decodeSteps_of_fast` — so both ways of decoding
  capabilities come down to the settled entries.
* `Walk.settled` — the same for the listing of a walk.

The main result is `failFast_agrees`.
-/

namespace ConfigSpace

/-! ## The first failure -/

/-- An answer, unless there are failures: then the error of the first of them. -/
def raiseFirst {α : Type} (failures : List DecodeFailure) (answer : α) : Except Error α :=
  match failures with
  | [] => .ok answer
  | f :: _ => .error f.error

section RaiseFirst

variable {α β : Type}

theorem map_raiseFirst (failures : List DecodeFailure) (answer : α) (g : α → β) :
    (raiseFirst failures answer).map g = raiseFirst failures (g answer) := by
  cases failures <;> rfl

end RaiseFirst

/-! ## Decoding does not look at how errors are wanted -/

section Decoding

variable {options : Options}

/-- No decoder looks at whether to fail fast. -/
theorem Decoder.Built.failFast {decoder : Decoder} (h : decoder.Built) (payload : Bytes)
    (options : Options) (fast : Bool) :
    decoder payload { options with failFast := fast } = decoder payload options := by
  cases h <;> rfl

theorem RawCapability.decode_failFast (raw : RawCapability) (options : Options) (fast : Bool) :
    raw.decode { options with failFast := fast } = raw.decode options := by
  have hbody : raw.decodeBody { options with failFast := fast } = raw.decodeBody options := by
    unfold RawCapability.decodeBody
    cases hdecoder : decoder? raw.extended raw.capId with
    | none => rfl
    | some decoder => exact (built_of_decoder? hdecoder).failFast _ _ _
  rw [RawCapability.decode, RawCapability.decode, hbody]

theorem Options.withIdentity_failFast (options : Options) (buffer : Bytes) (fast : Bool) :
    Options.withIdentity { options with failFast := fast } buffer =
      { options.withIdentity buffer with failFast := fast } := by
  unfold Options.withIdentity
  split <;> rfl

end Decoding

/-! ## Entries -/

/-- The entry of a capability for a caller who does not ask to fail fast. -/
def RawCapability.settled (raw : RawCapability) (options : Options) : Entry :=
  match (raw.decode options).value with
  | .ok d => .decoded d
  | .error e => .failed { raw with error := e }

section Entries

variable {options : Options}

theorem RawCapability.settled_failFast (raw : RawCapability) (options : Options) (fast : Bool) :
    raw.settled { options with failFast := fast } = raw.settled options := by
  rw [settled, settled, raw.decode_failFast]

/-- An error of a decoder is no error of a walk. -/
theorem RawCapability.isWalkError_of_settled {raw : RawCapability} {f : DecodeFailure}
    (h : (raw.settled options).failed? = some f) : f.error.isWalkError = false := by
  unfold settled at h
  cases hvalue : (raw.decode options).value with
  | ok d =>
    rw [hvalue] at h
    cases h
  | error e =>
    rw [hvalue] at h
    cases h
    obtain ⟨-, hfound⟩ := fault_of_decode hvalue
    unfold Error.isWalkError
    cases hfault : e.fault with
    | walk fault =>
      rw [hfault] at hfound
      cases hfound
    | _ => rfl

/-- A caller who does not ask to fail fast gets the settled entry. -/
theorem RawCapability.value_entry_of_tolerant (raw : RawCapability)
    (tolerant : options.failFast = false) :
    (raw.entry options).value = .ok (raw.settled options) := by
  unfold entry settled
  rcases raw.decode options with ⟨d | e, events⟩
  · simp [tolerant]
  · rfl

/-- A caller who does gets it as well, unless it is a failure. -/
theorem RawCapability.value_entry_of_fast (raw : RawCapability)
    (fast : options.failFast = true) :
    (raw.entry options).value =
      raiseFirst (raw.settled options).failed?.toList (raw.settled options) := by
  unfold entry settled
  rcases raw.decode options with ⟨d | e, events⟩
  · simp [fast, Entry.failed?, raiseFirst]
  · rfl

end Entries

/-! ## Capabilities one after the other -/

section Steps

variable {options : Options}

/-- The entries of capabilities for a caller who does not ask to fail fast: each of them is
settled by its capability and the options alone. -/
def settledEntries (options : Options) (raws : List RawCapability) : List Entry :=
  raws.map (·.settled options)

theorem settledEntries_failFast (options : Options) (fast : Bool) (raws : List RawCapability) :
    settledEntries { options with failFast := fast } raws = settledEntries options raws :=
  List.map_congr_left fun raw _ => raw.settled_failFast options fast

theorem isWalkError_of_mem_settledEntries {raws : List RawCapability} {f : DecodeFailure}
    (h : f ∈ (settledEntries options raws).filterMap Entry.failed?) :
    f.error.isWalkError = false := by
  obtain ⟨entry, hentry, hfailed⟩ := List.mem_filterMap.1 h
  obtain ⟨raw, -, rfl⟩ := List.mem_map.1 hentry
  exact RawCapability.isWalkError_of_settled hfailed

/-- A caller who does not ask to fail fast gets the settled entries. -/
theorem value_decodeSteps_of_tolerant (tolerant : options.failFast = false)
    (steps : List (Logged RawCapability)) :
    (decodeSteps options steps).value = .ok (settledEntries options (steps.map Logged.value)) := by
  induction steps with
  | nil => rfl
  | cons step rest ih =>
    have hentry := step.value.value_entry_of_tolerant tolerant
    rcases hlogged : step.value.entry options with ⟨value, events⟩
    rw [hlogged] at hentry
    cases hentry
    simp only [decodeSteps, hlogged, Logged.after, Logged.map, ih]
    rfl

/-- A caller who does gets them as well, unless there are failures among them: the
capabilities behind the first failure are not decoded. -/
theorem value_decodeSteps_of_fast (fast : options.failFast = true)
    (steps : List (Logged RawCapability)) :
    (decodeSteps options steps).value =
      raiseFirst ((settledEntries options (steps.map Logged.value)).filterMap Entry.failed?)
        (settledEntries options (steps.map Logged.value)) := by
  induction steps with
  | nil => rfl
  | cons step rest ih =>
    have hentry := step.value.value_entry_of_fast fast
    rcases hlogged : step.value.entry options with ⟨value, events⟩
    rw [hlogged] at hentry
    cases hsettled : step.value.settled options with
    | decoded d =>
      rw [hsettled] at hentry
      cases hentry
      simp only [decodeSteps, hlogged, Logged.after, Logged.map, ih, map_raiseFirst,
        settledEntries, List.map_cons, hsettled, List.filterMap_cons, Entry.failed?]
    | failed f =>
      rw [hsettled] at hentry
      cases hentry
      simp only [decodeSteps, hlogged, settledEntries, List.map_cons, hsettled,
        List.filterMap_cons, Entry.failed?, raiseFirst]

end Steps

/-! ## Listings -/

/-- The listing of a walk for a caller who does not ask to fail fast. -/
def Walk.settled (k : Walk) (buffer : Bytes) (options : Options) : Listing where
  entries := settledEntries options (k.records.map (·.load buffer))
  state := k.run.state
  notes := k.run.notes

namespace Walk

variable {k : Walk} {options : Options}

/-- What is decoded is what the walk finds. -/
theorem value_steps_load (k : Walk) (buffer : Bytes) :
    (k.steps.map (·.map (·.load buffer))).map Logged.value = k.records.map (·.load buffer) := by
  simp [records, Logged.map]

theorem settled_failFast (k : Walk) (buffer : Bytes) (options : Options) (fast : Bool) :
    k.settled buffer { options with failFast := fast } = k.settled buffer options := by
  rw [settled, settled, settledEntries_failFast]

variable (hescape : k.escape = none)

include hescape

/-- A walk whose offsets all have slots fails to be listed only where decoding fails. -/
theorem value_listing (buffer : Bytes) (options : Options) :
    (k.listing buffer options).value =
      ((decodeSteps options (k.steps.map (·.map (·.load buffer)))).value.map fun entries =>
        ({ entries, state := k.run.state, notes := k.run.notes } : Listing)).mapError .error := by
  unfold listing
  rcases hsteps : decodeSteps options (k.steps.map (·.map (·.load buffer))) with
    ⟨e | entries, events⟩
  · simp only [hsteps]
    rfl
  · simp only [hsteps, hescape]
    rfl

theorem value_listing_of_tolerant (tolerant : options.failFast = false) (buffer : Bytes) :
    (k.listing buffer options).value = .ok (k.settled buffer options) := by
  rw [value_listing hescape, value_decodeSteps_of_tolerant tolerant, k.value_steps_load]
  rfl

theorem value_listing_of_fast (fast : options.failFast = true) (buffer : Bytes) :
    (k.listing buffer options).value =
      (raiseFirst (k.settled buffer options).failures (k.settled buffer options)).mapError
        .error := by
  rw [value_listing hescape, value_decodeSteps_of_fast fast, map_raiseFirst,
    k.value_steps_load]
  rfl

end Walk

/-! ## Whole regions -/

/-- A walk from a root that does not count from the end finds a slot for every offset. -/
theorem Walker.escape_walk {w : Walker} (hroot : 0 ≤ w.root) (buffer : Bytes) :
    (w.walk buffer).escape = none :=
  ((Run.given_begin w buffer).restOf (fun _ _ => hroot) buffer).escape_eq

/-- What an operation answers to a caller who does not ask to fail fast and to one who does:
a result that holds its failures, and the error of the first of them, as it is raised. -/
structure FailsFast {ε α : Type} (raise : Error → ε) (failures : α → List DecodeFailure)
    (result : α) (tolerant fast : Except ε α) : Prop where
  /-- Failures are recorded in the result. -/
  recorded : tolerant = .ok result
  /-- If there are any, the error of the first is raised; otherwise the result is the same. -/
  raised : fast = (raiseFirst (failures result) result).mapError raise
  /-- The errors of walks are none of them. -/
  decoding : ∀ f ∈ failures result, f.error.isWalkError = false

section Regions

variable (options : Options)

/-- Capabilities that are decoded without a walk. -/
theorem failsFast_decodeAll (raws : List RawCapability) :
    FailsFast id (List.filterMap Entry.failed?) (settledEntries options raws)
      (decodeAll { options with failFast := false } raws).value
      (decodeAll { options with failFast := true } raws).value := by
  have hraws : (raws.map fun raw => Logged.mk raw []).map Logged.value = raws := by
    rw [List.map_map]
    exact List.map_id raws
  constructor
  · rw [decodeAll, value_decodeSteps_of_tolerant rfl, settledEntries_failFast, hraws]
  · rw [decodeAll, value_decodeSteps_of_fast rfl, settledEntries_failFast, hraws]
    cases (settledEntries options raws).filterMap Entry.failed? <;> rfl
  · exact fun f hmem => isWalkError_of_mem_settledEntries hmem

variable (buffer : Bytes)

/-- The listing of a walk. -/
theorem Walk.failsFast_listing {k : Walk} (hescape : k.escape = none) :
    FailsFast Raised.error Listing.failures (k.settled buffer options)
      (k.listing buffer { options with failFast := false }).value
      (k.listing buffer { options with failFast := true }).value := by
  constructor
  · rw [value_listing_of_tolerant hescape rfl, settled_failFast]
  · rw [value_listing_of_fast hescape rfl, settled_failFast]
  · exact fun f hmem => isWalkError_of_mem_settledEntries hmem

theorem exists_failsFast_decodeCapabilities (root : Option Nat) :
    ∃ l, FailsFast Raised.error Listing.failures l
      (decodeCapabilities buffer (root.map Int.ofNat) { options with failFast := false }).value
      (decodeCapabilities buffer (root.map Int.ofNat) { options with failFast := true }).value := by
  simp only [decodeCapabilities_ofNat, Options.withIdentity_failFast]
  cases root <|> capabilitiesRoot buffer with
  | none => exact ⟨{}, rfl, rfl, fun f hmem => absurd hmem List.not_mem_nil⟩
  | some start =>
    have hescape := Walker.escape_walk (w := Walker.legacy start options.strictAlignment)
      (Int.natCast_nonneg start) buffer
    exact ⟨_, Walk.failsFast_listing (options.withIdentity buffer) buffer hescape⟩

theorem exists_failsFast_decodeExtendedCapabilities :
    ∃ l, FailsFast Raised.error Listing.failures l
      (decodeExtendedCapabilities buffer { options with failFast := false }).value
      (decodeExtendedCapabilities buffer { options with failFast := true }).value := by
  have hescape := Walker.escape_walk (w := Walker.extended options.strictAlignment)
    (show (0 : Int) ≤ 0x100 by decide) buffer
  exact ⟨_, Walk.failsFast_listing options buffer hescape⟩

end Regions

/-- Both lists are decoded one after the other. -/
theorem value_decodeConfigSpace (buffer : Bytes) (options : Options) :
    (decodeConfigSpace buffer options).value =
      (decodeCapabilities buffer none options).value.bind fun legacy =>
        (decodeExtendedCapabilities buffer options).value.map fun extended =>
          { legacy, extended } := by
  unfold decodeConfigSpace
  rcases decodeCapabilities buffer none options with ⟨e | legacy, events⟩ <;> rfl

/-- Both lists, of which the extended one is only decoded if there are no failures in the
legacy one. -/
theorem failsFast_decodeConfigSpace {buffer : Bytes} {options : Options}
    {legacy extended : Listing}
    (hlegacy : FailsFast Raised.error Listing.failures legacy
      (decodeCapabilities buffer none { options with failFast := false }).value
      (decodeCapabilities buffer none { options with failFast := true }).value)
    (hextended : FailsFast Raised.error Listing.failures extended
      (decodeExtendedCapabilities buffer { options with failFast := false }).value
      (decodeExtendedCapabilities buffer { options with failFast := true }).value) :
    FailsFast Raised.error (fun c => c.legacy.failures ++ c.extended.failures)
      (⟨legacy, extended⟩ : ConfigSpaceListing)
      (decodeConfigSpace buffer { options with failFast := false }).value
      (decodeConfigSpace buffer { options with failFast := true }).value := by
  constructor
  · rw [value_decodeConfigSpace, hlegacy.recorded, hextended.recorded]
    rfl
  · rw [value_decodeConfigSpace, hlegacy.raised, hextended.raised]
    cases legacy.failures with
    | nil => cases extended.failures <;> rfl
    | cons f rest => rfl
  · intro f hmem
    rcases List.mem_append.1 hmem with hleft | hright
    · exact hlegacy.decoding f hleft
    · exact hextended.decoding f hright

/-- **Failing fast raises what would be recorded first.**  Whatever is decoded, a caller who
asks to fail fast gets the result of one who does not, notes and the fault of the walk
included, as long as there are no failures in it; and the error of the first of them
otherwise, the legacy ones coming before the extended ones.  In a list of capabilities each
entry is settled by its capability and the options alone. -/
theorem failFast_agrees (options : Options) :
    let tolerant := { options with failFast := false }
    let fast := { options with failFast := true }
    (∀ raws, FailsFast id (List.filterMap Entry.failed?) (settledEntries tolerant raws)
      (decodeAll tolerant raws).value (decodeAll fast raws).value) ∧
    (∀ raws raws', ∃ entries entries', (decodeAll tolerant raws).value = .ok entries ∧
      (decodeAll tolerant raws').value = .ok entries' ∧
      (decodeAll tolerant (raws ++ raws')).value = .ok (entries ++ entries')) ∧
    (∀ buffer (root : Option Nat), ∃ l, FailsFast Raised.error Listing.failures l
      (decodeCapabilities buffer (root.map Int.ofNat) tolerant).value
      (decodeCapabilities buffer (root.map Int.ofNat) fast).value) ∧
    (∀ buffer, ∃ l, FailsFast Raised.error Listing.failures l
      (decodeExtendedCapabilities buffer tolerant).value
      (decodeExtendedCapabilities buffer fast).value) ∧
    ∀ buffer, ∃ c : ConfigSpaceListing,
      FailsFast Raised.error (fun c => c.legacy.failures ++ c.extended.failures) c
        (decodeConfigSpace buffer tolerant).value (decodeConfigSpace buffer fast).value ∧
      (decodeCapabilities buffer none tolerant).value = .ok c.legacy ∧
      (decodeExtendedCapabilities buffer tolerant).value = .ok c.extended := by
  intro tolerant fast
  refine ⟨?_, ?_, exists_failsFast_decodeCapabilities options,
    exists_failsFast_decodeExtendedCapabilities options, ?_⟩
  · exact failsFast_decodeAll tolerant
  · intro raws raws'
    have happend := (failsFast_decodeAll options (raws ++ raws')).recorded
    rw [settledEntries, List.map_append] at happend
    exact ⟨_, _, (failsFast_decodeAll options raws).recorded,
      (failsFast_decodeAll options raws').recorded, happend⟩
  · intro buffer
    obtain ⟨legacy, hlegacy⟩ := exists_failsFast_decodeCapabilities options buffer none
    obtain ⟨extended, hextended⟩ := exists_failsFast_decodeExtendedCapabilities options buffer
    exact ⟨_, failsFast_decodeConfigSpace hlegacy hextended, hlegacy.recorded,
      hextended.recorded⟩

end ConfigSpace
