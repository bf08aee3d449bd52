import ConfigSpace.Proofs.DecodeErrors
import ConfigSpace.Proofs.GrowingPayload

/-!
# What decoders ask for

A decoder asks for the bytes of a structure before it reads them.  It asks at most twice:
first for a part of a fixed size, and then for what the registers of that part call for on
top.  So what it asks for tells which shortages it reports, and of which payloads.

* `Demand` — what a decoder asks for, and `Demand.unmet`, the first of it that a payload is
  too short for.
* `Demand.unmet_of_prefix`, `Demand.length_lt_of_unmet` and `Demand.unmet_eq_none` — a longer
  payload lacks the same until it is long enough for that; then it lacks more, and after the
  second time nothing.
* `Demand.Governs` — a decoder that reports the shortages that its demand tells, and no
  others.  Every registered decoder has such a demand (`governed_of_decoder?`).

The main result is `shortage_thresholds`.
-/

namespace ConfigSpace

/-! ## Structures that a payload lacks -/

/-- A structure, and how many bytes it takes. -/
structure Need where
  name : String
  size : Nat
  deriving DecidableEq, Repr

namespace Need

/-- The fault of a payload that is too short for a structure. -/
def fault (need : Need) (payload : Bytes) : Fault :=
  .unreadable need.name need.size payload.length

/-- The structure, if a payload is too short for it. -/
def lackedBy (payload : Bytes) (need : Need) : Option Need :=
  if payload.length < need.size then some need else none

variable {payload : Bytes} {need need' : Need}

/-- A structure that is lacking is the one that was asked for. -/
theorem lackedBy_eq_some_iff :
    need.lackedBy payload = some need' ↔ payload.length < need.size ∧ need = need' := by
  unfold lackedBy
  split <;> simp_all

theorem lackedBy_of_le (h : need.size ≤ payload.length) : need.lackedBy payload = none :=
  if_neg (Nat.not_lt.2 h)

end Need

/-- What a decoder asks for. -/
structure Demand where
  /-- What it asks for first. -/
  first : Need
  /-- What the registers in that part call for on top, if they do. -/
  further : Bytes.AtLeast first.size → Option Need
  /-- Bytes behind that part have no say in it. -/
  further_eq : ∀ p q, p.Agree q → further p = further q

namespace Demand

/-- The first of the structures asked for that a payload is too short for. -/
def unmet (d : Demand) (payload : Bytes) : Option Need :=
  match payload.atLeast? d.first.size with
  | none => some d.first
  | some p => (d.further p).bind (Need.lackedBy payload)

/-- To ask for one structure, and that is all. -/
def fixed (name : String) (size : Nat) : Demand where
  first := ⟨name, size⟩
  further _ := none
  further_eq _ _ _ := rfl

section Unmet

variable {d : Demand} {payload short long longer : Bytes} {need need' : Need}

theorem unmet_of_lt (h : payload.length < d.first.size) : d.unmet payload = some d.first := by
  rw [unmet, Bytes.atLeast?_of_lt h]

theorem unmet_of_le (h : d.first.size ≤ payload.length) :
    d.unmet payload = (d.further ⟨payload, h⟩).bind (Need.lackedBy payload) := by
  rw [unmet, Bytes.atLeast?_of_le h]

/-- A structure that is lacking behind the first one was called for by the first one. -/
theorem further_of_unmet (hle : d.first.size ≤ payload.length)
    (h : d.unmet payload = some need) :
    d.further ⟨payload, hle⟩ = some need ∧ payload.length < need.size := by
  rw [unmet_of_le hle, Option.bind_eq_some_iff] at h
  obtain ⟨asked, hasked, hlacked⟩ := h
  obtain ⟨hlt, rfl⟩ := Need.lackedBy_eq_some_iff.1 hlacked
  exact ⟨hasked, hlt⟩

theorem length_lt_of_unmet (h : d.unmet payload = some need) : payload.length < need.size := by
  rcases Nat.lt_or_ge payload.length d.first.size with hlt | hle
  · rw [unmet_of_lt hlt] at h
    cases h
    exact hlt
  · exact (further_of_unmet hle h).2

theorem first_size_le (h : d.unmet short = some need) (hext : short <+: long)
    (hsize : need.size ≤ long.length) : d.first.size ≤ long.length := by
  rcases Nat.lt_or_ge short.length d.first.size with hlt | hle
  · rw [unmet_of_lt hlt] at h
    cases h
    exact hsize
  · exact Nat.le_trans hle hext.length_le

/-- A longer payload calls for the same as the payload that it extends. -/
theorem further_of_prefix (hext : short <+: long) (hle : d.first.size ≤ short.length) :
    d.further ⟨long, Nat.le_trans hle hext.length_le⟩ = d.further ⟨short, hle⟩ :=
  (d.further_eq _ _ (Bytes.AtLeast.agree_of_prefix hext)).symm

/-- As long as a payload is too short for what it lacks, it lacks the same. -/
theorem unmet_of_prefix (h : d.unmet short = some need) (hext : short <+: long)
    (hshort : long.length < need.size) : d.unmet long = some need := by
  rcases Nat.lt_or_ge short.length d.first.size with hlt | hle
  · rw [unmet_of_lt hlt] at h
    cases h
    exact unmet_of_lt hshort
  · rw [unmet_of_le (Nat.le_trans hle hext.length_le), further_of_prefix hext hle,
      (further_of_unmet hle h).1]
    exact if_pos hshort

/-- A payload that was extended twice, each time by what it lacked, lacks nothing. -/
theorem unmet_eq_none (h : d.unmet short = some need) (hext : short <+: long)
    (hsize : need.size ≤ long.length) (h' : d.unmet long = some need') (hext' : long <+: longer)
    (hsize' : need'.size ≤ longer.length) : d.unmet longer = none := by
  -- The first structure is there, so the second thing lacking is what it called for.
  have hle := first_size_le h hext hsize
  rw [unmet_of_le (Nat.le_trans hle hext'.length_le), further_of_prefix hext' hle,
    (further_of_unmet hle h').1]
  exact Need.lackedBy_of_le hsize'

/-- However the bytes that are lacking are supplied, after the second time none are. -/
theorem exists_unmet_eq_none {supply : Nat → Bytes}
    (h : ∀ i need, d.unmet (supply i) = some need →
      supply i <+: supply (i + 1) ∧ need.size ≤ (supply (i + 1)).length) :
    ∃ i ≤ 2, d.unmet (supply i) = none := by
  cases hfirst : d.unmet (supply 0) with
  | none => exact ⟨0, Nat.zero_le _, hfirst⟩
  | some need =>
    obtain ⟨hext, hsize⟩ := h 0 need hfirst
    cases hsecond : d.unmet (supply 1) with
    | none => exact ⟨1, by decide, hsecond⟩
    | some need' =>
      obtain ⟨hext', hsize'⟩ := h 1 need' hsecond
      exact ⟨2, Nat.le_refl _, unmet_eq_none hfirst hext hsize hsecond hext' hsize'⟩

end Unmet

end Demand

/-! ## Results -/

section Shortage

variable {α β : Type} {payload : Bytes} {name : String} {size : Nat}

/-- The fault, if it is that of a payload too short for a structure. -/
def Fault.unreadable? : Fault → Option Fault
  | .unreadable name size available => some (.unreadable name size available)
  | _ => none

/-- The shortage that a result reports, if it reports one. -/
def unreadable? : Except Fault α → Option Fault
  | .error f => f.unreadable?
  | .ok _ => none

theorem unreadable?_map (r : Except Fault α) (g : α → β) :
    unreadable? (r.map g) = unreadable? r := by
  cases r <;> rfl

/-- A structure that is asked for is reported if it is lacking, and otherwise what is reported
on reading it. -/
theorem unreadable?_require {read : Bytes.AtLeast size → Except Fault α} :
    unreadable? (payload.require name size read) =
      match payload.atLeast? size with
      | none => some (.unreadable name size payload.length)
      | some p => unreadable? (read p) := by
  unfold Bytes.require
  cases payload.atLeast? size <;> rfl

theorem unreadable?_require_ok {g : Bytes.AtLeast size → α} :
    unreadable? (payload.require name size fun p => .ok (g p)) =
      ((some ⟨name, size⟩ : Option Need).bind (Need.lackedBy payload)).map
        (Need.fault · payload) := by
  rw [unreadable?_require, Option.bind_some, Need.lackedBy]
  rcases Nat.lt_or_ge payload.length size with hlt | hle
  · rw [Bytes.atLeast?_of_lt hlt, if_pos hlt]
    rfl
  · rw [Bytes.atLeast?_of_le hle, if_neg (Nat.not_lt.2 hle)]
    rfl

theorem unreadable?_require_if {present : Prop} [Decidable present] {g : Bytes.AtLeast size → α}
    {a : α} :
    unreadable? (if present then payload.require name size fun p => .ok (g p) else .ok a) =
      ((if present then some ⟨name, size⟩ else none : Option Need).bind
        (Need.lackedBy payload)).map (Need.fault · payload) := by
  by_cases h : present
  · rw [if_pos h, if_pos h]
    exact unreadable?_require_ok
  · rw [if_neg h, if_neg h]
    rfl

end Shortage

/-! ## Decoders and their demands -/

/-- A decoder reports the shortages that its demand tells, and no others. -/
def Demand.Governs {α : Type} (d : Demand) (decode : Bytes → Except Fault α) : Prop :=
  ∀ payload, unreadable? (decode payload) = (d.unmet payload).map (Need.fault · payload)

section Governs

variable {α β : Type} {d : Demand}

/-- A decoder that asks for the first structure and reports what that calls for. -/
theorem governs_require {read : Bytes → Bytes.AtLeast d.first.size → Except Fault α}
    (h : ∀ payload p, unreadable? (read payload p) =
      ((d.further p).bind (Need.lackedBy payload)).map (Need.fault · payload)) :
    d.Governs fun payload => payload.require d.first.name d.first.size (read payload) := by
  intro payload
  rw [unreadable?_require, Demand.unmet]
  cases payload.atLeast? d.first.size with
  | none => rfl
  | some p => exact h payload p

theorem governs_fixed {name : String} {size : Nat} {g : Bytes → Bytes.AtLeast size → α} :
    (Demand.fixed name size).Governs fun payload =>
      payload.require name size fun p => .ok (g payload p) :=
  governs_require (d := .fixed name size) fun _ _ => rfl

theorem Demand.Governs.map {decode : Bytes → Except Fault α} (h : d.Governs decode) (g : α → β) :
    d.Governs fun payload => (decode payload).map g := by
  intro payload
  rw [unreadable?_map]
  exact h payload

end Governs

section Structures

/-- The Message Control register says how large the structure is. -/
def Msi.demand : Demand where
  first := ⟨"Message Signaled Interrupts", 2⟩
  further p := some ⟨"Message Signaled Interrupts", (Control.ofWord (p.u16 0)).size⟩
  further_eq p q h := by rw [h.word]

theorem Msi.governs_demand : Msi.demand.Governs Msi.decode :=
  governs_require (d := demand) fun _ _ => unreadable?_require_ok

/-- The Capability register says whether there is a vector, and how large it is. -/
def AccessControl.demand : Demand where
  first := ⟨"Access Control Services", 4⟩
  further p :=
    let capability := Capability.ofWord (p.u16 0)
    if capability.p2pEgressControl then
      some ⟨"Access Control Services", 4 + capability.vectorBytes⟩
    else none
  further_eq p q h := by rw [h.word]

theorem AccessControl.governs_demand : AccessControl.demand.Governs AccessControl.decode :=
  governs_require (d := demand) fun _ _ => (unreadable?_map _ _).trans unreadable?_require_if

/-- The Capabilities and Control register says whether there is a prefix log. -/
def ErrorReporting.demand : Demand where
  first := ⟨"Advanced Error Reporting", commonSize⟩
  further p :=
    if (Control.ofWord (p.u32 20)).tlpPrefixLogPresent then
      some ⟨"Advanced Error Reporting TLP Prefix Log", fullSize⟩
    else none
  further_eq p q h := by rw [h.dword]

/-- The registers of a root port leave the others as they are. -/
theorem ErrorReporting.capabilitiesAndControl_withRoot (payload : Bytes) (r : ErrorReporting) :
    (withRoot payload r).capabilitiesAndControl = r.capabilitiesAndControl := by
  unfold withRoot
  split <;> rfl

theorem ErrorReporting.governs_demand : ErrorReporting.demand.Governs ErrorReporting.decode := by
  refine governs_require (d := demand) fun payload p => ?_
  rw [withPrefixLog, capabilitiesAndControl_withRoot]
  exact unreadable?_require_if

/-- The Capability register says whether there are extensions, and how large they are. -/
def PortContainment.demand : Demand where
  first := ⟨"Downstream Port Containment", 8⟩
  further p :=
    let capability := Capability.ofWord (p.u16 0)
    if capability.rpExtensionsForDpc then
      some ⟨"Downstream Port Containment RP Extensions", capability.size⟩
    else none
  further_eq p q h := by rw [h.word]

theorem PortContainment.governs_demand : PortContainment.demand.Governs PortContainment.decode :=
  governs_require (d := demand) fun _ _ => (unreadable?_map _ _).trans unreadable?_require_if

/-- The first entry says how many there are. -/
def ResizableBar.demand (name : String) : Demand where
  first := ⟨name, 8⟩
  further p :=
    let count := entryCount (p.u32 4)
    if 1 ≤ count ∧ count ≤ 6 then some ⟨name, 8 * count⟩ else none
  further_eq p q h := by rw [h.dword]

theorem ResizableBar.governs_demand (name : String) :
    (demand name).Governs (readEntries name) := by
  refine governs_require (d := demand name) fun payload p => ?_
  simp only [demand]
  split
  · exact unreadable?_require_ok
  · rfl

/-- The block of registers of a kind, if it is decoded. -/
def HyperTransport.Kind.block? : Kind → Option Need
  | .slaveOrPrimaryInterface => some ⟨"HyperTransport Slave/Primary Interface", 26⟩
  | .hostOrSecondaryInterface => some ⟨"HyperTransport Host/Secondary Interface", 22⟩
  | .revisionId => some ⟨"HyperTransport Revision ID", 1⟩
  | .msiMapping => some ⟨"HyperTransport MSI Mapping", 10⟩
  | _ => none

/-- A block that is decoded is all that can be lacking. -/
theorem HyperTransport.Block.unreadable?_decode (kind : Kind) (payload : Bytes) :
    unreadable? (Block.decode kind payload) =
      (kind.block?.bind (Need.lackedBy payload)).map (Need.fault · payload) := by
  cases kind
  case slaveOrPrimaryInterface | hostOrSecondaryInterface | revisionId | msiMapping =>
    exact (unreadable?_map _ _).trans unreadable?_require_ok
  all_goals rfl

/-- The capability type says which block follows. -/
def HyperTransport.demand : Demand where
  first := ⟨"HyperTransport", 2⟩
  further p := (Kind.ofCode (field (p.u16 0) 11 5)).block?
  further_eq p q h := by rw [h.word]

theorem HyperTransport.governs_demand : HyperTransport.demand.Governs HyperTransport.decode :=
  governs_require (d := demand) fun payload _ =>
    (unreadable?_map _ _).trans (Block.unreadable?_decode _ payload)

/-- The length says how large the capability is, unless it is invalid. -/
def VendorSpecific.demand : Demand where
  first := ⟨"Vendor Specific", 1⟩
  further p := if p.u8 0 < 3 then none else some ⟨"Vendor Specific", p.u8 0 - 2⟩
  further_eq p q h := by rw [h.byte]

theorem VendorSpecific.governs_demand : VendorSpecific.demand.Governs VendorSpecific.read := by
  refine governs_require (d := demand) fun payload p => ?_
  simp only [demand]
  split
  · rfl
  · exact unreadable?_require_ok

/-- The fixed part is all that is asked for: a length beyond the payload is a contradiction. -/
theorem DesignatedVendor.governs_demand :
    (Demand.fixed "Designated Vendor-Specific" 6).Governs DesignatedVendor.read := by
  refine governs_require (d := .fixed "Designated Vendor-Specific" 6) fun payload p => ?_
  simp only
  split <;> rfl

end Structures

/-! ## Containers -/

section Containers

variable {α β : Type}

/-- The shortage that a decoder reports. -/
def reported? (l : Logged (Except Error α)) : Option Fault :=
  unreadable? (l.value.mapError Error.fault)

theorem reported?_map (l : Logged (Except Error α)) (g : α → β) :
    reported? (l.map (·.map g)) = reported? l := by
  unfold reported? Logged.map
  cases l.value <;> rfl

theorem reported?_quiet (r : Except Fault α) : reported? (.quiet r) = unreadable? r := by
  unfold reported? Logged.quiet
  cases r <;> rfl

/-- A container reports what its inside lacks as a failure of its inside. -/
theorem reported?_dispatch (d : Dispatcher α) (vendorId subId : Int) (data : Bytes)
    (revision length : Option Int) :
    reported? (d.dispatch vendorId subId data revision length) = none := by
  unfold Dispatcher.dispatch
  split
  · rfl
  · split <;> rfl

theorem VendorSpecific.reported?_decode (payload : Bytes) (vendorId deviceId : Option Int) :
    reported? (decode payload vendorId deviceId) = unreadable? (read payload) := by
  rw [decode_eq]
  cases read payload with
  | error f => rfl
  | ok parts =>
    simp only [interpret]
    split
    · rw [reported?_map, reported?_dispatch]
      rfl
    · rfl

theorem DesignatedVendor.reported?_decode (payload : Bytes) :
    reported? (decode payload) = unreadable? (read payload) := by
  rw [decode_eq]
  cases read payload with
  | error f => rfl
  | ok parts =>
    simp only [interpret]
    rw [reported?_map, reported?_dispatch]
    rfl

end Containers

/-! ## All decoders -/

namespace Decoder

/-- A decoder that reports the shortages that one demand tells, whatever the device. -/
def Governed (decoder : Decoder) : Prop :=
  ∃ d : Demand, ∀ payload options,
    reported? (decoder payload options) = (d.unmet payload).map (Need.fault · payload)

/-- To lack nothing is to ask for nothing. -/
theorem governed_of_silent {decoder : Decoder}
    (h : ∀ payload options, reported? (decoder payload options) = none) : decoder.Governed := by
  refine ⟨.fixed "" 0, fun payload options => ?_⟩
  rw [h, Demand.unmet_of_le (Nat.zero_le _)]
  rfl

theorem governed_plain {α : Type} {wrap : α → Body} {read : Bytes → Except Fault α} {d : Demand}
    (h : d.Governs read) : (plain wrap read).Governed := by
  refine ⟨d, fun payload options => ?_⟩
  rw [plain, reported?_quiet, unreadable?_map]
  exact h payload

end Decoder

/-- Every decoder of a legacy capability has a demand. -/
theorem CapabilityId.governed_of_decoder? {id : CapabilityId} {decoder : Decoder}
    (h : id.decoder? = some decoder) : decoder.Governed := by
  cases id <;> cases h
  case null | compactPciHotSwap | compactPciResourceControl | pciHotPlug | agp8x | secureDevice =>
    exact Decoder.governed_of_silent fun _ _ => rfl
  case msi => exact Decoder.governed_plain Msi.governs_demand
  case hypertransport => exact Decoder.governed_plain HyperTransport.governs_demand
  case vendorSpecific =>
    refine ⟨VendorSpecific.demand, fun payload options => ?_⟩
    rw [reported?_map, VendorSpecific.reported?_decode]
    exact VendorSpecific.governs_demand payload
  all_goals exact Decoder.governed_plain governs_fixed

theorem ExtendedCapabilityId.governed_of_decoder? {id : ExtendedCapabilityId} {decoder : Decoder}
    (h : id.decoder? = some decoder) : decoder.Governed := by
  cases id <;> cases h
  case advancedErrorReporting => exact Decoder.governed_plain ErrorReporting.governs_demand
  case accessControlServices => exact Decoder.governed_plain AccessControl.governs_demand
  case resizableBar | vfResizableBar =>
    exact Decoder.governed_plain ((ResizableBar.governs_demand _).map _)
  case downstreamPortContainment => exact Decoder.governed_plain PortContainment.governs_demand
  case designatedVendorSpecific =>
    refine ⟨.fixed "Designated Vendor-Specific" 6, fun payload options => ?_⟩
    rw [reported?_map, DesignatedVendor.reported?_decode]
    exact DesignatedVendor.governs_demand payload
  all_goals first
    | exact Decoder.governed_of_silent fun _ _ => rfl
    | exact Decoder.governed_plain governs_fixed

theorem governed_of_decoder? {extended : Bool} {capId : Int} {decoder : Decoder}
    (h : decoder? extended capId = some decoder) : decoder.Governed :=
  decoder?_cases (fun _ _ => CapabilityId.governed_of_decoder?)
    (fun _ _ => ExtendedCapabilityId.governed_of_decoder?) h

/-! ## Decoding -/

namespace RawCapability

/-- What decoding the capability gives if its payload is another one. -/
def resultOn (raw : RawCapability) (options : Options) (payload : Bytes) :
    Except Error Decoded :=
  ((raw.withPayload payload).decode options).value

/-- Where the errors of a capability are found. -/
def site (raw : RawCapability) : Site :=
  ⟨some raw.offset, some raw.capId⟩

variable {raw : RawCapability} {options : Options} {d : Demand} {payload : Bytes}

/-- A demand tells which payloads the capability is reported to be short of, and by what. -/
def GovernedBy (raw : RawCapability) (options : Options) (d : Demand) : Prop :=
  ∀ payload, unreadable? ((raw.resultOn options payload).mapError Error.fault) =
    (d.unmet payload).map (Need.fault · payload)

/-- Every capability has one demand, whatever the device. -/
theorem exists_demand (raw : RawCapability) :
    ∃ d : Demand, ∀ options, raw.GovernedBy options d := by
  have hbody : Decoder.Governed fun payload options =>
      (raw.withPayload payload).decodeBody options := by
    unfold decodeBody
    have hdecoder : ∀ payload, decoder? (raw.withPayload payload).extended
        (raw.withPayload payload).capId = decoder? raw.extended raw.capId := fun _ => rfl
    simp only [hdecoder]
    cases h : decoder? raw.extended raw.capId with
    | none => exact Decoder.governed_of_silent fun _ _ => rfl
    | some decoder => exact governed_of_decoder? h
  obtain ⟨d, hd⟩ := hbody
  refine ⟨d, fun options payload => ?_⟩
  -- An error gets a place, and is the same fault there.
  rw [← hd payload options, reported?, resultOn, decode, Logged.map]
  cases ((raw.withPayload payload).decodeBody options).value <;> rfl

namespace GovernedBy

theorem exists_unmet (hd : raw.GovernedBy options d) {name : String} {size available : Int}
    {site : Site}
    (h : raw.resultOn options payload = .error ⟨.unreadable name size available, site⟩) :
    ∃ need, d.unmet payload = some need ∧
      Error.mk (.unreadable name size available) site = ⟨need.fault payload, raw.site⟩ := by
  have hpayload := hd payload
  rw [h] at hpayload
  obtain ⟨need, hneed, hfault⟩ := Option.map_eq_some_iff.1 hpayload.symm
  have hsite : site = raw.site := (fault_of_decode h).1
  exact ⟨need, hneed, by rw [hfault, hsite]⟩

/-- What is lacking is reported, with the place of the capability. -/
theorem resultOn_eq_error (hd : raw.GovernedBy options d) {need : Need}
    (h : d.unmet payload = some need) :
    raw.resultOn options payload = .error ⟨need.fault payload, raw.site⟩ := by
  have hpayload := hd payload
  rw [h] at hpayload
  cases hresult : raw.resultOn options payload with
  | ok decoded =>
    rw [hresult] at hpayload
    cases hpayload
  | error e =>
    rw [hresult] at hpayload
    obtain ⟨fault, site⟩ := e
    cases fault <;> cases hpayload
    -- The fault is the right one, and so is the place, since it is that of a shortage.
    obtain ⟨need', hneed', heq⟩ := hd.exists_unmet hresult
    cases h.symm.trans hneed'
    rw [heq]

/-- Where nothing is lacking, no shortage is reported. -/
theorem kind_ne_of_unmet_eq_none (hd : raw.GovernedBy options d) (h : d.unmet payload = none)
    {e : Error} (he : raw.resultOn options payload = .error e) : e.kind ≠ .unreadable := by
  have hpayload := hd payload
  rw [h, he] at hpayload
  obtain ⟨fault, site⟩ := e
  intro hkind
  cases fault
  case unreadable => cases hpayload
  case walk fault => cases fault <;> cases hkind
  all_goals cases hkind

end GovernedBy

end RawCapability

/-- What it means that a payload was reported to be short of a structure of some size. -/
structure Threshold {α : Type} (result : Bytes → Except Error α) (payload : Bytes)
    (name : String) (size available : Int) (site : Site) : Prop where
  /-- The bytes that are there are those of the payload, -/
  available_eq : available = payload.length
  /-- and they are not enough. -/
  short : available < size
  /-- As long as a longer payload does not have enough of them either, it is reported to be
  short of the same. -/
  same : ∀ longer, payload <+: longer → (longer.length : Int) < size →
    result longer = .error ⟨.unreadable name size longer.length, site⟩
  /-- One that has can only be short of more. -/
  more : ∀ longer, payload <+: longer → size ≤ longer.length →
    ∀ name' size' available' site',
      result longer = .error ⟨.unreadable name' size' available', site'⟩ → size < size'

/-- Payloads of which each one that is reported to be short is followed by one that goes on
with the bytes it lacked, and maybe others. -/
def Supplies {α : Type} (result : Bytes → Except Error α) (supply : Nat → Bytes) : Prop :=
  ∀ i name size available site,
    result (supply i) = .error ⟨.unreadable name size available, site⟩ →
      supply i <+: supply (i + 1) ∧ size ≤ (supply (i + 1)).length

/-- **Shortages name exact thresholds.**  If a capability cannot be decoded because a structure
does not fit its payload, whichever it is and whatever the device, then the size reported is
where that changes: a longer payload below it fails in the same way, and one that reaches it
does not fail again for that or for less.  So the bytes that are lacking need not be supplied
more than twice until the capability can be decoded, or fails for another reason. -/
theorem shortage_thresholds (raw : RawCapability) (options : Options) :
    (∀ payload name size available site,
      raw.resultOn options payload = .error ⟨.unreadable name size available, site⟩ →
        Threshold (raw.resultOn options) payload name size available site) ∧
    ∀ supply, Supplies (raw.resultOn options) supply → ∃ i ≤ 2, ∀ e,
      raw.resultOn options (supply i) = .error e → e.kind ≠ .unreadable := by
  obtain ⟨d, hd⟩ := raw.exists_demand
  replace hd := hd options
  refine ⟨fun payload name size available site h => ?_, fun supply hsupply => ?_⟩
  · obtain ⟨need, hneed, heq⟩ := hd.exists_unmet h
    cases heq
    have hshort := Demand.length_lt_of_unmet hneed
    refine ⟨rfl, Int.ofNat_lt.2 hshort, fun longer hext hlt => ?_, fun longer hext hle => ?_⟩
    · exact hd.resultOn_eq_error (Demand.unmet_of_prefix hneed hext (Int.ofNat_lt.1 hlt))
    · intro name' size' available' site' h'
      obtain ⟨need', hneed', heq'⟩ := hd.exists_unmet h'
      cases heq'
      have hshort' := Demand.length_lt_of_unmet hneed'
      exact Int.lt_of_le_of_lt hle (Int.ofNat_lt.2 hshort')
  · have hunmet : ∀ i need, d.unmet (supply i) = some need →
        supply i <+: supply (i + 1) ∧ need.size ≤ (supply (i + 1)).length := by
      intro i need hneed
      obtain ⟨hext, hsize⟩ := hsupply i _ _ _ _ (hd.resultOn_eq_error hneed)
      exact ⟨hext, Int.ofNat_le.1 hsize⟩
    obtain ⟨i, hi, hnone⟩ := Demand.exists_unmet_eq_none hunmet
    exact ⟨i, hi, fun e => hd.kind_ne_of_unmet_eq_none hnone⟩

/-- An interrupt structure of which nothing is there, then its control register, which calls
for all that it can have, and then that. -/
theorem shortage_thresholds_interrupts :
    let raw : RawCapability := { offset := 0x50, capId := 0x05, version := none, payload := [] }
    let supply : Nat → Bytes
      | 0 => []
      | 1 => [0x80, 0x01]
      | _ => [0x80, 0x01] ++ List.replicate 20 0
    raw.resultOn {} [] =
      .error ⟨.unreadable "Message Signaled Interrupts" 2 0, ⟨some 0x50, some 0x05⟩⟩ ∧
    raw.resultOn {} [0x80, 0x01] =
      .error ⟨.unreadable "Message Signaled Interrupts" 22 2, ⟨some 0x50, some 0x05⟩⟩ ∧
    Threshold (raw.resultOn {}) [] "Message Signaled Interrupts" 2 0 ⟨some 0x50, some 0x05⟩ ∧
    Threshold (raw.resultOn {}) [0x80, 0x01] "Message Signaled Interrupts" 22 2
      ⟨some 0x50, some 0x05⟩ ∧
    Supplies (raw.resultOn {}) supply ∧
    ∃ i ≤ 2, ∀ e, raw.resultOn {} (supply i) = .error e → e.kind ≠ .unreadable := by
  intro raw supply
  have hnothing : raw.resultOn {} [] =
      .error ⟨.unreadable "Message Signaled Interrupts" 2 0, ⟨some 0x50, some 0x05⟩⟩ := by
    decide
  have hcontrol : raw.resultOn {} [0x80, 0x01] =
      .error ⟨.unreadable "Message Signaled Interrupts" 22 2, ⟨some 0x50, some 0x05⟩⟩ := by
    decide
  have hall : (raw.resultOn {} ([0x80, 0x01] ++ List.replicate 20 0)).isOk = true := by decide
  have hsupply : Supplies (raw.resultOn {}) supply := by
    intro i name size available site h
    match i with
    | 0 =>
      cases hnothing.symm.trans h
      exact ⟨List.nil_prefix, by decide⟩
    | 1 =>
      cases hcontrol.symm.trans h
      exact ⟨List.prefix_append _ _, by decide⟩
    | i + 2 =>
      change raw.resultOn {} ([0x80, 0x01] ++ List.replicate 20 0) = _ at h
      rw [h] at hall
      cases hall
  obtain ⟨hthreshold, hends⟩ := shortage_thresholds raw {}
  exact ⟨hnothing, hcontrol, hthreshold _ _ _ _ _ hnothing, hthreshold _ _ _ _ _ hcontrol,
    hsupply, hends supply hsupply⟩

end ConfigSpace
