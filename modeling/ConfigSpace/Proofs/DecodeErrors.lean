import ConfigSpace.Decoding
import ConfigSpace.Proofs.Reading

/-!
# The errors of decoders

Decoding a capability either gives a decoded one or fails, and this file says in which
ways it can fail.

* `Fault.FoundIn` — the faults that a payload can have: a structure that does not fit it,
  a count or a length that contradicts itself, and a failure inside a container.  Each
  comes with the reason why it is one, so that a fault which names a shortage is only
  found where there is a shortage.
* `Sound` — a result that is either a value or a fault of that sort, and not one of the
  inside of a container.  Decoders are put together from `Bytes.require` and from results,
  and `sound_require`, `sound_ok` and `sound_map` follow them.
* `Decoder.Disciplined` — a decoder whose errors are faults of that sort, which do not say
  yet where they were found.
* `Decoder.Built` — the ways in which the registered decoders are put together
  (`built_of_decoder?`).  Each of them makes a disciplined one (`Built.disciplined`).
* `Decoder.Answers` — what can be said of all bodies that a decoder gives, put together in the
  same ways.
* `RawCapability.place_of_decode` and `RawCapability.fault_of_decode` — where a capability is
  decoded to, and what an error says of it.

The main result is `decode_disciplined`.
-/

namespace ConfigSpace

/-! ## Faults -/

/-- The faults that a payload can have. -/
inductive Fault.FoundIn (payload : Bytes) : Fault → Prop where
  /-- The payload is shorter than the structure. -/
  | unreadable {name : String} {size : Nat} (short : payload.length < size) :
      FoundIn payload (.unreadable name size payload.length)
  /-- A count is out of its range. -/
  | countOutOfRange {name : String} {value minimum maximum : Int}
      (out : value < minimum ∨ maximum < value) :
      FoundIn payload (.countOutOfRange name value minimum maximum)
  /-- A length is too small. -/
  | invalidLength {name : String} {value minimum : Int} (below : value < minimum) :
      FoundIn payload (.invalidLength name value minimum)
  /-- A declared length, which counts the capability's header in, is smaller than the fixed
  part or larger than what there is. -/
  | lengthMismatch {vendorId revision structureId : Int} {declared : Nat}
      (contradicts : declared < DesignatedVendor.fixedSize ∨
        payload.length + DesignatedVendor.headerSize < declared) :
      FoundIn payload (.lengthMismatch vendorId revision declared structureId
        (payload.length + DesignatedVendor.headerSize : Nat))
  /-- The registers in a container are shorter than the structure they are decoded to. -/
  | nested {name inner : String} {vendorId subId : Int} {revision length : Option Int}
      {size available : Nat} (short : available < size) (inside : available ≤ payload.length) :
      FoundIn payload
        (.nested name vendorId subId revision length (.unreadable inner size available) {})

namespace Fault.FoundIn

variable {payload : Bytes} {f : Fault}

theorem kind_mem (h : f.FoundIn payload) (site : Site) :
    (⟨f, site⟩ : Error).kind ∈
      [.unreadable, .countOutOfRange, .invalidLength, .lengthMismatch, .nested] := by
  cases h <;> simp [Error.kind]

/-- A fault of a payload names no offset itself, so as an error it is found nowhere yet. -/
theorem ofFault (h : f.FoundIn payload) :
    (Error.ofFault f).site = {} ∧ (Error.ofFault f).fault.FoundIn payload := by
  have horigin : f.origin = none := by cases h <;> rfl
  exact ⟨by rw [Error.ofFault, horigin], h⟩

end Fault.FoundIn

/-! ## Results -/

/-- A result that is a value, or a fault that the payload has by itself, and not by what is
inside a container. -/
def Sound {α : Type} (payload : Bytes) (r : Except Fault α) : Prop :=
  ∀ f, r = .error f → f.FoundIn payload ∧ f.inner? = none

section Sound

variable {α β : Type} {payload : Bytes}

theorem sound_ok (a : α) : Sound payload (.ok a) := by
  intro f h
  cases h

theorem sound_error {f : Fault} (h : f.FoundIn payload) (own : f.inner? = none) :
    Sound payload (.error f : Except Fault α) := by
  intro g hg
  cases hg
  exact ⟨h, own⟩

theorem sound_map {r : Except Fault α} (h : Sound payload r) (g : α → β) :
    Sound payload (r.map g) := by
  intro f hf
  cases r with
  | ok a => cases hf
  | error f' =>
    cases hf
    exact h f rfl

/-- A payload that is too short has that fault; otherwise the reading counts. -/
theorem sound_require {name : String} {size : Nat} {read : Bytes.AtLeast size → Except Fault α}
    (h : ∀ p, Sound payload (read p)) : Sound payload (payload.require name size read) := by
  rcases Nat.lt_or_ge payload.length size with hlt | hle
  · rw [Bytes.require_of_lt hlt]
    exact sound_error (.unreadable hlt) rfl
  · rw [Bytes.require_of_le hle]
    exact h ⟨payload, hle⟩

/-- A part that is only there if a register says so can only be too short. -/
theorem sound_require_if {present : Prop} [Decidable present] {name : String} {size : Nat}
    {g : Bytes.AtLeast size → α} {a : α} :
    Sound payload (if present then payload.require name size fun p => .ok (g p) else .ok a) := by
  by_cases h : present
  · rw [if_pos h]
    exact sound_require fun p => sound_ok _
  · rw [if_neg h]
    exact sound_ok a

/-- A value was read from a payload that is long enough. -/
theorem exists_of_require_ok {name : String} {size : Nat}
    {read : Bytes.AtLeast size → Except Fault α} {a : α}
    (h : payload.require name size read = .ok a) : ∃ p, p.bytes = payload ∧ read p = .ok a := by
  rcases Nat.lt_or_ge payload.length size with hlt | hle
  · rw [Bytes.require_of_lt hlt] at h
    cases h
  · rw [Bytes.require_of_le hle] at h
    exact ⟨⟨payload, hle⟩, rfl, h⟩

/-- A structure whose registers are all in its required part can only be too short. -/
theorem error_of_require_ok {name : String} {size : Nat} {g : Bytes.AtLeast size → α} {f : Fault}
    (h : (payload.require name size fun p => .ok (g p)) = .error f) :
    payload.length < size ∧ f = .unreadable name size payload.length := by
  rcases Nat.lt_or_ge payload.length size with hlt | hle
  · rw [Bytes.require_of_lt hlt] at h
    cases h
    exact ⟨hlt, rfl⟩
  · rw [Bytes.require_of_le hle] at h
    cases h

end Sound

/-! ## Structures that ask twice

Most structures have a required part of one size, and what lies behind it is read where
it is there.  The following ones read in their required part what else they need. -/

section Structures

variable (payload : Bytes)

theorem Msi.sound_decode : Sound payload (Msi.decode payload) := by
  refine sound_require fun p => ?_
  refine sound_require fun q => ?_
  exact sound_ok _

theorem AccessControl.sound_decode : Sound payload (AccessControl.decode payload) := by
  refine sound_require fun p => sound_map ?_ _
  exact sound_require_if

theorem ErrorReporting.sound_decode : Sound payload (ErrorReporting.decode payload) := by
  refine sound_require fun p => ?_
  exact sound_require_if

theorem PortContainment.sound_decode : Sound payload (PortContainment.decode payload) := by
  refine sound_require fun p => sound_map ?_ _
  exact sound_require_if

/-- A table of base address registers has one to six entries. -/
theorem ResizableBar.sound_readEntries (name : String) :
    Sound payload (ResizableBar.readEntries name payload) := by
  refine sound_require fun p => ?_
  simp only
  split
  · exact sound_require fun q => sound_ok _
  · rename_i hcount
    refine sound_error (.countOutOfRange ?_) rfl
    omega

theorem HyperTransport.sound_decode : Sound payload (HyperTransport.decode payload) := by
  refine sound_require fun p => sound_map ?_ _
  unfold HyperTransport.Block.decode
  split
  · exact sound_map (sound_require fun q => sound_ok _) _
  · exact sound_map (sound_require fun q => sound_ok _) _
  · exact sound_map (sound_require fun q => sound_ok _) _
  · exact sound_map (sound_require fun q => sound_ok _) _
  · exact sound_ok _

theorem VendorSpecific.sound_read : Sound payload (VendorSpecific.read payload) := by
  refine sound_require fun p => ?_
  simp only
  split
  · rename_i hshort
    refine sound_error (.invalidLength ?_) rfl
    omega
  · exact sound_require fun q => sound_ok _

/-- A designated vendor's length counts the fixed part, and no more than there is. -/
theorem DesignatedVendor.sound_read : Sound payload (DesignatedVendor.read payload) := by
  refine sound_require fun p => ?_
  simp only
  split
  · exact sound_ok _
  · rename_i hlength
    refine sound_error (.lengthMismatch ?_) rfl
    omega

end Structures

/-! ## Containers -/

/-- The decoder of a structure whose registers are all in its required part: it fails where
they are too short, and does not say where they are. -/
def NestedDecoder.FailsShort {α : Type} (decoder : NestedDecoder α) : Prop :=
  ∀ registers subId e, (decoder registers subId).value = .error e →
    ∃ name size, registers.length < size ∧
      e = ⟨.unreadable name size registers.length, {}⟩

/-- A failure inside a container is a fault of the container, found nowhere yet. -/
theorem Dispatcher.error_of_dispatch {α : Type} {d : Dispatcher α} {payload data : Bytes}
    {vendorId subId : Int} {revision length : Option Int} {e : Error}
    (hd : ∀ decoder, d.lookup vendorId subId = some decoder → decoder.FailsShort)
    (hdata : data.length ≤ payload.length)
    (he : (d.dispatch vendorId subId data revision length).value = .error e) :
    e.site = {} ∧ e.fault.FoundIn payload := by
  unfold dispatch at he
  cases hlookup : d.lookup vendorId subId with
  | none =>
    rw [hlookup] at he
    cases he
  | some decoder =>
    rw [hlookup] at he
    rcases hdecoder : decoder data subId with ⟨value, events⟩
    simp only [hdecoder] at he
    cases value with
    | ok inside => cases he
    | error inner =>
      cases he
      obtain ⟨name, size, hshort, rfl⟩ := hd decoder hlookup data subId inner (by rw [hdecoder])
      exact ⟨rfl, .nested hshort hdata⟩

theorem failsShort_quiet {α : Type} {read : Bytes → Int → Except Fault α}
    (h : ∀ registers subId f, read registers subId = .error f →
      ∃ name size, registers.length < size ∧ f = .unreadable name size registers.length) :
    NestedDecoder.FailsShort fun registers subId => .quiet (read registers subId) := by
  intro registers subId e he
  cases hread : read registers subId with
  | ok a =>
    simp only [hread] at he
    cases he
  | error f =>
    simp only [hread] at he
    cases he
    obtain ⟨name, size, hshort, rfl⟩ := h registers subId f hread
    exact ⟨name, size, hshort, rfl⟩

/-- The registers of virtio devices are decoded to one plain structure. -/
theorem VendorSpecific.eq_of_lookup {vendorId deviceId : Int} {decoder : NestedDecoder Virtio}
    (h : VendorSpecific.dispatcher.lookup vendorId deviceId = some decoder) :
    decoder = fun registers _ => .quiet (Virtio.decode registers) := by
  simp only [Dispatcher.lookup, VendorSpecific.dispatcher] at h
  split at h
  · cases h
    rfl
  · cases h

theorem DesignatedVendor.eq_of_lookup {vendorId dvsecId : Int} {decoder : NestedDecoder Cxl}
    (h : DesignatedVendor.dispatcher.lookup vendorId dvsecId = some decoder) :
    decoder = fun registers dvsecId => .quiet (Cxl.decode registers dvsecId) := by
  simp only [Dispatcher.lookup, DesignatedVendor.dispatcher] at h
  split at h
  · cases h
    rfl
  · cases h

/-- A virtio device fails where its structure is too short. -/
theorem VendorSpecific.failsShort_of_lookup {vendorId deviceId : Int}
    {decoder : NestedDecoder Virtio}
    (h : VendorSpecific.dispatcher.lookup vendorId deviceId = some decoder) :
    decoder.FailsShort := by
  rw [eq_of_lookup h]
  refine failsShort_quiet fun registers _ f hf => ?_
  obtain ⟨hshort, hfault⟩ := error_of_require_ok hf
  exact ⟨_, _, hshort, hfault⟩

theorem DesignatedVendor.failsShort_of_lookup {vendorId dvsecId : Int}
    {decoder : NestedDecoder Cxl}
    (h : DesignatedVendor.dispatcher.lookup vendorId dvsecId = some decoder) :
    decoder.FailsShort := by
  rw [eq_of_lookup h]
  refine failsShort_quiet fun registers dvsecId f hf => ?_
  unfold Cxl.decode at hf
  split at hf
  · cases hdevice : Cxl.Device.decode registers with
    | ok device =>
      rw [hdevice] at hf
      cases hf
    | error f' =>
      rw [hdevice] at hf
      cases hf
      obtain ⟨hshort, hfault⟩ := error_of_require_ok hdevice
      exact ⟨_, _, hshort, hfault⟩
  · cases hf

/-! ## Decoders -/

/-- A decoder whose errors are faults of the payload, found nowhere yet. -/
def Decoder.Disciplined (decoder : Decoder) : Prop :=
  ∀ payload options e, (decoder payload options).value = .error e →
    e.site = {} ∧ e.fault.FoundIn payload

namespace Decoder

theorem disciplined_constant (body : Body) : (constant body).Disciplined := by
  intro payload options e he
  cases he

theorem disciplined_named (id : ExtendedCapabilityId) (title : String) :
    (named id title).Disciplined := by
  intro payload options e he
  cases he

/-- A capability that is read on its own has the faults of its payload. -/
theorem disciplined_plain {α : Type} {wrap : α → Body} {read : Bytes → Except Fault α}
    (h : ∀ payload, Sound payload (read payload)) : (plain wrap read).Disciplined := by
  intro payload options e he
  unfold plain Logged.quiet at he
  cases hread : read payload with
  | ok a =>
    rw [hread] at he
    cases he
  | error f =>
    rw [hread] at he
    cases he
    exact (h payload f hread).1.ofFault

end Decoder

theorem exists_of_map_ok {ε α β : Type} {x : Except ε α} {g : α → β} {b : β}
    (h : x.map g = .ok b) : ∃ a, x = .ok a ∧ g a = b := by
  cases x with
  | ok a =>
    cases h
    exact ⟨a, rfl, rfl⟩
  | error e => cases h

theorem error_of_map {α β : Type} {l : Logged (Except Error α)} {g : α → β} {e : Error}
    (h : (l.map (·.map g)).value = .error e) : l.value = .error e := by
  unfold Logged.map at h
  cases hl : l.value with
  | ok a =>
    rw [hl] at h
    cases h
  | error e' =>
    rw [hl] at h
    cases h
    rfl

namespace VendorSpecific

variable {payload registers : Bytes} {length : Nat}

theorem length_le_of_read (h : VendorSpecific.read payload = .ok (length, registers)) :
    registers.length ≤ payload.length := by
  obtain ⟨p, -, hp⟩ := exists_of_require_ok h
  simp only at hp
  split at hp
  · cases hp
  · obtain ⟨q, hq, hwindow⟩ := exists_of_require_ok hp
    cases hwindow
    simp only [Bytes.AtLeast.window, Bytes.length_window, hq]
    omega

/-- A vendor's capability has the faults of its payload and of its registers. -/
theorem disciplined_decode :
    Decoder.Disciplined fun payload options =>
      (VendorSpecific.decode payload options.vendorId options.deviceId).map
        (·.map .vendorSpecific) := by
  intro payload options e he
  have he' := error_of_map he
  unfold VendorSpecific.decode at he'
  cases hread : VendorSpecific.read payload with
  | error f =>
    rw [hread] at he'
    cases he'
    exact (VendorSpecific.sound_read payload f hread).1.ofFault
  | ok parts =>
    obtain ⟨length, registers⟩ := parts
    rw [hread] at he'
    simp only at he'
    split at he'
    · exact Dispatcher.error_of_dispatch (fun _ => failsShort_of_lookup)
        (length_le_of_read hread) (error_of_map he')
    · cases he'

end VendorSpecific

namespace DesignatedVendor

variable {payload : Bytes} {parts : Parts}

theorem length_le_of_read (h : DesignatedVendor.read payload = .ok parts) :
    parts.registers.length ≤ payload.length := by
  obtain ⟨p, -, hp⟩ := exists_of_require_ok h
  simp only at hp
  split at hp
  · cases hp
    simp only [Bytes.length_window]
    omega
  · cases hp

theorem disciplined_decode :
    Decoder.Disciplined fun payload _ =>
      (DesignatedVendor.decode payload).map (·.map .designatedVendor) := by
  intro payload options e he
  have he' := error_of_map he
  unfold DesignatedVendor.decode at he'
  cases hread : DesignatedVendor.read payload with
  | error f =>
    rw [hread] at he'
    cases he'
    exact (DesignatedVendor.sound_read payload f hread).1.ofFault
  | ok parts =>
    rw [hread] at he'
    exact Dispatcher.error_of_dispatch (fun _ => failsShort_of_lookup)
      (length_le_of_read hread) (error_of_map he')

end DesignatedVendor

/-! ## All decoders -/

/-- The ways in which the registered decoders are put together. -/
inductive Decoder.Built : Decoder → Prop where
  /-- The payload is not looked at. -/
  | constant (body : Body) : Built (constant body)
  /-- The capability is known by name only. -/
  | named (id : ExtendedCapabilityId) (title : String) : Built (named id title)
  /-- The capability is read on its own. -/
  | plain {α : Type} {wrap : α → Body} {read : Bytes → Except Fault α}
      (sound : ∀ payload, Sound payload (read payload)) : Built (plain wrap read)
  /-- The registers of the device's vendor are decoded. -/
  | vendorSpecific :
      Built fun payload options =>
        (VendorSpecific.decode payload options.vendorId options.deviceId).map
          (·.map .vendorSpecific)
  /-- The registers of a vendor that the capability names are decoded. -/
  | designatedVendor :
      Built fun payload _ => (DesignatedVendor.decode payload).map (·.map .designatedVendor)

/-- A structure whose registers are all in its required part is read on its own. -/
theorem Decoder.built_fixed {α : Type} {wrap : α → Body} {name : String} {size : Nat}
    {g : Bytes → Bytes.AtLeast size → α} :
    (Decoder.plain wrap fun payload =>
      payload.require name size fun p => .ok (g payload p)).Built :=
  .plain fun _ => sound_require fun _ => sound_ok _

/-- Every decoder of a legacy capability is put together in one of these ways. -/
theorem CapabilityId.built_of_decoder? {id : CapabilityId} {decoder : Decoder}
    (h : id.decoder? = some decoder) : decoder.Built := by
  cases id <;> cases h
  case null | compactPciHotSwap | compactPciResourceControl | pciHotPlug | agp8x | secureDevice =>
    exact .constant _
  case msi => exact .plain Msi.sound_decode
  case hypertransport => exact .plain HyperTransport.sound_decode
  case vendorSpecific => exact .vendorSpecific
  all_goals exact Decoder.built_fixed

theorem ExtendedCapabilityId.built_of_decoder? {id : ExtendedCapabilityId} {decoder : Decoder}
    (h : id.decoder? = some decoder) : decoder.Built := by
  cases id <;> cases h
  case null => exact .constant _
  case advancedErrorReporting => exact .plain ErrorReporting.sound_decode
  case accessControlServices => exact .plain AccessControl.sound_decode
  case resizableBar | vfResizableBar =>
    exact .plain fun payload => sound_map (ResizableBar.sound_readEntries payload _) _
  case downstreamPortContainment => exact .plain PortContainment.sound_decode
  case designatedVendorSpecific => exact .designatedVendor
  all_goals first | exact .named _ _ | exact Decoder.built_fixed

theorem built_of_decoder? {extended : Bool} {capId : Int} {decoder : Decoder}
    (h : decoder? extended capId = some decoder) : decoder.Built :=
  decoder?_cases (fun _ _ => CapabilityId.built_of_decoder?)
    (fun _ _ => ExtendedCapabilityId.built_of_decoder?) h

/-- However a decoder is put together, it is disciplined. -/
theorem Decoder.Built.disciplined {decoder : Decoder} (h : decoder.Built) :
    decoder.Disciplined := by
  cases h with
  | constant body => exact disciplined_constant body
  | named id title => exact disciplined_named id title
  | plain sound => exact disciplined_plain sound
  | vendorSpecific => exact VendorSpecific.disciplined_decode
  | designatedVendor => exact DesignatedVendor.disciplined_decode

/-! ## Bodies -/

/-- A decoder all of whose bodies have a property. -/
def Decoder.Answers (P : Body → Prop) (decoder : Decoder) : Prop :=
  ∀ payload options body, (decoder payload options).value = .ok body → P body

namespace Decoder

variable {P : Body → Prop}

theorem answers_constant {body : Body} (h : P body) : (constant body).Answers P := by
  intro payload options body' hbody
  cases hbody
  exact h

theorem answers_named {id : ExtendedCapabilityId} {title : String}
    (h : ∀ payload, P (.named id title payload)) : (named id title).Answers P := by
  intro payload options body hbody
  cases hbody
  exact h payload

/-- A capability that is read on its own has what is made of the values that are read. -/
theorem answers_plain {α : Type} {wrap : α → Body} {read : Bytes → Except Fault α}
    (h : ∀ payload a, read payload = .ok a → P (wrap a)) : (plain wrap read).Answers P := by
  intro payload options body hbody
  unfold plain Logged.quiet at hbody
  cases hread : read payload with
  | error f =>
    rw [hread] at hbody
    cases hbody
  | ok a =>
    rw [hread] at hbody
    cases hbody
    exact h payload a hread

theorem answers_map {α : Type} {wrap : α → Body}
    {decode : Bytes → Options → Logged (Except Error α)}
    (h : ∀ payload options a, (decode payload options).value = .ok a → P (wrap a)) :
    Answers P fun payload options => (decode payload options).map (·.map wrap) := by
  intro payload options body hbody
  obtain ⟨a, ha, rfl⟩ := exists_of_map_ok hbody
  exact h payload options a ha

end Decoder

/-! ## Decoding -/

/-- What decoding a capability may answer: the capability at its place, or one of five
sorts of error, found at its place.  The inside of a container fails in one way only, and
does not say where. -/
def RawCapability.Disciplined (raw : RawCapability) : Except Error Decoded → Prop
  | .ok d => d.offset = raw.offset ∧ d.capId = raw.capId ∧ d.version = raw.version
  | .error e =>
      e.kind ∈ [.unreadable, .countOutOfRange, .invalidLength, .lengthMismatch, .nested] ∧
      e.site = ⟨some raw.offset, some raw.capId⟩ ∧
      e.fault.FoundIn raw.payload ∧
      ∀ name vendorId subId revision length inner innerSite,
        e.fault = .nested name vendorId subId revision length inner innerSite →
          (⟨inner, innerSite⟩ : Error).kind = .unreadable ∧ innerSite = ⟨none, none⟩

section Decode

variable {raw : RawCapability} {options : Options}

/-- A capability is decoded to one at its place. -/
theorem RawCapability.place_of_decode {d : Decoded} (h : (raw.decode options).value = .ok d) :
    d.offset = raw.offset ∧ d.capId = raw.capId ∧ d.version = raw.version := by
  unfold decode Logged.map at h
  cases hvalue : (raw.decodeBody options).value with
  | ok body =>
    rw [hvalue] at h
    cases h
    exact ⟨rfl, rfl, rfl⟩
  | error e =>
    rw [hvalue] at h
    cases h

/-- The decoder of a capability is disciplined, and its errors are then located. -/
theorem RawCapability.fault_of_decode {e : Error} (h : (raw.decode options).value = .error e) :
    e.site = ⟨some raw.offset, some raw.capId⟩ ∧ e.fault.FoundIn raw.payload := by
  have hbody : ∀ e, (raw.decodeBody options).value = .error e →
      e.site = {} ∧ e.fault.FoundIn raw.payload := by
    intro e he
    unfold decodeBody at he
    split at he
    · cases he
    · rename_i decoder hdecoder
      exact (built_of_decoder? hdecoder).disciplined raw.payload options e he
  unfold decode Logged.map at h
  cases hvalue : (raw.decodeBody options).value with
  | ok body =>
    rw [hvalue] at h
    cases h
  | error inner =>
    obtain ⟨hsite, hfault⟩ := hbody inner hvalue
    rw [hvalue] at h
    cases h
    refine ⟨?_, hfault⟩
    simp only [Error.locate, hsite]
    rfl

end Decode

/-- **Decoders keep their error discipline.**  Whatever the capability and the options,
decoding gives the capability or one of five sorts of error, both with the place of the
capability. -/
theorem decode_disciplined (raw : RawCapability) (options : Options) :
    raw.Disciplined (raw.decode options).value := by
  cases hvalue : (raw.decode options).value with
  | ok d => exact RawCapability.place_of_decode hvalue
  | error e =>
    obtain ⟨hsite, hfault⟩ := RawCapability.fault_of_decode hvalue
    refine ⟨hfault.kind_mem e.site, hsite, hfault, ?_⟩
    -- A container only ever wraps a shortage, which is found nowhere yet.
    intro name vendorId subId revision length inner innerSite hnested
    rw [hnested] at hfault
    cases hfault
    exact ⟨rfl, rfl⟩

end ConfigSpace
