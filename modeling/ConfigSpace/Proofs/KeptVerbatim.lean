import ConfigSpace.Proofs.PayloadSpans
import ConfigSpace.Proofs.RootOffsets
import ConfigSpace.Proofs.VendorDispatch

/-!
# Capabilities that are kept as they are

Some identifiers have no decoder, and some only give a capability a name.  The payload of such a
capability is not looked at, but kept byte for byte.  This file says so of single capabilities
and of those that a walk finds, and that what a capability is decoded to is a matter of its
identifier, its list and its payload only.

* `ExtendedCapabilityId.isRegistered_iff` and `CapabilityId.isRegistered_iff` — which numbers
  have a decoder.
* `answers_known` — no registered decoder answers that its capability is not known.
* `RawCapability.Kept` — what decoding keeps of a capability.
* `RawCapability.value_decode_eq_of_same` — where the capability was found matters only to the
  place that the answer names.

The main result is `capabilities_kept`.
-/

namespace ConfigSpace

/-! ## Registered identifiers -/

namespace ExtendedCapabilityId

/-- An identifier is found by its number. -/
theorem ofCode?_code (id : ExtendedCapabilityId) : ofCode? id.code = some id := by
  cases id <;> rfl

theorem code_of_ofCode? {c : Int} {id : ExtendedCapabilityId} (h : ofCode? c = some id) :
    (id.code : Int) = c := by
  have hfound := List.find?_some h
  exact of_decide_eq_true hfound

theorem code_le_of_decoder? {id : ExtendedCapabilityId} {decoder : Decoder}
    (h : id.decoder? = some decoder) : id.code ≤ 0x2C := by
  cases id <;> first | decide | cases h

/-- A capability with a title is known by it, and not otherwise. -/
theorem decoder?_of_title? {id : ExtendedCapabilityId} {title : String}
    (h : id.title? = some title) : id.decoder? = some (.named id title) := by
  cases id <;> cases h <;> rfl

/-- The extended identifiers with a decoder are those up to 2Ch. -/
theorem isRegistered_iff (c : Int) : isRegistered true c = true ↔ 0 ≤ c ∧ c ≤ 0x2C := by
  constructor
  · intro h
    obtain ⟨decoder, hdecoder⟩ := Option.isSome_iff_exists.1 h
    obtain ⟨id, hcode, hid⟩ := Option.bind_eq_some_iff.1 hdecoder
    have hle := code_le_of_decoder? hid
    rw [← code_of_ofCode? hcode]
    omega
  · rintro ⟨hlow, hhigh⟩
    interval_cases c <;> rfl

end ExtendedCapabilityId

namespace CapabilityId

theorem code_of_ofCode? {c : Int} {id : CapabilityId} (h : ofCode? c = some id) :
    (id.code : Int) = c := by
  have hfound := List.find?_some h
  exact of_decide_eq_true hfound

theorem code_of_decoder? {id : CapabilityId} {decoder : Decoder}
    (h : id.decoder? = some decoder) : id.code ≤ 0x13 ∧ id.code ≠ 0x02 ∧ id.code ≠ 0x07 := by
  cases id <;> first | decide | cases h

/-- The legacy identifiers with a decoder are those up to 13h, but for AGP and PCI-X. -/
theorem isRegistered_iff (c : Int) :
    isRegistered false c = true ↔ 0 ≤ c ∧ c ≤ 0x13 ∧ c ≠ 0x02 ∧ c ≠ 0x07 := by
  constructor
  · intro h
    obtain ⟨decoder, hdecoder⟩ := Option.isSome_iff_exists.1 h
    obtain ⟨id, hcode, hid⟩ := Option.bind_eq_some_iff.1 hdecoder
    have hrange := code_of_decoder? hid
    rw [← code_of_ofCode? hcode]
    omega
  · rintro ⟨hlow, hhigh, hagp, hpciX⟩
    interval_cases c <;> first | rfl | contradiction

end CapabilityId

/-! ## Decoders answer with what they know -/

theorem CapabilityId.answers_known {id : CapabilityId} {decoder : Decoder}
    (h : id.decoder? = some decoder) : decoder.Answers (·.known = true) := by
  cases id <;> cases h
  case null | compactPciHotSwap | compactPciResourceControl | pciHotPlug | agp8x | secureDevice =>
    exact Decoder.answers_constant rfl
  case vendorSpecific => exact Decoder.answers_map fun _ _ _ _ => rfl
  all_goals exact Decoder.answers_plain fun _ _ _ => rfl

theorem ExtendedCapabilityId.answers_known {id : ExtendedCapabilityId} {decoder : Decoder}
    (h : id.decoder? = some decoder) : decoder.Answers (·.known = true) := by
  cases id <;> cases h
  case null => exact Decoder.answers_constant rfl
  case designatedVendorSpecific => exact Decoder.answers_map fun _ _ _ _ => rfl
  all_goals first
    | exact Decoder.answers_named fun _ => rfl
    | exact Decoder.answers_plain fun _ _ _ => rfl

theorem answers_known {extended : Bool} {capId : Int} {decoder : Decoder}
    (h : decoder? extended capId = some decoder) : decoder.Answers (·.known = true) :=
  decoder?_cases (fun _ _ => CapabilityId.answers_known)
    (fun _ _ => ExtendedCapabilityId.answers_known) h

/-! ## One capability -/

namespace RawCapability

variable {raw raw' : RawCapability}

/-- What decoding keeps of a capability with these bytes. -/
structure Kept (raw : RawCapability) (data : Bytes) (result : Except Error Decoded) : Prop where
  /-- One without a decoder is not known, and its bytes are kept. -/
  unregistered : isRegistered raw.extended raw.capId = false →
    result = .ok (raw.decodedTo (.unknown raw.capId data)) ∧
      ∀ d, result = .ok d → d.known = false
  /-- One with a decoder is known, if it can be decoded. -/
  registered : isRegistered raw.extended raw.capId = true → ∀ d, result = .ok d → d.known = true
  /-- One with a title gets it as its name, and its bytes are kept. -/
  named : ∀ id title, raw.extended = true → raw.capId = ExtendedCapabilityId.code id →
    id.title? = some title → result = .ok (raw.decodedTo (.named id title data))

/-- Decoding is to decode the payload; an error is then located at the capability. -/
theorem value_decode_eq (raw : RawCapability) (options : Options) :
    (raw.decode options).value =
      ((raw.decodeBody options).value.map raw.decodedTo).mapError
        ({ · with site := ⟨some raw.offset, some raw.capId⟩ }) := by
  have hsite : ∀ e, (raw.decode options).value = .error e →
      e.site = ⟨some raw.offset, some raw.capId⟩ := fun e he => (fault_of_decode he).1
  unfold decode Logged.map at hsite ⊢
  cases hbody : (raw.decodeBody options).value with
  | ok body => rfl
  | error e =>
    rw [hbody] at hsite
    change Except.error (e.locate raw.offset raw.capId) = .error ⟨e.fault, _⟩
    rw [← hsite _ rfl]
    rfl

/-- A capability is decoded with its payload kept. -/
theorem kept_value_decode (raw : RawCapability) (options : Options) :
    raw.Kept raw.payload (raw.decode options).value := by
  refine ⟨fun hnone => ?_, fun hsome d hd => ?_, fun id title hextended hid htitle => ?_⟩
  · have hdecoder : decoder? raw.extended raw.capId = none :=
      Option.not_isSome_iff_eq_none.1 (Bool.eq_false_iff.1 hnone)
    have hvalue : (raw.decode options).value =
        .ok (raw.decodedTo (.unknown raw.capId raw.payload)) := by
      rw [value_decode_eq, decodeBody, hdecoder]
      rfl
    refine ⟨hvalue, fun d hd => ?_⟩
    rw [hvalue] at hd
    cases hd
    rfl
  · obtain ⟨decoder, hdecoder⟩ := Option.isSome_iff_exists.1 hsome
    rw [value_decode_of_decoder hdecoder] at hd
    cases hbody : (decoder raw.payload options).value with
    | error e =>
      rw [hbody] at hd
      cases hd
    | ok body =>
      rw [hbody] at hd
      cases hd
      exact answers_known hdecoder raw.payload options body hbody
  · have hdecoder : decoder? raw.extended raw.capId = some (.named id title) := by
      rw [hextended, hid, decoder?, if_pos rfl, ExtendedCapabilityId.ofCode?_code]
      exact ExtendedCapabilityId.decoder?_of_title? htitle
    rw [value_decode_of_decoder hdecoder]
    rfl

/-- Where the capability was found matters only to the place that the answer names, and its
version only as far as it has one. -/
theorem value_decode_eq_of_same (hextended : raw'.extended = raw.extended)
    (hcapId : raw'.capId = raw.capId) (hpayload : raw'.payload = raw.payload)
    (options : Options) :
    (raw'.decode options).value =
      ((raw.decode options).value.map (raw'.decodedTo ·.body)).mapError
        ({ · with site := ⟨some raw'.offset, some raw'.capId⟩ }) := by
  have hbody : (raw'.decodeBody options).value = (raw.decodeBody options).value := by
    unfold decodeBody
    rw [hextended, hcapId, hpayload]
    cases decoder? raw.extended raw.capId <;> rfl
  rw [value_decode_eq, value_decode_eq, hbody]
  cases (raw.decodeBody options).value <;> rfl

end RawCapability

/-! ## Capabilities that a walk finds -/

theorem records_of_negative {root : Int} (hneg : root < 0) (strict : Bool) (buffer : Bytes) :
    ((Walker.legacy root strict).walk buffer).records = [] := by
  have hsteps : ((Walker.legacy root strict).walk buffer).steps = [] := by
    cases strict with
    | false => exact (walk_lenient_of_negative hneg buffer).1
    | true => rw [walk_strict_of_oddities (by omega) (oddities_of_negative hneg)]
  rw [Walk.records, hsteps, List.map_nil]

/-- The payloads that walks find are in bounds, whatever the root. -/
theorem spans_of_mem_records {w : Walker} {strict : Bool}
    (hw : (∃ root, w = .legacy root strict) ∨ w = .extended strict) {buffer : Bytes}
    {record : Record} (hmem : record ∈ (w.walk buffer).records) :
    record.Spans w.region buffer := by
  rcases hw with ⟨root, rfl⟩ | rfl
  · rcases Int.lt_or_le root 0 with hneg | hnonneg
    · rw [records_of_negative hneg] at hmem
      cases hmem
    · obtain ⟨start, rfl⟩ := Int.eq_ofNat_of_zero_le hnonneg
      exact (Walker.tiling_of_proper (proper_legacy start strict) buffer).1 record hmem
  · exact (Walker.tiling_of_proper (proper_extended strict) buffer).1 record hmem

/-- **Capabilities without a decoder, or with a name only, are kept as they are.**  The numbers
that have a decoder are those of the tables.  A capability without one is decoded as unknown, and
one with a title by its name, both with their whole payloads; if any other one is decoded, it is
known.  So the bytes that are kept of a capability that a walk finds are those of the buffer from
the end of its header to the end of its payload.  And capabilities of one list with the same
identifier and payload are decoded to the same body, or fail with the same error, but for the
place that it names. -/
theorem capabilities_kept :
    (∀ c : Int, isRegistered true c = true ↔ 0 ≤ c ∧ c ≤ 0x2C) ∧
    (∀ c : Int, isRegistered false c = true ↔ 0 ≤ c ∧ c ≤ 0x13 ∧ c ≠ 0x02 ∧ c ≠ 0x07) ∧
    (∀ (raw : RawCapability) (options : Options),
      raw.Kept raw.payload (raw.decode options).value) ∧
    (∀ (buffer : Bytes) (strict : Bool) (w : Walker),
      (∃ root, w = .legacy root strict) ∨ w = .extended strict →
      ∀ record ∈ (w.walk buffer).records, record.Spans w.region buffer ∧
        ∀ options : Options, (record.load buffer).Kept (buffer.slice record.start record.stop)
          ((record.load buffer).decode options).value) ∧
    ∀ (raw raw' : RawCapability) (options : Options), raw'.extended = raw.extended →
      raw'.capId = raw.capId → raw'.payload = raw.payload →
      (raw'.decode options).value =
        ((raw.decode options).value.map (raw'.decodedTo ·.body)).mapError
          ({ · with site := ⟨some raw'.offset, some raw'.capId⟩ }) := by
  refine ⟨ExtendedCapabilityId.isRegistered_iff, CapabilityId.isRegistered_iff,
    RawCapability.kept_value_decode, ?_, ?_⟩
  · intro buffer strict w hw record hmem
    have hspans := spans_of_mem_records hw hmem
    refine ⟨hspans, fun options => ?_⟩
    rw [← hspans.payload_eq]
    exact (record.load buffer).kept_value_decode options
  · intro raw raw' options hextended hcapId hpayload
    exact RawCapability.value_decode_eq_of_same hextended hcapId hpayload options

/-- A list of one capability with an identifier that has no decoder. -/
def unknownDump : Bytes :=
  List.replicate 0x40 0 ++ [0x14, 0x00, 0xAA, 0xBB]

/-- An unknown capability is kept with what is behind its header, as is an extended one that has a
title only.  The error of a short payload moves with its capability. -/
theorem capabilities_kept_samples :
    let record : Record := ⟨0x40, { capId := 0x14, nextPtr := 0 }, 0x44⟩
    let ats : RawCapability := { offset := 0x100, capId := 0x0F, version := some 1, payload := [] }
    record ∈ ((Walker.legacy 0x40).walk unknownDump).records ∧
      ((record.load unknownDump).decode {}).value =
        .ok ⟨0x40, 0x14, none, .unknown 0x14 [0xAA, 0xBB]⟩ ∧
      (({ ats with capId := 0x10, payload := [0x01] } : RawCapability).decode {}).value =
        .ok ⟨0x100, 0x10, some 1, .named .srIov "Single Root I/O Virtualization" [0x01]⟩ ∧
      (({ ats with offset := 0x200, version := some 2 } : RawCapability).decode {}).value =
        .error ⟨.unreadable "Address Translation Services" 4 0, ⟨some 0x200, some 0x0F⟩⟩ := by
  intro record ats
  obtain ⟨-, hlegacy, hkept, hwalk, hmoved⟩ := capabilities_kept
  have hmem : record ∈ ((Walker.legacy 0x40).walk unknownDump).records := by decide +kernel
  refine ⟨hmem, ?_, ?_, ?_⟩
  · have hnone : isRegistered false 0x14 = false :=
      Bool.eq_false_iff.2 (mt (hlegacy 0x14).1 (by decide))
    obtain ⟨-, hrecord⟩ := hwalk unknownDump false (.legacy 0x40) (Or.inl ⟨0x40, rfl⟩) record hmem
    exact ((hrecord {}).unregistered hnone).1
  · exact (hkept _ {}).named .srIov _ rfl rfl rfl
  · exact (hmoved ats { ats with offset := 0x200, version := some 2 } {} rfl rfl rfl).trans rfl

end ConfigSpace
