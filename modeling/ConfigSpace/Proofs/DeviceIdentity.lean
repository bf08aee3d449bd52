import ConfigSpace.Proofs.FailFast
import ConfigSpace.Proofs.VendorDispatch

/-!
# The identity of the device

What the registers of a legacy vendor's capability mean depends on the device, of which the
caller may give the vendor, the identifier, both or neither; what is not given is read from the
start of configuration space.  This file says which identity a listing is decoded with, and what
becomes of each such capability in it.

* `Options.withIdentity_eq` — the two components are resolved each on its own.
* `VendorSpecific.IsVirtio` — the identities of virtio devices; `VendorSpecific.interpret_of_not`
  and `VendorSpecific.interpret_virtio` say what becomes of the registers of other devices and
  of theirs, and `Virtio.decode_of_le` and `Virtio.decode_of_lt` how many these must be.
* `VendorSpecific.Identified` — all of this about one capability with a valid length.
* `legacyRecords` — the capabilities that a legacy listing has entries for.

The main result is `vendor_specific_identified`.
-/

namespace ConfigSpace

/-! ## Resolving the identity -/

/-- The word at an offset of configuration space that identifies the device, if the buffer holds
both of the words that do so. -/
def identityWord (buffer : Bytes) (i : Nat) : Option Int :=
  if 4 ≤ buffer.length then some (buffer.u16 i) else none

/-- Each component is the one that is given, or else the one in the buffer, whether or not the
other one is given. -/
theorem Options.withIdentity_eq (options : Options) (buffer : Bytes) :
    options.withIdentity buffer =
      { options with
        vendorId := options.vendorId <|> identityWord buffer 0
        deviceId := options.deviceId <|> identityWord buffer 2 } := by
  unfold withIdentity identityWord
  rcases Nat.lt_or_ge buffer.length 4 with hlt | hle
  · rw [Bytes.atLeast?_of_lt hlt, if_neg (Nat.not_le.2 hlt), if_neg (Nat.not_le.2 hlt)]
    simp
  · rw [Bytes.atLeast?_of_le hle, if_pos hle, if_pos hle]
    rfl

/-! ## What becomes of the registers -/

/-- What is read of the registers of a virtio device in a capability of length `n`; the last one
belongs to a notification structure, and is read if it is there. -/
def Virtio.located (n : Nat) (registers : Bytes) : Virtio where
  cfgType := registers.u8 0
  bar := registers.u8 1
  offset := registers.u32 5
  size := registers.u32 9
  notifyOffMultiplier :=
    if registers.u8 0 = 2 ∧ 20 ≤ n then some (registers.u32 13) else none

section Virtio

variable {n : Nat} {registers : Bytes} (hsize : registers.length = n - 3)
include hsize

theorem Virtio.decode_of_le (h : 16 ≤ n) : decode registers = .ok (located n registers) := by
  have hmultiplier : (if registers.u8 0 = notifyType then
      (registers.atLeast? 17).map fun p => (p.u32 13 : Int) else none) =
      (located n registers).notifyOffMultiplier := by
    simp only [located, notifyType]
    -- 17 bytes of registers are 20 of the capability.
    rcases Nat.lt_or_ge registers.length 17 with hlt | hle
    · have hshort : ¬ 20 ≤ n := by omega
      simp [Bytes.atLeast?_of_lt hlt, hshort]
    · have hlong : 20 ≤ n := by omega
      simp only [Bytes.atLeast?_of_le hle, hlong, and_true]
      rfl
  refine (Bytes.require_of_le (show 13 ≤ registers.length by omega)).trans ?_
  exact congrArg (fun m => Except.ok { located n registers with notifyOffMultiplier := m })
    hmultiplier

theorem Virtio.decode_of_lt (h : n < 16) :
    decode registers = .error (.unreadable "Virtio" 13 (n - 3 : Nat)) := by
  rw [← hsize]
  exact Bytes.require_of_lt (by omega)

end Virtio

namespace VendorSpecific

/-- The identity is that of a virtio device; both of its components must be known. -/
def IsVirtio (vendor device : Option Int) : Prop :=
  vendor = some 0x1AF4 ∧ ∃ d, device = some d ∧ 0x1000 ≤ d ∧ d < 0x1080

variable {n : Nat} {registers : Bytes} {vendor device : Option Int}

theorem interpret_of_not (h : ¬ IsVirtio vendor device) :
    interpret n registers vendor device = ⟨.ok ⟨n, registers, none⟩, []⟩ := by
  cases vendor with
  | none => rfl
  | some v =>
    cases device with
    | none => rfl
    | some d =>
      have hnone : dispatcher.lookup v d = none := by
        have hexact : ¬ (v = virtioVendor ∧ 0x1000 ≤ d ∧ d < 0x1080) := by
          rintro ⟨rfl, hrange⟩
          exact h ⟨rfl, d, rfl, hrange⟩
        rw [Dispatcher.lookup, dispatcher]
        simp only [if_neg hexact]
        rfl
      rw [interpret, Dispatcher.dispatch, hnone]
      rfl

theorem interpret_virtio {d : Int} (hrange : 0x1000 ≤ d ∧ d < 0x1080) :
    (interpret n registers (some 0x1AF4) (some d)).value =
      match Virtio.decode registers with
      | .ok virtio => .ok ⟨n, registers, some virtio⟩
      | .error f => .error (.nested "Vendor Specific" 0x1AF4 d none (some n) (.ofFault f)) := by
  have hlookup : dispatcher.lookup 0x1AF4 d =
      some fun registers _ => .quiet (Virtio.decode registers) := by
    have hexact : (0x1AF4 : Int) = virtioVendor ∧ 0x1000 ≤ d ∧ d < 0x1080 := ⟨rfl, hrange⟩
    rw [Dispatcher.lookup, dispatcher]
    simp only [if_pos hexact]
    rfl
  rw [interpret, Dispatcher.dispatch, hlookup]
  cases hdecode : Virtio.decode registers with
  | ok virtio =>
    simp only [hdecode]
    rfl
  | error f =>
    simp only [hdecode]
    rfl

end VendorSpecific

/-! ## The capability -/

/-- Decoding a legacy vendor's capability is to decode its payload with the identity of the
device. -/
theorem RawCapability.value_decode_vendorSpecific {raw : RawCapability}
    (hlegacy : raw.extended = false) (hid : raw.capId = 0x09) (options : Options) :
    (raw.decode options).value =
      ((VendorSpecific.decode raw.payload options.vendorId options.deviceId).value.map fun r =>
        raw.decodedTo (.vendorSpecific r)).mapError (·.locate raw.offset raw.capId) := by
  have hdecoder : decoder? raw.extended raw.capId = some fun payload options =>
      (VendorSpecific.decode payload options.vendorId options.deviceId).map
        (·.map .vendorSpecific) := by
    rw [hlegacy, hid]
    rfl
  rw [value_decode_of_decoder hdecoder]
  simp only [Logged.map]
  cases (VendorSpecific.decode raw.payload options.vendorId options.deviceId).value <;> rfl

/-- What becomes of a legacy vendor's capability of length `n`, with these registers. -/
structure VendorSpecific.Identified (vendor device : Option Int) (raw : RawCapability) (n : Nat)
    (registers : Bytes) (entry : Entry) : Prop where
  /-- The registers are as many as the declared length leaves. -/
  length_eq : registers.length = n - 3
  /-- Those of a device that is not a virtio device, or not known, are kept. -/
  other : ¬ IsVirtio vendor device →
    entry = .decoded (raw.decodedTo (.vendorSpecific ⟨n, registers, none⟩))
  /-- Those of a virtio device are decoded, if they are there. -/
  virtio : IsVirtio vendor device → 16 ≤ n →
    entry = .decoded (raw.decodedTo (.vendorSpecific ⟨n, registers,
      some (Virtio.located n registers)⟩))
  /-- Otherwise the capability fails, with an error located at it that wraps an error located
  nowhere. -/
  short : ∀ v d, vendor = some v → device = some d → IsVirtio vendor device → n < 16 →
    entry = .failed {
      offset := raw.offset
      capId := raw.capId
      version := none
      error := {
        fault := .nested "Vendor Specific" v d none (some n)
          (.unreadable "Virtio" 13 (n - 3 : Nat)) {}
        site := ⟨some raw.offset, some raw.capId⟩ } }

section Settled

variable {raw : RawCapability} {options : Options} {n : Nat} {registers : Bytes}

theorem VendorSpecific.identified_of_value (hlegacy : raw.version = none)
    (hsize : registers.length = n - 3)
    (hvalue : (raw.decode options).value =
      ((interpret n registers options.vendorId options.deviceId).value.map fun r =>
        raw.decodedTo (.vendorSpecific r)).mapError (·.locate raw.offset raw.capId)) :
    Identified options.vendorId options.deviceId raw n registers (raw.settled options) := by
  refine ⟨hsize, ?_, ?_, ?_⟩
  · intro hnot
    rw [RawCapability.settled, hvalue, interpret_of_not hnot]
    rfl
  · rintro ⟨hvendor, d, hdevice, hrange⟩ hlong
    rw [RawCapability.settled, hvalue, hvendor, hdevice, interpret_virtio hrange,
      Virtio.decode_of_le hsize hlong]
    rfl
  · rintro v d hv hd ⟨hvendor, d', hdevice, hrange⟩ hshort
    cases hv.symm.trans hvendor
    cases hd.symm.trans hdevice
    rw [RawCapability.settled, hvalue, hvendor, hdevice, interpret_virtio hrange,
      Virtio.decode_of_lt hsize hshort, hlegacy]
    rfl

/-- A legacy vendor's capability with a valid length is settled by the identity of the device. -/
theorem RawCapability.identified_settled (options : Options) (hlegacy : raw.version = none)
    (hid : raw.capId = 0x09) (hfield : 1 ≤ raw.payload.length) (hfixed : 3 ≤ raw.payload.u8 0)
    (hlength : raw.payload.u8 0 ≤ 2 + raw.payload.length) :
    VendorSpecific.Identified options.vendorId options.deviceId raw (raw.payload.u8 0)
      (raw.payload.window 1 (raw.payload.u8 0 - 3)) (raw.settled options) := by
  have hextended : raw.extended = false := by
    rw [extended, hlegacy]
    rfl
  have hvalue := value_decode_vendorSpecific hextended hid options
  rw [(VendorSpecific.goesByLength options.vendorId options.deviceId).decode_of_le raw.payload
    hfield hfixed hlength] at hvalue
  refine VendorSpecific.identified_of_value hlegacy ?_ hvalue
  rw [Bytes.length_window]
  omega

end Settled

/-! ## Listings -/

/-- The capabilities that a legacy listing has entries for: those of the walk from the root that
a caller gives, or else from where configuration space says; none if there is no list. -/
def legacyRecords (buffer : Bytes) (root : Option Nat) (options : Options) : List Record :=
  match root <|> capabilitiesRoot buffer with
  | none => []
  | some start => ((Walker.legacy start options.strictAlignment).walk buffer).records

theorem version_of_mem_legacyRecords {buffer : Bytes} {root : Option Nat} {options : Options}
    {record : Record} (h : record ∈ legacyRecords buffer root options) :
    (record.load buffer).version = none := by
  unfold legacyRecords at h
  cases hstart : root <|> capabilitiesRoot buffer with
  | none =>
    rw [hstart] at h
    cases h
  | some start =>
    rw [hstart] at h
    change record ∈ ((Walker.legacy start options.strictAlignment).walk buffer).records at h
    obtain ⟨k, s, hwalk⟩ := Walker.walk_followsOrbit
      (proper_legacy start options.strictAlignment) (opens_legacy _ _ buffer)
    rw [hwalk.records_eq] at h
    obtain ⟨i, -, rfl⟩ := List.mem_map.1 h
    rfl

/-- A caller who does not ask to fail fast gets the settled entries of the legacy capabilities. -/
theorem exists_entries_decodeCapabilities (buffer : Bytes) (root : Option Nat)
    {options : Options} (tolerant : options.failFast = false) :
    ∃ l, (decodeCapabilities buffer (root.map Int.ofNat) options).value = .ok l ∧
      l.entries = settledEntries (options.withIdentity buffer)
        ((legacyRecords buffer root options).map (·.load buffer)) := by
  rw [decodeCapabilities_ofNat, legacyRecords]
  cases root <|> capabilitiesRoot buffer with
  | none => exact ⟨{}, rfl, rfl⟩
  | some start =>
    have hescape := Walker.escape_walk (w := Walker.legacy start options.strictAlignment)
      (Int.natCast_nonneg start) buffer
    have hfast := (failFast_withIdentity options buffer).trans tolerant
    exact ⟨_, Walk.value_listing_of_tolerant hescape hfast buffer, rfl⟩

/-- **The identity of the device decides what a legacy vendor's registers are.**  Vendor and
device are what the caller gives, or else what the buffer says, each on its own.  In a listing
that records failures, each capability with a valid length `n` has its registers, and those of
a virtio device are decoded as such; a capability of less than 16 bytes then is a failure. -/
theorem vendor_specific_identified (buffer : Bytes) (root : Option Nat) (options : Options)
    (tolerant : options.failFast = false) :
    let vendor := options.vendorId <|> identityWord buffer 0
    let device := options.deviceId <|> identityWord buffer 2
    ∃ l, (decodeCapabilities buffer (root.map Int.ofNat) options).value = .ok l ∧
      List.Forall₂ (fun record entry =>
          let raw := record.load buffer
          let n := raw.payload.u8 0
          raw.capId = 0x09 → 1 ≤ raw.payload.length → 3 ≤ n → n - 2 ≤ raw.payload.length →
            VendorSpecific.Identified vendor device raw n (raw.payload.window 1 (n - 3)) entry)
        (legacyRecords buffer root options) l.entries := by
  intro vendor device
  obtain ⟨l, hl, hentries⟩ := exists_entries_decodeCapabilities buffer root tolerant
  refine ⟨l, hl, ?_⟩
  rw [hentries, settledEntries, List.map_map, List.forall₂_map_right_iff, List.forall₂_same,
    options.withIdentity_eq]
  intro record hmem raw n hid hfield hfixed hlength
  exact RawCapability.identified_settled { options with vendorId := vendor, deviceId := device }
    (version_of_mem_legacyRecords hmem) hid hfield hfixed (Nat.sub_le_iff_le_add'.1 hlength)

/-- A virtio device with two capabilities, of 20 bytes and of 15. -/
def virtioDevice : Bytes :=
  [0xF4, 0x1A, 0x41, 0x10,
    0x09, 0x18, 0x14, 0x02, 0x04, 0x00, 0x00, 0x00, 0x00, 0x30, 0x00, 0x00, 0x00, 0x10, 0x00, 0x00,
    0x04, 0x00, 0x00, 0x00,
    0x09, 0x00, 0x0F, 0x02, 0x04, 0x00, 0x00, 0x00, 0x00, 0x30, 0x00, 0x00, 0x00, 0x10, 0x00]

/-- The first capability is decoded; the second one is a byte too short for its registers. -/
theorem vendor_specific_identified_virtio :
    ({} : Options).failFast = false ∧
    ∃ l d f, (decodeCapabilities virtioDevice (some 4) {}).value = .ok l ∧
      l.entries = [.decoded d, .failed f] ∧
      d.body = .vendorSpecific ⟨20, virtioDevice.window 7 17,
        some ⟨2, 4, 0x3000, 0x1000, some 4⟩⟩ ∧
      f.error.fault = .nested "Vendor Specific" 0x1AF4 0x1041 none (some 15)
        (.unreadable "Virtio" 13 12) {} := by
  obtain ⟨l, hl, hentries⟩ := vendor_specific_identified virtioDevice (some 4) {} rfl
  have hrecords : legacyRecords virtioDevice (some 4) {} =
      [⟨4, ⟨9, 24, none⟩, 24⟩, ⟨24, ⟨9, 0, none⟩, 39⟩] := by decide
  rw [hrecords] at hentries
  obtain ⟨first, rest, hfirst, hrest, hl_entries⟩ := List.forall₂_cons_left_iff.1 hentries
  obtain ⟨second, rest', hsecond, hnil, rfl⟩ := List.forall₂_cons_left_iff.1 hrest
  cases List.forall₂_nil_left_iff.1 hnil
  have hvirtio : VendorSpecific.IsVirtio (some 0x1AF4) (some 0x1041) :=
    ⟨rfl, 0x1041, rfl, by decide⟩
  have hdecoded := (hfirst rfl (by decide) (by decide) (by decide)).virtio hvirtio (by decide)
  have hfailed := (hsecond rfl (by decide) (by decide) (by decide)).short _ _ rfl rfl hvirtio
    (by decide)
  rw [hdecoded, hfailed] at hl_entries
  exact ⟨rfl, l, _, _, hl, hl_entries, rfl, rfl⟩

end ConfigSpace
