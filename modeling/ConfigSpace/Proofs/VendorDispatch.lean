import ConfigSpace.Decoding
import ConfigSpace.Proofs.DeclaredLength
import ConfigSpace.Proofs.Writing
import Mathlib.Tactic.IntervalCases

/-!
# The registers of a designated vendor

A Designated Vendor-Specific capability names the vendor of its registers and the structure
that they are.  This file says what becomes of the registers, from the payload to the result
that a caller gets.

* `Cxl.assigned` — the structures that have a name.
* `DesignatedVendor.dispatch_eq` — selecting a decoder by the vendor alone is the same as
  selecting it by two tables, one for pairs and one for vendors.
* `DesignatedVendor.interpret_of_ne`, `interpret_structure`, `interpret_device` and
  `interpret_short` — the four things that can become of the registers.
* `VendorHeader.compose_ofWord` and `DesignatedVendor.littleEndian_opening` — the numbers
  returned, put together again and written as bytes.
* `DesignatedVendor.Dispatched` — all of this about one capability.

The main result is `designated_vendor_dispatched`.
-/

namespace ConfigSpace

/-! ## Names -/

namespace Cxl

/-- The structures that have an identifier assigned, and their names. -/
def assigned : List (Nat × String) :=
  [(0x00, "pcie_dvsec_for_cxl_device"), (0x02, "non_cxl_function_map"),
    (0x03, "cxl_extensions_for_ports"), (0x04, "gpf_for_cxl_ports"),
    (0x05, "gpf_for_cxl_devices"), (0x07, "pcie_dvsec_for_flex_bus_port"),
    (0x08, "register_locator"), (0x09, "mld"), (0x0A, "pcie_dvsec_for_test_capability")]

theorem structureName_natCast (id : Nat) :
    structureName id = (assigned.lookup id).getD "undefined" := by
  rcases Nat.lt_or_ge id 0x0B with hlow | hhigh
  · interval_cases id <;> rfl
  · have hnone : assigned.lookup id = none := by
      rw [List.lookup_eq_none_iff]
      intro entry hmem
      have hlt : entry.1 < 0x0B := by
        revert entry
        decide
      simp only [bne_iff_ne, ne_eq]
      omega
    rw [hnone]
    unfold structureName
    split <;> first | omega | rfl

theorem decode_device (registers : Bytes) :
    decode registers 0 = (Device.decode registers).map fun device => ⟨0, some device⟩ := by
  rw [decode, if_pos (show (0 : Int) = deviceId from rfl)]
  cases Device.decode registers <;> rfl

theorem decode_of_ne {dvsecId : Int} (h : dvsecId ≠ 0) (registers : Bytes) :
    decode registers dvsecId = .ok ⟨dvsecId, none⟩ :=
  if_neg h

end Cxl

/-! ## Selecting a decoder -/

namespace DesignatedVendor

/-- Decoders for the registers of a vendor, selected by two tables: those of the structures
that have an identifier assigned, and the one for all others of their vendor. -/
def tables : Dispatcher Cxl :=
  .ofTables "Designated Vendor-Specific"
    (Cxl.assigned.map fun entry =>
      ((cxlVendor, entry.1),
        if entry.1 = 0 then fun registers dvsecId =>
          .quiet ((Cxl.Device.decode registers).map fun device => ⟨dvsecId, some device⟩)
        else fun _ dvsecId => .quiet (.ok ⟨dvsecId, none⟩)))
    [(cxlVendor, fun _ dvsecId => .quiet (.ok ⟨dvsecId, none⟩))]

/-- The decoder that the tables select for a structure of their vendor. -/
theorem lookup_tables (dvsecId : Int) :
    ∃ decoder, tables.lookup cxlVendor dvsecId = some decoder ∧
      ∀ registers, decoder registers dvsecId = .quiet (Cxl.decode registers dvsecId) := by
  by_cases hdevice : dvsecId = 0
  · subst hdevice
    exact ⟨_, rfl, fun registers => congrArg Logged.quiet (Cxl.decode_device registers).symm⟩
  simp only [Cxl.decode_of_ne hdevice]
  unfold Dispatcher.lookup
  cases hexact : tables.exact cxlVendor dvsecId with
  | none => exact ⟨_, rfl, fun registers => rfl⟩
  | some decoder =>
    -- The first table has a decoder of its own for the identifier zero only.
    refine ⟨decoder, rfl, fun registers => ?_⟩
    obtain ⟨before, after, hsplit, -⟩ := List.lookup_eq_some_iff.1 hexact
    have hmem : ((cxlVendor, dvsecId), decoder) ∈ before ++ (_, _) :: after :=
      List.mem_append_right _ List.mem_cons_self
    rw [← hsplit] at hmem
    obtain ⟨entry, -, hentry⟩ := List.mem_map.1 (List.mem_reverse.1 hmem)
    cases hentry
    have hother : entry.1 ≠ 0 := by
      simpa using hdevice
    rw [if_neg hother]

theorem lookup_tables_of_ne {vendorId : Int} (h : vendorId ≠ cxlVendor) (dvsecId : Int) :
    tables.lookup vendorId dvsecId = none := by
  have hexact : tables.exact vendorId dvsecId = none := by
    refine List.lookup_eq_none_iff.2 fun entry hmem => ?_
    obtain ⟨assigned, -, rfl⟩ := List.mem_map.1 (List.mem_reverse.1 hmem)
    simp [h]
  have hfallback : tables.fallback vendorId = none := by
    simp [tables, Dispatcher.ofTables, h]
  rw [Dispatcher.lookup, hexact, hfallback]
  rfl

/-- To select a decoder by its vendor alone is to select it by the two tables: what the tables
add is which of the structures are decoded, and a decoder can tell by their identifier. -/
theorem dispatch_eq (vendorId dvsecId : Int) (registers : Bytes) (revision length : Option Int) :
    dispatcher.dispatch vendorId dvsecId registers revision length =
      tables.dispatch vendorId dvsecId registers revision length := by
  unfold Dispatcher.dispatch
  by_cases hvendor : vendorId = cxlVendor
  · subst hvendor
    obtain ⟨decoder, hlookup, hdecoder⟩ := lookup_tables dvsecId
    have hown : dispatcher.lookup cxlVendor dvsecId =
        some fun registers dvsecId => .quiet (Cxl.decode registers dvsecId) := rfl
    rw [hlookup, hown]
    simp only [hdecoder]
    rfl
  · have hnone : dispatcher.lookup vendorId dvsecId = none := by
      simp [Dispatcher.lookup, dispatcher, hvendor]
    rw [hnone, lookup_tables_of_ne hvendor]

/-! ## What becomes of the registers -/

section Interpret

variable {header : VendorHeader} {dvsecId : Nat} {registers : Bytes}

theorem fixed_of_interpret {r : DesignatedVendor}
    (h : (interpret header dvsecId registers).value = .ok r) :
    r.header = header ∧ r.dvsecId = dvsecId := by
  unfold interpret Logged.map at h
  cases hvalue : (dispatcher.dispatch header.id dvsecId registers (some header.revision)
    (some header.length)).value with
  | error e =>
    rw [hvalue] at h
    cases h
  | ok inside =>
    rw [hvalue] at h
    cases h
    exact ⟨rfl, rfl⟩

theorem interpret_of_ne (h : (header.id : Int) ≠ cxlVendor) :
    interpret header dvsecId registers = ⟨.ok ⟨header, dvsecId, .unspecified registers⟩, []⟩ := by
  have hnone : dispatcher.lookup header.id dvsecId = none := by
    simp [Dispatcher.lookup, dispatcher, h]
  rw [interpret, Dispatcher.dispatch, hnone]
  rfl

variable (hvendor : (header.id : Int) = cxlVendor)

include hvendor

theorem interpret_eq :
    interpret header dvsecId registers =
      match Cxl.decode registers dvsecId with
      | .ok cxl => ⟨.ok ⟨header, dvsecId, .cxl cxl⟩, []⟩
      | .error f =>
          ⟨.error (.nested "Designated Vendor-Specific" header.id dvsecId (some header.revision)
              (some header.length) (.ofFault f)),
            [.nestedFailed "Designated Vendor-Specific" header.id dvsecId f.message]⟩ := by
  have hlookup : dispatcher.lookup header.id dvsecId =
      some fun registers dvsecId => .quiet (Cxl.decode registers dvsecId) := by
    rw [hvendor]
    rfl
  rw [interpret, Dispatcher.dispatch, hlookup]
  cases hdecode : Cxl.decode registers dvsecId with
  | ok cxl =>
    simp only [hdecode]
    rfl
  | error f =>
    simp only [hdecode]
    rfl

/-- A structure other than a device is known by its identifier. -/
theorem interpret_structure (hother : dvsecId ≠ 0) :
    interpret header dvsecId registers = ⟨.ok ⟨header, dvsecId, .cxl ⟨dvsecId, none⟩⟩, []⟩ := by
  rw [interpret_eq hvendor, Cxl.decode_of_ne (Int.natCast_ne_zero.2 hother)]

theorem interpret_device (hlong : 46 ≤ registers.length) :
    ∃ device, Cxl.Device.decode registers = .ok device ∧
      interpret header 0 registers = ⟨.ok ⟨header, 0, .cxl ⟨0, some device⟩⟩, []⟩ := by
  refine ⟨_, Bytes.require_of_le hlong, ?_⟩
  rw [interpret_eq hvendor, Nat.cast_zero, Cxl.decode_device, Cxl.Device.decode,
    Bytes.require_of_le hlong]
  rfl

theorem interpret_short (hshort : registers.length < 46) :
    (interpret header 0 registers).value =
      .error (.nested "Designated Vendor-Specific" header.id 0 (some header.revision)
        (some header.length)
        (.ofFault (.unreadable "PCIe DVSEC for CXL Device" 46 registers.length))) := by
  rw [interpret_eq hvendor, Nat.cast_zero, Cxl.decode_device, Cxl.Device.decode,
    Bytes.require_of_lt hshort]
  rfl

end Interpret

end DesignatedVendor

/-! ## The fixed part -/

namespace VendorHeader

/-- The fields of a word, put together again, are the word. -/
theorem compose_ofWord {w : Nat} (hw : w < 2 ^ 32) :
    Bits.compose [(ofWord w).id, (ofWord w).revision, (ofWord w).length] [16, 4, 12] = .ok w := by
  have hpack := Header.pack_eq (field_lt w 0 16) (field_lt w 16 4) (field_lt w 20 12)
  have hsum : field w 0 16 + 2 ^ 16 * (field w 16 4 + 2 ^ 4 * field w 20 12) = w := by
    simp only [field, Nat.shiftRight_eq_div_pow, Nat.one_shiftLeft]
    omega
  exact congrArg Except.ok (hpack.trans hsum)

end VendorHeader

/-- The opening word and the identifier of the structure are the first six bytes. -/
theorem DesignatedVendor.littleEndian_opening {payload : Bytes} (h : 6 ≤ payload.length) :
    Bytes.littleEndian 4 (payload.u32 0) ++ Bytes.littleEndian 2 (payload.u16 4) =
      payload.take 6 := by
  have hword : Bytes.littleEndian 4 (payload.u32 0) = payload.window 0 4 :=
    Bytes.littleEndian_window (by omega)
  have hid : Bytes.littleEndian 2 (payload.u16 4) = payload.window 4 2 :=
    Bytes.littleEndian_window (by omega)
  rw [hword, hid]
  exact payload.window_append_window 0 4 2

/-! ## The capability -/

/-- A capability whose payload was decoded to a body. -/
def RawCapability.decodedTo (raw : RawCapability) (body : Body) : Decoded :=
  { offset := raw.offset, capId := raw.capId, version := raw.version, body }

/-- Decoding a capability is to decode its payload; an error is located at the capability. -/
theorem RawCapability.value_decode_of_decoder {raw : RawCapability} {decoder : Decoder}
    (h : decoder? raw.extended raw.capId = some decoder) (options : Options) :
    (raw.decode options).value =
      ((decoder raw.payload options).value.map raw.decodedTo).mapError
        (·.locate raw.offset raw.capId) := by
  unfold decode decodeBody
  rw [h]
  simp only [Logged.map]
  cases (decoder raw.payload options).value <;> rfl

theorem RawCapability.value_decode_designatedVendor {raw : RawCapability}
    (hextended : raw.extended = true) (hid : raw.capId = 0x23) (options : Options) :
    (raw.decode options).value =
      ((DesignatedVendor.decode raw.payload).value.map fun r =>
        raw.decodedTo (.designatedVendor r)).mapError (·.locate raw.offset raw.capId) := by
  have hdecoder : decoder? raw.extended raw.capId = some fun payload _ =>
      (DesignatedVendor.decode payload).map (·.map .designatedVendor) := by
    rw [hextended, hid]
    rfl
  rw [value_decode_of_decoder hdecoder]
  simp only [Logged.map]
  cases (DesignatedVendor.decode raw.payload).value <;> rfl

/-- What becomes of a designated vendor's capability with these registers. -/
structure DesignatedVendor.Dispatched (raw : RawCapability) (header : VendorHeader)
    (dvsecId : Nat) (registers : Bytes) (result : Except Error Decoded) : Prop where
  /-- The registers are as many as the declared length leaves. -/
  length_eq : registers.length = header.length - 10
  /-- Those of another vendor are kept. -/
  other : header.id ≠ 0x1E98 →
    result = .ok (raw.decodedTo (.designatedVendor ⟨header, dvsecId, .unspecified registers⟩))
  /-- A structure other than a device is known by name, if it has one. -/
  named : header.id = 0x1E98 → dvsecId ≠ 0 → ∃ cxl : Cxl,
    result = .ok (raw.decodedTo (.designatedVendor ⟨header, dvsecId, .cxl cxl⟩)) ∧
      cxl.device = none ∧ cxl.dvsecId = dvsecId ∧
      cxl.name = (Cxl.assigned.lookup dvsecId).getD "undefined"
  /-- A device is decoded, if its registers are there. -/
  device : header.id = 0x1E98 → dvsecId = 0 → 56 ≤ header.length → ∃ device,
    Cxl.Device.decode registers = .ok device ∧
      result = .ok (raw.decodedTo (.designatedVendor ⟨header, dvsecId, .cxl ⟨0, some device⟩⟩))
  /-- Otherwise it fails, with an error located at the capability that wraps an error located
  nowhere, from which it was raised. -/
  short : header.id = 0x1E98 → dvsecId = 0 → header.length < 56 →
    let inner : Error := ⟨.unreadable "PCIe DVSEC for CXL Device" 46 (header.length - 10 : Nat), {}⟩
    ∃ e, result = .error e ∧
      e.fault = .nested "Designated Vendor-Specific" header.id dvsecId (some header.revision)
        (some header.length) inner.fault inner.site ∧
      e.site = ⟨some raw.offset, some raw.capId⟩ ∧
      e.fault.inner? = some inner ∧ e.cause? = some inner.kind
  /-- The numbers returned are those that the payload opens with. -/
  recomposed : ∀ d, result = .ok d → ∃ r word, d.body = .designatedVendor r ∧
    Bits.compose [r.header.id, r.header.revision, r.header.length] [16, 4, 12] = .ok word ∧
    Bytes.littleEndian 4 word ++ Bytes.littleEndian 2 r.dvsecId = raw.payload.take 6

namespace DesignatedVendor

variable {header : VendorHeader} {dvsecId : Nat} {registers : Bytes}

theorem dispatched_interpret (raw : RawCapability)
    (hsize : registers.length = header.length - 10)
    (hfixed : ∃ word, Bits.compose [header.id, header.revision, header.length] [16, 4, 12] =
        .ok word ∧
      Bytes.littleEndian 4 word ++ Bytes.littleEndian 2 dvsecId = raw.payload.take 6) :
    Dispatched raw header dvsecId registers
      (((interpret header dvsecId registers).value.map fun r =>
        raw.decodedTo (.designatedVendor r)).mapError (·.locate raw.offset raw.capId)) := by
  have hcxl : header.id = 0x1E98 → (header.id : Int) = cxlVendor := fun h => congrArg Nat.cast h
  refine ⟨hsize, fun hvendor => ?_, fun hvendor hother => ?_, fun hvendor hdevice hlong => ?_,
    fun hvendor hdevice hshort => ?_, fun d hd => ?_⟩
  · have hne : (header.id : Int) ≠ cxlVendor := fun h => hvendor (Int.ofNat_inj.1 h)
    rw [interpret_of_ne hne]
    rfl
  · rw [interpret_structure (hcxl hvendor) hother]
    exact ⟨_, rfl, rfl, rfl, Cxl.structureName_natCast dvsecId⟩
  · subst hdevice
    obtain ⟨device, hregisters, hinterpret⟩ :=
      interpret_device (hcxl hvendor) (show 46 ≤ registers.length by omega)
    rw [hinterpret]
    exact ⟨device, hregisters, rfl⟩
  · subst hdevice
    rw [interpret_short (hcxl hvendor) (by omega), hsize]
    exact ⟨_, rfl, rfl, rfl, rfl, rfl⟩
  · cases hvalue : (interpret header dvsecId registers).value with
    | error e =>
      rw [hvalue] at hd
      cases hd
    | ok r =>
      rw [hvalue] at hd
      cases hd
      obtain ⟨rfl, rfl⟩ := fixed_of_interpret hvalue
      obtain ⟨word, hcompose, hopening⟩ := hfixed
      exact ⟨r, word, rfl, hcompose, hopening⟩

end DesignatedVendor

/-- **What becomes of a designated vendor's registers.**  A length within the bounds leaves as
many registers as it counts.  Those of Compute Express Link are known by the name of their
structure, and decoded if they are those of a device, which takes 46 bytes; without these the
whole capability fails.  The registers of all other vendors are kept as they are. -/
theorem designated_vendor_dispatched (raw : RawCapability) (options : Options)
    (hextended : raw.extended = true) (hid : raw.capId = 0x23) (hfield : 6 ≤ raw.payload.length)
    (hfixed : 10 ≤ field (raw.payload.u32 0) 20 12)
    (hlength : field (raw.payload.u32 0) 20 12 ≤ raw.payload.length + 4) :
    let vendor := field (raw.payload.u32 0) 0 16
    let revision := field (raw.payload.u32 0) 16 4
    let n := field (raw.payload.u32 0) 20 12
    DesignatedVendor.Dispatched raw ⟨vendor, revision, n⟩ (raw.payload.u16 4)
      (raw.payload.window 6 (n - 10)) (raw.decode options).value := by
  intro vendor revision n
  have hdecode : DesignatedVendor.decode raw.payload =
      DesignatedVendor.interpret ⟨vendor, revision, n⟩ (raw.payload.u16 4)
        (raw.payload.window 6 (n - 10)) :=
    DesignatedVendor.goesByLength.decode_of_le raw.payload hfield hfixed
      (by rw [Nat.add_comm]; exact hlength)
  rw [RawCapability.value_decode_designatedVendor hextended hid, hdecode]
  refine DesignatedVendor.dispatched_interpret raw ?_ ?_
  · have hn : field (raw.payload.u32 0) 20 12 = n := rfl
    change (raw.payload.window 6 (n - 10)).length = n - 10
    rw [Bytes.length_window]
    omega
  · exact ⟨_, VendorHeader.compose_ofWord (raw.payload.u32_lt 0),
      DesignatedVendor.littleEndian_opening hfield⟩

/-- A device whose capability ends with the fixed part, so that none of its registers are
there. -/
theorem designated_vendor_dispatched_no_registers :
    let raw : RawCapability :=
      { offset := 0x100, capId := 0x23, version := some 1,
        payload := [0x98, 0x1E, 0xA1, 0x00, 0x00, 0x00] }
    let inner : Error := ⟨.unreadable "PCIe DVSEC for CXL Device" 46 0, {}⟩
    (6 ≤ raw.payload.length ∧ field (raw.payload.u32 0) 0 16 = 0x1E98 ∧
        field (raw.payload.u32 0) 20 12 = 10 ∧ raw.payload.u16 4 = 0) ∧
      ∃ e, (raw.decode {}).value = .error e ∧ e.site = ⟨some 0x100, some 0x23⟩ ∧
        e.fault.inner? = some inner ∧ e.cause? = some inner.kind := by
  intro raw inner
  have h := designated_vendor_dispatched raw {} rfl rfl (by decide) (by decide) (by decide)
  obtain ⟨e, hvalue, -, hsite, hinner, hcause⟩ := h.short (by decide) (by decide) (by decide)
  have hlength : field (raw.payload.u32 0) 20 12 = 10 := by decide
  rw [hlength] at hinner
  exact ⟨by decide, e, hvalue, hsite, hinner, hcause⟩

end ConfigSpace
