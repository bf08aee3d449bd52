import ConfigSpace.Bits.Laws
import ConfigSpace.Proofs.DecodeErrors

/-!
# Derived values of decoded capabilities

Values derived from a register need not exist for every number that a structure might hold.
A decoded field is only as wide as its bits in the register, and this file says for every
capability which derived values that leaves undefined: only the name of the current size of
a base address register, for the codes beyond the largest unit.

* `Description.undefinedPaths` — the derived values that do not exist, wherever they are in
  a description.  A description without any is complete (`Description.Complete`).
* `Code.exists_entry`, `Code.exists_powerOfTwo` — which codes stand for something, and
  lemmas such as `MaxLatency.exists_nanoseconds` that say so for what is derived from them.
* `ResizableBar.sizeName_eq_ok_iff` — which sizes have a name.
* `Decoder.Settles` — what a decoder's bodies leave undefined; it is proved once for every
  registered decoder.

The main result is `undefinedPaths_decode`.
-/

namespace ConfigSpace

/-! ## What a description leaves undefined -/

namespace Description

mutual

/-- The derived values that do not exist, each as the names that lead to it. -/
def undefinedPaths : Description → List (List String)
  | .none | .truth _ | .number _ | .real _ | .text _ | .bytes _ => []
  | .list items => undefinedInItems items
  | .record fields derived => undefinedInParts fields ++ undefinedInParts derived
  | .undefined _ => [[]]

/-- The derived values that do not exist in the items of a list. -/
def undefinedInItems : List Description → List (List String)
  | [] => []
  | item :: rest => item.undefinedPaths ++ undefinedInItems rest

/-- The derived values that do not exist in named parts. -/
def undefinedInParts : List (String × Description) → List (List String)
  | [] => []
  | part :: rest => undefinedInPart part ++ undefinedInParts rest

/-- The derived values that do not exist in one named part. -/
def undefinedInPart : String × Description → List (List String)
  | (name, d) => d.undefinedPaths.map (name :: ·)

end

/-- All derived values exist. -/
def Complete (d : Description) : Prop :=
  d.undefinedPaths = []

theorem undefinedInItems_eq_flatMap (items : List Description) :
    undefinedInItems items = items.flatMap undefinedPaths := by
  induction items with
  | nil => rfl
  | cons item rest ih => rw [undefinedInItems, ih, List.flatMap_cons]

theorem undefinedInParts_eq_flatMap (parts : List (String × Description)) :
    undefinedInParts parts = parts.flatMap undefinedInPart := by
  induction parts with
  | nil => rfl
  | cons part rest ih => rw [undefinedInParts, ih, List.flatMap_cons]

/-- Named parts are complete if each of them is. -/
theorem undefinedInParts_eq_nil_iff (parts : List (String × Description)) :
    undefinedInParts parts = [] ↔ ∀ part ∈ parts, part.2.Complete := by
  rw [undefinedInParts_eq_flatMap, List.flatMap_eq_nil_iff]
  refine forall₂_congr fun part _ => ?_
  rw [undefinedInPart, List.map_eq_nil_iff, Complete]

@[simp] theorem complete_record (fields derived : List (String × Description)) :
    (record fields derived).Complete ↔
      (∀ part ∈ fields, part.2.Complete) ∧ ∀ part ∈ derived, part.2.Complete := by
  rw [Complete, undefinedPaths, List.append_eq_nil_iff, undefinedInParts_eq_nil_iff,
    undefinedInParts_eq_nil_iff]

/-- To say of what kind a record is adds nothing undefined. -/
theorem undefinedPaths_tagged (kind : String) (d : Description) :
    (d.tagged kind).undefinedPaths = d.undefinedPaths := by
  cases d <;> rfl

end Description

/-! ### Values that are shown -/

section Describe

variable {α : Type} [Describe α]

@[simp] theorem complete_truth (b : Bool) : (describe b).Complete := rfl

@[simp] theorem complete_natural (n : Nat) : (describe n).Complete := rfl

@[simp] theorem complete_integer (n : Int) : (describe n).Complete := rfl

@[simp] theorem complete_real (x : Float) : (describe x).Complete := rfl

@[simp] theorem complete_text (s : String) : (describe s).Complete := rfl

@[simp] theorem complete_bytes (b : Bytes) : (describe b).Complete := rfl

theorem undefinedPaths_list (l : List α) :
    (describe l).undefinedPaths = l.flatMap fun a => (describe a).undefinedPaths := by
  change Description.undefinedInItems (l.map describe) = _
  rw [Description.undefinedInItems_eq_flatMap, List.flatMap_map]

@[simp] theorem complete_list (l : List α) :
    (describe l).Complete ↔ ∀ a ∈ l, (describe a).Complete := by
  rw [Description.Complete, undefinedPaths_list, List.flatMap_eq_nil_iff]
  rfl

@[simp] theorem complete_option (o : Option α) :
    (describe o).Complete ↔ ∀ a ∈ o, (describe a).Complete := by
  cases o with
  | none => exact ⟨fun _ a h => absurd h (by simp), fun _ => rfl⟩
  | some a => simp [describe]

theorem complete_of_ok {x : Except Undefined α} {a : α} (hx : x = .ok a)
    (ha : (describe a).Complete) : (describe x).Complete := by
  rw [hx]
  exact ha

end Describe

/-! ## Codes that stand for something -/

namespace Code

variable {α : Type} {table : List α} {i : Int}

theorem exists_entry (table : List α) (hnonneg : 0 ≤ i) (hlt : i < table.length) :
    ∃ a, entry table i = .ok a := by
  obtain ⟨n, rfl⟩ := Int.eq_ofNat_of_zero_le hnonneg
  exact ⟨_, entry_of_lt (Int.ofNat_lt.1 hlt)⟩

theorem entry_of_le (hle : table.length ≤ i) : entry table i = .error .outOfTable := by
  have hnonneg : ¬ i < 0 := by omega
  have hnone : table[i.toNat]? = none := List.getElem?_eq_none (by omega)
  simp only [entry, if_neg hnonneg, hnone]

theorem exists_powerOfTwo (hnonneg : 0 ≤ i) : ∃ n, powerOfTwo i = .ok n := by
  obtain ⟨n, rfl⟩ := Int.eq_ofNat_of_zero_le hnonneg
  exact ⟨_, powerOfTwo_natCast n⟩

end Code

/-- A latency exists, or its scale is reserved. -/
theorem MaxLatency.exists_nanoseconds {l : MaxLatency} (h : 0 ≤ l.scale) :
    ∃ t, l.nanoseconds = .ok t := by
  obtain ⟨factor, hfactor⟩ := Code.exists_powerOfTwo (show 0 ≤ 5 * l.scale by omega)
  unfold nanoseconds
  split
  · exact ⟨none, rfl⟩
  · rw [hfactor]
    exact ⟨_, rfl⟩

theorem TPowerOn.exists_microseconds {t : TPowerOn} (h : 0 ≤ t.scale) :
    ∃ time, t.microseconds = .ok time := by
  unfold microseconds
  split
  · exact ⟨none, rfl⟩
  · rename_i hlt
    obtain ⟨unit, hunit⟩ := Code.exists_entry scales h (Int.not_le.1 hlt)
    rw [hunit]
    exact ⟨_, rfl⟩

/-- A power exists if its scale does, or its base stands for a range. -/
theorem PowerBudgeting.Data.exists_watts {d : Data} (hbase : 0 ≤ d.basePower)
    (hnonneg : 0 ≤ d.dataScale) (hlt : d.dataScale < 4) : ∃ power, d.watts = .ok power := by
  obtain ⟨scale, hscale⟩ := Code.exists_entry scales hnonneg hlt
  unfold watts
  split
  · exact ⟨none, rfl⟩
  · rename_i hrange
    have hsmall : d.basePower.natAbs < 2 ^ 8 := by omega
    have hlimit : 2 ^ 8 ≤ floatLimit := by decide +kernel
    rw [hscale]
    simp only [if_pos (Nat.lt_of_lt_of_le hsmall hlimit)]
    exact ⟨_, rfl⟩

/-- The reason of a containment has a name, be it its own or that of its extension. -/
theorem PortContainment.Status.exists_triggerReasonName {s : Status} (h : 0 ≤ s.triggerReason)
    (hextension : 0 ≤ s.triggerReasonExtension) : ∃ name, s.triggerReasonName = .ok name := by
  unfold triggerReasonName
  split
  · rename_i hlt
    exact Code.exists_entry triggerReasons h hlt
  · split
    · rename_i hlt
      exact Code.exists_entry triggerReasonExtensions hextension hlt
    · exact ⟨_, rfl⟩

theorem Cxl.Control.exists_snoopFilterBytes {r : Control} (h : 0 ≤ r.cacheSfCoverage) :
    ∃ n, r.snoopFilterBytes = .ok n := by
  unfold snoopFilterBytes
  split
  · exact ⟨0, rfl⟩
  · exact Code.exists_powerOfTwo (by omega)

theorem SerialNumber.exists_text {lower upper : Nat} (hlower : lower < 2 ^ 32)
    (hupper : upper < 2 ^ 32) : ∃ s, (SerialNumber.mk lower upper).text = .ok s := by
  have hserial : (SerialNumber.mk lower upper).serialNumber =
      ((0x100000000 * upper ||| lower : Nat) : Int) := rfl
  have hlt : (0x100000000 * upper ||| lower) < 2 ^ 64 :=
    Nat.or_lt_two_pow (by omega) (by omega)
  unfold text
  rw [if_pos ⟨by rw [hserial]; exact Int.natCast_nonneg _, by rw [hserial]; exact_mod_cast hlt⟩]
  exact ⟨_, rfl⟩

/-! ### Sizes of base address registers -/

namespace ResizableBar

/-- A size has a name up to the largest unit, and none beyond it. -/
theorem sizeName_eq_ok_iff {n : Int} (h : 0 ≤ n) : (∃ name, sizeName n = .ok name) ↔ n < 50 := by
  constructor
  · rintro ⟨name, hname⟩
    by_contra hle
    have hout : units.length ≤ n / 10 := by
      change (5 : Int) ≤ n / 10
      omega
    rw [sizeName, Code.entry_of_le hout] at hname
    cases hname
  · intro hlt
    have hin : n / 10 < units.length := by
      change n / 10 < (5 : Int)
      omega
    obtain ⟨unit, hunit⟩ := Code.exists_entry _ (show 0 ≤ n / 10 by omega) hin
    rw [sizeName, hunit]
    exact ⟨_, rfl⟩

/-- Where every result is a value, leaving out failures leaves out nothing. -/
theorem map_filterMap_toOption {α β ε : Type} {f : α → Except ε β} {l : List α}
    (h : ∀ a ∈ l, ∃ b, f a = .ok b) (p : α → Bool) :
    (l.filterMap fun a => if p a then (f a).toOption else none).map .ok = (l.filter p).map f := by
  induction l with
  | nil => rfl
  | cons a rest ih =>
    have hrest := ih fun a' hmem => h a' (List.mem_cons_of_mem a hmem)
    obtain ⟨b, hb⟩ := h a List.mem_cons_self
    by_cases hp : p a
    · have hsome : (if p a then (f a).toOption else none) = some b := by
        rw [if_pos hp, hb]
        rfl
      simp only [List.filterMap_cons, hsome, List.filter_cons_of_pos hp, List.map_cons, hrest]
      rw [hb]
    · simp only [List.filterMap_cons, if_neg hp, List.filter_cons_of_neg hp, hrest]

/-- The sizes that a register supports all have names, so none of them is left out. -/
theorem map_supportedSizes (e : Entry) :
    e.supportedSizes.map .ok =
      ((List.range 44).filter fun n : Nat => e.supportsPowerOfTwo ↑(20 + n)).map
        fun n : Nat => sizeName n := by
  refine map_filterMap_toOption (fun n hn => ?_) _
  have hlt := List.mem_range.1 hn
  exact (sizeName_eq_ok_iff (Int.natCast_nonneg n)).2 (by omega)

end ResizableBar

/-! ## Capabilities

A capability without derived values that may be undefined is complete as it is.  The lemmas
below are about the others, and about those whose parts may be there or not. -/

section Capabilities

variable {payload : Bytes}

theorem MaxLatency.complete {l : MaxLatency} (h : 0 ≤ l.scale) : (describe l).Complete := by
  obtain ⟨t, ht⟩ := l.exists_nanoseconds h
  have hshown := complete_of_ok ht (by simp)
  change (Description.record _ _).Complete
  simp [hshown]

theorem TPowerOn.complete {t : TPowerOn} (h : 0 ≤ t.scale) : (describe t).Complete := by
  obtain ⟨time, htime⟩ := t.exists_microseconds h
  have hshown := complete_of_ok htime (by simp)
  change (Description.record _ _).Complete
  simp [hshown]

theorem LatencyTolerance.complete_of_decode {b : LatencyTolerance}
    (h : LatencyTolerance.decode payload = .ok b) : (describe b).Complete := by
  obtain ⟨p, -, hp⟩ := exists_of_require_ok h
  cases hp
  change (Description.record _ _).Complete
  have hlatency (w : Nat) : (describe (MaxLatency.ofWord w)).Complete :=
    MaxLatency.complete (Int.natCast_nonneg _)
  simp [hlatency]

theorem PmSubstates.complete_of_decode {b : PmSubstates}
    (h : PmSubstates.decode payload = .ok b) : (describe b).Complete := by
  obtain ⟨p, -, hp⟩ := exists_of_require_ok h
  cases hp
  have hcapabilities (w : Nat) : (describe (Capabilities.ofWord w)).Complete := by
    have htime : (describe (Capabilities.ofWord w).portTPowerOn).Complete :=
      TPowerOn.complete (Int.natCast_nonneg _)
    change (Description.record _ _).Complete
    simp [htime]
  have hcontrol (w : Nat) : (describe (Control1.ofWord w)).Complete := by
    have hthreshold : (describe (Control1.ofWord w).ltrL12Threshold).Complete :=
      MaxLatency.complete (Int.natCast_nonneg _)
    change (Description.record _ _).Complete
    simp [hthreshold]
  have htime (v w : Nat) : (describe (TPowerOn.mk v w)).Complete :=
    TPowerOn.complete (Int.natCast_nonneg _)
  change (Description.record _ _).Complete
  simp [hcapabilities, hcontrol, htime]

theorem Msi.complete_of_decode {b : Msi} (h : Msi.decode payload = .ok b) :
    (describe b).Complete := by
  obtain ⟨p, -, hp⟩ := exists_of_require_ok h
  obtain ⟨q, -, hq⟩ := exists_of_require_ok hp
  cases hq
  have hcontrol (w : Nat) : (describe (Control.ofWord w)).Complete := by
    obtain ⟨m, hm⟩ : ∃ m, (Control.ofWord w).vectorsCapable = .ok m :=
      Code.exists_powerOfTwo (Int.natCast_nonneg _)
    obtain ⟨n, hn⟩ : ∃ n, (Control.ofWord w).vectorsEnabled = .ok n :=
      Code.exists_powerOfTwo (Int.natCast_nonneg _)
    change (Description.record _ _).Complete
    simp [complete_of_ok hm, complete_of_ok hn]
  change (Description.record _ _).Complete
  simp [hcontrol, read]

theorem VirtualChannel.complete_of_decode {b : VirtualChannel}
    (h : VirtualChannel.decode payload = .ok b) : (describe b).Complete := by
  obtain ⟨p, -, hp⟩ := exists_of_require_ok h
  cases hp
  have hcapability (w : Nat) : (describe (PortCapability1.ofWord w)).Complete := by
    obtain ⟨n, hn⟩ : ∃ n, (PortCapability1.ofWord w).portArbitrationEntryBits = .ok n :=
      Code.exists_powerOfTwo (Int.natCast_nonneg _)
    change (Description.record _ _).Complete
    simp [complete_of_ok hn]
  have hresource (r : Resource) : (describe r).Complete := rfl
  have hregisters (w : Nat) : (describe (PortCapability2.ofWord w)).Complete ∧
      (describe (PortControl.ofWord w)).Complete := ⟨rfl, rfl⟩
  change (Description.record _ _).Complete
  simp [hcapability, hresource, hregisters]

theorem PowerBudgeting.complete_of_decode {b : PowerBudgeting}
    (h : PowerBudgeting.decode payload = .ok b) : (describe b).Complete := by
  obtain ⟨p, -, hp⟩ := exists_of_require_ok h
  cases hp
  have hdata (w : Nat) : (describe (Data.ofWord w)).Complete := by
    have hscale := field_lt w 8 2
    obtain ⟨power, hpower⟩ := Data.exists_watts (d := .ofWord w) (Int.natCast_nonneg _)
      (Int.natCast_nonneg _) (Int.ofNat_lt.2 hscale)
    have hshown := complete_of_ok hpower (by simp)
    change (Description.record _ _).Complete
    simp [hshown]
  change (Description.record _ _).Complete
  simp [hdata]

theorem SerialNumber.complete_of_text {s : SerialNumber} (h : (describe s.text).Complete) :
    (describe s).Complete := by
  change (Description.record _ _).Complete
  simp [h]

theorem SerialNumber.complete_of_decode {b : SerialNumber}
    (h : SerialNumber.decode payload = .ok b) : (describe b).Complete := by
  obtain ⟨p, -, hp⟩ := exists_of_require_ok h
  cases hp
  obtain ⟨text, htext⟩ := exists_text (Bytes.u32_lt p.bytes 0) (Bytes.u32_lt p.bytes 4)
  exact complete_of_text (complete_of_ok htext (complete_text text))

theorem PortContainment.complete_of_decode {b : PortContainment}
    (h : PortContainment.decode payload = .ok b) : (describe b).Complete := by
  obtain ⟨p, -, hp⟩ := exists_of_require_ok h
  have hstatus (w : Nat) : (describe (Status.ofWord w)).Complete := by
    obtain ⟨name, hname⟩ := Status.exists_triggerReasonName (s := .ofWord w)
      (Int.natCast_nonneg _) (Int.natCast_nonneg _)
    change (Description.record _ _).Complete
    simp [complete_of_ok hname]
  have hregisters (w : Nat) : (describe (Capability.ofWord w)).Complete ∧
      (describe (Control.ofWord w)).Complete := ⟨rfl, rfl⟩
  have herrors (e : PioErrors) : (describe e).Complete := rfl
  have hextensions (e : Extensions) : (describe e).Complete := by
    change (Description.record _ _).Complete
    simp [herrors]
  cases hx : extensions payload (.ofWord (p.u16 0)) with
  | error f =>
    simp only [hx] at hp
    cases hp
  | ok rpExtensions =>
    simp only [hx] at hp
    cases hp
    change (Description.record _ _).Complete
    simp [hstatus, hregisters, hextensions]

theorem Cxl.complete_of_decode {id : Int} {b : Cxl} (h : Cxl.decode payload id = .ok b) :
    (describe b).Complete := by
  have hcontrol (w : Nat) : (describe (Control.ofWord w)).Complete := by
    obtain ⟨n, hn⟩ := Control.exists_snoopFilterBytes (r := .ofWord w) (Int.natCast_nonneg _)
    change (Description.record _ _).Complete
    simp [complete_of_ok hn]
  have hdevice : ∀ device, Device.decode payload = .ok device → (describe device).Complete := by
    intro device hd
    obtain ⟨p, -, hp⟩ := exists_of_require_ok hd
    cases hp
    have hregisters (w : Nat) : (describe (Capability.ofWord w)).Complete ∧
        (describe (Status.ofWord w)).Complete ∧ (describe (Control2.ofWord w)).Complete ∧
        (describe (Status2.ofWord w)).Complete ∧ (describe (Capability2.ofWord w)).Complete :=
      ⟨rfl, rfl, rfl, rfl, rfl⟩
    have hsize (r : RangeSize) : (describe r).Complete := rfl
    change (Description.record _ _).Complete
    simp [hcontrol, hregisters, hsize]
  unfold Cxl.decode at h
  split at h
  · cases hd : Device.decode payload with
    | error f =>
      rw [hd] at h
      cases h
    | ok device =>
      rw [hd] at h
      cases h
      change (Description.record _ _).Complete
      simp [hdevice device hd]
  · cases h
    rfl

theorem Virtio.complete (v : Virtio) : (describe v).Complete := by
  change (Description.record _ _).Complete
  simp

theorem PciExpress.complete (b : PciExpress) : (describe b).Complete := by
  have hcapabilities (r : Capabilities) : (describe r).Complete := rfl
  have hdevice (r : DeviceCapabilities) : (describe r).Complete := rfl
  have hcontrol (r : DeviceControl) : (describe r).Complete := rfl
  have hstatus (r : DeviceStatus) : (describe r).Complete := rfl
  have hlinkCapabilities (r : LinkCapabilities) : (describe r).Complete := rfl
  have hlinkControl (r : LinkControl) : (describe r).Complete := rfl
  have hlinkStatus (r : LinkStatus) : (describe r).Complete := rfl
  have hlink (r : Link) : (describe r).Complete := by
    change (Description.record _ _).Complete
    simp [hlinkCapabilities, hlinkControl, hlinkStatus]
  change (Description.record _ _).Complete
  simp [hcapabilities, hdevice, hcontrol, hstatus, hlink]

theorem HyperTransport.Block.complete (b : Block) : (describe b).Complete := by
  have hslave (r : SlaveCommand) : (describe r).Complete := rfl
  have hhost (r : HostCommand) : (describe r).Complete := rfl
  have hcontrol (r : LinkControl) : (describe r).Complete := rfl
  have hconfiguration (r : LinkConfiguration) : (describe r).Complete := rfl
  have hrevision (r : RevisionId) : (describe r).Complete := rfl
  have hfrequency (r : LinkFrequency) : (describe r).Complete := rfl
  have hfeatures (r : Features) : (describe r).Complete := rfl
  have herrors (r : ErrorHandling) : (describe r).Complete := rfl
  cases b with
  | slave b =>
    change (Description.record _ _).Complete
    simp [hslave, hcontrol, hconfiguration, hrevision, hfrequency, hfeatures, herrors]
  | host b =>
    change (Description.record _ _).Complete
    simp [hhost, hcontrol, hconfiguration, hrevision, hfrequency, hfeatures, herrors]
  | revision b => exact hrevision b
  | msiMapping b => rfl

theorem HyperTransport.complete (b : HyperTransport) : (describe b).Complete := by
  change (Description.record _ _).Complete
  simp [HyperTransport.Block.complete]

theorem AccessControl.complete (b : AccessControl) : (describe b).Complete := by
  obtain ⟨_, _, egressControlVector⟩ := b
  cases egressControlVector <;> rfl

theorem ErrorReporting.complete (b : ErrorReporting) : (describe b).Complete := by
  have huncorrectable (e : UncorrectableErrors) : (describe e).Complete := rfl
  have hcorrectable (e : CorrectableErrors) : (describe e).Complete := rfl
  have hcontrol (r : Control) : (describe r).Complete := rfl
  have hcommand (r : RootCommand) : (describe r).Complete := rfl
  have hstatus (r : RootStatus) : (describe r).Complete := rfl
  have hsource (r : ErrorSource) : (describe r).Complete := rfl
  change (Description.record _ _).Complete
  simp [huncorrectable, hcorrectable, hcontrol, hcommand, hstatus, hsource]

theorem TphRequester.complete (b : TphRequester) : (describe b).Complete := by
  have hcapability (r : Capability) : (describe r).Complete := rfl
  have hcontrol (r : Control) : (describe r).Complete := rfl
  have htag (t : Tag) : (describe t).Complete := rfl
  change (Description.record _ _).Complete
  simp [hcapability, hcontrol, htag]

theorem SecondaryPciExpress.complete (b : SecondaryPciExpress) : (describe b).Complete := by
  have hcontrol (r : LinkControl3) : (describe r).Complete := rfl
  have hlane (r : LaneEqualization) : (describe r).Complete := rfl
  change (Description.record _ _).Complete
  simp [hcontrol, hlane]

end Capabilities

/-! ## Base address registers -/

namespace ResizableBar

/-- The current size of a register is undefined for the codes beyond the largest unit, and
nothing else of it is. -/
theorem undefinedPaths_entry {e : Entry} (h : 0 ≤ e.control.barSize) :
    (describe e).undefinedPaths =
      if 50 ≤ e.control.barSize then [["current_size"]] else [] := by
  have hshown : (describe e).undefinedPaths =
      (describe e.supportedSizes).undefinedPaths.map ("supported_sizes" :: ·) ++
        ((describe e.currentSize).undefinedPaths.map ("current_size" :: ·) ++ []) := rfl
  have hsizes : (describe e.supportedSizes).undefinedPaths = [] :=
    (complete_list _).2 fun name _ => complete_text name
  rw [hshown, hsizes]
  split
  · rename_i hbeyond
    have hout : e.currentSize = .error .outOfTable := by
      have hplace : units.length ≤ e.control.barSize / 10 := by
        change (5 : Int) ≤ e.control.barSize / 10
        omega
      rw [Entry.currentSize, sizeName, Code.entry_of_le hplace]
      rfl
    rw [hout]
    rfl
  · rename_i hwithin
    obtain ⟨name, hname⟩ := (sizeName_eq_ok_iff h).2 (by omega)
    rw [Entry.currentSize, hname]
    rfl

theorem undefinedPaths_entries {entries : List Entry}
    (h : ∀ e ∈ entries, 0 ≤ e.control.barSize) :
    (describe entries).undefinedPaths =
      (entries.filter fun e => 50 ≤ e.control.barSize).map fun _ => ["current_size"] := by
  rw [undefinedPaths_list]
  induction entries with
  | nil => rfl
  | cons e rest ih =>
    have hrest := ih fun e' hmem => h e' (List.mem_cons_of_mem e hmem)
    rw [List.flatMap_cons, hrest, undefinedPaths_entry (h e List.mem_cons_self)]
    by_cases hbeyond : 50 ≤ e.control.barSize
    · simp [hbeyond]
    · simp [hbeyond]

/-- The code of a size has six bits. -/
theorem barSize_of_readEntries {name : String} {payload : Bytes} {entries : List Entry}
    (h : readEntries name payload = .ok entries) :
    ∀ e ∈ entries, 0 ≤ e.control.barSize ∧ e.control.barSize < 64 := by
  obtain ⟨p, -, hp⟩ := exists_of_require_ok h
  simp only at hp
  split at hp
  · obtain ⟨q, -, hq⟩ := exists_of_require_ok hp
    cases hq
    intro e hmem
    obtain ⟨k, rfl⟩ := List.mem_ofFn.1 hmem
    have hlt := field_lt (q.u32 (8 * k + 4)) 8 6
    exact ⟨Int.natCast_nonneg _, Int.ofNat_lt.2 hlt⟩
  · cases hp

end ResizableBar

/-! ## Bodies -/

/-- The base address registers that a body has. -/
def Body.bars : Body → List ResizableBar.Entry
  | .resizableBar b => b.entries
  | .vfResizableBar b => b.entries
  | _ => []

/-- The body of a decoded capability: only the current sizes beyond the largest unit are
undefined, and the codes of sizes are those that fit their field. -/
structure Body.Settled (body : Body) : Prop where
  undefinedPaths_eq : (describe body).undefinedPaths =
    (body.bars.filter fun e => 50 ≤ e.control.barSize).map fun _ => ["entries", "current_size"]
  barSize : ∀ e ∈ body.bars, 0 ≤ e.control.barSize ∧ e.control.barSize < 64

/-- A body without base address registers must be complete. -/
theorem Body.settled_of_complete {body : Body} (hbars : body.bars = [])
    (h : body.content.Complete) : body.Settled := by
  constructor
  · rw [hbars]
    exact (Description.undefinedPaths_tagged _ _).trans h
  · rw [hbars]
    exact fun e hmem => absurd hmem List.not_mem_nil

theorem Body.settled_of_entries {body : Body} {name : String} {payload : Bytes}
    (hcontent : body.content = .record [("entries", describe body.bars)] [])
    (h : ResizableBar.readEntries name payload = .ok body.bars) : body.Settled := by
  have hsizes := ResizableBar.barSize_of_readEntries h
  refine ⟨?_, hsizes⟩
  have hshown : (describe body).undefinedPaths =
      (describe body.bars).undefinedPaths.map ("entries" :: ·) ++ [] ++ [] := by
    refine (Description.undefinedPaths_tagged _ _).trans ?_
    rw [hcontent]
    rfl
  rw [hshown, ResizableBar.undefinedPaths_entries fun e hmem => (hsizes e hmem).1, List.append_nil,
    List.append_nil, List.map_map]
  rfl

/-! ## Decoders -/

/-- A decoder whose bodies are settled. -/
def Decoder.Settles (decoder : Decoder) : Prop :=
  ∀ payload options body, (decoder payload options).value = .ok body → body.Settled

/-- What is found inside a container was decoded by the decoder selected for it. -/
theorem Dispatcher.ok_of_dispatch {α : Type} {d : Dispatcher α} {vendorId subId : Int}
    {data : Bytes} {revision length : Option Int} {a : α}
    (h : (d.dispatch vendorId subId data revision length).value = .ok (some a)) :
    ∃ decoder, d.lookup vendorId subId = some decoder ∧ (decoder data subId).value = .ok a := by
  unfold dispatch at h
  cases hlookup : d.lookup vendorId subId with
  | none =>
    rw [hlookup] at h
    cases h
  | some decoder =>
    rw [hlookup] at h
    refine ⟨decoder, rfl, ?_⟩
    rcases hdecoder : decoder data subId with ⟨value, events⟩
    simp only [hdecoder] at h
    cases value with
    | ok inside =>
      cases h
      rfl
    | error e => cases h

/-- The registers of a vendor are kept as they are, or are those of a virtio device. -/
theorem VendorSpecific.complete (b : VendorSpecific) : (describe b).Complete := by
  change (Description.record _ _).Complete
  simp [Virtio.complete]

theorem VendorSpecific.settles :
    Decoder.Settles fun payload options =>
      (VendorSpecific.decode payload options.vendorId options.deviceId).map
        (·.map .vendorSpecific) := by
  refine Decoder.answers_map fun payload options b _ => ?_
  exact Body.settled_of_complete rfl (VendorSpecific.complete b)

theorem DesignatedVendor.complete_of_dispatch {vendorId dvsecId : Int} {registers : Bytes}
    {revision length : Option Int} {c : Cxl}
    (h : (dispatcher.dispatch vendorId dvsecId registers revision length).value = .ok (some c)) :
    (describe c).Complete := by
  obtain ⟨decoder, hlookup, hvalue⟩ := Dispatcher.ok_of_dispatch h
  rw [eq_of_lookup hlookup] at hvalue
  cases hdecode : Cxl.decode registers dvsecId with
  | error f =>
    simp only [Logged.quiet, hdecode] at hvalue
    cases hvalue
  | ok c' =>
    simp only [Logged.quiet, hdecode] at hvalue
    cases hvalue
    exact Cxl.complete_of_decode hdecode

theorem DesignatedVendor.complete_of_decode {payload : Bytes} {b : DesignatedVendor}
    (h : (DesignatedVendor.decode payload).value = .ok b) : (describe b).Complete := by
  have hcontainer (header : VendorHeader) (dvsecId : Nat) {inside : Inside}
      (hinside : (describe inside).Complete) :
      (describe (DesignatedVendor.mk header dvsecId inside)).Complete := by
    change (Description.record _ _).Complete
    simp [hinside]
  unfold DesignatedVendor.decode at h
  split at h
  · cases h
  · obtain ⟨found, hfound, rfl⟩ := exists_of_map_ok h
    cases found with
    | none => exact hcontainer _ _ rfl
    | some c =>
      refine hcontainer _ _ ?_
      exact (Description.undefinedPaths_tagged _ _).trans (complete_of_dispatch hfound)

theorem DesignatedVendor.settles :
    Decoder.Settles fun payload _ =>
      (DesignatedVendor.decode payload).map (·.map .designatedVendor) := by
  refine Decoder.answers_map fun payload _ b hb => ?_
  exact Body.settled_of_complete rfl (DesignatedVendor.complete_of_decode hb)

/-- Every decoder of a legacy capability settles its bodies. -/
theorem CapabilityId.settles_of_decoder? {id : CapabilityId} {decoder : Decoder}
    (h : id.decoder? = some decoder) : decoder.Settles := by
  cases id <;> cases h
  case null | compactPciHotSwap | compactPciResourceControl | pciHotPlug | agp8x | secureDevice =>
    exact Decoder.answers_constant (Body.settled_of_complete rfl rfl)
  case vendorSpecific => exact VendorSpecific.settles
  all_goals refine Decoder.answers_plain fun payload b hb => Body.settled_of_complete rfl ?_
  case msi => exact Msi.complete_of_decode hb
  case hypertransport => exact HyperTransport.complete b
  case pciExpress => exact PciExpress.complete b
  all_goals rfl

theorem ExtendedCapabilityId.settles_of_decoder? {id : ExtendedCapabilityId} {decoder : Decoder}
    (h : id.decoder? = some decoder) : decoder.Settles := by
  cases id <;> cases h
  case null => exact Decoder.answers_constant (Body.settled_of_complete rfl rfl)
  case designatedVendorSpecific => exact DesignatedVendor.settles
  all_goals first
    | exact Decoder.answers_named fun _ => Body.settled_of_complete rfl rfl
    | refine Decoder.answers_plain fun payload b hb => ?_
  case resizableBar | vfResizableBar =>
    obtain ⟨entries, hentries, rfl⟩ := exists_of_map_ok hb
    exact Body.settled_of_entries rfl hentries
  all_goals refine Body.settled_of_complete rfl ?_
  case advancedErrorReporting => exact ErrorReporting.complete b
  case virtualChannel => exact VirtualChannel.complete_of_decode hb
  case deviceSerialNumber => exact SerialNumber.complete_of_decode hb
  case powerBudgeting => exact PowerBudgeting.complete_of_decode hb
  case accessControlServices => exact AccessControl.complete b
  case tphRequester => exact TphRequester.complete b
  case latencyToleranceReporting => exact LatencyTolerance.complete_of_decode hb
  case secondaryPciExpress => exact SecondaryPciExpress.complete b
  case downstreamPortContainment => exact PortContainment.complete_of_decode hb
  case l1PmSubstates => exact PmSubstates.complete_of_decode hb
  all_goals rfl

/-! ## Decoded capabilities -/

/-- The body of a decoded capability is settled. -/
theorem settled_of_decode {raw : RawCapability} {options : Options} {d : Decoded}
    (h : (raw.decode options).value = .ok d) : d.body.Settled := by
  have hbody : (raw.decodeBody options).value = .ok d.body := by
    unfold RawCapability.decode Logged.map at h
    cases hvalue : (raw.decodeBody options).value with
    | ok body =>
      simp only [hvalue] at h
      cases h
      rfl
    | error e =>
      simp only [hvalue] at h
      cases h
  unfold RawCapability.decodeBody at hbody
  cases hdecoder : decoder? raw.extended raw.capId with
  | none =>
    rw [hdecoder] at hbody
    rw [← Except.ok.inj hbody]
    exact Body.settled_of_complete rfl rfl
  | some decoder =>
    rw [hdecoder] at hbody
    have hsettles : decoder.Settles := decoder?_cases (fun _ _ => CapabilityId.settles_of_decoder?)
      (fun _ _ => ExtendedCapabilityId.settles_of_decoder?) hdecoder
    exact hsettles raw.payload options d.body hbody

/-- Which derived values of a decoded capability exist. -/
structure Decoded.Derives (d : Decoded) : Prop where
  /-- All but the current sizes of base address registers whose codes are beyond the largest
  unit: there is one undefined value for each of these registers. -/
  undefinedPaths_eq : (describe d.body).undefinedPaths =
    (d.body.bars.filter fun e => 50 ≤ e.control.barSize).map fun _ => ["entries", "current_size"]
  /-- So the body is complete if it has no such register. -/
  complete_iff : (describe d.body).Complete ↔ ∀ e ∈ d.body.bars, e.control.barSize < 50
  /-- The code of a size fits its six bits, and its size has a name if it is not beyond the
  largest unit. -/
  currentSize : ∀ e ∈ d.body.bars, 0 ≤ e.control.barSize ∧ e.control.barSize < 64 ∧
    ((∃ name, e.currentSize = .ok name) ↔ e.control.barSize < 50)
  /-- Every size that a register supports has a name, and is listed. -/
  supportedSizes_eq : ∀ e ∈ d.body.bars, e.supportedSizes.map .ok =
    ((List.range 44).filter fun n : Nat => e.supportsPowerOfTwo ↑(20 + n)).map
      fun n : Nat => ResizableBar.sizeName n

/-- **What is derived from a decoded capability exists, but for the names of sizes beyond the
largest unit.**  This is so whatever the identifier, the payload and the options. -/
theorem undefinedPaths_decode (raw : RawCapability) (options : Options) (d : Decoded)
    (h : (raw.decode options).value = .ok d) : d.Derives := by
  have hsettled := settled_of_decode h
  refine ⟨hsettled.undefinedPaths_eq, ?_, fun e hmem => ?_,
    fun e _ => ResizableBar.map_supportedSizes e⟩
  · rw [Description.Complete, hsettled.undefinedPaths_eq, List.map_eq_nil_iff,
      List.filter_eq_nil_iff]
    simp only [decide_eq_true_eq, Int.not_le]
  · obtain ⟨hnonneg, hlt⟩ := hsettled.barSize e hmem
    exact ⟨hnonneg, hlt, ResizableBar.sizeName_eq_ok_iff hnonneg⟩

/-- A table of one base address register, with the given code of a size. -/
def barWithSize (code : UInt8) : RawCapability :=
  { offset := 0x100, capId := 0x15, version := some 1
    payload := [0, 0, 0, 0, 0x20, code, 0, 0] }

/-- What a table of one such register is decoded to. -/
def decodedBar (barSize : Int) : Decoded :=
  { offset := 0x100, capId := 0x15, version := some 1
    body := .resizableBar ⟨[⟨0, ⟨0, 1, barSize, 0⟩⟩]⟩ }

/-- The largest code that stands for a size, and the least one beyond it. -/
theorem undefinedPaths_decode_bars :
    ((barWithSize 49).decode {}).value = .ok (decodedBar 49) ∧ (decodedBar 49).Derives ∧
      ((barWithSize 50).decode {}).value = .ok (decodedBar 50) ∧ (decodedBar 50).Derives := by
  have hwithin : ((barWithSize 49).decode {}).value = .ok (decodedBar 49) := by decide +kernel
  have hbeyond : ((barWithSize 50).decode {}).value = .ok (decodedBar 50) := by decide +kernel
  exact ⟨hwithin, undefinedPaths_decode _ _ _ hwithin,
    hbeyond, undefinedPaths_decode _ _ _ hbeyond⟩

/-- A register whose code is beyond the largest unit is decoded, but its current size is
undefined. -/
theorem currentSize_beyond_units :
    ((barWithSize 50).decode {}).value = .ok (decodedBar 50) ∧
      (describe (decodedBar 50).body).undefinedPaths = [["entries", "current_size"]] ∧
      (ResizableBar.Entry.mk 0 ⟨0, 1, 50, 0⟩).currentSize = .error .outOfTable := by
  decide +kernel

end ConfigSpace
