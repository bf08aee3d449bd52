import ConfigSpace.Capability.ResizableBar
import ConfigSpace.Capability.SecondaryPciExpress
import ConfigSpace.Capability.TphRequester
import ConfigSpace.Capability.VirtualChannel
import ConfigSpace.Proofs.RegisterBlocks

/-!
# Counted tables

Four kinds of capability have a table behind their registers, and each of them has a rule of its
own for how many entries it has: a count that must be valid and all of whose entries must be
there, a count of which only the entries count that are there, as many entries as are there up
to a largest number, and all entries or none.  This file says for each of them how many entries
it has, and that each entry is read from its own bytes.

* `Bytes.Tabulates` — a table has a number of entries of one size, one behind the other.
* `filterMap_range_of_lt` — entries that are left out where they do not fit are the first
  ones.
* `ResizableBar.Counted`, `VirtualChannel.tabulates_resources`,
  `SecondaryPciExpress.tabulates_lanes` and `TphRequester.Tagged` — the four rules.

The main result is `counted_tables`.
-/

namespace ConfigSpace

/-! ## Tables -/

/-- A table of `count` entries of `size` bytes each, which lie in the string from `start` on and
are shown each from its own bytes. -/
structure Bytes.Tabulates {α : Type} (b : Bytes) (start size count : Nat)
    (Shown : Bytes → α → Prop) (entries : List α) : Prop where
  length_eq : entries.length = count
  /-- All entries are there. -/
  within : start + size * count ≤ b.length
  shown : ∀ i (h : i < entries.length), Shown (b.window (start + size * i) size) entries[i]

/-- Entries that are left out from some position on are the first ones. -/
theorem filterMap_range_of_lt {α : Type} {f : Nat → Option α} {m : Nat}
    (hsome : ∀ k < m, ∃ a, f k = some a) (hnone : ∀ k, m ≤ k → f k = none) (n : Nat) :
    ((List.range n).filterMap f).map some = (List.range (min n m)).map f := by
  induction n with
  | zero => simp
  | succ n ih =>
    rw [List.range_succ, List.filterMap_append, List.map_append, ih]
    rcases Nat.lt_or_ge n m with hlt | hle
    · obtain ⟨a, ha⟩ := hsome n hlt
      rw [Nat.min_eq_left (by omega), Nat.min_eq_left (by omega), List.range_succ,
        List.map_append, List.filterMap_cons, ha]
      exact congrArg _ (congrArg (fun o => [o]) ha.symm)
    · rw [Nat.min_eq_right hle, Nat.min_eq_right (by omega), List.filterMap_cons, hnone n hle]
      exact List.append_nil _

section Tabulates

variable {α : Type} {b : Bytes} {start size n : Nat} {Shown : Bytes → α → Prop}

theorem Bytes.tabulates_ofFn {entry : Fin n → α} (hwithin : start + size * n ≤ b.length)
    (hshown : ∀ k : Fin n, Shown (b.window (start + size * k) size) (entry k)) :
    b.Tabulates start size n Shown (List.ofFn entry) := by
  refine ⟨List.length_ofFn, hwithin, ?_⟩
  intro i h
  rw [List.getElem_ofFn]
  exact hshown ⟨i, by rwa [List.length_ofFn] at h⟩

/-- An entry fits if it is one of as many as the bytes behind the start have room for. -/
theorem Bytes.lt_div_iff_fits (hsize : 0 < size) (hstart : start ≤ b.length) (k : Nat) :
    k < (b.length - start) / size ↔ start + size * (k + 1) ≤ b.length := by
  rw [← Nat.add_one_le_iff, Nat.le_div_iff_mul_le hsize, Nat.mul_comm]
  omega

/-- A table of at most `n` entries, of which those that do not fit are left out. -/
theorem Bytes.tabulates_filterMap {row : Nat → Option α} (hsize : 0 < size)
    (hstart : start ≤ b.length)
    (hshown : ∀ k, start + size * (k + 1) ≤ b.length →
      ∃ e, row k = some e ∧ Shown (b.window (start + size * k) size) e)
    (hnone : ∀ k, b.length < start + size * (k + 1) → row k = none) :
    b.Tabulates start size (min n ((b.length - start) / size)) Shown
      ((List.range n).filterMap row) := by
  have hfits := Bytes.lt_div_iff_fits hsize hstart
  have hentries : ((List.range n).filterMap row).map some =
      (List.range (min n ((b.length - start) / size))).map row := by
    apply filterMap_range_of_lt
    · intro k hk
      obtain ⟨e, he, -⟩ := hshown k ((hfits k).1 hk)
      exact ⟨e, he⟩
    · intro k hk
      exact hnone k (Nat.not_le.1 fun hle => Nat.not_lt.2 hk ((hfits k).2 hle))
  have hlength := congrArg List.length hentries
  rw [List.length_map, List.length_map, List.length_range] at hlength
  refine ⟨hlength, ?_, ?_⟩
  · have hle : size * min n ((b.length - start) / size) ≤ b.length - start :=
      Nat.le_trans (Nat.mul_le_mul_left _ (Nat.min_le_right _ _)) (Nat.mul_div_le _ _)
    omega
  · -- The entry at a position is what is read for the position.
    intro i h
    have hi : i < min n ((b.length - start) / size) := by rwa [hlength] at h
    obtain ⟨e, he, hshows⟩ := hshown i ((hfits i).1 (Nat.lt_of_lt_of_le hi (Nat.min_le_right _ _)))
    have hentry := congrArg (·[i]?) hentries
    simp only [List.getElem?_map, List.getElem?_eq_getElem h, List.getElem?_range hi,
      Option.map_some, he, Option.some.injEq] at hentry
    rw [hentry]
    exact hshows

end Tabulates

/-! ## A count that must be valid -/

namespace ResizableBar

/-- The Resizable BAR Control register. -/
def controlRegister : Register where
  layout := {
    bits := 32
    widths := [3, 2, 3, 6, 2, 16]
    name := "resizable BAR control"
    bits_mem := Layout.mem_sizes_32
    widths_pos := by decide
    total_widths := rfl }
  names :=
    [some "bar_index", none, some "number_of_resizable_bars", some "bar_size", none,
     some "support_map_from_256tb_to_8eb"]
  length_names := rfl

theorem Control.shows_ofWord (w : Nat) :
    controlRegister.Shows 0xFFFF3FE7 w (describe (Control.ofWord w)) :=
  Register.shows rfl rfl

/-- An entry shows its eight bytes. -/
structure Entry.Shown (b : Bytes) (e : Entry) : Prop where
  support_map_eq : e.supportMapFrom1mbTo128tb = b.u32 0
  control : controlRegister.Shows 0xFFFF3FE7 (b.u32 4) (describe e.control)

/-- What a table with the count in its first control register is decoded to. -/
structure Counted {α : Type} (name : String) (p : Bytes) (wrap : List Entry → α)
    (result : Except Fault α) : Prop where
  /-- A count out of range is reported. -/
  out_of_range : let count := field (p.u32 4) 5 3
    count = 0 ∨ count = 7 → result = .error (.countOutOfRange name count 1 6)
  /-- So is a table that is not all there. -/
  short : let count := field (p.u32 4) 5 3
    1 ≤ count → count ≤ 6 → p.length < 8 * count →
      result = .error (.unreadable name (8 * count : Nat) p.length)
  /-- Otherwise there are as many entries as counted. -/
  entries : let count := field (p.u32 4) 5 3
    1 ≤ count → count ≤ 6 → 8 * count ≤ p.length →
      ∃ entries, result = .ok (wrap entries) ∧ p.Tabulates 0 8 count Entry.Shown entries

theorem counted_readEntries {α : Type} (name : String) {p : Bytes} (h : 8 ≤ p.length)
    (wrap : List Entry → α) : Counted name p wrap ((readEntries name p).map wrap) := by
  have hread : readEntries name p =
      if 1 ≤ field (p.u32 4) 5 3 ∧ field (p.u32 4) 5 3 ≤ 6 then
        p.require name (8 * field (p.u32 4) 5 3) fun p => .ok (List.ofFn (entry p))
      else .error (.countOutOfRange name (field (p.u32 4) 5 3) 1 6) :=
    Bytes.require_of_le h
  rw [hread]
  constructor
  · intro count hcount
    rw [if_neg (by omega)]
    rfl
  · intro count hlow hhigh hshort
    rw [if_pos ⟨hlow, hhigh⟩, Bytes.require_of_lt hshort]
    rfl
  · intro count hlow hhigh hfits
    rw [if_pos ⟨hlow, hhigh⟩, Bytes.require_of_le hfits]
    refine ⟨_, rfl, Bytes.tabulates_ofFn (by omega) ?_⟩
    intro k
    rw [Nat.zero_add]
    constructor
    · rw [p.u32_window (by decide)]
      rfl
    · rw [p.u32_window (by decide)]
      exact Control.shows_ofWord _

end ResizableBar

/-! ## Entries that fit -/

namespace VirtualChannel

/-- The VC Resource Capability register. -/
def resourceCapabilityRegister : Register where
  layout := {
    bits := 32
    widths := [1, 1, 1, 1, 1, 1, 2, 6, 1, 1, 7, 1, 8]
    name := "VC resource capability"
    bits_mem := Layout.mem_sizes_32
    widths_pos := by decide
    total_widths := rfl }
  names :=
    [some "hardware_fixed_arbitration", some "wrr_32_phases", some "wrr_64_phases",
     some "wrr_128_phases", some "time_based_wrr_128_phases", some "wrr_256_phases", none, none,
     some "advanced_packet_switching", some "reject_snoop_transactions",
     some "maximum_time_slots", none, some "port_arbitration_table_offset"]
  length_names := rfl

/-- The VC Resource Control register. -/
def resourceControlRegister : Register where
  layout := {
    bits := 32
    widths := [8, 8, 1, 3, 4, 3, 4, 1]
    name := "VC resource control"
    bits_mem := Layout.mem_sizes_32
    widths_pos := by decide
    total_widths := rfl }
  names :=
    [some "tc_vc_map", none, some "load_port_arbitration_table", some "port_arbitration_select",
     none, some "vc_id", none, some "vc_enable"]
  length_names := rfl

/-- The VC Resource Status register. -/
def resourceStatusRegister : Register where
  layout := {
    bits := 16
    widths := [1, 1, 14]
    name := "VC resource status"
    bits_mem := Layout.mem_sizes_16
    widths_pos := by decide
    total_widths := rfl }
  names := [some "port_arbitration_table_status", some "vc_negotiation_pending", none]
  length_names := rfl

theorem ResourceCapability.shows_ofWord (w : Nat) :
    resourceCapabilityRegister.Shows 0xFF7FC03F w (describe (ResourceCapability.ofWord w)) :=
  Register.shows rfl rfl

theorem ResourceControl.shows_ofWord (w : Nat) :
    resourceControlRegister.Shows 0x870F00FF w (describe (ResourceControl.ofWord w)) :=
  Register.shows rfl rfl

theorem ResourceStatus.shows_ofWord (w : Nat) :
    resourceStatusRegister.Shows 0x0003 w (describe (ResourceStatus.ofWord w)) :=
  Register.shows rfl rfl

/-- The registers of a channel show their twelve bytes, of which two are reserved. -/
structure Resource.Shown (b : Bytes) (r : Resource) : Prop where
  capability : resourceCapabilityRegister.Shows 0xFF7FC03F (b.u32 0) (describe r.capability)
  control : resourceControlRegister.Shows 0x870F00FF (b.u32 4) (describe r.control)
  status : resourceStatusRegister.Shows 0x0003 (b.u16 10) (describe r.status)

/-- There are as many channels as counted, as far as they fit. -/
theorem tabulates_resources {p : Bytes} (h : 12 ≤ p.length) (extended : Nat) :
    p.Tabulates 12 12 (min (extended + 1) ((p.length - 12) / 12)) Resource.Shown
      (readResources p extended) := by
  apply Bytes.tabulates_filterMap (by decide) h
  · intro k hk
    refine ⟨_, congrArg (Option.map _) (Bytes.atLeast?_of_le hk), ?_⟩
    constructor
    · rw [p.u32_window (by decide)]
      exact ResourceCapability.shows_ofWord _
    · rw [p.u32_window (by decide), Nat.add_right_comm]
      exact ResourceControl.shows_ofWord _
    · rw [p.u16_window (by decide), Nat.add_right_comm]
      exact ResourceStatus.shows_ofWord _
  · intro k hk
    exact congrArg (Option.map _) (Bytes.atLeast?_of_lt hk)

end VirtualChannel

/-! ## As many entries as there are -/

namespace SecondaryPciExpress

/-- The Lane Equalization Control register. -/
def laneRegister : Register where
  layout := {
    bits := 16
    widths := [4, 3, 1, 4, 3, 1]
    name := "lane equalization control"
    bits_mem := Layout.mem_sizes_16
    widths_pos := by decide
    total_widths := rfl }
  names :=
    [some "downstream_port_transmitter_preset", some "downstream_port_receiver_preset_hint",
     none, some "upstream_port_transmitter_preset", some "upstream_port_receiver_preset_hint",
     none]
  length_names := rfl

/-- The register of a lane shows its two bytes. -/
def LaneEqualization.Shown (b : Bytes) (lane : LaneEqualization) : Prop :=
  laneRegister.Shows 0x7F7F (b.u16 0) (describe lane)

theorem LaneEqualization.shows_ofWord (w : Nat) :
    laneRegister.Shows 0x7F7F w (describe (LaneEqualization.ofWord w)) :=
  Register.shows rfl rfl

/-- There are as many lanes as fit, up to the widest link. -/
theorem tabulates_lanes {p : Bytes} (h : 8 ≤ p.length) :
    p.Tabulates 8 2 (min 32 ((p.length - 8) / 2)) LaneEqualization.Shown (readLanes p) := by
  apply Bytes.tabulates_filterMap (by decide) h
  · intro k hk
    refine ⟨_, congrArg (Option.map _) (Bytes.atLeast?_of_le hk), ?_⟩
    rw [LaneEqualization.Shown, p.u16_window (by decide)]
    exact LaneEqualization.shows_ofWord _
  · intro k hk
    exact congrArg (Option.map _) (Bytes.atLeast?_of_lt hk)

end SecondaryPciExpress

/-! ## All entries or none -/

namespace TphRequester

/-- The TPH Requester Capability register. -/
def capabilityRegister : Register where
  layout := {
    bits := 32
    widths := [1, 1, 1, 5, 1, 2, 5, 11, 5]
    name := "TPH requester capability"
    bits_mem := Layout.mem_sizes_32
    widths_pos := by decide
    total_widths := rfl }
  names :=
    [some "no_st_mode_supported", some "interrupt_vector_mode_supported",
     some "device_specific_mode_supported", none, some "extended_tph_requester_supported",
     some "st_table_location", none, some "st_table_size", none]
  length_names := rfl

theorem Capability.shows_ofWord (w : Nat) :
    capabilityRegister.Shows 0x07FF0707 w (describe (Capability.ofWord w)) :=
  Register.shows rfl rfl

/-- A tag shows its two bytes. -/
structure Tag.Shown (b : Bytes) (t : Tag) : Prop where
  lower_eq : t.stLower = b.u8 0
  upper_eq : t.stUpper = b.u8 1

/-- A table lies in the payload, is not too large, and is all there. -/
def Fits (p : Bytes) (location size : Nat) : Prop :=
  location = 1 ∧ size ≤ 63 ∧ 8 + 2 * (size + 1) ≤ p.length

/-- The state of a table that is not read, by where it should be. -/
def unreadState : Nat → String
  | 0 => "not_present"
  | 1 => "invalid"
  | 2 => "msi_x_table"
  | _ => "reserved"

/-- What is read of a table, by where it should be and by its size. -/
structure Tagged (p : Bytes) (location size : Nat) (t : Table) : Prop where
  valid_iff : t.state = "valid" ↔ Fits p location size
  /-- A valid table has all of its tags. -/
  tags : Fits p location size → p.Tabulates 8 2 (size + 1) Tag.Shown t.tags
  /-- Any other one has none, and its state says why. -/
  other : ¬ Fits p location size → t.tags = [] ∧ t.state = unreadState location

variable {p : Bytes} {c : Capability}

theorem exists_readTable_of_fits (h : Fits p c.stTableLocation c.stTableSize) :
    ∃ tags, readTable p c = .valid tags ∧
      p.Tabulates 8 2 (c.stTableSize + 1) Tag.Shown tags := by
  obtain ⟨hlocation, hsize, hfits⟩ := h
  refine ⟨List.ofFn fun k : Fin (c.stTableSize + 1) =>
    ⟨p.u8 (8 + 2 * k), p.u8 (9 + 2 * k)⟩, ?_, Bytes.tabulates_ofFn hfits ?_⟩
  · unfold readTable
    simp only [hlocation, if_pos (show c.stTableSize ≤ largestSize from hsize)]
    rw [Bytes.atLeast?_of_le hfits]
    rfl
  · intro k
    constructor
    · rw [p.u8_window (by decide)]
      rfl
    · rw [p.u8_window (by decide), Nat.add_right_comm]

theorem readTable_of_here (hhere : c.stTableLocation = 1)
    (h : ¬ Fits p c.stTableLocation c.stTableSize) : readTable p c = .invalid := by
  unfold readTable
  simp only [hhere]
  rcases Nat.lt_or_ge largestSize c.stTableSize with hlarge | hsmall
  · exact if_neg (Nat.not_le.2 hlarge)
  · have hshort : p.length < 8 + 2 * (c.stTableSize + 1) :=
      Nat.not_le.1 fun hfits => h ⟨hhere, hsmall, hfits⟩
    rw [if_pos hsmall, Bytes.atLeast?_of_lt hshort]

theorem unread_of_not_fits (h : ¬ Fits p c.stTableLocation c.stTableSize) :
    (readTable p c).tags = [] ∧ (readTable p c).state = unreadState c.stTableLocation := by
  by_cases hhere : c.stTableLocation = 1
  · rw [readTable_of_here hhere h, hhere]
    exact ⟨rfl, rfl⟩
  · obtain ⟨_, _, _, _, location, size⟩ := c
    match location, hhere with
    | 0, _ => exact ⟨rfl, rfl⟩
    | 2, _ => exact ⟨rfl, rfl⟩
    | _ + 3, _ => exact ⟨rfl, rfl⟩

theorem unreadState_ne (location : Nat) : unreadState location ≠ "valid" := by
  unfold unreadState
  split <;> decide

/-- A table that fits is read, and of any other one the state is known. -/
theorem tagged_readTable (p : Bytes) (c : Capability) :
    Tagged p c.stTableLocation c.stTableSize (readTable p c) := by
  by_cases hfits : Fits p c.stTableLocation c.stTableSize
  · obtain ⟨tags, hread, htags⟩ := exists_readTable_of_fits hfits
    rw [hread]
    exact ⟨iff_of_true rfl hfits, fun _ => htags, fun hnot => absurd hfits hnot⟩
  · have hunread := unread_of_not_fits hfits
    refine ⟨iff_of_false ?_ hfits, fun h => absurd h hfits, fun _ => hunread⟩
    rw [hunread.2]
    exact unreadState_ne _

end TphRequester

/-- **Tables have exactly their entries.**  A count of base address registers must be valid and
its entries there; virtual channels are as many as counted, as far as they fit; there are as many
lanes as fit, up to the widest link; and steering tags are all there or not read. -/
theorem counted_tables (p : Bytes) :
    (8 ≤ p.length →
      ResizableBar.Counted "Resizable BAR" p .mk (ResizableBar.decode p) ∧
      ResizableBar.Counted "VF Resizable BAR" p .mk (VfResizableBar.decode p)) ∧
    (12 ≤ p.length → ∃ v, VirtualChannel.decode p = .ok v ∧
      let extended := field (p.u32 0) 0 3
      v.portVcCapability1.extendedVcCount = extended ∧
      p.Tabulates 12 12 (min (extended + 1) ((p.length - 12) / 12))
        VirtualChannel.Resource.Shown v.resources) ∧
    (8 ≤ p.length → ∃ s, SecondaryPciExpress.decode p = .ok s ∧
      p.Tabulates 8 2 (min 32 ((p.length - 8) / 2))
        SecondaryPciExpress.LaneEqualization.Shown s.laneEqualizationControl) ∧
    (8 ≤ p.length → ∃ t, TphRequester.decode p = .ok t ∧
      TphRequester.capabilityRegister.Shows 0x07FF0707 (p.u32 0) (describe t.capability) ∧
      TphRequester.Tagged p (field (p.u32 0) 9 2) (field (p.u32 0) 16 11) t.table) := by
  refine ⟨fun h => ⟨?_, ?_⟩, fun h => ?_, fun h => ?_, fun h => ?_⟩
  · exact ResizableBar.counted_readEntries _ h _
  · exact ResizableBar.counted_readEntries _ h _
  · exact ⟨_, Bytes.require_of_le h, rfl, VirtualChannel.tabulates_resources h _⟩
  · exact ⟨_, Bytes.require_of_le h, SecondaryPciExpress.tabulates_lanes h⟩
  · exact ⟨_, Bytes.require_of_le h, TphRequester.Capability.shows_ofWord _,
      TphRequester.tagged_readTable p (.ofWord (p.u32 0))⟩

/-- A payload of 24 bytes that may be any of the four: there are three base address registers,
one of eight channels, eight lanes and eight tags. -/
def tablePayload : Bytes :=
  [0x07, 0x02, 0x07, 0x00, 0x60, 0x00, 0x00, 0x00] ++ List.replicate 16 0x55

/-- All four tables of it have their entries. -/
theorem counted_tables_24 :
    (∃ entries, ResizableBar.decode tablePayload = .ok ⟨entries⟩ ∧ entries.length = 3) ∧
    (∃ v, VirtualChannel.decode tablePayload = .ok v ∧ v.resources.length = 1) ∧
    (∃ s, SecondaryPciExpress.decode tablePayload = .ok s ∧
      s.laneEqualizationControl.length = 8) ∧
    ∃ t, TphRequester.decode tablePayload = .ok t ∧ t.table.state = "valid" ∧
      t.table.tags.length = 8 := by
  obtain ⟨hbar, hchannel, hlane, htag⟩ := counted_tables tablePayload
  obtain ⟨entries, hentries, htable⟩ :=
    (hbar (by decide)).1.entries (by decide) (by decide) (by decide)
  obtain ⟨v, hv, -, hresources⟩ := hchannel (by decide)
  obtain ⟨s, hs, hlanes⟩ := hlane (by decide)
  obtain ⟨t, ht, -, htagged⟩ := htag (by decide)
  have hfits : TphRequester.Fits tablePayload 1 7 := ⟨rfl, by decide, by decide⟩
  exact ⟨⟨entries, hentries, htable.length_eq⟩, ⟨v, hv, hresources.length_eq⟩,
    ⟨s, hs, hlanes.length_eq⟩, t, ht, htagged.valid_iff.2 hfits,
    (htagged.tags hfits).length_eq⟩

end ConfigSpace
