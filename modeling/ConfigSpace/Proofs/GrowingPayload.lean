import ConfigSpace.Decoding
import ConfigSpace.Proofs.DeclaredLength
import Mathlib.Data.List.Infix

/-!
# Decoding a longer payload

The payload that a walk gives a capability is an upper bound: bytes that do not belong to
the capability may follow it.  So a decoder must not mind what follows its structure, and
this file says in which sense no decoder does.

* `Bytes.AtLeast.Agree` — two strings that hold the same within the length they are both
  known to have.
* `Body.Grows` — how the body of a capability may differ if the payload gets longer: what
  was there stays, and what the payload was too short for may turn up.
* `Persists` — how the results on a payload and on a longer one hang together: a value
  stays one and grows, and where the longer payload alone gives a value, the shorter one
  fails for its shortness.
* `Steady` — a decoder whose results persist in whatever longer payload.  All registered
  decoders are steady (`steady_of_decoder?`).

The main result is `decode_grows`.
-/

namespace ConfigSpace

/-! ## Strings that agree -/

namespace Bytes.AtLeast

variable {size : Nat}

/-- Two strings hold the same within the length they are known to have. -/
structure Agree (p q : AtLeast size) : Prop where
  /-- The same bytes. -/
  byte : @u8 size p = @u8 size q
  /-- The same 16-bit words. -/
  word : @u16 size p = @u16 size q
  /-- The same 32-bit words. -/
  dword : @u32 size p = @u32 size q
  /-- And several of them in a row. -/
  dwords : @words32 size p = @words32 size q
  /-- The same runs of bytes. -/
  run : @window size p = @window size q

theorem agree_of_prefix {p q : AtLeast size} (h : p.bytes <+: q.bytes) : p.Agree q := by
  obtain ⟨more, hmore⟩ := h
  have hsize := p.size_le
  have hdword : ∀ i, i + 4 ≤ size → p.bytes.u32 i = q.bytes.u32 i := by
    intro i hi
    rw [← hmore, Bytes.u32_append _ _ (by omega)]
  refine ⟨?_, ?_, ?_, ?_, ?_⟩
  · funext i h
    have hi := Nat.le_of_ble_eq_true h
    rw [u8, u8, ← hmore, Bytes.u8_append _ _ (by omega)]
  · funext i h
    have hi := Nat.le_of_ble_eq_true h
    rw [u16, u16, ← hmore, Bytes.u16_append _ _ (by omega)]
  · funext i h
    exact hdword i (Nat.le_of_ble_eq_true h)
  · funext i n h
    have hn := Nat.le_of_ble_eq_true h
    refine List.map_congr_left fun k hk => hdword _ ?_
    have hlt := List.mem_range.1 hk
    omega
  · funext i n h
    have hn := Nat.le_of_ble_eq_true h
    rw [window, window, ← hmore, Bytes.window_append_left _ _ (by omega)]

end Bytes.AtLeast

/-! ## What may turn up -/

/-- What is there stays; what is not may turn up. -/
def Stays {α : Type} (a b : Option α) : Prop :=
  ∀ x, a = some x → b = some x

theorem stays_refl {α : Type} (a : Option α) : Stays a a :=
  fun _ h => h

theorem stays_none {α : Type} (b : Option α) : Stays none b := by
  intro x h
  cases h

/-- The link registers may turn up. -/
structure PciExpress.Grows (a b : PciExpress) : Prop where
  /-- All others are what they were. -/
  rest : b = { a with link := b.link }
  link : Stays a.link b.link

/-- The registers of a root port may turn up. -/
structure ErrorReporting.Grows (a b : ErrorReporting) : Prop where
  /-- All others are what they were. -/
  rest : b = { a with
    rootErrorCommand := b.rootErrorCommand
    rootErrorStatus := b.rootErrorStatus
    errorSourceIdentification := b.errorSourceIdentification }
  command : Stays a.rootErrorCommand b.rootErrorCommand
  status : Stays a.rootErrorStatus b.rootErrorStatus
  source : Stays a.errorSourceIdentification b.errorSourceIdentification

/-- The registers of more channels may turn up. -/
structure VirtualChannel.Grows (a b : VirtualChannel) : Prop where
  /-- All others are what they were. -/
  rest : b = { a with resources := b.resources }
  resources : a.resources <+: b.resources

/-- The registers of more lanes may turn up. -/
structure SecondaryPciExpress.Grows (a b : SecondaryPciExpress) : Prop where
  /-- All others are what they were. -/
  rest : b = { a with laneEqualizationControl := b.laneEqualizationControl }
  lanes : a.laneEqualizationControl <+: b.laneEqualizationControl

/-- A table that should be there may turn up. -/
inductive TphRequester.Table.Grows : Table → Table → Prop where
  | same (t : Table) : Grows t t
  | found (tags : List Tag) : Grows .invalid (.valid tags)

/-- The table may turn up. -/
structure TphRequester.Grows (a b : TphRequester) : Prop where
  /-- The registers are what they were. -/
  rest : b = { a with table := b.table }
  table : a.table.Grows b.table

/-- Registers of a vendor that the payload broke off may go on, to their end or not. -/
inductive VendorExtended.Grows : VendorExtended → VendorExtended → Prop where
  | same (b : VendorExtended) : Grows b b
  | completed {header : VendorHeader} {registers registers' : Bytes}
      (h : registers <+: registers') :
      Grows ⟨header, .incomplete, registers⟩ ⟨header, .valid, registers'⟩
  | continued {header : VendorHeader} {registers registers' : Bytes}
      (h : registers <+: registers') :
      Grows ⟨header, .incomplete, registers⟩ ⟨header, .incomplete, registers'⟩

/-- How the body of a capability may differ if the payload gets longer. -/
inductive Body.Grows : Body → Body → Prop where
  | same (b : Body) : Grows b b
  | unknown {capId : Int} {data data' : Bytes} (h : data <+: data') :
      Grows (.unknown capId data) (.unknown capId data')
  | named {id : ExtendedCapabilityId} {title : String} {data data' : Bytes}
      (h : data <+: data') : Grows (.named id title data) (.named id title data')
  | pciExpress {a b : PciExpress} (h : a.Grows b) : Grows (.pciExpress a) (.pciExpress b)
  | errorReporting {a b : ErrorReporting} (h : a.Grows b) :
      Grows (.errorReporting a) (.errorReporting b)
  | virtualChannel {a b : VirtualChannel} (h : a.Grows b) :
      Grows (.virtualChannel a) (.virtualChannel b)
  | secondaryPciExpress {a b : SecondaryPciExpress} (h : a.Grows b) :
      Grows (.secondaryPciExpress a) (.secondaryPciExpress b)
  | tphRequester {a b : TphRequester} (h : a.Grows b) :
      Grows (.tphRequester a) (.tphRequester b)
  | vendorExtended {a b : VendorExtended} (h : a.Grows b) :
      Grows (.vendorExtended a) (.vendorExtended b)

/-! ## Results that persist -/

/-- The faults that a payload can have for its shortness. -/
inductive Fault.Shortage : Fault → Prop where
  | unreadable {name : String} {size available : Int} :
      Shortage (.unreadable name size available)
  | lengthMismatch {vendorId revision declared structureId available : Int} :
      Shortage (.lengthMismatch vendorId revision declared structureId available)

/-- An error that is such a fault. -/
def Error.Shortage (e : Error) : Prop :=
  e.fault.Shortage

theorem Error.Shortage.kind_eq {e : Error} (h : e.Shortage) :
    e.kind = .unreadable ∨ e.kind = .lengthMismatch := by
  obtain ⟨fault, site⟩ := e
  cases h with
  | unreadable => exact .inl rfl
  | lengthMismatch => exact .inr rfl

/-- The result on a payload persists in the result on a longer one. -/
inductive Persists {ε α : Type} (shortage : ε → Prop) (grows : α → α → Prop) :
    Except ε α → Except ε α → Prop where
  /-- A value stays one, and grows. -/
  | grown {a b : α} (h : grows a b) : Persists shortage grows (.ok a) (.ok b)
  /-- A payload that is too short says nothing about longer ones. -/
  | short {e : ε} {r : Except ε α} (h : shortage e) : Persists shortage grows (.error e) r
  /-- Any other failure stays one. -/
  | failed {e e' : ε} : Persists shortage grows (.error e) (.error e')

/-- A decoder whose results persist in those on longer payloads. -/
def Steady {ε α : Type} (shortage : ε → Prop) (grows : α → α → Prop)
    (decode : Bytes → Except ε α) : Prop :=
  ∀ ⦃short long : Bytes⦄, short <+: long → Persists shortage grows (decode short) (decode long)

section Persists

variable {ε α β : Type} {shortage : ε → Prop} {grows : α → α → Prop} {grows' : β → β → Prop}

theorem persists_refl (h : ∀ a, grows a a) (r : Except ε α) : Persists shortage grows r r := by
  cases r with
  | ok a => exact .grown (h a)
  | error e => exact .failed

/-- What is made of values must grow with them. -/
theorem Persists.map {x y : Except ε α} {f g : α → β} (h : Persists shortage grows x y)
    (hfg : ∀ a b, grows a b → grows' (f a) (g b)) :
    Persists shortage grows' (x.map f) (y.map g) := by
  cases h with
  | grown h => exact .grown (hfg _ _ h)
  | short h => exact .short h
  | failed => exact .failed

theorem Persists.map_eq {x y : Except ε α} (h : Persists shortage Eq x y) (f : α → β) :
    Persists shortage Eq (x.map f) (y.map f) := by
  refine h.map fun a b hab => ?_
  rw [hab]

/-- The place of an error does not matter, nor what is made of it otherwise, as long as a
shortage stays one. -/
theorem Persists.mapError {ε' : Type} {shortage' : ε' → Prop} {x y : Except ε α} {f : ε → ε'}
    (h : Persists shortage grows x y) (hf : ∀ e, shortage e → shortage' (f e)) :
    Persists shortage' grows (x.mapError f) (y.mapError f) := by
  cases h with
  | grown h => exact .grown h
  | short h => exact .short (hf _ h)
  | failed => exact .failed

theorem persists_if {present : Prop} [Decidable present] {x y x' y' : Except ε α}
    (h : present → Persists shortage grows x y) (h' : ¬ present → Persists shortage grows x' y') :
    Persists shortage grows (if present then x else x') (if present then y else y') := by
  by_cases hpresent : present
  · rw [if_pos hpresent, if_pos hpresent]
    exact h hpresent
  · rw [if_neg hpresent, if_neg hpresent]
    exact h' hpresent

end Persists

section Require

variable {α : Type} {grows : α → α → Prop} {short long : Bytes} {name : String} {size : Nat}

/-- Either the shorter payload lacks a structure, or both payloads have it and agree on it. -/
theorem atLeast?_of_prefix (hext : short <+: long) (size : Nat) :
    short.atLeast? size = none ∨
      ∃ p q, short.atLeast? size = some p ∧ long.atLeast? size = some q ∧
        Bytes.AtLeast.Agree p q := by
  rcases Nat.lt_or_ge short.length size with hlt | hle
  · exact .inl (Bytes.atLeast?_of_lt hlt)
  · have hle' : size ≤ long.length := Nat.le_trans hle hext.length_le
    exact .inr ⟨_, _, Bytes.atLeast?_of_le hle, Bytes.atLeast?_of_le hle',
      Bytes.AtLeast.agree_of_prefix hext⟩

/-- What a decoder requires can only be missing in the shorter payload. -/
theorem persists_require (hext : short <+: long)
    {read read' : Bytes.AtLeast size → Except Fault α}
    (h : ∀ p q, p.Agree q → Persists Fault.Shortage grows (read p) (read' q)) :
    Persists Fault.Shortage grows (short.require name size read)
      (long.require name size read') := by
  unfold Bytes.require
  rcases atLeast?_of_prefix hext size with hshort | ⟨p, q, hshort, hlong, hagree⟩
  · rw [hshort]
    exact .short .unreadable
  · rw [hshort, hlong]
    exact h p q hagree

theorem steady_fixed {g : Bytes.AtLeast size → α} (h : ∀ p q, p.Agree q → g p = g q) :
    Steady Fault.Shortage Eq fun payload => payload.require name size fun p => .ok (g p) := by
  intro short long hext
  exact persists_require hext fun p q hagree => .grown (h p q hagree)

theorem stays_atLeast? (hext : short <+: long) {g : Bytes.AtLeast size → α}
    (h : ∀ p q, p.Agree q → g p = g q) :
    Stays ((short.atLeast? size).map g) ((long.atLeast? size).map g) := by
  rcases atLeast?_of_prefix hext size with hshort | ⟨p, q, hshort, hlong, hagree⟩
  · rw [hshort]
    exact stays_none _
  · rw [hshort, hlong, Option.map_some, Option.map_some, h p q hagree]
    exact stays_refl _

theorem atLeast?_map_eq_none {size' : Nat} {g : Bytes.AtLeast size → α}
    {g' : Bytes.AtLeast size' → α} (h : (short.atLeast? size).map g = none) (hle : size ≤ size') :
    (short.atLeast? size').map g' = none := by
  rcases Nat.lt_or_ge short.length size with hlt | hge
  · rw [Bytes.atLeast?_of_lt (Nat.lt_of_lt_of_le hlt hle)]
    rfl
  · rw [Bytes.atLeast?_of_le hge] at h
    cases h

theorem eq_none_of_le {f : Nat → Option α} (hfirst : ∀ k, f k = none → f (k + 1) = none) {j k : Nat}
    (hle : j ≤ k) (hj : f j = none) : f k = none := by
  induction k, hle using Nat.le_induction with
  | base => exact hj
  | succ k _ ih => exact hfirst k ih

/-- Registers that are numbered, and of which those that are there come first, stay a
prefix of those that are there. -/
theorem filterMap_range_isPrefix {f g : Nat → Option α} (hstays : ∀ k, Stays (f k) (g k))
    (hfirst : ∀ k, f k = none → f (k + 1) = none) (n : Nat) :
    (List.range n).filterMap f <+: (List.range n).filterMap g := by
  induction n with
  | zero => exact List.prefix_rfl
  | succ n ih =>
    rw [List.range_succ, List.filterMap_append, List.filterMap_append]
    cases hn : f n with
    | none =>
      rw [List.filterMap_cons_none hn, List.filterMap_nil, List.append_nil]
      exact ih.trans (List.prefix_append _ _)
    | some x =>
      -- All registers before one that is there are there, so both lists agree up to it.
      have hsame : (List.range n).filterMap f = (List.range n).filterMap g := by
        refine List.filterMap_congr fun k hk => ?_
        cases hfk : f k with
        | none =>
          have hmissing := eq_none_of_le hfirst (List.mem_range.1 hk).le hfk
          rw [hn] at hmissing
          cases hmissing
        | some y => rw [hstays k y hfk]
      rw [hsame, List.filterMap_cons_some hn, List.filterMap_cons_some (hstays n x hn)]
      exact List.prefix_rfl

end Require

/-! ## Structures with a layout of their own

Most structures have a required part of one size, and nothing behind it.  The following
ones read a register first that says what else there is, or read on as far as the payload
goes. -/

section Structures

/-- The Message Control register fixes the layout. -/
theorem Msi.steady_decode : Steady Fault.Shortage Eq Msi.decode := by
  intro short long hext
  refine persists_require hext fun p q hagree => ?_
  rw [hagree.word]
  refine steady_fixed (fun p q h => ?_) hext
  have haddress : address _ p = address _ q := by
    unfold address
    rw [h.dword]
  simp only [read, haddress, maskingWord, h.word, h.dword]

/-- The Capability register says whether there is a vector, and of which size. -/
theorem AccessControl.steady_decode : Steady Fault.Shortage Eq AccessControl.decode := by
  intro short long hext
  refine persists_require hext fun p q hagree => ?_
  simp only [hagree.word]
  refine Persists.map_eq ?_ _
  refine persists_if (fun _ => ?_) fun _ => .grown rfl
  refine steady_fixed (fun p q h => ?_) hext
  simp only [h.run]

/-- The Capability register says whether there are extensions, and of which size. -/
theorem PortContainment.steady_decode : Steady Fault.Shortage Eq PortContainment.decode := by
  intro short long hext
  refine persists_require hext fun p q hagree => ?_
  simp only [hagree.word]
  refine Persists.map_eq ?_ _
  refine persists_if (fun _ => ?_) fun _ => .grown rfl
  refine steady_fixed (fun p q h => ?_) hext
  simp only [readExtensions, impspecLog, prefixLog, h.dword, h.dwords]

/-- The first entry says how many there are. -/
theorem ResizableBar.steady_readEntries (name : String) :
    Steady Fault.Shortage Eq (ResizableBar.readEntries name) := by
  intro short long hext
  refine persists_require hext fun p q hagree => ?_
  rw [hagree.dword]
  refine persists_if (fun _ => ?_) fun _ => .failed
  refine steady_fixed (fun p q h => ?_) hext
  have hentry : entry p = entry q := by
    funext k
    simp only [entry, h.dword]
  rw [hentry]

/-- The capability type says which block follows. -/
theorem HyperTransport.steady_decode : Steady Fault.Shortage Eq HyperTransport.decode := by
  intro short long hext
  refine persists_require hext fun p q hagree => ?_
  simp only [hagree.word]
  refine Persists.map_eq ?_ _
  have hblock : ∀ {α : Type} {read : Bytes → Except Fault α} (wrap : α → Block),
      Steady Fault.Shortage Eq read →
        Persists Fault.Shortage Eq ((read short).map fun b => some (wrap b))
          ((read long).map fun b => some (wrap b)) := by
    intro α read wrap hread
    exact (hread hext).map_eq _
  unfold Block.decode
  split
  · exact hblock .slave (steady_fixed fun p q h => by simp only [h.byte, h.word])
  · exact hblock .host (steady_fixed fun p q h => by simp only [h.byte, h.word])
  · exact hblock .revision (steady_fixed fun p q h => by simp only [h.byte])
  · exact hblock .msiMapping (steady_fixed fun p q h => by simp only [h.word, h.dword])
  · exact .grown rfl

/-- The link registers are read where the payload holds them. -/
theorem PciExpress.steady_decode : Steady Fault.Shortage PciExpress.Grows PciExpress.decode := by
  intro short long hext
  refine persists_require hext fun p q hagree => .grown ⟨?_, ?_⟩
  · simp only [hagree.word, hagree.dword]
  · refine stays_atLeast? hext fun p q h => ?_
    simp only [h.word, h.dword]

/-- The registers of a root port turn up together. -/
theorem ErrorReporting.withRoot_grows {short long : Bytes} (hext : short <+: long)
    (p : Bytes.AtLeast commonSize) :
    (withRoot short (common p)).Grows (withRoot long (common p)) := by
  rcases atLeast?_of_prefix hext rootSize with hshort | ⟨p', q', hshort, hlong, hagree⟩
  · rw [withRoot, hshort]
    cases hlong : long.atLeast? rootSize with
    | none =>
      rw [withRoot, hlong]
      exact ⟨rfl, stays_refl _, stays_refl _, stays_refl _⟩
    | some q' =>
      rw [withRoot, hlong]
      exact ⟨rfl, stays_none _, stays_none _, stays_none _⟩
  · have hsame : withRoot short (common p) = withRoot long (common p) := by
      simp only [withRoot, hshort, hlong, hagree.word, hagree.dword]
    rw [hsame]
    exact ⟨rfl, stays_refl _, stays_refl _, stays_refl _⟩

/-- The prefix log is added where the registers say that there is one. -/
theorem ErrorReporting.withPrefixLog_persists {short long : Bytes} (hext : short <+: long)
    {a b : ErrorReporting} (h : a.Grows b) :
    Persists Fault.Shortage Grows (withPrefixLog short a) (withPrefixLog long b) := by
  obtain ⟨hrest, hcommand, hstatus, hsource⟩ := h
  have hcontrol : b.capabilitiesAndControl = a.capabilitiesAndControl := by rw [hrest]
  unfold withPrefixLog
  rw [hcontrol]
  refine persists_if (fun _ => ?_) fun _ => .grown ⟨hrest, hcommand, hstatus, hsource⟩
  refine persists_require hext fun p q hagree => .grown ⟨?_, hcommand, hstatus, hsource⟩
  rw [hagree.dwords, hrest]

theorem ErrorReporting.steady_decode :
    Steady Fault.Shortage ErrorReporting.Grows ErrorReporting.decode := by
  intro short long hext
  refine persists_require hext fun p q hagree => ?_
  have hcommon : common p = common q := by
    simp only [common, hagree.dword, hagree.dwords]
  rw [hcommon]
  exact withPrefixLog_persists hext (withRoot_grows hext q)

theorem VirtualChannel.steady_decode :
    Steady Fault.Shortage VirtualChannel.Grows VirtualChannel.decode := by
  intro short long hext
  refine persists_require hext fun p q hagree => .grown ⟨?_, ?_⟩
  · simp only [hagree.word, hagree.dword]
  · simp only [hagree.dword]
    refine filterMap_range_isPrefix (fun k => ?_) (fun k hk => ?_) _
    · exact stays_atLeast? hext fun p q h => by simp only [h.word, h.dword]
    · exact atLeast?_map_eq_none hk (by omega)

theorem SecondaryPciExpress.steady_decode :
    Steady Fault.Shortage SecondaryPciExpress.Grows SecondaryPciExpress.decode := by
  intro short long hext
  refine persists_require hext fun p q hagree => .grown ⟨?_, ?_⟩
  · simp only [hagree.dword]
  · refine filterMap_range_isPrefix (fun k => ?_) (fun k hk => ?_) _
    · exact stays_atLeast? hext fun p q h => by simp only [h.word]
    · exact atLeast?_map_eq_none hk (by omega)

theorem TphRequester.readTable_grows {short long : Bytes} (hext : short <+: long)
    (c : Capability) : (readTable short c).Grows (readTable long c) := by
  unfold readTable
  split
  · exact .same _
  · split
    · rcases atLeast?_of_prefix hext (8 + 2 * (c.stTableSize + 1)) with
        hshort | ⟨p, q, hshort, hlong, hagree⟩
      · rw [hshort]
        cases long.atLeast? (8 + 2 * (c.stTableSize + 1)) with
        | none => exact .same _
        | some q => exact .found _
      · rw [hshort, hlong]
        simp only [hagree.byte]
        exact .same _
    · exact .same _
  · exact .same _
  · exact .same _

theorem TphRequester.steady_decode :
    Steady Fault.Shortage TphRequester.Grows TphRequester.decode := by
  intro short long hext
  refine persists_require hext fun p q hagree => .grown ?_
  simp only [hagree.dword]
  exact ⟨rfl, readTable_grows hext _⟩

end Structures

/-! ## Containers

A length that a container declares keeps what follows it out.  Only where the payload breaks
off before the length does it matter how much of it there is. -/

/-- Registers that were broken off go on, at most to the declared length; others do not
change. -/
theorem VendorExtended.readRegisters_grows (header : VendorHeader) {tail tail' : Bytes}
    (hext : tail <+: tail') :
    Grows
      ⟨header, (readRegisters header.length tail).1, (readRegisters header.length tail).2⟩
      ⟨header, (readRegisters header.length tail').1, (readRegisters header.length tail').2⟩ := by
  have hlen := hext.length_le
  unfold readRegisters
  by_cases hbelow : header.length < headersSize
  · rw [if_pos hbelow, if_pos hbelow]
    exact .same _
  rw [if_neg hbelow, if_neg hbelow]
  by_cases hfit : header.length - headersSize ≤ tail.length
  · have htake : tail.take (header.length - headersSize) =
        tail'.take (header.length - headersSize) := by
      obtain ⟨more, rfl⟩ := hext
      rw [List.take_append_of_le_length hfit]
    rw [if_pos hfit, if_pos (Nat.le_trans hfit hlen), htake]
    exact .same _
  rw [if_neg hfit]
  by_cases hfit' : header.length - headersSize ≤ tail'.length
  · rw [if_pos hfit']
    exact .completed (List.prefix_take_iff.2 ⟨hext, Nat.le_of_not_le hfit⟩)
  · rw [if_neg hfit']
    exact .continued hext

theorem VendorExtended.steady_decode :
    Steady Fault.Shortage VendorExtended.Grows VendorExtended.decode := by
  intro short long hext
  refine persists_require hext fun p q hagree => ?_
  rw [hagree.dword]
  exact .grown (readRegisters_grows _ (hext.drop 4))

/-- A legacy vendor's registers are all there, or the capability cannot be read. -/
theorem VendorSpecific.steady_decode (vendorId deviceId : Option Int) :
    Steady Error.Shortage Eq fun payload => (decode payload vendorId deviceId).value := by
  rintro short _ ⟨more, rfl⟩
  simp only
  rcases Nat.lt_or_ge short.length 1 with hlt | hfield
  · rw [decode_eq, read, Bytes.require_of_lt hlt]
    exact .short .unreadable
  rcases Nat.lt_or_ge (short.u8 0) 3 with hbelow | hfixed
  · have hlength : (short ++ more).u8 0 = short.u8 0 := Bytes.u8_append short more hfield
    have hfield' : 1 ≤ (short ++ more).length := by
      rw [List.length_append]
      omega
    rw [decode_eq, decode_eq, read_of_lt hfield hbelow,
      read_of_lt hfield' (by rw [hlength]; exact hbelow)]
    exact .failed
  rcases Nat.lt_or_ge (2 + short.length) (short.u8 0) with hgt | hle
  · rw [decode_eq, read_of_gt hfield hgt]
    exact .short .unreadable
  · rw [(goesByLength vendorId deviceId).decode_append hfixed hle more]
    exact persists_refl (fun _ => rfl) _

theorem DesignatedVendor.steady_decode :
    Steady Error.Shortage Eq fun payload => (decode payload).value := by
  rintro short _ ⟨more, rfl⟩
  simp only
  rcases Nat.lt_or_ge short.length 6 with hlt | hfield
  · rw [decode_eq, read, Bytes.require_of_lt hlt]
    exact .short .unreadable
  by_cases hin : 10 ≤ (VendorHeader.opening short).length ∧
      (VendorHeader.opening short).length ≤ 4 + short.length
  · rw [goesByLength.decode_append hin.1 hin.2 more]
    exact persists_refl (fun _ => rfl) _
  · rw [decode_eq, read_of_not_le hfield (by omega)]
    exact .short .lengthMismatch

/-! ## Decoders -/

namespace Decoder

/-- A decoder whose results persist in those on longer payloads, whatever the device. -/
def Steady (decoder : Decoder) : Prop :=
  ∀ options, ConfigSpace.Steady Error.Shortage Body.Grows fun payload =>
    (decoder payload options).value

theorem steady_constant (body : Body) : (constant body).Steady := by
  intro options short long hext
  exact .grown (.same _)

theorem steady_named (id : ExtendedCapabilityId) (title : String) :
    (named id title).Steady := by
  intro options short long hext
  exact .grown (.named hext)

/-- A capability that is read on its own grows as what is read does. -/
theorem steady_plain {α : Type} {wrap : α → Body} {read : Bytes → Except Fault α}
    {grows : α → α → Prop} (h : ConfigSpace.Steady Fault.Shortage grows read)
    (hwrap : ∀ a b, grows a b → (wrap a).Grows (wrap b)) : (plain wrap read).Steady := by
  intro options short long hext
  have hbody : Persists Fault.Shortage Body.Grows ((read short).map wrap)
      ((read long).map wrap) := (h hext).map hwrap
  exact hbody.mapError fun _ hf => hf

theorem steady_plain_eq {α : Type} {wrap : α → Body} {read : Bytes → Except Fault α}
    (h : ConfigSpace.Steady Fault.Shortage Eq read) : (plain wrap read).Steady := by
  refine steady_plain h fun a b hab => ?_
  rw [hab]
  exact .same _

theorem steady_map {α : Type} {wrap : α → Body}
    {decode : Bytes → Options → Logged (Except Error α)}
    (h : ∀ options, ConfigSpace.Steady Error.Shortage Eq fun payload =>
      (decode payload options).value) :
    Steady fun payload options => (decode payload options).map (·.map wrap) := by
  intro options short long hext
  refine (h options hext).map fun a b hab => ?_
  rw [hab]
  exact .same _

end Decoder

/-- Every decoder of a legacy capability is steady. -/
theorem CapabilityId.steady_of_decoder? {id : CapabilityId} {decoder : Decoder}
    (h : id.decoder? = some decoder) : decoder.Steady := by
  cases id <;> cases h
  case null | compactPciHotSwap | compactPciResourceControl | pciHotPlug | agp8x | secureDevice =>
    exact Decoder.steady_constant _
  case msi => exact Decoder.steady_plain_eq Msi.steady_decode
  case hypertransport => exact Decoder.steady_plain_eq HyperTransport.steady_decode
  case vendorSpecific =>
    exact Decoder.steady_map fun options => VendorSpecific.steady_decode _ _
  case pciExpress =>
    exact Decoder.steady_plain PciExpress.steady_decode fun _ _ => Body.Grows.pciExpress
  all_goals
    refine Decoder.steady_plain_eq (steady_fixed fun p q hagree => ?_)
    simp only [hagree.byte, hagree.word, hagree.dword]

theorem ExtendedCapabilityId.steady_of_decoder? {id : ExtendedCapabilityId} {decoder : Decoder}
    (h : id.decoder? = some decoder) : decoder.Steady := by
  cases id <;> cases h
  case null => exact Decoder.steady_constant _
  case advancedErrorReporting =>
    exact Decoder.steady_plain ErrorReporting.steady_decode fun _ _ => Body.Grows.errorReporting
  case virtualChannel =>
    exact Decoder.steady_plain VirtualChannel.steady_decode fun _ _ => Body.Grows.virtualChannel
  case vendorSpecific =>
    exact Decoder.steady_plain VendorExtended.steady_decode fun _ _ => Body.Grows.vendorExtended
  case accessControlServices => exact Decoder.steady_plain_eq AccessControl.steady_decode
  case resizableBar | vfResizableBar =>
    refine Decoder.steady_plain_eq fun short long hext => ?_
    exact (ResizableBar.steady_readEntries _ hext).map_eq _
  case tphRequester =>
    exact Decoder.steady_plain TphRequester.steady_decode fun _ _ => Body.Grows.tphRequester
  case secondaryPciExpress =>
    exact Decoder.steady_plain SecondaryPciExpress.steady_decode
      fun _ _ => Body.Grows.secondaryPciExpress
  case downstreamPortContainment => exact Decoder.steady_plain_eq PortContainment.steady_decode
  case designatedVendorSpecific =>
    exact Decoder.steady_map fun _ => DesignatedVendor.steady_decode
  all_goals first
    | exact Decoder.steady_named _ _
    | refine Decoder.steady_plain_eq (steady_fixed fun p q hagree => ?_)
      simp only [hagree.byte, hagree.word, hagree.dword]

theorem steady_of_decoder? {extended : Bool} {capId : Int} {decoder : Decoder}
    (h : decoder? extended capId = some decoder) : decoder.Steady :=
  decoder?_cases (fun _ _ => CapabilityId.steady_of_decoder?)
    (fun _ _ => ExtendedCapabilityId.steady_of_decoder?) h

/-! ## Decoding -/

/-- The same capability with another payload. -/
def RawCapability.withPayload (raw : RawCapability) (payload : Bytes) : RawCapability :=
  { raw with payload }

/-- A capability that was decoded, and what it is with a longer payload. -/
structure Decoded.Grows (a b : Decoded) : Prop where
  /-- The place and the version are what they were. -/
  rest : b = { a with body := b.body }
  body : a.body.Grows b.body

/-- Decoding a capability persists in longer payloads, whether it is registered or not. -/
theorem RawCapability.steady_decode (raw : RawCapability) (options : Options) :
    Steady Error.Shortage Decoded.Grows fun payload =>
      ((raw.withPayload payload).decode options).value := by
  intro short long hext
  have hbody : Persists Error.Shortage Body.Grows
      ((raw.withPayload short).decodeBody options).value
      ((raw.withPayload long).decodeBody options).value := by
    unfold decodeBody
    have hdecoder : ∀ payload, decoder? (raw.withPayload payload).extended
        (raw.withPayload payload).capId = decoder? raw.extended raw.capId := fun _ => rfl
    rw [hdecoder, hdecoder]
    cases h : decoder? raw.extended raw.capId with
    | none => exact .grown (.unknown hext)
    | some decoder => exact steady_of_decoder? h options hext
  -- What is decoded is put in its place, and so is an error.
  simp only [decode, Logged.map]
  generalize ((raw.withPayload short).decodeBody options).value = x at hbody ⊢
  generalize ((raw.withPayload long).decodeBody options).value = y at hbody ⊢
  cases hbody with
  | grown h => exact .grown ⟨rfl, h⟩
  | short h => exact .short h
  | failed => exact .failed

/-- **Decoding is monotone in the payload.**  If a capability can be decoded, whichever it
is and whatever the device, then it can be decoded with any more bytes behind its payload;
the place stays the same, and the body grows at most.  With a part of its payload it can be
decoded as well, or else it fails because its structure, or a length that it declares, goes
beyond that part. -/
theorem decode_grows (raw : RawCapability) (options : Options) {d : Decoded}
    (h : (raw.decode options).value = .ok d) :
    (∀ more : Bytes, ∃ d',
      ((raw.withPayload (raw.payload ++ more)).decode options).value = .ok d' ∧ d.Grows d') ∧
    ∀ part, part <+: raw.payload → ∀ e,
      ((raw.withPayload part).decode options).value = .error e →
        e.kind = .unreadable ∨ e.kind = .lengthMismatch := by
  have hsteady := raw.steady_decode options
  have hraw : ((raw.withPayload raw.payload).decode options).value = .ok d := h
  constructor
  · intro more
    have hpersists := hsteady (List.prefix_append raw.payload more)
    simp only [hraw] at hpersists
    cases hlong : ((raw.withPayload (raw.payload ++ more)).decode options).value with
    | ok d' =>
      rw [hlong] at hpersists
      cases hpersists with
      | grown hgrows => exact ⟨d', rfl, hgrows⟩
    | error e =>
      rw [hlong] at hpersists
      cases hpersists
  · intro part hpart e he
    have hpersists := hsteady hpart
    simp only [hraw, he] at hpersists
    cases hpersists with
    | short hshort => exact hshort.kind_eq

/-- The registers of a vendor that declares twelve bytes, of which ten are there. -/
theorem decode_grows_broken_off :
    let raw : RawCapability :=
      { offset := 0x100, capId := 0x0B, version := some 1
        payload := [0x34, 0x12, 0xC1, 0x00, 0xAA, 0xBB] }
    let d : Decoded :=
      { offset := 0x100, capId := 0x0B, version := some 1
        body := .vendorExtended ⟨⟨0x1234, 1, 12⟩, .incomplete, [0xAA, 0xBB]⟩ }
    (raw.decode {}).value = .ok d ∧
    (∀ more : Bytes, ∃ d',
      ((raw.withPayload (raw.payload ++ more)).decode {}).value = .ok d' ∧ d.Grows d') ∧
    ∀ part, part <+: raw.payload → ∀ e,
      ((raw.withPayload part).decode {}).value = .error e →
        e.kind = .unreadable ∨ e.kind = .lengthMismatch := by
  intro raw d
  have h : (raw.decode {}).value = .ok d := by decide
  exact ⟨h, decode_grows raw {} h⟩

end ConfigSpace
