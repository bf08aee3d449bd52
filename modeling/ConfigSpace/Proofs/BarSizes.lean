import ConfigSpace.Proofs.DerivedValues
import Mathlib.Data.List.Nodup

/-!
# Sizes of base address registers

The sizes that a base address register can be given are a map of forty-four bits, and the map is
split over two words: twenty-eight bits of a word of its own and sixteen bits of the control
register.  A decoded register answers for single powers of two and lists the names of all
sizes.  This file says that the list and the map are the same thing.

* `Entry.supportsPowerOfTwo_ofWords_iff` — a power is supported if its bit is set.
* `powerName_inj` — different sizes have different names.
* `Entry.supportedSizes_eq_map_powers` — what is listed are the names of the supported powers.
* `Entry.supportedSizes_eq_iff` — so a list tells which powers are supported, and
  `Entry.supportsPowerOfTwo_eq_iff` that these tell the bits of the map.
* `Entry.length_powers_ofWords` — there is one name for each bit that is set.

The main result is `bar_sizes_faithful`.
-/

namespace ConfigSpace

/-! ## Bits of a field -/

/-- The number of bits that are set among the `n` bits of the word `w` from bit `lo` on. -/
def setBits (w lo n : Nat) : Nat :=
  (List.range n).countP fun i => w.testBit (lo + i)

/-- What holds of a range of numbers just where the bits are set holds of as many of them. -/
theorem countP_range'_eq_setBits {f : Nat → Bool} {start w lo n : Nat}
    (h : ∀ i < n, f (start + i) = w.testBit (lo + i)) :
    (List.range' start n).countP f = setBits w lo n := by
  rw [List.range'_eq_map_range, List.countP_map]
  apply List.countP_congr
  intro i hi
  rw [Function.comp_apply, h i (List.mem_range.1 hi)]

theorem field_eq_iff_testBit (v w lo n : Nat) :
    field v lo n = field w lo n ↔ ∀ i < n, v.testBit (lo + i) = w.testBit (lo + i) := by
  constructor
  · intro h i hi
    have hbit := congrArg (·.testBit i) h
    simpa only [testBit_field, hi, decide_true, Bool.true_and] using hbit
  · intro h
    apply Nat.eq_of_testBit_eq
    intro i
    rw [testBit_field, testBit_field]
    by_cases hi : i < n
    · rw [h i hi]
    · simp only [hi, decide_false, Bool.false_and]

namespace ResizableBar

/-! ## Names -/

/-- The unit of the sizes from `2 ^ (20 + 10 * step)` bytes on. -/
def powerUnit (step : Nat) : String :=
  ["MB", "GB", "TB", "PB", "EB"].getD step ""

/-- The name of the size of `2 ^ power` bytes: a number below 1024, and its unit. -/
def powerName (power : Nat) : String :=
  toString (2 ^ ((power - 20) % 10)) ++ powerUnit ((power - 20) / 10)

/-- A size up to the largest unit is named by its number of units. -/
theorem sizeName_natCast {n : Nat} (h : n < 50) : sizeName n = .ok (powerName (20 + n)) := by
  have hunit : n / 10 < units.length := by
    change n / 10 < 5
    omega
  have hentry : Code.entry units ((n : Int) / 10) = .ok units[n / 10] := Code.entry_of_lt hunit
  have hname : powerUnit (n / 10) = units[n / 10] := List.getD_eq_getElem units "" hunit
  have hdigits : ((n : Int) % 10).toNat = n % 10 := by omega
  rw [sizeName, hentry, hdigits, powerName, Nat.add_sub_cancel_left, Nat.one_shiftLeft, hname]
  rfl

theorem length_powerUnit {i : Nat} (h : i < 5) : (powerUnit i).toList.length = 2 := by
  revert i
  decide

theorem powerUnit_inj {i j : Nat} (hi : i < 5) (hj : j < 5) (h : powerUnit i = powerUnit j) :
    i = j := by
  have hall : ∀ i < 5, ∀ j < 5, powerUnit i = powerUnit j → i = j := by decide
  exact hall i hi j hj h

/-- Different sizes have different names. -/
theorem powerName_inj {p q : Nat} (hp : 20 ≤ p) (hp' : p < 70) (hq : 20 ≤ q) (hq' : q < 70)
    (h : powerName p = powerName q) : p = q := by
  have hlist := congrArg String.toList h
  rw [powerName, powerName, String.toList_append, String.toList_append] at hlist
  -- The last two letters are the unit, and what is left are the digits.
  obtain ⟨hdigits, hunit⟩ := List.append_inj' hlist
    ((length_powerUnit (by omega)).trans (length_powerUnit (by omega)).symm)
  have hpow := congrArg (Nat.ofDigitChars 10 · 0) hdigits
  simp only [Nat.toString_eq_ofList_toDigits, String.toList_ofList,
    Nat.ofDigitChars_ten_toDigits] at hpow
  have hmod : (p - 20) % 10 = (q - 20) % 10 := Nat.pow_right_injective (Nat.le_refl 2) hpow
  have hdiv : (p - 20) / 10 = (q - 20) / 10 :=
    powerUnit_inj (by omega) (by omega) (String.toList_inj.1 hunit)
  omega

namespace Entry

/-! ## Where an entry is read -/

/-- The entry with the map `a` and the control register with the value `b`. -/
def ofWords (a b : Nat) : Entry :=
  ⟨a, .ofWord b⟩

/-- An entry of a decoded table, at the place of the words `a` and `b` in the payload. -/
inductive DecodedFrom (a b : Nat) (e : Entry) : Prop where
  | physical {payload : Bytes} {table : ResizableBar} {k : Nat}
      (htable : ResizableBar.decode payload = .ok table) (hentry : table.entries[k]? = some e)
      (ha : payload.u32 (8 * k) = a) (hb : payload.u32 (8 * k + 4) = b)
  | virtual {payload : Bytes} {table : VfResizableBar} {k : Nat}
      (htable : VfResizableBar.decode payload = .ok table) (hentry : table.entries[k]? = some e)
      (ha : payload.u32 (8 * k) = a) (hb : payload.u32 (8 * k + 4) = b)

/-- Each entry of a table is made of its own two words. -/
theorem eq_ofWords_of_readEntries {name : String} {payload : Bytes} {entries : List Entry}
    (h : readEntries name payload = .ok entries) {k : Nat} {e : Entry}
    (he : entries[k]? = some e) : e = ofWords (payload.u32 (8 * k)) (payload.u32 (8 * k + 4)) := by
  obtain ⟨p, -, hp⟩ := exists_of_require_ok h
  simp only at hp
  split at hp
  · obtain ⟨q, rfl, hq⟩ := exists_of_require_ok hp
    cases hq
    obtain ⟨hk, rfl⟩ := List.getElem?_eq_some_iff.1 he
    rw [List.getElem_ofFn]
    rfl
  · cases hp

theorem DecodedFrom.eq_ofWords {a b : Nat} {e : Entry} (h : e.DecodedFrom a b) :
    e = ofWords a b := by
  cases h with
  | physical htable hentry ha hb =>
    obtain ⟨entries, hread, rfl⟩ := exists_of_map_ok htable
    rw [← ha, ← hb]
    exact eq_ofWords_of_readEntries hread hentry
  | virtual htable hentry ha hb =>
    obtain ⟨entries, hread, rfl⟩ := exists_of_map_ok htable
    rw [← ha, ← hb]
    exact eq_ofWords_of_readEntries hread hentry

/-! ## The map -/

/-- A power belongs to the one word or to the other, or to none. -/
theorem power_cases (p : Int) :
    (∃ i : Nat, i < 28 ∧ p = (20 + i : Nat)) ∨ (∃ i : Nat, i < 16 ∧ p = (48 + i : Nat)) ∨
      p < 20 ∨ 63 < p := by
  by_cases hlow : 20 ≤ p ∧ p ≤ 47
  · exact .inl ⟨p.toNat - 20, by omega, by omega⟩
  by_cases hhigh : 48 ≤ p ∧ p ≤ 63
  · exact .inr (.inl ⟨p.toNat - 48, by omega, by omega⟩)
  · omega

section Map

variable (a b : Nat)

/-- The powers from 20 on are those of the first word, from bit 4 on. -/
theorem supportsPowerOfTwo_low {i : Nat} (h : i < 28) :
    (ofWords a b).supportsPowerOfTwo ↑(20 + i) = a.testBit (4 + i) := by
  have hplace : 20 + i - 16 = 4 + i := by omega
  simp only [supportsPowerOfTwo, Int.toNat_natCast]
  rw [if_neg (by omega), if_pos (by omega), hplace]
  exact Bits.bit_natCast a (4 + i)

theorem supportsPowerOfTwo_high {i : Nat} (h : i < 16) :
    (ofWords a b).supportsPowerOfTwo ↑(48 + i) = b.testBit (16 + i) := by
  simp only [supportsPowerOfTwo, Int.toNat_natCast]
  rw [if_neg (by omega), if_neg (by omega), if_pos (by omega), Nat.add_sub_cancel_left]
  change Bits.bit (field b 16 16 : Nat) i = _
  rw [Bits.bit_natCast, testBit_field, decide_eq_true h, Bool.true_and]

theorem supportsPowerOfTwo_outside (e : Entry) {p : Int} (h : p < 20 ∨ 63 < p) :
    e.supportsPowerOfTwo p = false := by
  rw [supportsPowerOfTwo]
  rcases h with hlow | hhigh
  · rw [if_pos (by omega)]
  · rw [if_neg (by omega), if_neg (by omega), if_neg (by omega)]

/-- A power is supported if its bit is set, in the one word or in the other. -/
theorem supportsPowerOfTwo_ofWords_iff (p : Int) :
    (ofWords a b).supportsPowerOfTwo p = true ↔
      (20 ≤ p ∧ p ≤ 47 ∧ a.testBit (p - 16).toNat = true) ∨
        (48 ≤ p ∧ p ≤ 63 ∧ b.testBit (p - 32).toNat = true) := by
  rcases power_cases p with ⟨i, hi, rfl⟩ | ⟨i, hi, rfl⟩ | houtside
  · have hplace : (((20 + i : Nat) : Int) - 16).toNat = 4 + i := by omega
    rw [supportsPowerOfTwo_low a b hi, hplace]
    constructor
    · exact fun hbit => .inl ⟨by omega, by omega, hbit⟩
    · rintro (⟨-, -, hbit⟩ | ⟨hge, -, -⟩)
      · exact hbit
      · omega
  · have hplace : (((48 + i : Nat) : Int) - 32).toNat = 16 + i := by omega
    rw [supportsPowerOfTwo_high a b hi, hplace]
    constructor
    · exact fun hbit => .inr ⟨by omega, by omega, hbit⟩
    · rintro (⟨-, hle, -⟩ | ⟨-, -, hbit⟩)
      · omega
      · exact hbit
  · rw [supportsPowerOfTwo_outside _ houtside]
    constructor
    · exact nofun
    · omega

/-- The powers that are supported tell the bits of the map, and no others. -/
theorem supportsPowerOfTwo_eq_iff (a' b' : Nat) :
    (∀ p, (ofWords a b).supportsPowerOfTwo p = (ofWords a' b').supportsPowerOfTwo p) ↔
      field a 4 28 = field a' 4 28 ∧ field b 16 16 = field b' 16 16 := by
  rw [field_eq_iff_testBit, field_eq_iff_testBit]
  constructor
  · intro h
    constructor
    · intro i hi
      rw [← supportsPowerOfTwo_low a b hi, h, supportsPowerOfTwo_low a' b' hi]
    · intro i hi
      rw [← supportsPowerOfTwo_high a b hi, h, supportsPowerOfTwo_high a' b' hi]
  · rintro ⟨hlow, hhigh⟩ p
    rcases power_cases p with ⟨i, hi, rfl⟩ | ⟨i, hi, rfl⟩ | houtside
    · rw [supportsPowerOfTwo_low a b hi, supportsPowerOfTwo_low a' b' hi, hlow i hi]
    · rw [supportsPowerOfTwo_high a b hi, supportsPowerOfTwo_high a' b' hi, hhigh i hi]
    · rw [supportsPowerOfTwo_outside _ houtside, supportsPowerOfTwo_outside _ houtside]

end Map

/-! ## The list -/

/-- The powers that are supported, in ascending order. -/
def powers (e : Entry) : List Nat :=
  (List.range' 20 44).filter fun p : Nat => e.supportsPowerOfTwo p

section Listed

variable (e : Entry)

theorem pairwise_powers : e.powers.Pairwise (· < ·) :=
  (List.pairwise_lt_range' 1).filter _

theorem mem_powers_iff {p : Nat} : p ∈ e.powers ↔ e.supportsPowerOfTwo p = true := by
  rw [powers, List.mem_filter, List.mem_range'_1]
  constructor
  · exact And.right
  · intro h
    refine ⟨?_, h⟩
    -- A power out of range is not supported.
    by_contra hrange
    rw [supportsPowerOfTwo_outside e (by omega)] at h
    cases h

theorem range_of_mem_powers {p : Nat} (h : p ∈ e.powers) : 20 ≤ p ∧ p < 64 :=
  List.mem_range'_1.1 (List.mem_filter.1 h).1

/-- What is listed are the names of the supported powers. -/
theorem supportedSizes_eq_map_powers : e.supportedSizes = e.powers.map powerName := by
  have hok : Function.Injective (Except.ok : String → Except Undefined String) := fun _ _ h => by
    cases h
    rfl
  apply hok.list_map
  rw [map_supportedSizes, powers, List.range'_eq_map_range, List.filter_map, List.map_map,
    List.map_map]
  apply List.map_congr_left
  intro n hn
  have hlt := List.mem_range.1 (List.mem_filter.1 hn).1
  exact sizeName_natCast (by omega)

/-- A power is supported if its name is listed. -/
theorem powerName_mem_supportedSizes_iff {p : Nat} (hp : 20 ≤ p) (hp' : p < 64) :
    powerName p ∈ e.supportedSizes ↔ e.supportsPowerOfTwo p = true := by
  rw [supportedSizes_eq_map_powers, ← mem_powers_iff, List.mem_map]
  constructor
  · rintro ⟨q, hq, hname⟩
    obtain ⟨hge, hlt⟩ := e.range_of_mem_powers hq
    rwa [← powerName_inj hge (by omega) hp (by omega) hname]
  · exact fun hmem => ⟨p, hmem, rfl⟩

theorem nodup_supportedSizes : e.supportedSizes.Nodup := by
  rw [supportedSizes_eq_map_powers]
  refine List.Nodup.map_on ?_ (e.pairwise_powers.imp Nat.ne_of_lt)
  intro p hp q hq h
  obtain ⟨hge, hlt⟩ := e.range_of_mem_powers hp
  obtain ⟨hge', hlt'⟩ := e.range_of_mem_powers hq
  exact powerName_inj hge (by omega) hge' (by omega) h

/-- A list of names tells which powers are supported. -/
theorem supportedSizes_eq_iff (e' : Entry) :
    e.supportedSizes = e'.supportedSizes ↔
      ∀ p, e.supportsPowerOfTwo p = e'.supportsPowerOfTwo p := by
  constructor
  · intro h p
    by_cases houtside : p < 20 ∨ 63 < p
    · rw [supportsPowerOfTwo_outside e houtside, supportsPowerOfTwo_outside e' houtside]
    · obtain ⟨n, rfl⟩ := Int.eq_ofNat_of_zero_le (show 0 ≤ p by omega)
      rw [Bool.eq_iff_iff, ← powerName_mem_supportedSizes_iff e (by omega) (by omega), h,
        powerName_mem_supportedSizes_iff e' (by omega) (by omega)]
  · intro h
    simp only [supportedSizes_eq_map_powers, powers, h]

end Listed

/-- There is one power for each bit of the map that is set. -/
theorem length_powers_ofWords (a b : Nat) :
    (ofWords a b).powers.length = setBits a 4 28 + setBits b 16 16 := by
  have hsplit : List.range' 20 44 = List.range' 20 28 ++ List.range' 48 16 :=
    (List.range'_append_1 (m := 28) (n := 16)).symm
  rw [powers, ← List.countP_eq_length_filter, hsplit, List.countP_append,
    countP_range'_eq_setBits fun i hi => supportsPowerOfTwo_low a b hi,
    countP_range'_eq_setBits fun i hi => supportsPowerOfTwo_high a b hi]

/-! ## The main result -/

/-- An entry tells the sizes that its two words `a` and `b` say. -/
structure Tells (a b : Nat) (e : Entry) : Prop where
  /-- A power of two is supported if its bit is set. -/
  supports_iff : ∀ p : Int, e.supportsPowerOfTwo p = true ↔
    (20 ≤ p ∧ p ≤ 47 ∧ a.testBit (p - 16).toNat = true) ∨
      (48 ≤ p ∧ p ≤ 63 ∧ b.testBit (p - 32).toNat = true)
  /-- The names of exactly these powers are listed, in their order. -/
  listed : ∃ powers : List Nat, powers.Pairwise (· < ·) ∧
    (∀ p : Nat, p ∈ powers ↔ e.supportsPowerOfTwo p = true) ∧
      e.supportedSizes = powers.map powerName
  /-- No name is listed twice. -/
  nodup : e.supportedSizes.Nodup
  /-- There are as many of them as bits are set. -/
  length_eq : e.supportedSizes.length = setBits a 4 28 + setBits b 16 16
  /-- The code of the size is a field of the control register. -/
  barSize_eq : e.control.barSize = field b 8 6
  /-- The current size has the name that the same power would have in the list. -/
  currentSize_eq : e.control.barSize ≤ 43 →
    e.currentSize = .ok (powerName (20 + e.control.barSize.toNat))

theorem tells_ofWords (a b : Nat) : (ofWords a b).Tells a b := by
  constructor
  case supports_iff => exact supportsPowerOfTwo_ofWords_iff a b
  case listed =>
    exact ⟨_, pairwise_powers _, fun p => mem_powers_iff _, supportedSizes_eq_map_powers _⟩
  case nodup => exact nodup_supportedSizes _
  case length_eq => rw [supportedSizes_eq_map_powers, List.length_map, length_powers_ofWords]
  case barSize_eq => rfl
  case currentSize_eq =>
    intro hle
    have hcode : (ofWords a b).control.barSize = (field b 8 6 : Nat) := rfl
    rw [hcode] at hle
    rw [currentSize, hcode, Int.toNat_natCast]
    exact sizeName_natCast (by omega)

/-- What an entry tells about the words of its map, and of nothing else. -/
structure Compares (a b a' b' : Nat) (e e' : Entry) : Prop where
  /-- Equal lists are those of equal maps. -/
  supportedSizes_eq_iff : e.supportedSizes = e'.supportedSizes ↔
    field a 4 28 = field a' 4 28 ∧ field b 16 16 = field b' 16 16
  /-- The four low bits of the first word are not told. -/
  low_bits : a / 16 = a' / 16 → b = b' →
    (∀ p, e.supportsPowerOfTwo p = e'.supportsPowerOfTwo p) ∧
      e.supportedSizes = e'.supportedSizes ∧ e.currentSize = e'.currentSize

theorem compares_ofWords (a b a' b' : Nat) :
    Compares a b a' b' (ofWords a b) (ofWords a' b') := by
  have hlists : (ofWords a b).supportedSizes = (ofWords a' b').supportedSizes ↔
      field a 4 28 = field a' 4 28 ∧ field b 16 16 = field b' 16 16 := by
    rw [supportedSizes_eq_iff, supportsPowerOfTwo_eq_iff]
  refine ⟨hlists, ?_⟩
  rintro hhigh rfl
  have hfield : field a 4 28 = field a' 4 28 := by
    simp only [field, Nat.shiftRight_eq_div_pow]
    exact congrArg (· % 1 <<< 28) hhigh
  have hmap : field a 4 28 = field a' 4 28 ∧ field b 16 16 = field b 16 16 := ⟨hfield, rfl⟩
  exact ⟨(supportsPowerOfTwo_eq_iff a b a' b).2 hmap, hlists.2 hmap, rfl⟩

end Entry

end ResizableBar

open ResizableBar

/-- **The list of sizes is the map of sizes.**  For every entry of a decoded table the sizes that
are listed are those whose bits are set in the two words of the entry, in ascending order and each
of them once, so that two entries list the same sizes just if their maps are equal. -/
theorem bar_sizes_faithful {a b : Nat} {e : Entry} (h : e.DecodedFrom a b) :
    e.Tells a b ∧
      ∀ (a' b' : Nat) (e' : Entry), e'.DecodedFrom a' b' → Entry.Compares a b a' b' e e' := by
  obtain rfl := h.eq_ofWords
  constructor
  · exact Entry.tells_ofWords a b
  · intro a' b' e' h'
    obtain rfl := h'.eq_ofWords
    exact Entry.compares_ofWords a b a' b'

/-- A table of two registers, the first with five sizes next to each other, and the second with
one size of each unit. -/
def twoBars : Bytes :=
  [0xF0, 0x01, 0, 0, 0x40, 0x03, 0, 0, 0x10, 0x40, 0, 0x01, 0x02, 0x2B, 0x04, 0x10]

/-- The registers of the table list what their own words say. -/
theorem bar_sizes_faithful_twoBars :
    let first := Entry.ofWords 0x1F0 0x340
    let second := Entry.ofWords 0x01004010 0x10042B02
    first.DecodedFrom 0x1F0 0x340 ∧ second.DecodedFrom 0x01004010 0x10042B02 ∧
      first.supportedSizes = ["1MB", "2MB", "4MB", "8MB", "16MB"] ∧
      second.supportedSizes = ["1MB", "1GB", "1TB", "1PB", "1EB"] ∧
      second.currentSize = .ok "8EB" ∧
      first.Tells 0x1F0 0x340 ∧
      Entry.Compares 0x1F0 0x340 0x01004010 0x10042B02 first second := by
  intro first second
  have htable : ResizableBar.decode twoBars = .ok ⟨[first, second]⟩ := rfl
  have hfirst : first.DecodedFrom 0x1F0 0x340 := .physical (k := 0) htable rfl rfl rfl
  have hsecond : second.DecodedFrom 0x01004010 0x10042B02 := .physical (k := 1) htable rfl rfl rfl
  obtain ⟨htells, hcompares⟩ := bar_sizes_faithful hfirst
  have hname : powerName (20 + second.control.barSize.toNat) = "8EB" := by decide
  have hcurrent := (bar_sizes_faithful hsecond).1.currentSize_eq (by decide)
  rw [hname] at hcurrent
  exact ⟨hfirst, hsecond, by decide, by decide, hcurrent, htells, hcompares _ _ _ hsecond⟩

end ConfigSpace
