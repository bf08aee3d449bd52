import ConfigSpace.Bits.Laws
import ConfigSpace.Bits.Layout
import ConfigSpace.Description

/-!
# Registers field by field

A register is a layout together with the names of its fields, in the order of the layout; a
field without a name is reserved.  This file says what a word in a register shows, and that
this is the whole word, as far as its bits are not reserved.

* `Register.fields` — what a word shows: it is cut by the layout, and what is reserved is left
  out.
* `Register.places` — where the other fields are, and `Register.fields_eq`, by which they can
  be read there.
* `Register.gather_fields` and `Register.compose_fields` — the fields, put back to their
  places or put together by the layout, are the word with its reserved bits cleared.
* `Register.ShowsFlags` — all of this for a register of flags that is shown with the word
  itself.
-/

namespace ConfigSpace

/-! ## Words of natural numbers -/

namespace Bits

theorem unpack_natCast_cons (w n : Nat) (rest : List Nat) :
    unpack (w : Int) (n :: rest) = w % 2 ^ n :: unpack ((w / 2 ^ n : Nat) : Int) rest := by
  have hpow : ((2 ^ n : Nat) : Int) = 2 ^ n := by rw [Nat.cast_pow, Nat.cast_ofNat]
  rw [unpack_cons, ← hpow, ← Int.natCast_emod, ← Int.natCast_ediv, Int.toNat_natCast]

/-- Bits that the widths do not reach are in none of the fields. -/
theorem unpack_mod_total (w : Nat) (widths : List Nat) :
    unpack ((w % 2 ^ total widths : Nat) : Int) widths = unpack (w : Int) widths := by
  induction widths generalizing w with
  | nil => rfl
  | cons n rest ih =>
    rw [unpack_natCast_cons, unpack_natCast_cons, total_cons, Nat.pow_add,
      Nat.mod_mod_of_dvd _ (Nat.dvd_mul_right _ _), Nat.mod_mul_right_div_self, ih]

theorem unpack_shiftRight_cons (w o n : Nat) (rest : List Nat) :
    unpack ((w >>> o : Nat) : Int) (n :: rest) =
      field w o n :: unpack ((w >>> (o + n) : Nat) : Int) rest := by
  rw [unpack_natCast_cons, field, Nat.one_shiftLeft, Nat.shiftRight_add,
    Nat.shiftRight_eq_div_pow _ n]

/-- What the value of a field shows. -/
def FieldValue.shown : FieldValue → Description
  | .flag b => .truth b
  | .number n => .number n

end Bits

/-! ## Registers -/

/-- The layout of a register, and the names of its fields; reserved ones have no name. -/
structure Register where
  layout : Layout
  names : List (Option String)
  /-- Each field has a name or is reserved. -/
  length_names : names.length = layout.widths.length

/-- Where a field of a register is. -/
structure Place where
  name : String
  /-- The first of its bits. -/
  offset : Nat
  width : Nat
  deriving DecidableEq, Repr

namespace Place

/-- What a word has there: a flag if there is one bit, and a number otherwise. -/
def shown (p : Place) (w : Nat) : Description :=
  if p.width = 1 then .truth (flag w p.offset) else .number (field w p.offset p.width)

/-- The bits of the field. -/
def mask (p : Place) : Nat :=
  (2 ^ p.width - 1) <<< p.offset

end Place

/-- The bits that a shown field stands for. -/
def Description.bits : Description → Nat
  | .truth b => b.toNat
  | .number n => n.toNat
  | _ => 0

namespace Register

/-- The places of named fields, where the first field starts at bit `o`. -/
def placesFrom : Nat → List (Option String) → List Nat → List Place
  | o, some name :: names, n :: widths => ⟨name, o, n⟩ :: placesFrom (o + n) names widths
  | o, none :: names, n :: widths => placesFrom (o + n) names widths
  | _, _, _ => []

/-- Values for the fields with a name, and zeros for the others. -/
def fill : List (Option String) → List Nat → List Int
  | some _ :: names, v :: values => v :: fill names values
  | some _ :: names, [] => 0 :: fill names []
  | none :: names, values => 0 :: fill names values
  | [], _ => []

/-- The bits of several fields. -/
def maskOf (places : List Place) : Nat :=
  (places.map Place.mask).foldr (· ||| ·) 0

variable (r : Register)

/-- The named fields of a word, in the order of the register. -/
def fields (w : Nat) : List (String × Description) :=
  (r.names.zip (r.layout.decompose w)).filterMap fun f => f.1.map (·, f.2.shown)

/-- Where the named fields are. -/
def places : List Place :=
  placesFrom 0 r.names r.layout.widths

/-- The bits of the named fields; all others are reserved. -/
def mask : Nat :=
  maskOf r.places

/-- The word in which each field is put back to its place. -/
def gather (fields : List (String × Description)) : Nat :=
  (List.zipWith (fun p f => f.2.bits <<< p.offset) r.places fields).foldr (· ||| ·) 0

/-- The word that the layout puts together from the fields, with zeros for reserved ones. -/
def compose (fields : List (String × Description)) : Except Bits.FieldError Nat :=
  r.layout.compose (fill r.names (fields.map (·.2.bits)))

end Register

/-! ## What a word shows -/

theorem Place.shown_ofBits (name : String) (w o n : Nat) :
    (Bits.FieldValue.ofBits n (field w o n)).shown = (⟨name, o, n⟩ : Place).shown w := by
  unfold Bits.FieldValue.ofBits Place.shown
  by_cases hn : n = 1
  · subst hn
    have hbit : (field w o 1 != 0) = flag w o := by
      rw [field, flag, Nat.testBit_eq_decide_div_mod_eq, Nat.shiftRight_eq_div_pow]
      rcases Nat.mod_two_eq_zero_or_one (w / 2 ^ o) with h | h <;> simp [h]
    rw [if_pos rfl, if_pos rfl, hbit]
    rfl
  · rw [if_neg hn, if_neg hn]
    rfl

/-- The bits of a field, put back to its place, are those of the word. -/
theorem Place.bits_shown (p : Place) (w : Nat) :
    (p.shown w).bits = field w p.offset p.width := by
  unfold Place.shown
  split
  · rename_i hwidth
    rw [hwidth]
    change (flag w p.offset).toNat = _
    rw [field, flag, Nat.testBit_eq_decide_div_mod_eq, Nat.shiftRight_eq_div_pow]
    rcases Nat.mod_two_eq_zero_or_one (w / 2 ^ p.offset) with h | h <;> simp [h]
  · rfl

theorem Place.field_shiftLeft (p : Place) (w : Nat) :
    field w p.offset p.width <<< p.offset = w &&& p.mask := by
  apply Nat.eq_of_testBit_eq
  intro i
  rw [Place.mask, Nat.testBit_shiftLeft, testBit_field, Nat.testBit_and, Nat.testBit_shiftLeft,
    Nat.testBit_two_pow_sub_one]
  by_cases hi : p.offset ≤ i
  · rw [Nat.add_sub_cancel' hi]
    simp [hi, Bool.and_comm]
  · simp [hi]

namespace Register

/-- Named fields of a word from bit `o` on are what it has at their places. -/
theorem filterMap_unpack (w o : Nat) (names : List (Option String)) (widths : List Nat) :
    (names.zip (List.zipWith Bits.FieldValue.ofBits widths
      (Bits.unpack ((w >>> o : Nat) : Int) widths))).filterMap
        (fun f => f.1.map (·, f.2.shown)) =
      (placesFrom o names widths).map fun p => (p.name, p.shown w) := by
  induction widths generalizing o names with
  | nil => cases names <;> simp [placesFrom]
  | cons n rest ih =>
    rw [Bits.unpack_shiftRight_cons]
    cases names with
    | nil => rfl
    | cons name names =>
      cases name with
      | none => simpa [placesFrom] using ih (o + n) names
      | some name =>
        simpa [placesFrom, Place.shown_ofBits name] using ih (o + n) names

variable (r : Register)

/-- What a word shows is what it has at the places of the fields. -/
theorem fields_eq (w : Nat) : r.fields w = r.places.map fun p => (p.name, p.shown w) := by
  have hword : (w : Int) % (1 <<< r.layout.bits : Nat) =
      ((w % 2 ^ Bits.total r.layout.widths : Nat) : Int) := by
    rw [r.layout.total_widths, Nat.one_shiftLeft, Int.natCast_emod]
  rw [fields, Layout.decompose, hword, Bits.unpack_mod_total]
  exact filterMap_unpack w 0 r.names r.layout.widths

/-! ## Putting fields back -/

theorem foldr_and_mask (w : Nat) (places : List Place) :
    (places.map fun p => w &&& p.mask).foldr (· ||| ·) 0 = w &&& maskOf places := by
  induction places with
  | nil => exact (Nat.and_zero w).symm
  | cons p rest ih => exact (congrArg _ ih).trans (Nat.and_or_distrib_left w _ _).symm

/-- The fields of a word, put back to their places, are the word with its reserved bits
cleared. -/
theorem gather_fields (w : Nat) : r.gather (r.fields w) = w &&& r.mask := by
  have hparts : List.zipWith (fun p f => f.2.bits <<< p.offset) r.places (r.fields w) =
      r.places.map fun p => w &&& p.mask := by
    rw [fields_eq, List.zipWith_map_right, List.zipWith_self]
    exact List.map_congr_left fun p _ => by rw [p.bits_shown, p.field_shiftLeft]
  rw [gather, hparts]
  exact foldr_and_mask w r.places

/-- Fields of a word from bit `o` on, put together with zeros between them, are its part at
their places. -/
theorem pack_fill (w o : Nat) {names : List (Option String)} {widths : List Nat}
    (hlen : names.length = widths.length) :
    Bits.pack (fill names ((placesFrom o names widths).map fun p => field w p.offset p.width))
        widths <<< o =
      w &&& maskOf (placesFrom o names widths) := by
  induction widths generalizing o names with
  | nil =>
    cases List.length_eq_zero_iff.1 hlen
    simp [placesFrom, maskOf, fill, Bits.pack]
  | cons n rest ih =>
    cases names with
    | nil => cases hlen
    | cons name names =>
      have hrest := ih (o + n) (Nat.succ.inj hlen)
      rw [Nat.add_comm o n, Nat.shiftLeft_add, Nat.add_comm n o] at hrest
      cases name with
      | none =>
        rw [placesFrom, fill, Bits.pack_cons, Int.zero_emod, Int.toNat_zero, Nat.zero_add,
          Nat.mul_comm, ← Nat.shiftLeft_eq]
        exact hrest
      | some name =>
        -- The first field lies below the others, so that adding them is merging them.
        have hfirst : field w o n < 2 ^ n := field_lt w o n
        rw [placesFrom, List.map_cons, fill, Bits.pack_cons_of_lt hfirst, Nat.add_comm,
          Nat.mul_comm, ← Nat.shiftLeft_eq, Nat.shiftLeft_add_eq_or_of_lt hfirst,
          Nat.shiftLeft_or_distrib, hrest, Nat.or_comm,
          (⟨name, o, n⟩ : Place).field_shiftLeft, ← Nat.and_or_distrib_left]
        rfl

theorem length_fill (names : List (Option String)) (values : List Nat) :
    (fill names values).length = names.length := by
  fun_induction fill names values <;> simp_all

/-- The fields of a word, put together by the layout, are the word with its reserved bits
cleared. -/
theorem compose_fields (w : Nat) : r.compose (r.fields w) = .ok (w &&& r.mask) := by
  have hbits : (r.fields w).map (·.2.bits) = r.places.map fun p => field w p.offset p.width := by
    rw [fields_eq, List.map_map]
    exact List.map_congr_left fun p _ => p.bits_shown w
  have hlen : (fill r.names ((r.fields w).map (·.2.bits))).length = r.layout.widths.length := by
    rw [length_fill, r.length_names]
  rw [compose, Layout.compose, if_neg (not_not.2 hlen), hbits]
  exact congrArg Except.ok (pack_fill w 0 r.length_names)

/-! ## Registers of flags -/

/-- A description shows a register of flags, which are at the given bits of the word. -/
structure ShowsFlags (offsets : List Nat) (mask w : Nat) (d : Description) : Prop where
  /-- It shows the word, and then its fields. -/
  shown : d = .record (("raw_value", .number w) :: r.fields w) []
  /-- Each field is one of the bits, in the order of the register. -/
  fields_eq : r.fields w =
    List.zipWith (fun name i => (name, .truth (w.testBit i))) (r.names.filterMap id) offsets
  /-- The flags, put back to their places, are the word with its reserved bits cleared. -/
  gather_eq : r.gather (r.fields w) = w &&& mask

/-- A register of flags is shown as such where it is shown with the word itself. -/
theorem showsFlags {r : Register} {offsets : List Nat} {mask w : Nat} {d : Description}
    (hplaces : r.places = List.zipWith (⟨·, ·, 1⟩) (r.names.filterMap id) offsets)
    (hmask : r.mask = mask) (h : d = .record (("raw_value", .number w) :: r.fields w) []) :
    r.ShowsFlags offsets mask w d := by
  refine ⟨h, ?_, hmask ▸ r.gather_fields w⟩
  rw [Register.fields_eq, hplaces, List.map_zipWith]
  rfl

end Register

end ConfigSpace
