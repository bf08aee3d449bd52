import ConfigSpace.Bits.Laws
import ConfigSpace.Bits.Layout

/-!
# Packing

A word that is cut into fields and put together again is the word it was, and fields that
are put together and cut again are the fields they were; in both directions only what does
not fit the widths is lost.  Words and fields may be any integers here: a negative one has
infinitely many bits that are set, and `Bits.bit` reads them.

* `Bits.offset` — the bit at which a field starts: the widths before it, added up.
* `Bits.FieldsOf` — what it is to be the fields of a word, bit by bit; the values that
  `decompose` gives are that (`fieldsOf_unpack`).
* `Bits.Holds` — what it is for a word to hold fields, bit by bit; the word that `compose`
  gives does (`holds_pack`), and so replacing a field changes no bit outside of it
  (`Holds.testBit_eq_of_set`).
* `Layout.ofTable_eq_ok_iff` — the tables that are register layouts.

The main result is `packing_lossless`.
-/

namespace ConfigSpace

namespace Bits

/-! ## Single bits -/

theorem bit_ediv_two_pow (w : Int) (n i : Nat) : bit (w / 2 ^ n) i = bit w (n + i) := by
  have hpos : (0 : Int) < 2 ^ n := Int.pow_pos (by decide)
  have hpow : ((2 ^ n : Nat) : Int) = 2 ^ n := by rw [Nat.cast_pow, Nat.cast_ofNat]
  cases w with
  | ofNat m =>
    rw [Int.ofNat_eq_natCast, ← hpow, ← Int.natCast_ediv, bit_natCast, bit_natCast,
      Nat.testBit_div_two_pow, Nat.add_comm]
  | negSucc m =>
    -- The complement of a quotient is the quotient of the complement.
    have hdiv : Int.negSucc m / 2 ^ n = Int.negSucc (m / 2 ^ n) := by
      rw [Int.negSucc_ediv m hpos, Int.negSucc_eq, Int.natCast_ediv, hpow]
      rfl
    rw [hdiv, bit, bit, Nat.testBit_div_two_pow, Nat.add_comm]

theorem testBit_toNat_emod (w : Int) (n i : Nat) :
    (w % 2 ^ n).toNat.testBit i = (decide (i < n) && bit w i) := by
  have hpos : (0 : Int) < 2 ^ n := Int.pow_pos (by decide)
  have hpow : ((2 ^ n : Nat) : Int) = 2 ^ n := by rw [Nat.cast_pow, Nat.cast_ofNat]
  cases w with
  | ofNat m =>
    rw [Int.ofNat_eq_natCast, ← hpow, ← Int.natCast_emod, Int.toNat_natCast,
      Nat.testBit_mod_two_pow, bit_natCast]
  | negSucc m =>
    -- The remainder of a complement is the complement of the remainder.
    have hlt : m % 2 ^ n < 2 ^ n := Nat.mod_lt _ (Nat.two_pow_pos n)
    have hmod : (Int.negSucc m % 2 ^ n).toNat = 2 ^ n - (m % 2 ^ n + 1) := by
      rw [Int.negSucc_emod m hpos, ← hpow, ← Int.natCast_emod]
      omega
    rw [hmod, Nat.testBit_two_pow_sub_succ hlt, Nat.testBit_mod_two_pow, bit]
    cases decide (i < n) <;> rfl

/-- The bits of a word are those of its first field and then those of the others. -/
theorem testBit_pack_cons (v : Int) (vs : List Int) (n : Nat) (rest : List Nat) (i : Nat) :
    (pack (v :: vs) (n :: rest)).testBit i =
      if i < n then bit v i else (pack vs rest).testBit (i - n) := by
  rw [pack_cons, Nat.add_comm, Nat.testBit_two_pow_mul_add _ (toNat_emod_lt v n)]
  by_cases hi : i < n
  · rw [if_pos hi, if_pos hi, testBit_toNat_emod, decide_eq_true hi, Bool.true_and]
  · rw [if_neg hi, if_neg hi]

/-! ## Where fields are -/

/-- The bit at which the `i`th field starts. -/
def offset (widths : List Nat) (i : Nat) : Nat :=
  total (widths.take i)

@[simp] theorem offset_zero (widths : List Nat) : offset widths 0 = 0 := by
  rw [offset, List.take_zero, total_nil]

@[simp] theorem offset_cons_succ (n : Nat) (rest : List Nat) (i : Nat) :
    offset (n :: rest) (i + 1) = n + offset rest i := by
  rw [offset, List.take_succ_cons, total_cons, offset]

/-! ## Cutting -/

/-- The values are the fields of a word, one for each width. -/
structure FieldsOf (word : Int) (widths : List Nat) (values : List FieldValue) : Prop where
  /-- There is one for each width. -/
  length_eq : values.length = widths.length
  /-- A field one bit wide is a flag, and every other one a number. -/
  shape : ∀ (i n : Nat) (v : FieldValue), widths[i]? = some n → values[i]? = some v →
    v = .ofBits n v.toNat
  /-- A field fits its width. -/
  fits : ∀ (i n : Nat) (v : FieldValue), widths[i]? = some n → values[i]? = some v →
    v.toNat < 2 ^ n
  /-- Its bits are those of the word from its offset on. -/
  bits : ∀ (i n : Nat) (v : FieldValue), widths[i]? = some n → values[i]? = some v →
    ∀ j, v.toNat.testBit j = (decide (j < n) && bit word (offset widths i + j))

/-- The value of a field that fits its width has the bits of the field. -/
theorem FieldValue.toNat_ofBits {n bits : Nat} (h : bits < 2 ^ n) :
    (FieldValue.ofBits n bits).toNat = bits := by
  unfold FieldValue.ofBits
  split
  · rename_i hn
    rw [hn] at h
    rcases Nat.le_one_iff_eq_zero_or_eq_one.1 (Nat.le_of_lt_succ h) with rfl | rfl <;> rfl
  · rfl

theorem map_toNat_ofBits {fields widths : List Nat}
    (hfit : List.Forall₂ (fun v n => v < 2 ^ n) fields widths) :
    (List.zipWith FieldValue.ofBits widths fields).map FieldValue.toNat = fields := by
  induction hfit with
  | nil => rfl
  | cons hv _ ih => rw [List.zipWith_cons_cons, List.map_cons, FieldValue.toNat_ofBits hv, ih]

/-- The `i`th field of a word is cut out of it at its offset. -/
theorem getElem?_unpack (word : Int) (widths : List Nat) (i : Nat) :
    (unpack word widths)[i]? =
      widths[i]?.map fun n => (word / 2 ^ offset widths i % 2 ^ n).toNat := by
  induction widths generalizing word i with
  | nil => rfl
  | cons n rest ih =>
    rw [unpack_cons]
    cases i with
    | zero => simp
    | succ i =>
      have hquot : word / 2 ^ n / 2 ^ offset rest i = word / 2 ^ (n + offset rest i) := by
        rw [Int.ediv_ediv_of_nonneg (Int.pow_pos (by decide)).le, ← pow_add]
      rw [List.getElem?_cons_succ, List.getElem?_cons_succ, ih, offset_cons_succ, hquot]

theorem fieldsOf_unpack (word : Int) (widths : List Nat) :
    FieldsOf word widths (List.zipWith FieldValue.ofBits widths (unpack word widths)) := by
  -- The value of a field is told by its width and by what is cut out of the word.
  have hvalue : ∀ (i n : Nat) (v : FieldValue), widths[i]? = some n →
      (List.zipWith FieldValue.ofBits widths (unpack word widths))[i]? = some v →
      v = .ofBits n (word / 2 ^ offset widths i % 2 ^ n).toNat := by
    intro i n v hn hv
    rw [List.getElem?_zipWith, hn, getElem?_unpack, hn] at hv
    exact (Option.some.inj hv).symm
  have hnat : ∀ (i n : Nat) (v : FieldValue), widths[i]? = some n →
      (List.zipWith FieldValue.ofBits widths (unpack word widths))[i]? = some v →
      v.toNat = (word / 2 ^ offset widths i % 2 ^ n).toNat := by
    intro i n v hn hv
    rw [hvalue i n v hn hv, FieldValue.toNat_ofBits (toNat_emod_lt _ n)]
  refine ⟨?_, fun i n v hn hv => ?_, fun i n v hn hv => ?_, fun i n v hn hv j => ?_⟩
  · rw [List.length_zipWith, length_unpack, Nat.min_self]
  · rw [hnat i n v hn hv]
    exact hvalue i n v hn hv
  · rw [hnat i n v hn hv]
    exact toNat_emod_lt _ n
  · rw [hnat i n v hn hv, testBit_toNat_emod, bit_ediv_two_pow]

/-! ## Putting together -/

/-- A word holds fields at their offsets, and nothing else. -/
structure Holds (word : Nat) (widths : List Nat) (fields : List Int) : Prop where
  /-- The word fits the widths. -/
  fits : word < 2 ^ total widths
  /-- Its bits from the offset of a field on are those of the field. -/
  bits : ∀ (i n : Nat) (v : Int), widths[i]? = some n → fields[i]? = some v →
    ∀ j < n, word.testBit (offset widths i + j) = bit v j

/-- A word that is put together from fields holds them. -/
theorem holds_pack {fields : List Int} {widths : List Nat}
    (hlen : fields.length = widths.length) : Holds (pack fields widths) widths fields := by
  refine ⟨pack_lt fields widths, ?_⟩
  induction widths generalizing fields with
  | nil => exact fun i n v hn => by cases hn
  | cons m rest ih =>
    cases fields with
    | nil => cases hlen
    | cons u us =>
      intro i n v hn hv j hj
      rw [testBit_pack_cons]
      cases i with
      | zero =>
        cases hn
        cases hv
        rw [offset_zero, Nat.zero_add, if_pos hj]
      | succ i =>
        rw [offset_cons_succ, if_neg (by omega), Nat.add_assoc, Nat.add_sub_cancel_left]
        exact ih (Nat.succ.inj hlen) i n v hn hv j hj

/-- Every bit that the widths reach lies in one of the fields. -/
theorem exists_offset_add {widths : List Nat} {j : Nat} (hj : j < total widths) :
    ∃ i n, widths[i]? = some n ∧ ∃ k < n, j = offset widths i + k := by
  induction widths generalizing j with
  | nil => exact absurd hj (Nat.not_lt_zero j)
  | cons m rest ih =>
    by_cases hm : j < m
    · exact ⟨0, m, rfl, j, hm, by rw [offset_zero, Nat.zero_add]⟩
    · rw [total_cons] at hj
      obtain ⟨i, n, hn, k, hk, heq⟩ := ih (show j - m < total rest by omega)
      refine ⟨i + 1, n, hn, k, hk, ?_⟩
      rw [offset_cons_succ]
      omega

/-- Words that hold the same fields but one differ in the bits of that field only. -/
theorem Holds.testBit_eq_of_set {word word' : Nat} {widths : List Nat} {fields : List Int}
    {i n : Nat} {v : Int} (h : Holds word widths fields)
    (h' : Holds word' widths (fields.set i v)) (hlen : fields.length = widths.length)
    (hn : widths[i]? = some n) {j : Nat}
    (hj : ¬ (offset widths i ≤ j ∧ j < offset widths i + n)) :
    word'.testBit j = word.testBit j := by
  by_cases hreach : j < total widths
  · obtain ⟨k, m, hm, l, hl, rfl⟩ := exists_offset_add hreach
    obtain ⟨hk, -⟩ := List.getElem?_eq_some_iff.1 hm
    obtain ⟨u, hu⟩ : ∃ u, fields[k]? = some u :=
      ⟨fields[k], List.getElem?_eq_getElem (by rw [hlen]; exact hk)⟩
    have hne : i ≠ k := by
      rintro rfl
      cases hn.symm.trans hm
      exact hj ⟨Nat.le_add_right _ _, Nat.add_lt_add_left hl _⟩
    have hu' : (fields.set i v)[k]? = some u := by rw [List.getElem?_set_ne hne, hu]
    rw [h.bits k m u hm hu l hl, h'.bits k m u hm hu' l hl]
  · have hge : total widths ≤ j := Nat.not_lt.1 hreach
    have hpow : 2 ^ total widths ≤ 2 ^ j := Nat.pow_le_pow_right (by decide) hge
    rw [Nat.testBit_lt_two_pow (Nat.lt_of_lt_of_le h.fits hpow),
      Nat.testBit_lt_two_pow (Nat.lt_of_lt_of_le h'.fits hpow)]

/-! ## Tables from outside -/

section Tables

variable (widths : List Nat)

theorem widths_natCast : Bits.widths (widths.map Nat.cast) = .ok widths := by
  have hall : (widths.map (Nat.cast : Nat → Int)).all (0 ≤ ·) = true := by simp
  have hback : (widths.map (Nat.cast : Nat → Int)).map Int.toNat = widths := by
    rw [List.map_map]
    exact (List.map_congr_left fun n _ => Int.toNat_natCast n).trans (List.map_id widths)
  rw [Bits.widths, if_pos hall, hback]

theorem decompose_natCast (word : Int) :
    decompose word (widths.map Nat.cast) =
      .ok (List.zipWith FieldValue.ofBits widths (unpack word widths)) := by
  rw [decompose, widths_natCast]

theorem compose_natCast {fields : List Int} (hlen : fields.length = widths.length) :
    compose fields (widths.map Nat.cast) = .ok (pack fields widths) := by
  rw [compose, if_neg (by rw [List.length_map]; exact not_not.2 hlen), widths_natCast]

theorem map_toNat_fields (word : Int) :
    (List.zipWith FieldValue.ofBits widths (unpack word widths)).map (fun v => (v.toNat : Int)) =
      (unpack word widths).map Int.ofNat := by
  have hnat := map_toNat_ofBits (forall₂_lt_unpack word widths)
  calc (List.zipWith FieldValue.ofBits widths (unpack word widths)).map (fun v => (v.toNat : Int))
      = ((List.zipWith FieldValue.ofBits widths (unpack word widths)).map
          FieldValue.toNat).map Int.ofNat := by rw [List.map_map]; rfl
    _ = (unpack word widths).map Int.ofNat := by rw [hnat]

/-- Put together again, they are the word as far as the widths reach. -/
theorem pack_fields (word : Int) :
    (pack ((List.zipWith FieldValue.ofBits widths (unpack word widths)).map
      fun v => (v.toNat : Int)) widths : Int) = word % 2 ^ total widths := by
  rw [map_toNat_fields, pack_unpack]

theorem map_emod_of_fits {fields : List Int} {widths : List Nat}
    (hfit : List.Forall₂ (fun (v : Int) (n : Nat) => 0 ≤ v ∧ v < 2 ^ n) fields widths) :
    (List.zipWith (fun v n => (v % 2 ^ n).toNat) fields widths).map Int.ofNat = fields := by
  induction hfit with
  | nil => rfl
  | @cons v n _ _ hv _ ih =>
    have hval : Int.ofNat (v % 2 ^ n).toNat = v := by
      rw [Int.emod_eq_of_lt hv.1 hv.2]
      exact Int.toNat_of_nonneg hv.1
    rw [List.zipWith_cons_cons, List.map_cons, hval, ih]

end Tables

end Bits

/-! ## Register layouts -/

namespace Layout

/-- A table describes a register: it has one of the four sizes, no field is empty, and the
fields cover it. -/
def Describes (bits : Int) (table : List Int) : Prop :=
  bits ∈ [8, 16, 32, 64] ∧ (∀ n ∈ table, 0 < n) ∧ table.sum = bits

variable {bits : Int} {table : List Int} {name : String}

theorem total_toNat (hpos : ∀ n ∈ table, 0 < n) :
    (Bits.total (table.map Int.toNat) : Int) = table.sum := by
  induction table with
  | nil => rfl
  | cons n rest ih =>
    have hn : 0 < n := hpos n List.mem_cons_self
    rw [List.map_cons, Bits.total_cons, Nat.cast_add, ih fun m hm => hpos m (.tail _ hm),
      List.sum_cons, Int.toNat_of_nonneg hn.le]

theorem toNat_mem_iff : bits.toNat ∈ [8, 16, 32, 64] ↔ bits ∈ [8, 16, 32, 64] := by
  simp only [List.mem_cons, List.not_mem_nil, or_false]
  omega

/-- A table that describes a register makes the layout with that table. -/
theorem exists_of_describes (h : Describes bits table) :
    ∃ l, ofTable bits table name = .ok l := by
  obtain ⟨hbits, hpos, hsum⟩ := h
  have htotal : Bits.total (table.map Int.toNat) = bits.toNat := by
    rw [← hsum, ← total_toNat hpos, Int.toNat_natCast]
  rw [ofTable, dif_pos (toNat_mem_iff.2 hbits), dif_pos hpos, dif_pos htotal]
  exact ⟨_, rfl⟩

theorem describes_of_ofTable {l : Layout} (h : ofTable bits table name = .ok l) :
    Describes bits table ∧ (l.bits : Int) = bits ∧ l.widths.map Nat.cast = table := by
  unfold ofTable at h
  split at h
  · rename_i hbits
    split at h
    · rename_i hpos
      split at h
      · rename_i htotal
        cases h
        have hmem := toNat_mem_iff.1 hbits
        have hnonneg : (bits.toNat : Int) = bits := by
          simp only [List.mem_cons, List.not_mem_nil, or_false] at hmem
          omega
        refine ⟨⟨hmem, hpos, ?_⟩, hnonneg, ?_⟩
        · rw [← total_toNat hpos, htotal, hnonneg]
        · rw [List.map_map]
          exact (List.map_congr_left fun n hn => Int.toNat_of_nonneg (hpos n hn).le).trans
            (List.map_id table)
      · cases h
    · cases h
  · cases h

variable (l : Layout)

/-- The fields of a word, put together again, are the word as far as the register reaches. -/
theorem compose_decompose (word : Int) :
    ∃ packed, l.compose ((l.decompose word).map fun v => (v.toNat : Int)) = .ok packed ∧
      (packed : Int) = word % 2 ^ l.bits := by
  have hlen : ((l.decompose word).map fun v => (v.toNat : Int)).length = l.widths.length := by
    rw [List.length_map, decompose, List.length_zipWith, Bits.length_unpack, Nat.min_self]
  refine ⟨_, by rw [compose, if_neg (not_not.2 hlen)], ?_⟩
  rw [decompose, Bits.pack_fields, l.total_widths, Bits.natCast_shiftLeft]
  exact Int.emod_emod_of_dvd _ dvd_rfl

/-- Fields that fit the register, put together and cut again, are what they were. -/
theorem decompose_compose {fields : List Int}
    (hfit : List.Forall₂ (fun (v : Int) (n : Nat) => 0 ≤ v ∧ v < 2 ^ n) fields l.widths) :
    ∃ word, l.compose fields = .ok word ∧
      (l.decompose word).map (fun v => (v.toNat : Int)) = fields := by
  have hlen := hfit.length_eq
  have hword : ((Bits.pack fields l.widths : Nat) : Int) % (1 <<< l.bits : Nat) =
      Bits.pack fields l.widths := by
    have hlt := Bits.pack_lt fields l.widths
    rw [l.total_widths] at hlt
    rw [Nat.one_shiftLeft]
    exact Int.emod_eq_of_lt (Int.natCast_nonneg _) (by exact_mod_cast hlt)
  refine ⟨_, by rw [compose, if_neg (not_not.2 hlen)], ?_⟩
  rw [decompose, hword, Bits.map_toNat_fields, Bits.unpack_pack hlen, Bits.map_emod_of_fits hfit]

end Layout

/-! ## Both directions -/

/-- **Packing is lossless.**  A word is cut into its fields, and these, put together again,
are the word as far as the widths reach.  Fields are put together to a word that holds them,
and this, cut again, gives each of them as far as its width reaches; another field in the
place of one of them changes no bit outside of that place.  The tables that are accepted as
register layouts are those that describe a register, and for them nothing at all is lost of
words and fields that fit. -/
theorem packing_lossless :
    (∀ (widths : List Nat) (word : Int), ∃ values packed,
      Bits.decompose word (widths.map Nat.cast) = .ok values ∧
      Bits.FieldsOf word widths values ∧
      Bits.compose (values.map fun v => (v.toNat : Int)) (widths.map Nat.cast) = .ok packed ∧
      (packed : Int) = word % 2 ^ Bits.total widths) ∧
    (∀ (widths : List Nat) (fields : List Int), fields.length = widths.length → ∃ word,
      Bits.compose fields (widths.map Nat.cast) = .ok word ∧
      Bits.Holds word widths fields ∧
      Bits.decompose word (widths.map Nat.cast) = .ok (List.zipWith Bits.FieldValue.ofBits widths
        (List.zipWith (fun v n => (v % 2 ^ n).toNat) fields widths)) ∧
      ∀ (i n : Nat) (v : Int), widths[i]? = some n → ∃ word',
        Bits.compose (fields.set i v) (widths.map Nat.cast) = .ok word' ∧
        ∀ j, ¬ (Bits.offset widths i ≤ j ∧ j < Bits.offset widths i + n) →
          word'.testBit j = word.testBit j) ∧
    ∀ (bits : Int) (table : List Int) (name : String),
      ((∃ l, Layout.ofTable bits table name = .ok l) ↔ Layout.Describes bits table) ∧
      ∀ l, Layout.ofTable bits table name = .ok l →
        (l.bits : Int) = bits ∧ l.widths.map Nat.cast = table ∧
        (∀ word : Int, ∃ packed,
          l.compose ((l.decompose word).map fun v => (v.toNat : Int)) = .ok packed ∧
          (packed : Int) = word % 2 ^ l.bits) ∧
        ∀ fields : List Int,
          List.Forall₂ (fun (v : Int) (n : Nat) => 0 ≤ v ∧ v < 2 ^ n) fields l.widths →
          ∃ word, l.compose fields = .ok word ∧
            (l.decompose word).map (fun v => (v.toNat : Int)) = fields := by
  refine ⟨fun widths word => ?_, fun widths fields hlen => ?_, fun bits table name => ⟨?_, ?_⟩⟩
  · refine ⟨_, _, Bits.decompose_natCast widths word, Bits.fieldsOf_unpack word widths,
      Bits.compose_natCast widths ?_, Bits.pack_fields widths word⟩
    rw [List.length_map, (Bits.fieldsOf_unpack word widths).length_eq]
  · have hholds := Bits.holds_pack hlen
    refine ⟨_, Bits.compose_natCast widths hlen, hholds, ?_, fun i n v hn => ?_⟩
    · rw [Bits.decompose_natCast, Bits.unpack_pack hlen]
    · have hlen' : (fields.set i v).length = widths.length := by rw [List.length_set, hlen]
      exact ⟨_, Bits.compose_natCast widths hlen', fun j =>
        hholds.testBit_eq_of_set (Bits.holds_pack hlen') hlen hn⟩
  · exact ⟨fun ⟨_, hl⟩ => (Layout.describes_of_ofTable hl).1, Layout.exists_of_describes⟩
  · intro l hl
    obtain ⟨-, hbits, htable⟩ := Layout.describes_of_ofTable hl
    exact ⟨hbits, htable, l.compose_decompose, fun _ => l.decompose_compose⟩

/-- Fields of which some do not fit, one negative and one in no bits at all, and those of a
register that do. -/
theorem packing_lossless_oversized :
    let l : Layout := ⟨8, [4, 1, 3], "status", by decide, by decide, by decide⟩
    (∃ word, Bits.compose [-2, 7, 1, 9] [4, 0, 1, 3] = .ok word ∧
      Bits.Holds word [4, 0, 1, 3] [-2, 7, 1, 9] ∧
      Bits.decompose word [4, 0, 1, 3] =
        .ok [.number 14, .number 0, .flag true, .number 1]) ∧
    Layout.ofTable 8 [4, 1, 3] "status" = .ok l ∧
    ∃ word, l.compose [14, 1, 2] = .ok word ∧
      (l.decompose word).map (fun v => (v.toNat : Int)) = [14, 1, 2] := by
  intro l
  obtain ⟨-, hfields, hlayouts⟩ := packing_lossless
  have hl : Layout.ofTable 8 [4, 1, 3] "status" = .ok l := rfl
  refine ⟨?_, hl, ?_⟩
  · obtain ⟨word, hword, hholds, hback, -⟩ := hfields [4, 0, 1, 3] [-2, 7, 1, 9] rfl
    exact ⟨word, hword, hholds, hback⟩
  · obtain ⟨-, -, -, hback⟩ := (hlayouts 8 [4, 1, 3] "status").2 l hl
    exact hback [14, 1, 2] (by simp [l])

end ConfigSpace
