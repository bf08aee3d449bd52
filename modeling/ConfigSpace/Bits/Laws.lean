import ConfigSpace.Bits
import Mathlib.Algebra.Order.Ring.Int
import Mathlib.Data.List.Forall2
import Mathlib.Data.Nat.Bitwise
import Mathlib.Tactic.LinearCombination
import Mathlib.Tactic.Ring

/-!
# Laws of bit fields

What is proved here:

* **one field** — `field_lt` (a field of `n` bits is below `2 ^ n`) and `testBit_field`
  (its bits are the bits of the word from `lo` on);
* **a whole word** — `unpack_cons` and `pack_cons` (what the first width does), then
  `forall₂_lt_unpack` and `pack_lt` (fields and words stay within their widths);
* **the two round trips** — `pack_unpack` (putting the fields of a word together again
  gives the word, as far as the widths reach) and `unpack_pack` (fields come back from the
  word they were put into, as far as their widths reach).
-/

namespace ConfigSpace

/-! ## One field of a register -/

theorem field_lt (w lo n : Nat) : field w lo n < 2 ^ n := by
  rw [field, Nat.one_shiftLeft]
  exact Nat.mod_lt _ (Nat.two_pow_pos n)

/-- The bits of a field are the bits of the word from `lo` on. -/
theorem testBit_field (w lo n i : Nat) :
    (field w lo n).testBit i = (decide (i < n) && w.testBit (lo + i)) := by
  rw [field, Nat.one_shiftLeft, Nat.testBit_mod_two_pow, Nat.testBit_shiftRight]

namespace Bits

/-! ## Widths -/

@[simp] theorem total_nil : total [] = 0 := rfl

@[simp] theorem total_cons (n : Nat) (rest : List Nat) : total (n :: rest) = n + total rest := rfl

/-! ## A word and its fields -/

theorem natCast_shiftLeft (n : Nat) : ((1 <<< n : Nat) : Int) = 2 ^ n := by
  rw [Nat.one_shiftLeft, Nat.cast_pow, Nat.cast_ofNat]

/-- The first field of a word is its remainder, and the others are those of its quotient. -/
theorem unpack_cons (w : Int) (n : Nat) (rest : List Nat) :
    unpack w (n :: rest) = (w % 2 ^ n).toNat :: unpack (w / 2 ^ n) rest := by
  rw [unpack, natCast_shiftLeft]

/-- A word is its first field plus the others shifted over it. -/
theorem pack_cons (v : Int) (vs : List Int) (n : Nat) (rest : List Nat) :
    pack (v :: vs) (n :: rest) = (v % 2 ^ n).toNat + 2 ^ n * pack vs rest := by
  rw [pack, natCast_shiftLeft, Nat.shiftLeft_eq, Nat.mul_comm]

theorem pack_cons_of_lt {v n : Nat} (hv : v < 2 ^ n) (vs : List Int) (rest : List Nat) :
    pack (v :: vs) (n :: rest) = v + 2 ^ n * pack vs rest := by
  have hpow : ((2 ^ n : Nat) : Int) = 2 ^ n := by rw [Nat.cast_pow, Nat.cast_ofNat]
  rw [pack_cons, ← hpow, ← Int.natCast_emod, Int.toNat_natCast, Nat.mod_eq_of_lt hv]

theorem toNat_emod_lt (w : Int) (n : Nat) : (w % 2 ^ n).toNat < 2 ^ n := by
  have hpos : (0 : Int) < 2 ^ n := Int.pow_pos (by decide)
  have hlt : w % 2 ^ n < 2 ^ n := Int.emod_lt_of_pos w hpos
  rw [Int.toNat_lt (Int.emod_nonneg w hpos.ne'), Nat.cast_pow, Nat.cast_ofNat]
  exact hlt

theorem forall₂_lt_unpack (w : Int) (widths : List Nat) :
    List.Forall₂ (fun v n => v < 2 ^ n) (unpack w widths) widths := by
  induction widths generalizing w with
  | nil => exact .nil
  | cons n rest ih =>
    rw [unpack_cons]
    exact .cons (toNat_emod_lt w n) (ih _)

/-- A word put together from fields of the given widths fits their total. -/
theorem pack_lt (fields : List Int) (widths : List Nat) :
    pack fields widths < 2 ^ total widths := by
  induction widths generalizing fields with
  | nil => cases fields <;> exact Nat.one_pos
  | cons n rest ih =>
    cases fields with
    | nil => exact Nat.two_pow_pos _
    | cons v vs =>
      have hv := toNat_emod_lt v n
      rw [pack_cons, total_cons, Nat.pow_add]
      calc (v % 2 ^ n).toNat + 2 ^ n * pack vs rest
          < 2 ^ n + 2 ^ n * pack vs rest := Nat.add_lt_add_right hv _
        _ = 2 ^ n * (pack vs rest + 1) := by ring
        _ ≤ 2 ^ n * 2 ^ total rest := Nat.mul_le_mul_left _ (ih vs)

/-! ## The two round trips -/

/-- The fields of a word, put together again, are the word as far as the widths reach. -/
theorem pack_unpack (w : Int) (widths : List Nat) :
    (pack ((unpack w widths).map Int.ofNat) widths : Int) = w % 2 ^ total widths := by
  induction widths generalizing w with
  | nil => exact (Int.emod_one w).symm
  | cons n rest ih =>
    have hpos : (0 : Int) < 2 ^ n := Int.pow_pos (by decide)
    -- The first field is its own remainder, and the quotient carries the others.
    have hfield : ((w % 2 ^ n).toNat : Int) = w % 2 ^ n :=
      Int.toNat_of_nonneg (Int.emod_nonneg w hpos.ne')
    have hlow : (Int.ofNat (w % 2 ^ n).toNat % 2 ^ n).toNat = (w % 2 ^ n).toNat := by
      rw [Int.ofNat_eq_natCast, hfield, Int.emod_emod_of_dvd _ dvd_rfl]
    have hdiv : w / 2 ^ n / 2 ^ total rest = w / (2 ^ n * 2 ^ total rest) :=
      Int.ediv_ediv_of_nonneg hpos.le
    have hw := Int.emod_add_mul_ediv w (2 ^ n)
    have hq := Int.emod_add_mul_ediv (w / 2 ^ n) (2 ^ total rest)
    have hboth := Int.emod_add_mul_ediv w (2 ^ n * 2 ^ total rest)
    rw [hdiv] at hq
    rw [unpack_cons, List.map_cons, pack_cons, hlow, total_cons, pow_add]
    push_cast
    rw [ih, hfield]
    linear_combination hw + 2 ^ n * hq - hboth

/-- Fields come back from the word they were put into, as far as their widths reach. -/
theorem unpack_pack {fields : List Int} {widths : List Nat}
    (hlen : fields.length = widths.length) :
    unpack (pack fields widths) widths =
      List.zipWith (fun v n => (v % 2 ^ n).toNat) fields widths := by
  induction widths generalizing fields with
  | nil =>
    rw [List.zipWith_nil_right]
    rfl
  | cons n rest ih =>
    cases fields with
    | nil => cases hlen
    | cons v vs =>
      have hv := toNat_emod_lt v n
      have hpow : ((2 ^ n : Nat) : Int) = 2 ^ n := by rw [Nat.cast_pow, Nat.cast_ofNat]
      rw [pack_cons, unpack_cons, ← hpow, ← Int.natCast_emod, ← Int.natCast_ediv,
        Int.toNat_natCast, hpow, Nat.add_mul_mod_self_left, Nat.mod_eq_of_lt hv,
        Nat.add_mul_div_left _ _ (Nat.two_pow_pos n), Nat.div_eq_of_lt hv, Nat.zero_add,
        ih (Nat.succ.inj hlen), List.zipWith_cons_cons]

end Bits

end ConfigSpace
