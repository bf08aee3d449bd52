import ConfigSpace.Bytes
import Mathlib.Algebra.Order.Ring.Nat
import Mathlib.Tactic.Ring

/-!
# Laws of byte strings

What is proved here:

* **numbers** — `value_lt` (a string of `n` bytes writes a number below `256 ^ n`) and
  `value_window_lt` (so does a window; `u8_lt` and `u32_lt` are cases of this),
  `value_append` (a longer string writes its first part plus its second part shifted over
  it) and `value_inj` (two strings of one length that write the same number are the same
  string);
* **windows** — `window_append_left`, `window_append_right` and `window_take`: a window
  that lies in one part of a string is a window of that part (`u8_append`, `u16_append` and
  `u32_append` for numbers), and `window_window`: so is one within a window
  (`u8_window`, `u16_window` and `u32_window` for numbers);
  `window_append_window`: windows that follow each other make one, and `u16_eq`: two bytes
  make a word; `window_take_isPrefix`: one that the end of a part cuts off is a prefix of the
  window; `slice_natCast`: a slice whose ends are counted from the start is a window;
* **bits** — `testBit_value` and `testBit_value_window`: each bit of the number that a string
  writes is one of its bytes;
* **change** — `window_overwrite_self` (what was written can be read back) and
  `window_overwrite_of_le`, `window_overwrite_of_ge` (a window beside the patch is what it
  was before).
-/

namespace ConfigSpace.Bytes

/-! ## Little-endian numbers -/

/-- A string of `n` bytes writes a number below `256 ^ n`. -/
theorem value_lt (b : Bytes) : value b < 256 ^ b.length := by
  induction b with
  | nil => exact Nat.one_pos
  | cons x rest ih =>
    have hx := x.toNat_lt
    rw [value_cons, List.length_cons, Nat.pow_succ]
    omega

theorem value_window_lt (b : Bytes) (i n : Nat) : (b.window i n).value < 256 ^ n := by
  have hlt := value_lt (b.window i n)
  have hlen : (b.window i n).length ≤ n := by
    rw [length_window]
    exact Nat.min_le_left _ _
  calc (b.window i n).value < 256 ^ (b.window i n).length := hlt
    _ ≤ 256 ^ n := Nat.pow_le_pow_right (by decide) hlen

theorem u8_lt (b : Bytes) (i : Nat) : b.u8 i < 2 ^ 8 :=
  value_window_lt b i 1

theorem u32_lt (b : Bytes) (i : Nat) : b.u32 i < 2 ^ 32 :=
  value_window_lt b i 4

/-- A string in two parts writes the first part plus the second one shifted over it. -/
theorem value_append (a b : Bytes) : value (a ++ b) = value a + 256 ^ a.length * value b := by
  induction a with
  | nil => simp
  | cons x rest ih =>
    rw [List.cons_append, value_cons, value_cons, ih, List.length_cons, Nat.pow_succ]
    ring

/-- Strings of one length that write the same number are the same string. -/
theorem value_inj {a b : Bytes} (hlen : a.length = b.length) : value a = value b ↔ a = b := by
  constructor
  · intro h
    induction a generalizing b with
    | nil => exact (List.length_eq_zero_iff.1 hlen.symm).symm
    | cons x rest ih =>
      cases b with
      | nil => cases hlen
      | cons y rest' =>
        have hx := x.toNat_lt
        have hy := y.toNat_lt
        rw [value_cons, value_cons] at h
        have hhead : x = y := UInt8.toNat_inj.1 (by omega)
        have htail : rest = rest' := ih (Nat.succ.inj hlen) (by omega)
        rw [hhead, htail]
  · intro h
    rw [h]

/-! ## Windows -/

/-- A window that ends within the first part is a window of that part. -/
theorem window_append_left (a b : Bytes) {i n : Nat} (h : i + n ≤ a.length) :
    (a ++ b).window i n = a.window i n := by
  rw [window, window, List.drop_append_of_le_length (by omega)]
  apply List.take_append_of_le_length
  rw [List.length_drop]
  omega

theorem u8_append (a b : Bytes) {i : Nat} (h : i + 1 ≤ a.length) : (a ++ b).u8 i = a.u8 i := by
  rw [u8, window_append_left a b h, u8]

theorem u16_append (a b : Bytes) {i : Nat} (h : i + 2 ≤ a.length) :
    (a ++ b).u16 i = a.u16 i := by
  rw [u16, window_append_left a b h, u16]

theorem u32_append (a b : Bytes) {i : Nat} (h : i + 4 ≤ a.length) :
    (a ++ b).u32 i = a.u32 i := by
  rw [u32, window_append_left a b h, u32]

/-- A window that starts behind the first part is a window of the second. -/
theorem window_append_right (a b : Bytes) (i n : Nat) :
    (a ++ b).window (a.length + i) n = b.window i n := by
  rw [window, window, List.drop_append, List.drop_eq_nil_of_le (Nat.le_add_right _ _)]
  rw [List.nil_append, Nat.add_sub_cancel_left]

theorem window_take (b : Bytes) {i n k : Nat} (h : i + n ≤ k) :
    window (b.take k) i n = b.window i n := by
  rw [window, window, List.drop_take, List.take_take, Nat.min_eq_left (by omega)]

/-- A window within a window is one of the string. -/
theorem window_window (b : Bytes) {i n j m : Nat} (h : j + m ≤ n) :
    (b.window i n).window j m = b.window (i + j) m := by
  rw [window, window, window, List.drop_take, List.take_take, List.drop_drop,
    Nat.min_eq_left (by omega)]

theorem u8_window (b : Bytes) {i n j : Nat} (h : j + 1 ≤ n) :
    (b.window i n).u8 j = b.u8 (i + j) := by
  rw [u8, window_window b h, u8]

theorem u16_window (b : Bytes) {i n j : Nat} (h : j + 2 ≤ n) :
    (b.window i n).u16 j = b.u16 (i + j) := by
  rw [u16, window_window b h, u16]

theorem u32_window (b : Bytes) {i n j : Nat} (h : j + 4 ≤ n) :
    (b.window i n).u32 j = b.u32 (i + j) := by
  rw [u32, window_window b h, u32]

/-- Windows that follow each other make one. -/
theorem window_append_window (b : Bytes) (i m n : Nat) :
    b.window i m ++ b.window (i + m) n = b.window i (m + n) := by
  rw [window, window, window, ← List.drop_drop, List.take_add]

/-- A word of two bytes is its first byte plus the second one shifted over it. -/
theorem u16_eq (b : Bytes) (i : Nat) : b.u16 i = b.u8 i + 256 * b.u8 (i + 1) := by
  have hword : b.u16 i = (b.window i 1 ++ b.window (i + 1) 1).value := by
    rw [window_append_window]
    rfl
  rw [hword, value_append, u8, u8]
  rcases Nat.lt_or_ge i b.length with hin | hout
  · have hlen : (b.window i 1).length = 1 := by
      rw [length_window]
      omega
    rw [hlen, Nat.pow_one]
  · -- Where there is no first byte there is no second one either.
    have hsecond : b.window (i + 1) 1 = [] := by
      rw [← List.length_eq_zero_iff, length_window]
      omega
    rw [hsecond, value_nil, Nat.mul_zero, Nat.mul_zero]

/-- A window is cut where the string is: what is left of it is its first part. -/
theorem window_take_isPrefix (b : Bytes) {i m n k : Nat} (h : m ≤ n) :
    window (b.take k) i m <+: b.window i n := by
  rw [window, window, List.drop_take, List.take_take]
  exact List.take_prefix_take_left (Nat.le_trans (Nat.min_le_left _ _) h)

/-- A slice between two positions counted from the start is a window. -/
theorem slice_natCast (b : Bytes) (i j : Nat) :
    b.slice (i : Int) (j : Int) = b.window i (j - i) := by
  have hclamp : ∀ k : Nat, clampPosition b.length (k : Int) = min b.length k := by
    intro k
    simp only [clampPosition]
    omega
  rw [slice, hclamp, hclamp, window, window]
  rcases Nat.le_total i b.length with hin | hout
  · rw [Nat.min_eq_right hin, List.take_eq_take_iff, List.length_drop]
    omega
  · rw [Nat.min_eq_left hout, List.drop_length, List.drop_eq_nil_of_le hout, List.take_nil,
      List.take_nil]

/-! ## Bits -/

/-- A bit of the number that a string writes is one of a byte of the string. -/
theorem testBit_value (b : Bytes) (j : Nat) :
    b.value.testBit j = (b.u8 (j / 8)).testBit (j % 8) := by
  induction b generalizing j with
  | nil =>
    have hzero : u8 [] (j / 8) = 0 := by simp [u8, window]
    rw [hzero, value_nil, Nat.zero_testBit, Nat.zero_testBit]
  | cons x rest ih =>
    have hbyte : x.toNat < 2 ^ 8 := x.toNat_lt
    rw [value_cons, Nat.add_comm, show 256 = 2 ^ 8 by rfl, Nat.testBit_two_pow_mul_add _ hbyte]
    by_cases hj : j < 8
    · have hfirst : u8 (x :: rest) 0 = x.toNat := Nat.add_zero _
      rw [if_pos hj, Nat.div_eq_of_lt hj, Nat.mod_eq_of_lt hj, hfirst]
    · obtain ⟨k, rfl⟩ := Nat.exists_eq_add_of_le (Nat.not_lt.1 hj)
      have hrest : u8 (x :: rest) (k / 8 + 1) = u8 rest (k / 8) := rfl
      rw [if_neg hj, Nat.add_sub_cancel_left, ih, Nat.add_div_left k (by decide),
        Nat.add_mod_left, ← hrest]

/-- A bit of the number that is read somewhere is one of a byte there. -/
theorem testBit_value_window (b : Bytes) {i n j : Nat} (h : j < 8 * n) :
    (b.window i n).value.testBit j = (b.u8 (i + j / 8)).testBit (j % 8) := by
  rw [testBit_value, u8_window b (by omega)]

/-! ## Change -/

/-- What was written can be read back. -/
theorem window_overwrite_self (b patch : Bytes) {i : Nat} (h : i ≤ b.length) :
    (b.overwrite i patch).window i patch.length = patch := by
  have hlen : (b.take i).length = i := by rw [List.length_take, Nat.min_eq_left h]
  have hsplit := window_append_right (b.take i) (patch ++ b.drop (i + patch.length)) 0 patch.length
  rw [hlen, ← List.append_assoc] at hsplit
  change (b.overwrite i patch).window i patch.length = _ at hsplit
  rw [hsplit, window_append_left _ _ (by omega)]
  simp [window]

theorem window_overwrite_of_le (b patch : Bytes) {i j n : Nat} (h : j + n ≤ i)
    (hi : i ≤ b.length) : (b.overwrite i patch).window j n = b.window j n := by
  have hlen : (b.take i).length = i := by rw [List.length_take, Nat.min_eq_left hi]
  rw [overwrite, List.append_assoc, window_append_left _ _ (by omega), window_take _ h]

theorem window_overwrite_of_ge (b patch : Bytes) {i j n : Nat} (h : i + patch.length ≤ j)
    (hi : i ≤ b.length) : (b.overwrite i patch).window j n = b.window j n := by
  have hlen : (b.take i ++ patch).length = i + patch.length := by
    rw [List.length_append, List.length_take, Nat.min_eq_left hi]
  obtain ⟨k, rfl⟩ := Nat.exists_eq_add_of_le h
  have hright := window_append_right (b.take i ++ patch) (b.drop (i + patch.length)) k n
  rw [hlen] at hright
  rw [overwrite, hright, window, window, List.drop_drop]

end ConfigSpace.Bytes
