import ConfigSpace.Text.Hex
import Mathlib.Data.List.TakeWhile

/-!
# Laws of hexadecimal text

An offset can be read back from its text: different offsets are written differently
(`hexDigits_injective`), and no digit is a blank (`ne_blank_of_mem_hexDigits`), so that the
end of the number can be told when something else follows it (`hex_append_inj`).  A byte that
is padded to two characters is written as two digits (`hexLower_of_lt`).
-/

namespace ConfigSpace.Text

/-- The upper-case hexadecimal digits of a number. -/
def hexDigits (n : Nat) : List Char :=
  (Nat.toDigits 16 n).map Char.toUpper

theorem toList_hex (n : Nat) : (hex n).toList = '0' :: 'x' :: hexDigits n := by
  have hsign : ¬ (n : Int) < 0 := by omega
  simp only [hex, hexUpper, padded, hsign, if_false, String.toList_append, String.toList_ofList,
    List.nil_append, Int.natAbs_natCast, Nat.zero_sub, List.replicate_zero]
  rfl

/-- The last digit comes off the end. -/
theorem hexDigits_eq_if (n : Nat) :
    hexDigits n =
      if n < 16 then [n.digitChar.toUpper]
      else hexDigits (n / 16) ++ [(n % 16).digitChar.toUpper] := by
  unfold hexDigits
  rw [Nat.toDigits_eq_if (by decide)]
  split
  · rfl
  · rw [List.map_append]
    rfl

theorem hexDigits_ne_nil (n : Nat) : hexDigits n ≠ [] := by
  unfold hexDigits
  rw [Ne, List.map_eq_nil_iff]
  exact Nat.toDigits_ne_nil

theorem digitChar_toUpper_inj {a b : Nat} (ha : a < 16) (hb : b < 16)
    (h : a.digitChar.toUpper = b.digitChar.toUpper) : a = b := by
  have hall : ∀ a < 16, ∀ b < 16, a.digitChar.toUpper = b.digitChar.toUpper → a = b := by decide
  exact hall a ha b hb h

/-- Different numbers have different digits. -/
theorem hexDigits_injective {a b : Nat} (h : hexDigits a = hexDigits b) : a = b := by
  induction a using Nat.strongRecOn generalizing b with
  | ind a ih =>
    rw [hexDigits_eq_if a, hexDigits_eq_if b] at h
    split at h <;> split at h
    · rename_i ha hb
      exact digitChar_toUpper_inj ha hb (List.singleton_inj.1 h)
    · -- One digit is not many.
      rw [← List.nil_append [a.digitChar.toUpper]] at h
      exact absurd (List.append_inj_left' h rfl).symm (hexDigits_ne_nil _)
    · rw [← List.nil_append [b.digitChar.toUpper]] at h
      exact absurd (List.append_inj_left' h rfl) (hexDigits_ne_nil _)
    · have hinit : a / 16 = b / 16 := ih (a / 16) (by omega) (List.append_inj_left' h rfl)
      have hlast : a % 16 = b % 16 := by
        refine digitChar_toUpper_inj (Nat.mod_lt _ (by decide)) (Nat.mod_lt _ (by decide)) ?_
        exact List.singleton_inj.1 (List.append_inj_right' h rfl)
      omega

theorem ne_blank_of_mem_hexDigits {n : Nat} {c : Char} (h : c ∈ hexDigits n) : c ≠ ' ' := by
  have hdigit : ∀ d < 16, d.digitChar.toUpper ≠ ' ' := by decide
  induction n using Nat.strongRecOn with
  | ind n ih =>
    rw [hexDigits_eq_if] at h
    split at h
    · rename_i hn
      rw [List.mem_singleton.1 h]
      exact hdigit n hn
    · rcases List.mem_append.1 h with hinit | hlast
      · exact ih (n / 16) (by omega) hinit
      · rw [List.mem_singleton.1 hlast]
        exact hdigit _ (Nat.mod_lt _ (by decide))

/-- An offset that is followed by a blank can be read back. -/
theorem hex_append_inj {a b : Nat} {x y : List Char}
    (h : (hex a).toList ++ ' ' :: x = (hex b).toList ++ ' ' :: y) : a = b := by
  have htake : ∀ (n : Nat) (z : List Char),
      (hexDigits n ++ ' ' :: z).takeWhile (· ≠ ' ') = hexDigits n := by
    intro n z
    rw [List.takeWhile_append_of_pos]
    · simp
    · intro c hc
      simpa using ne_blank_of_mem_hexDigits hc
  rw [toList_hex, toList_hex, List.cons_append, List.cons_append, List.cons_append,
    List.cons_append, List.cons_inj_right, List.cons_inj_right] at h
  apply hexDigits_injective
  rw [← htake a x, h, htake b y]

/-- The two lower-case hexadecimal digits of a byte. -/
def hexByte (n : Nat) : String :=
  String.ofList [(n / 16).digitChar, (n % 16).digitChar]

theorem hexLower_of_lt {n : Nat} (h : n < 256) : hexLower n 2 = hexByte n := by
  have hsign : ¬ (n : Int) < 0 := by omega
  simp only [hexLower, hexByte, padded, hsign, if_false, List.nil_append, Int.natAbs_natCast,
    List.length_nil, Nat.sub_zero]
  rw [Nat.toDigits_eq_if (by decide)]
  split
  · -- A single digit gets a zero before it.
    rename_i hn
    rw [Nat.div_eq_of_lt hn, Nat.mod_eq_of_lt hn]
    rfl
  · rw [Nat.toDigits_eq_if (by decide), if_pos (by omega)]
    rfl

end ConfigSpace.Text
