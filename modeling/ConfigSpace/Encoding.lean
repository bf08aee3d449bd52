/-!
# What codes stand for

Many fields of a register hold a code: a place in a table, or an exponent.  What a
code stands for is a value derived from the register.

A decoded field is small enough to stand for something or to be reserved.  But a
structure may also be put together by hand, and then a field is whatever number
it was given.  So structures of which that is expected hold integers, and what
their fields stand for is defined for all of them:

* `Code.entry` — the entry of a table, where a negative place counts from the end;
* `Code.powerOfTwo` — two to the power of a code;
* `Undefined` — why a code stands for nothing.
-/

namespace ConfigSpace

/-- Why a code stands for nothing. -/
inductive Undefined where
  /-- The table has no entry at the place. -/
  | outOfTable
  /-- The exponent is negative. -/
  | negativeExponent
  /-- The number does not fit the form that it is written in. -/
  | doesNotFit
  deriving DecidableEq, Repr

/-- The wording of the reason, where it has one. -/
def Undefined.message? : Undefined → Option String
  | .negativeExponent => some "negative shift count"
  | .outOfTable | .doesNotFit => none

namespace Code

/-- The entry of a table at the place `i`; a negative place counts from the end. -/
def entry {α : Type} (table : List α) (i : Int) : Except Undefined α :=
  let place := if i < 0 then i + table.length else i
  if place < 0 then .error .outOfTable
  else match table[place.toNat]? with
    | some a => .ok a
    | none => .error .outOfTable

/-- Two to the power `n`. -/
def powerOfTwo (n : Int) : Except Undefined Nat :=
  if n < 0 then .error .negativeExponent else .ok (1 <<< n.toNat)

theorem entry_of_lt {α : Type} {table : List α} {i : Nat} (h : i < table.length) :
    entry table i = .ok table[i] := by
  have hi : ¬ ((i : Int) < 0) := by omega
  simp only [entry, if_neg hi, Int.toNat_natCast]
  rw [List.getElem?_eq_getElem h]

theorem powerOfTwo_natCast (n : Nat) : powerOfTwo n = .ok (1 <<< n) := by
  have hn : ¬ ((n : Int) < 0) := by omega
  rw [powerOfTwo, if_neg hn, Int.toNat_natCast]

end Code

end ConfigSpace
