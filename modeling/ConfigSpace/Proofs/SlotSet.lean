import ConfigSpace.Walk.Visited

/-!
# The marks are a set of slots

The marks of a walk are bits packed into bytes.  To those who use them they are a finite set of
slots: an offset can be added if it has a slot, it is in the set if its slot was added before,
and nothing else can be noticed.  Cycles are detected and walks come to an end because of this.

* `Visited.Within` — the offset has one of so many slots of so many offsets each.
* `Visited.Holds` — a set whose marked slots are just those of some offsets.
* `Visited.Holds.perform` — what one operation makes of it, and `Visited.holds_run` what a
  sequence of operations does.
* `Visited.IsSlotSet` — the answers to a sequence of operations are those of a set.

The main result is `slot_set_answers`.
-/

namespace ConfigSpace

namespace Visited

/-- The offset lies in one of `slots` slots of `granularity` offsets each. -/
def Within (slots : Nat) (granularity offset : Int) : Prop :=
  0 ≤ offset / granularity ∧ offset / granularity < slots

instance (slots : Nat) (granularity offset : Int) : Decidable (Within slots granularity offset) :=
  inferInstanceAs (Decidable (_ ∧ _))

/-- The marked slots of a set are just those of the given offsets. -/
structure Holds (v : Visited) (slots : Nat) (granularity : Int) (offsets : List Int) : Prop where
  slots_eq : v.slots = slots
  granularity_eq : v.granularity = granularity
  contains_iff : ∀ o, v.contains o = true ↔
    Within slots granularity o ∧ ∃ o' ∈ offsets, o' / granularity = o / granularity

theorem holds_empty (slots : Nat) (granularity : Int) :
    (empty slots granularity).Holds slots granularity [] := by
  refine ⟨rfl, rfl, fun o => ?_⟩
  simp [contains_empty]

/-- The offset that an operation adds to a set, if it adds one. -/
def Op.added? (slots : Nat) (granularity : Int) : Op → Option Int
  | .add o => if Within slots granularity o then some o else none
  | .contains _ => none

namespace Holds

variable {v : Visited} {slots : Nat} {granularity : Int} {offsets : List Int} {o : Int}

/-- An offset within the slots has the one that floor division tells. -/
theorem slot?_eq (h : v.Holds slots granularity offsets) (hg : 1 ≤ granularity) (o : Int) :
    v.slot? o =
      if Within slots granularity o then some (o / granularity).toNat else none := by
  have hpos : 0 ≤ v.granularity := by
    rw [h.granularity_eq]
    omega
  rw [Visited.slot?_eq hpos, h.granularity_eq, h.slots_eq]
  rfl

theorem add_of_not_within (h : v.Holds slots granularity offsets) (hg : 1 ≤ granularity)
    (hout : ¬ Within slots granularity o) : v.add o = .error (.outsideBitmap o) := by
  apply add_of_none
  rw [h.slot?_eq hg, if_neg hout]

theorem add_of_within (h : v.Holds slots granularity offsets) (hg : 1 ≤ granularity)
    (hin : Within slots granularity o) :
    ∃ v', v.add o = .ok v' ∧ v'.Holds slots granularity (offsets ++ [o]) := by
  have hslot : v.slot? o = some (o / granularity).toNat := by
    rw [h.slot?_eq hg, if_pos hin]
  have hadd := add_of_some hslot
  refine ⟨_, hadd, h.slots_eq, h.granularity_eq, fun o' => ?_⟩
  -- Offsets within the slots have the same slot if they have the same quotient.
  have hsame : (v.slot? o' == v.slot? o) = true ↔
      Within slots granularity o' ∧ o / granularity = o' / granularity := by
    rw [beq_iff_eq, hslot, h.slot?_eq hg]
    by_cases hin' : Within slots granularity o'
    · have hnonneg := hin.1
      have hnonneg' := hin'.1
      rw [if_pos hin', Option.some.injEq, and_iff_right hin']
      omega
    · simp [hin']
  rw [contains_add hadd, Bool.or_eq_true, h.contains_iff, hsame, ← and_or_left]
  simp

/-- One operation adds at most its own offset. -/
theorem perform (h : v.Holds slots granularity offsets) (hg : 1 ≤ granularity) (op : Op) :
    (v.perform op).2.Holds slots granularity
      (offsets ++ (op.added? slots granularity).toList) := by
  cases op with
  | add o =>
    by_cases hin : Within slots granularity o
    · obtain ⟨v', hadd, hholds⟩ := h.add_of_within hg hin
      simpa [Visited.perform, Op.added?, hadd, hin] using hholds
    · simpa [Visited.perform, Op.added?, h.add_of_not_within hg hin, hin] using h
  | contains o => simpa [Visited.perform, Op.added?] using h

theorem run (h : v.Holds slots granularity offsets) (hg : 1 ≤ granularity) (ops : List Op) :
    (v.run ops).2.Holds slots granularity
      (offsets ++ ops.filterMap (Op.added? slots granularity)) := by
  induction ops generalizing v offsets with
  | nil => simpa [Visited.run] using h
  | cons op rest ih =>
    have hrest := ih (h.perform hg op)
    rw [List.append_assoc] at hrest
    cases hadded : op.added? slots granularity with
    | none => simpa [Visited.run, hadded] using hrest
    | some o => simpa [Visited.run, hadded] using hrest

end Holds

/-! ## Answers -/

/-- The answers to a sequence of operations are those of a set of slots. -/
structure IsSlotSet (slots : Nat) (granularity : Int) (ops : List Op) (answers : List Answer) :
    Prop where
  /-- Every operation is answered. -/
  length_eq : answers.length = ops.length
  /-- An offset is added if it has a slot, and refused otherwise. -/
  add : ∀ (i : Nat) (o : Int), ops[i]? = some (.add o) → answers[i]? =
    some (if Within slots granularity o then .ok none else .error (.outsideBitmap o))
  /-- An offset is in the set if it has a slot, and an offset in this slot was added before. -/
  contains : ∀ (i : Nat) (o : Int), ops[i]? = some (.contains o) →
    ∃ b, answers[i]? = some (.ok (some b)) ∧
      (b = true ↔ Within slots granularity o ∧ ∃ j < i, ∃ o', ops[j]? = some (.add o') ∧
        answers[j]? = some (.ok none) ∧ o' / granularity = o / granularity)

section Answers

variable {granularity : Int} {ops : List Op} {i : Nat} {o : Int}

theorem holds_before (slots : Nat) (hg : 1 ≤ granularity) (ops : List Op) (i : Nat) :
    ((empty slots granularity).run (ops.take i)).2.Holds slots granularity
      ((ops.take i).filterMap (Op.added? slots granularity)) :=
  (holds_empty slots granularity).run hg (ops.take i)

theorem answer_add (slots : Nat) (hg : 1 ≤ granularity) (hop : ops[i]? = some (.add o)) :
    ((empty slots granularity).run ops).1[i]? =
      some (if Within slots granularity o then .ok none else .error (.outsideBitmap o)) := by
  have hbefore := holds_before slots hg ops i
  rw [run, getElem?_performAll, hop, Option.map_some, ← run]
  by_cases hin : Within slots granularity o
  · obtain ⟨v', hadd, -⟩ := hbefore.add_of_within hg hin
    simp only [perform, hadd, if_pos hin]
  · simp only [perform, hbefore.add_of_not_within hg hin, if_neg hin]

/-- The offsets added before an operation are those whose addition was answered so. -/
theorem mem_added_take_iff (slots : Nat) (hg : 1 ≤ granularity) :
    o ∈ (ops.take i).filterMap (Op.added? slots granularity) ↔
      ∃ j < i, ops[j]? = some (.add o) ∧
        ((empty slots granularity).run ops).1[j]? = some (.ok none) := by
  constructor
  · intro hmem
    obtain ⟨op, hop, hadded⟩ := List.mem_filterMap.1 hmem
    obtain ⟨j, hj⟩ := List.mem_iff_getElem?.1 hop
    rw [List.getElem?_take] at hj
    split at hj
    · rename_i hlt
      cases op with
      | contains o' => cases hadded
      | add o' =>
        obtain ⟨hin, hsome⟩ := Option.ite_none_right_eq_some.1 hadded
        cases hsome
        refine ⟨j, hlt, hj, ?_⟩
        rw [answer_add slots hg hj, if_pos hin]
    · cases hj
  · rintro ⟨j, hlt, hj, hanswer⟩
    rw [answer_add slots hg hj] at hanswer
    split at hanswer
    · rename_i hin
      refine List.mem_filterMap.2 ⟨.add o, List.mem_iff_getElem?.2 ⟨j, ?_⟩, if_pos hin⟩
      rw [List.getElem?_take, if_pos hlt, hj]
    · cases hanswer

/-- The marks answer as a set of slots does. -/
theorem isSlotSet_run (slots : Nat) (hg : 1 ≤ granularity) (ops : List Op) :
    IsSlotSet slots granularity ops ((empty slots granularity).run ops).1 := by
  refine ⟨length_performAll _ _ _, fun i o hop => answer_add slots hg hop, fun i o hop => ?_⟩
  refine ⟨_, ?_, ((holds_before slots hg ops i).contains_iff o).trans ?_⟩
  · rw [run, getElem?_performAll, hop, Option.map_some, ← run]
    rfl
  · -- The offsets that the set holds are those added at some earlier place.
    refine and_congr_right fun _ => ?_
    constructor
    · rintro ⟨o', hmem, hquotient⟩
      obtain ⟨j, hlt, hj, hanswer⟩ := (mem_added_take_iff slots hg).1 hmem
      exact ⟨j, hlt, o', hj, hanswer, hquotient⟩
    · rintro ⟨j, hlt, o', hj, hanswer, hquotient⟩
      exact ⟨o', (mem_added_take_iff slots hg).2 ⟨j, hlt, hj, hanswer⟩, hquotient⟩

/-- An addition that is refused is as if it had not been tried. -/
theorem run_of_refused {slots : Nat} (hg : 1 ≤ granularity) (before after : List Op)
    (hout : ¬ Within slots granularity o) :
    ((empty slots granularity).run (before ++ .add o :: after)).1.eraseIdx before.length =
      ((empty slots granularity).run (before ++ after)).1 := by
  have hbefore := (holds_empty slots granularity).run hg before
  have hrefused := hbefore.add_of_not_within hg hout
  have hlen : ((empty slots granularity).run before).1.length = before.length :=
    length_performAll _ _ _
  rw [run] at hrefused hlen
  simp only [run, performAll_append, performAll_cons, perform, hrefused]
  rw [List.eraseIdx_append_of_length_le (Nat.le_of_eq hlen), hlen, Nat.sub_self,
    List.eraseIdx_cons_zero]

/-- An addition leaves the offsets of the other slots alone. -/
theorem contains_run_add {slots : Nat} (hg : 1 ≤ granularity) (ops : List Op) {o' : Int}
    (hother : o / granularity ≠ o' / granularity) :
    ((empty slots granularity).run (ops ++ [.add o])).2.contains o' =
      ((empty slots granularity).run ops).2.contains o' := by
  have hbefore := (holds_empty slots granularity).run hg ops
  have hafter := (holds_empty slots granularity).run hg (ops ++ [.add o])
  rw [Bool.eq_iff_iff, hafter.contains_iff, hbefore.contains_iff]
  refine and_congr_right fun _ => ?_
  by_cases hin : Within slots granularity o
  · simp [Op.added?, hin, hother]
  · simp [Op.added?, hin]

end Answers

end Visited

/-- **The marks of a walk are a set of slots.**  Whatever is added and asked for, an offset is
added just if it has a slot, and it is in the set just if an offset of its slot was added before.
An addition that is refused changes no answer after it, and one that succeeds changes only those
about its own slot; the slots that share a byte with it stay as they are. -/
theorem slot_set_answers (slots : Nat) (granularity : Int) (hgranularity : 1 ≤ granularity)
    (ops : List Visited.Op) :
    let v := Visited.empty slots granularity
    Visited.IsSlotSet slots granularity ops (v.run ops).1 ∧
      (∀ before after o, ops = before ++ .add o :: after →
        ¬ Visited.Within slots granularity o →
          (v.run ops).1.eraseIdx before.length = (v.run (before ++ after)).1) ∧
      ∀ o o', o / granularity ≠ o' / granularity →
        (v.run (ops ++ [.add o])).2.contains o' = (v.run ops).2.contains o' := by
  refine ⟨Visited.isSlotSet_run slots hgranularity ops, ?_, ?_⟩
  · rintro before after o rfl hout
    exact Visited.run_of_refused hgranularity before after hout
  · intro o o' hother
    exact Visited.contains_run_add hgranularity ops hother

/-- Ten slots of four offsets each, the last two of which are alone in the second byte.  The last
slot is marked, the one before is not, and there is none behind it or before the first. -/
theorem slot_set_answers_partial_byte :
    let ops : List Visited.Op :=
      [.add 37, .add 40, .add (-1), .contains 39, .contains 35, .contains 40, .contains (-1)]
    (1 : Int) ≤ 4 ∧ Visited.IsSlotSet 10 4 ops ((Visited.empty 10 4).run ops).1 ∧
      ((Visited.empty 10 4).run ops).1 =
        [.ok none, .error (.outsideBitmap 40), .error (.outsideBitmap (-1)), .ok (some true),
          .ok (some false), .ok (some false), .ok (some false)] :=
  ⟨by decide, (slot_set_answers 10 4 (by decide) _).1, rfl⟩

end ConfigSpace
