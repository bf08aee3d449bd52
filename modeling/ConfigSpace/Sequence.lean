/-!
# Operations in sequence

Some things are used by one operation after the other: a cursor, a set of marks.  What an
operation answers, and what it leaves behind, depends on what the ones before it have left.

* `performAll` — the answers of a sequence of operations, and the state after the last one.
* `performAll_append` — a sequence in two parts: the second part starts from what the first
  one has left.
* `getElem?_performAll` — each answer is that of one operation, in the state after those
  before it.
* `performAll_invariant` — what every operation keeps, every sequence keeps.
-/

namespace ConfigSpace

section Sequence

variable {σ ω α : Type} (perform : σ → ω → α × σ)

/-- Carries out operations one after the other: their answers, and the state afterwards. -/
def performAll : σ → List ω → List α × σ
  | s, [] => ([], s)
  | s, op :: rest =>
      let (answer, s) := perform s op
      let (answers, s) := performAll s rest
      (answer :: answers, s)

@[simp] theorem performAll_nil (s : σ) : performAll perform s [] = ([], s) := rfl

@[simp] theorem performAll_cons (s : σ) (op : ω) (rest : List ω) :
    performAll perform s (op :: rest) =
      ((perform s op).1 :: (performAll perform (perform s op).2 rest).1,
        (performAll perform (perform s op).2 rest).2) :=
  rfl

theorem performAll_append (s : σ) (a b : List ω) :
    performAll perform s (a ++ b) =
      ((performAll perform s a).1 ++ (performAll perform (performAll perform s a).2 b).1,
        (performAll perform (performAll perform s a).2 b).2) := by
  induction a generalizing s with
  | nil => rfl
  | cons op rest ih => simp only [List.cons_append, performAll_cons, ih]

@[simp] theorem length_performAll (s : σ) (ops : List ω) :
    (performAll perform s ops).1.length = ops.length := by
  induction ops generalizing s with
  | nil => rfl
  | cons op rest ih => simp only [performAll_cons, List.length_cons, ih]

/-- Each answer is that of one operation, in the state after those before it. -/
theorem getElem?_performAll (s : σ) (ops : List ω) (i : Nat) :
    (performAll perform s ops).1[i]? =
      ops[i]?.map fun op => (perform (performAll perform s (ops.take i)).2 op).1 := by
  induction ops generalizing s i with
  | nil => rfl
  | cons op rest ih =>
    cases i with
    | zero => rfl
    | succ i => exact ih (perform s op).2 i

theorem performAll_take_succ {s : σ} {ops : List ω} {i : Nat} {op : ω} (h : ops[i]? = some op) :
    (performAll perform s (ops.take (i + 1))).2 =
      (perform (performAll perform s (ops.take i)).2 op).2 := by
  rw [List.take_add_one, h, performAll_append]
  rfl

/-- What every operation keeps, every sequence of them keeps. -/
theorem performAll_invariant {Inv : σ → Prop} {s : σ} {ops : List ω}
    (hstep : ∀ s, ∀ op ∈ ops, Inv s → Inv (perform s op).2) (hs : Inv s) :
    Inv (performAll perform s ops).2 := by
  induction ops generalizing s with
  | nil => exact hs
  | cons op rest ih =>
    have hfirst : Inv (perform s op).2 := hstep s op List.mem_cons_self hs
    exact ih (fun s' op' hmem => hstep s' op' (List.mem_cons_of_mem op hmem)) hfirst

end Sequence

end ConfigSpace
