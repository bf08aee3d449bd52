import ConfigSpace.Proofs.Reading

/-!
# The laws of a cursor

A cursor is used by any sequence of operations: reads of numbers and of bytes, moves, looks
ahead.  This file says what each of them answers and where it leaves the cursor, whatever the
ones before it did and whether they succeeded.

* `Cursor.Op.size?` — how many bytes an operation asks to move over, if it is a sequential one.
* `Cursor.Obeys` — what one operation has to do: a sequential one moves over its bytes if they
  are there, and fails without moving if not; looking at a position never moves, and gives what
  going there and reading would give.  `Cursor.obeys_perform` — every operation does.
* `Cursor.consumed` — the bytes that a sequence of operations has moved over;
  `Cursor.consumed_eq` — they are those between the first and the last position.
* `Cursor.run_numbers` — a number may as well be read in parts.

The main result is `cursor_obeys`.
-/

namespace ConfigSpace

namespace Cursor

/-! ## One operation -/

/-- How many bytes an operation asks to move over, if it is a sequential one. -/
def Op.size? (c : Cursor) : Op → Option Int
  | .number n => some n
  | .exact n => some n
  | .rest => some (max 0 (c.data.length - c.offset))
  | .skip n => some n
  | .peek .. => none
  | .seek _ => none

/-- What an operation answers that has moved over the bytes `b`. -/
def Op.reading (b : Bytes) : Op → Reading
  | .number _ => .number b.value
  | .exact _ => .bytes b
  | .rest => .bytes b
  | .skip _ => .nothing
  | .peek .. => .nothing
  | .seek _ => .nothing

/-- What an operation on the string `data` has to answer, and where it has to leave the cursor. -/
structure Obeys (data : Bytes) (c : Cursor) (op : Op) (answer : Except ReadError Reading)
    (c' : Cursor) : Prop where
  /-- The string stays the same. -/
  data_eq : c.data = data ∧ c'.data = data
  /-- A sequential operation gives the bytes at the cursor if they are there, and moves over
  them. -/
  fits : ∀ s, op.size? c = some s → 0 ≤ s → c.offset + s ≤ data.length →
    answer = .ok (op.reading (data.window c.offset.toNat s.toNat)) ∧ c'.offset = c.offset + s
  /-- It refuses to move over less than no bytes. -/
  negative : ∀ s, op.size? c = some s → s < 0 → answer = .error (.negativeSize s) ∧ c' = c
  /-- If too few bytes are there it says how many. -/
  short : ∀ s, op.size? c = some s → 0 ≤ s → data.length < c.offset + s →
    answer = .error (.outOfData c.offset s (max 0 (data.length - c.offset))) ∧ c' = c
  /-- A number fits its size. -/
  number_lt : ∀ n v, op = .number n → answer = .ok (.number v) → v < 2 ^ (8 * n)
  /-- Looking at a position moves nothing, and gives what going there and reading gives. -/
  peek : ∀ n i, op = .peek n i →
    c' = c ∧ (0 ≤ i → answer = ((c.perform (.seek i)).2.perform (.number n)).1)
  /-- Going to a position always succeeds. -/
  seek : ∀ i, op = .seek i → answer = .ok .nothing ∧ c'.offset = i

section Perform

variable {c : Cursor} {s : Int} {op : Op} {e : ReadError}

/-- A read that fits gives the bytes at the cursor, and moves over them. -/
theorem take_of_fits (hc : 0 ≤ c.offset) (hs : 0 ≤ s) (hfit : c.offset + s ≤ c.data.length) :
    c.take s =
      (.ok (c.data.window c.offset.toNat s.toNat), { c with offset := c.offset + s }) := by
  obtain ⟨data, offset⟩ := c
  obtain ⟨i, rfl⟩ := Int.eq_ofNat_of_zero_le hc
  obtain ⟨n, rfl⟩ := Int.eq_ofNat_of_zero_le hs
  exact take_of_le (by simpa only [← Int.natCast_add, Int.ofNat_le] using hfit)

theorem take_of_negative (hs : s < 0) : c.take s = (.error (.negativeSize s), c) :=
  if_pos hs

theorem take_of_short (hs : 0 ≤ s) (hshort : c.data.length < c.offset + s) :
    c.take s = (.error (.outOfData c.offset s c.remaining), c) := by
  rw [take, if_neg (by omega), if_pos hshort]

theorem perform_of_fits (hc : 0 ≤ c.offset) (hsize : op.size? c = some s) (hs : 0 ≤ s)
    (hfit : c.offset + s ≤ c.data.length) :
    c.perform op = (.ok (op.reading (c.data.window c.offset.toNat s.toNat)),
      { c with offset := c.offset + s }) := by
  have htake := take_of_fits hc hs hfit
  cases op with
  | number n =>
    cases hsize
    have hlen : (c.data.window c.offset.toNat n).length = n := by
      rw [Bytes.length_window]
      omega
    simp only [perform, number, htake, Int.toNat_natCast, hlen, if_true]
    rfl
  | rest =>
    cases hsize
    simp only [perform, rest, remaining, htake]
    rfl
  | exact n | skip n =>
    cases hsize
    simp only [perform, htake]
    rfl
  | peek n i | seek i => cases hsize

theorem perform_of_refused (hsize : op.size? c = some s) (htake : c.take s = (.error e, c)) :
    c.perform op = (.error e, c) := by
  cases op with
  | number n =>
    cases hsize
    simp only [perform, number, htake]
    rfl
  | rest =>
    cases hsize
    simp only [perform, rest, remaining, htake]
    rfl
  | exact n | skip n =>
    cases hsize
    simp only [perform, htake]
    rfl
  | peek n i | seek i => cases hsize

/-- Looking at a position gives what going there and reading gives. -/
theorem peek_eq_number (c : Cursor) (n : Nat) {i : Int} (hi : 0 ≤ i) :
    ((c.peek n i).map .number : Except ReadError Reading) =
      (({ c with offset := i } : Cursor).perform (.number n)).1 := by
  by_cases hfit : i + n ≤ c.data.length
  · rw [perform_of_fits (s := n) hi rfl (by omega) hfit]
    rw [peek, if_neg (by omega)]
    rfl
  · have hshort : (c.data.length : Int) < i + n := by omega
    rw [perform_of_refused rfl (take_of_short (by omega) hshort), peek, if_pos (Or.inr hshort)]
    rfl

/-- All that an operation can do. -/
inductive Outcome (c : Cursor) (op : Op) : Prop where
  /-- It moves over its bytes. -/
  | moved (s : Int) (hsize : op.size? c = some s) (hs : 0 ≤ s)
      (hfit : c.offset + s ≤ c.data.length)
      (hperform : c.perform op = (.ok (op.reading (c.data.window c.offset.toNat s.toNat)),
        { c with offset := c.offset + s }))
  /-- It is refused. -/
  | refused (s : Int) (e : ReadError) (hsize : op.size? c = some s)
      (htake : c.take s = (.error e, c)) (hperform : c.perform op = (.error e, c))
  /-- It looks at a position. -/
  | peeked (n : Nat) (i : Int) (hop : op = .peek n i)
  /-- It goes to a position. -/
  | sought (i : Int) (hop : op = .seek i)

theorem outcome_of_size? (hc : 0 ≤ c.offset) (hsize : op.size? c = some s) : c.Outcome op := by
  rcases Int.lt_or_le s 0 with hs | hs
  · have htake := take_of_negative (c := c) hs
    exact .refused s _ hsize htake (perform_of_refused hsize htake)
  rcases Int.lt_or_le c.data.length (c.offset + s) with hshort | hfit
  · have htake := take_of_short hs hshort
    exact .refused s _ hsize htake (perform_of_refused hsize htake)
  · exact .moved s hsize hs hfit (perform_of_fits hc hsize hs hfit)

/-- Every operation does one of the four things. -/
theorem outcome (hc : 0 ≤ c.offset) (op : Op) : c.Outcome op := by
  cases op with
  | number n | exact n | rest | skip n => exact outcome_of_size? hc rfl
  | peek n i => exact .peeked n i rfl
  | seek i => exact .sought i rfl

theorem data_perform (hc : 0 ≤ c.offset) (op : Op) : (c.perform op).2.data = c.data := by
  cases outcome hc op with
  | moved s hsize hs hfit hperform => rw [hperform]
  | refused s e hsize htake hperform => rw [hperform]
  | peeked n i hop => rw [hop, perform_peek]
  | sought i hop => rw [hop]; rfl

/-- Every operation does what it has to. -/
theorem obeys_perform (hc : 0 ≤ c.offset) (op : Op) :
    Obeys c.data c op (c.perform op).1 (c.perform op).2 := by
  constructor
  case data_eq => exact ⟨rfl, data_perform hc op⟩
  case fits =>
    intro s hsize hs hfit
    rw [perform_of_fits hc hsize hs hfit]
    exact ⟨rfl, rfl⟩
  case negative =>
    intro s hsize hs
    rw [perform_of_refused hsize (take_of_negative hs)]
    exact ⟨rfl, rfl⟩
  case short =>
    intro s hsize hs hshort
    rw [perform_of_refused hsize (take_of_short hs hshort)]
    exact ⟨rfl, rfl⟩
  case number_lt =>
    rintro n v rfl hanswer
    cases outcome hc (.number n) with
    | moved s hsize hs hfit hperform =>
      cases hsize
      rw [hperform] at hanswer
      cases hanswer
      rw [Nat.pow_mul]
      exact Bytes.value_window_lt _ _ _
    | refused s e hsize htake hperform =>
      rw [hperform] at hanswer
      cases hanswer
    | peeked n i hop | sought i hop => cases hop
  case peek =>
    rintro n i rfl
    rw [perform_peek]
    exact ⟨rfl, fun hi => peek_eq_number c n hi⟩
  case seek =>
    rintro i rfl
    exact ⟨rfl, rfl⟩

end Perform

/-! ## Positions -/

section Positions

variable {c : Cursor} {ops : List Op}

/-- The cursor stays at or behind the start of its string. -/
structure Stands (data : Bytes) (c : Cursor) : Prop where
  data_eq : c.data = data
  nonneg : 0 ≤ c.offset

theorem Stands.run {data : Bytes} (h : c.Stands data) (hseeks : ∀ i, .seek i ∈ ops → 0 ≤ i) :
    (c.run ops).2.Stands data := by
  refine performAll_invariant perform (fun c op hop hstands => ?_) h
  obtain ⟨rfl, hnonneg⟩ := hstands
  refine ⟨data_perform hnonneg op, ?_⟩
  cases outcome hnonneg op with
  | moved s hsize hs hfit hperform =>
    rw [hperform]
    exact Int.add_nonneg hnonneg hs
  | refused s e hsize htake hperform => rwa [hperform]
  | peeked n i heq => rwa [heq, perform_peek]
  | sought i heq =>
    rw [heq]
    exact hseeks i (heq ▸ hop)

end Positions

/-! ## Bytes that are consumed -/

/-- The bytes that an operation takes from the string. -/
def Op.consumed (c : Cursor) (op : Op) : Bytes :=
  match op.size? c with
  | none => []
  | some s =>
      match (c.take s).1 with
      | .ok b => b
      | .error _ => []

/-- The bytes that a sequence of operations takes, one after the other. -/
def consumed (c : Cursor) : List Op → Bytes
  | [] => []
  | op :: rest => op.consumed c ++ (c.perform op).2.consumed rest

/-- A cursor within its string leaves the bytes from it on. -/
structure Inside (data : Bytes) (c : Cursor) : Prop extends c.Stands data where
  le_length : c.offset ≤ data.length

section Consumed

variable {data : Bytes} {c : Cursor} {op : Op} {ops : List Op}

theorem Inside.offset_add_remaining (h : c.Inside data) :
    c.offset + c.remaining = data.length := by
  have hle := h.le_length
  rw [remaining, h.data_eq]
  omega

/-- An operation that does not send the cursor elsewhere consumes the bytes that it moves over. -/
theorem Inside.perform (h : c.Inside data) (hseek : ∀ i, op ≠ .seek i) :
    (c.perform op).2.Inside data ∧ c.offset ≤ (c.perform op).2.offset ∧
      op.consumed c =
        data.window c.offset.toNat ((c.perform op).2.offset - c.offset).toNat := by
  obtain ⟨⟨rfl, hnonneg⟩, hle⟩ := h
  cases outcome hnonneg op with
  | moved s hsize hs hfit hperform =>
    rw [hperform]
    refine ⟨⟨⟨rfl, Int.add_nonneg hnonneg hs⟩, hfit⟩, Int.le_add_of_nonneg_right hs, ?_⟩
    simp only [Op.consumed, hsize, take_of_fits hnonneg hs hfit, add_sub_cancel_left]
  | refused s e hsize htake hperform =>
    rw [hperform]
    refine ⟨⟨⟨rfl, hnonneg⟩, hle⟩, Int.le_refl _, ?_⟩
    simp [Op.consumed, hsize, htake, Bytes.window]
  | peeked n i heq =>
    subst heq
    rw [perform_peek]
    refine ⟨⟨⟨rfl, hnonneg⟩, hle⟩, Int.le_refl _, ?_⟩
    simp [Op.consumed, Op.size?, Bytes.window]
  | sought i heq => exact absurd heq (hseek i)

/-- The bytes consumed are those between the first and the last position. -/
theorem Inside.run (h : c.Inside data) (hseeks : ∀ i, .seek i ∉ ops) :
    (c.run ops).2.Inside data ∧ c.offset ≤ (c.run ops).2.offset ∧
      c.consumed ops =
        data.window c.offset.toNat ((c.run ops).2.offset - c.offset).toNat := by
  induction ops generalizing c with
  | nil => exact ⟨h, Int.le_refl _, by simp [consumed, Cursor.run, Bytes.window]⟩
  | cons op rest ih =>
    have hop : ∀ i, op ≠ .seek i := fun i heq => hseeks i (heq ▸ List.mem_cons_self)
    obtain ⟨hfirst, hle, hbytes⟩ := h.perform hop
    obtain ⟨hlast, hle', hbytes'⟩ := ih hfirst fun i hmem => hseeks i (List.mem_cons_of_mem op hmem)
    have hrun : (c.run (op :: rest)).2 = ((c.perform op).2.run rest).2 := rfl
    refine ⟨hlast, Int.le_trans hle hle', ?_⟩
    -- The second part starts where the first one has ended.
    have hnonneg := h.nonneg
    have hstart : (c.perform op).2.offset.toNat =
        c.offset.toNat + ((c.perform op).2.offset - c.offset).toNat := by
      omega
    rw [consumed, hbytes, hbytes', hstart, Bytes.window_append_window, hrun]
    congr 1
    omega

end Consumed

/-! ## Numbers in parts -/

/-- The number that numbers of the given sizes make, the first of them lowest. -/
def joined : List (Nat × Nat) → Nat
  | [] => 0
  | (n, v) :: rest => v + 256 ^ n * joined rest

section Numbers

variable {c c' : Cursor}

theorem perform_number_eq_ok_iff (hc : 0 ≤ c.offset) {n v : Nat} :
    c.perform (.number n) = (.ok (.number v), c') ↔
      c.offset + n ≤ c.data.length ∧ (c.data.window c.offset.toNat n).value = v ∧
        { c with offset := c.offset + n } = c' := by
  constructor
  · intro h
    cases outcome hc (.number n) with
    | moved s hsize hs hfit hperform =>
      cases hsize
      cases hperform.symm.trans h
      exact ⟨hfit, rfl, rfl⟩
    | refused s e hsize htake hperform => cases hperform.symm.trans h
    | peeked n i hop | sought i hop => cases hop
  · rintro ⟨hfit, rfl, rfl⟩
    exact perform_of_fits (s := n) hc rfl (Int.natCast_nonneg n) hfit

/-- A number that can be read may as well be read in two parts, one behind the other. -/
theorem perform_number_add (hc : 0 ≤ c.offset) {m n v : Nat}
    (h : c.perform (.number (m + n)) = (.ok (.number v), c')) :
    ∃ second low high, c.perform (.number m) = (.ok (.number low), second) ∧
      0 ≤ second.offset ∧ second.perform (.number n) = (.ok (.number high), c') ∧
      low + 256 ^ m * high = v := by
  obtain ⟨hfit, rfl, rfl⟩ := (perform_number_eq_ok_iff hc).1 h
  rw [Nat.cast_add] at hfit
  have hbehind : 0 ≤ c.offset + m := Int.add_nonneg hc (Int.natCast_nonneg m)
  have hstart : (c.offset + m).toNat = c.offset.toNat + m := by omega
  have hlow : (c.data.window c.offset.toNat m).length = m := by
    rw [Bytes.length_window]
    omega
  refine ⟨{ c with offset := c.offset + m }, _, _,
    (perform_number_eq_ok_iff hc).2 ⟨by omega, rfl, rfl⟩, hbehind,
    (perform_number_eq_ok_iff hbehind).2 ⟨by simp only; omega, rfl, ?_⟩, ?_⟩
  · rw [Nat.cast_add, Int.add_assoc]
  · rw [← Bytes.window_append_window, Bytes.value_append, hlow, hstart]

theorem run_numbers (hc : 0 ≤ c.offset) {sizes : List Nat} {v : Nat}
    (h : c.perform (.number sizes.sum) = (.ok (.number v), c')) :
    ∃ values : List Nat, values.length = sizes.length ∧
      c.run (sizes.map .number) = (values.map fun v => .ok (.number v), c') ∧
      joined (sizes.zip values) = v := by
  induction sizes generalizing c v with
  | nil =>
    obtain ⟨-, rfl, rfl⟩ := (perform_number_eq_ok_iff hc).1 h
    refine ⟨[], rfl, ?_, rfl⟩
    simp [run]
  | cons n rest ih =>
    obtain ⟨second, low, high, hfirst, hsecond, hrest, hv⟩ := perform_number_add hc h
    obtain ⟨values, hlen, hrun, hjoined⟩ := ih hsecond hrest
    refine ⟨low :: values, ?_, ?_, ?_⟩
    · rw [List.length_cons, List.length_cons, hlen]
    · rw [run] at hrun
      simp only [run, List.map_cons, performAll_cons, hfirst, hrun]
    · rw [List.zip_cons_cons, joined, hjoined, hv]

end Numbers

end Cursor

/-- **The laws of a cursor.**  A cursor that stands at or behind the start of its string is used
by any sequence of operations, none of which sends it before the start.  Then each of them does
what it has to, whatever the ones before it did.  If the cursor starts within the string and
nobody sends it elsewhere, what it has passed and what is left is always the whole string, and
the bytes consumed so far are those that it has passed.  A number that can be read anywhere may as
well be read in parts. -/
theorem cursor_obeys (data : Bytes) (start : Int) (ops : List Cursor.Op) (hstart : 0 ≤ start)
    (hseeks : ∀ i, .seek i ∈ ops → 0 ≤ i) :
    let c : Cursor := ⟨data, start⟩
    let before (i : Nat) : Cursor := (c.run (ops.take i)).2
    (∀ (i : Nat) op, ops[i]? = some op → ∃ answer, (c.run ops).1[i]? = some answer ∧
      Cursor.Obeys data (before i) op answer (before (i + 1))) ∧
    (start ≤ data.length → (∀ i, .seek i ∉ ops) → ∀ k,
      (before k).offset + (before k).remaining = data.length ∧
        c.consumed (ops.take k) = data.window start.toNat ((before k).offset - start).toNat) ∧
    ∀ (k : Nat) (sizes : List Nat) (v : Nat) (c' : Cursor),
      (before k).perform (.number sizes.sum) = (.ok (.number v), c') →
      ∃ values : List Nat, values.length = sizes.length ∧
        (before k).run (sizes.map .number) = (values.map fun v => .ok (.number v), c') ∧
        Cursor.joined (sizes.zip values) = v := by
  intro c before
  have hstands : ∀ k, (before k).Stands data := by
    intro k
    have hc : c.Stands data := ⟨rfl, hstart⟩
    exact hc.run fun i hmem => hseeks i (List.mem_of_mem_take hmem)
  refine ⟨?_, ?_, ?_⟩
  · intro i op hop
    have hanswer : (c.run ops).1[i]? = some ((before i).perform op).1 := by
      rw [Cursor.run, getElem?_performAll, hop]
      rfl
    have hafter : before (i + 1) = ((before i).perform op).2 := performAll_take_succ _ hop
    have hobeys := Cursor.obeys_perform (hstands i).nonneg op
    rw [(hstands i).data_eq, ← hafter] at hobeys
    exact ⟨_, hanswer, hobeys⟩
  · intro hinside hnone k
    have hc : c.Inside data := ⟨⟨rfl, hstart⟩, hinside⟩
    obtain ⟨hk, -, hbytes⟩ := hc.run fun i (hmem : .seek i ∈ ops.take k) =>
      hnone i (List.mem_of_mem_take hmem)
    exact ⟨hk.offset_add_remaining, hbytes⟩
  · intro k sizes v c' h
    exact Cursor.run_numbers (hstands k).nonneg h

/-- A cursor at the second of five bytes.  Reads that do not fit come between some that do, and
then it is sent behind the end, where nothing can be read, not even nothing. -/
theorem cursor_obeys_past_end :
    let ops : List Cursor.Op :=
      [.number 2, .exact 3, .skip (-1), .peek 4 1, .rest, .exact 0, .seek 9, .exact 0, .rest]
    (0 : Int) ≤ 1 ∧ (∀ i, Cursor.Op.seek i ∈ ops → 0 ≤ i) ∧
      ((⟨[1, 2, 3, 4, 5], 1⟩ : Cursor).run ops).1 =
        [.ok (.number 0x302), .error (.outOfData 3 3 2), .error (.negativeSize (-1)),
          .ok (.number 0x5040302), .ok (.bytes [4, 5]), .ok (.bytes []), .ok .nothing,
          .error (.outOfData 9 0 0), .error (.outOfData 9 0 0)] ∧
      Cursor.Obeys [1, 2, 3, 4, 5] ⟨[1, 2, 3, 4, 5], 9⟩ .rest (.error (.outOfData 9 0 0))
        ⟨[1, 2, 3, 4, 5], 9⟩ := by
  intro ops
  have hseeks : ∀ i, Cursor.Op.seek i ∈ ops → 0 ≤ i := by
    intro i hmem
    simp only [ops, List.mem_cons, Cursor.Op.seek.injEq, reduceCtorEq, false_or, List.not_mem_nil,
      or_false] at hmem
    omega
  obtain ⟨answer, hanswer, hobeys⟩ :=
    (cursor_obeys [1, 2, 3, 4, 5] 1 ops (by decide) hseeks).1 8 .rest rfl
  cases hanswer
  exact ⟨by decide, hseeks, rfl, hobeys⟩

end ConfigSpace
