import ConfigSpace.Proofs.StrictWalk
import ConfigSpace.Proofs.WholeDump

/-!
# Roots that are no offsets

A caller may give any integer as the root of the legacy list.  One that no capability can
have is reported like any other misplaced pointer: a strict walk stops at it, and a lenient
one notes it and looks at the header there.  A header past the end of the buffer is then
reported too.  But a root that counts from the end does not run past the end: the bytes that
it leads to are read, as far as they go without wrapping around, and then there is no slot
to mark.  Such a root is raised as an error of the whole walk.

* `Cursor.number_of_negative` — what is read at a position that counts from the end.
* `Run.visit_of_reaching` and `Run.visit_of_astray` — what visiting such an offset answers.
* `walk_strict_of_oddities`, `walk_lenient_of_negative` — the walks from such a root.

The main result, `legacy_root_answered`, says for every root whether the entry points of the
legacy list return, and how the root is reported.  `negative_root_raises` shows that they
do not always.
-/

namespace ConfigSpace

/-! ## Positions that count from the end -/

namespace Cursor

variable (data : Bytes) {p : Int}

/-- Counting from the end leads to a byte unless it leads out of the string.  From the last
byte, a read goes on to the start of the string, and is empty. -/
theorem length_slice_of_negative (hp : p < 0) :
    (data.slice p (p + 1)).length = if -(data.length : Int) ≤ p ∧ p ≤ -2 then 1 else 0 := by
  simp only [Bytes.slice, Bytes.length_window, clampPosition]
  split <;> split <;> omega

theorem number_of_negative (hp : p < 0) :
    (⟨data, p⟩ : Cursor).number 1 =
      if -(data.length : Int) ≤ p ∧ p ≤ -2 then
        (.ok (data.slice p (p + 1)).value, ⟨data, p + 1⟩)
      else (.error (.wrapped 1), ⟨data, p + 1⟩) := by
  have hlen := length_slice_of_negative data hp
  have htake : (⟨data, p⟩ : Cursor).take (1 : Nat) =
      (.ok (data.slice p (p + 1)), ⟨data, p + 1⟩) := by
    unfold take
    rw [if_neg (by omega), if_neg (by push_cast; omega)]
    rfl
  unfold number
  rw [htake]
  simp only [hlen]
  split
  · rw [if_pos rfl]
  · rw [if_neg Nat.zero_ne_one]

end Cursor

namespace Header

variable {buffer : Bytes} {p : Int}

/-- A legacy header is read if both its bytes lie in the string. -/
theorem readLegacy_of_reaching (hle : -(buffer.length : Int) ≤ p) (hlt : p ≤ -3) :
    ∃ header, (readLegacy ⟨buffer, 0⟩ p).1 = .ok header := by
  have hid := Cursor.number_of_negative buffer (show p < 0 by omega)
  have hnext := Cursor.number_of_negative buffer (show p + 1 < 0 by omega)
  rw [if_pos (by omega)] at hid hnext
  simp only [readLegacy, hid, hnext]
  exact ⟨_, rfl⟩

theorem readLegacy_of_astray (hp : p < 0) (hout : ¬ (-(buffer.length : Int) ≤ p ∧ p ≤ -3)) :
    (readLegacy ⟨buffer, 0⟩ p).1 = .error (.wrapped 1) := by
  have hid := Cursor.number_of_negative buffer hp
  by_cases hfirst : -(buffer.length : Int) ≤ p ∧ p ≤ -2
  · have hnext := Cursor.number_of_negative buffer (show p + 1 < 0 by omega)
    rw [if_pos hfirst] at hid
    rw [if_neg (by omega)] at hnext
    simp only [readLegacy, hid, hnext]
  · rw [if_neg hfirst] at hid
    simp only [readLegacy, hid]

end Header

/-! ## Visits -/

/-- An offset that counts from the end leads to a header. -/
def Region.Reaches (r : Region) (buffer : Bytes) (target : Int) : Prop :=
  -(r.readable buffer : Int) ≤ target ∧ target ≤ -3

instance (r : Region) (buffer : Bytes) (target : Int) : Decidable (r.Reaches buffer target) :=
  inferInstanceAs (Decidable (_ ∧ _))

namespace Run

variable {w : Walker} {buffer : Bytes} {r : Run} {target : Int}

/-- A header that counting from the end leads to has no slot of its own. -/
theorem visit_of_reaching (hregion : w.region = .legacy) (hslots : r.visited.granularity = 1)
    (hreach : w.region.Reaches buffer target) :
    r.visit w buffer target =
      ⟨.escaped (.outsideBitmap target) { r with state := .following, position := .ended },
        []⟩ := by
  obtain ⟨hle, hlt⟩ := hreach
  rw [hregion] at hle
  rw [← Region.length_take_readable] at hle
  obtain ⟨header, hread⟩ := Header.readLegacy_of_reaching hle hlt
  have hslot : r.visited.slot? target = none := by
    simp only [Visited.slot?, hslots]
    rw [if_neg]
    rintro ⟨hnonneg, -⟩
    rw [Int.fdiv_one] at hnonneg
    omega
  simp only [visit, hregion, Header.read, hread, Except.map, accept, Visited.add_of_none hslot]

theorem visit_of_astray (hregion : w.region = .legacy) (hneg : target < 0)
    (hout : ¬ w.region.Reaches buffer target) :
    r.visit w buffer target = ⟨.escaped .unaddressed (r.finish r.state), []⟩ := by
  rw [hregion, Region.Reaches, ← Region.length_take_readable] at hout
  have hread := Header.readLegacy_of_astray hneg hout
  simp only [visit, hregion, Header.read, hread, Except.map]

end Run

/-! ## Walks -/

/-- The error that a root raises if it counts from the end and may be followed. -/
def rootError (buffer : Bytes) (root : Int) : OffsetError :=
  if Region.legacy.Reaches buffer root then .outsideBitmap root else .unaddressed

/-- An offset that counts from the end lies before all capabilities. -/
theorem oddities_of_negative {target : Int} (h : target < 0) : Walker.oddities target ≠ [] := by
  intro hnil
  have hrange := (List.append_eq_nil_iff.1 hnil).2
  rw [if_neg (by omega)] at hrange
  cases hrange

section Walks

variable {root : Int}

/-- What the check says to a root that no capability can have. -/
theorem check_of_oddities (hodd : Walker.oddities root ≠ []) (strict : Bool) :
    (Walker.legacy root strict).check root root =
      if strict then .error (.invalidPointer root root)
      else .ok (some (Walker.note root (Walker.oddities root))) := by
  simp only [Walker.check, Walker.legacy]
  cases hlist : Walker.oddities root with
  | nil => exact absurd hlist hodd
  | cons => rfl

theorem next_begin_legacy (root : Int) (strict : Bool) (buffer : Bytes) :
    (Run.begin (.legacy root strict) buffer).next (.legacy root strict) buffer =
      (Run.begin (.legacy root strict) buffer).follow (.legacy root strict) buffer root root :=
  rfl

/-- A strict walk stops at such a root. -/
theorem walk_strict_of_oddities (hzero : root ≠ 0) (hodd : Walker.oddities root ≠ [])
    (buffer : Bytes) :
    (Walker.legacy root true).walk buffer =
      { closing := [.walkTruncated .legacy (.invalidPointer root root)]
        run := (Run.begin (.legacy root true) buffer).finish
          (.failed (.invalidPointer root root)) } := by
  have hnext : (Run.begin (.legacy root true) buffer).next (.legacy root true) buffer =
      (Run.begin (.legacy root true) buffer).fail (.legacy root true)
        (.invalidPointer root root) := by
    rw [next_begin_legacy, Run.follow, if_neg hzero, check_of_oddities hodd]
    rfl
  rw [Walker.walk, Run.rest, Run.drain, hnext]
  rfl

/-- In a lenient walk, a root that counts from the end is noted and then raised. -/
theorem walk_lenient_of_negative (hneg : root < 0) (buffer : Bytes) :
    ((Walker.legacy root).walk buffer).steps = [] ∧
      ((Walker.legacy root).walk buffer).escape = some (rootError buffer root) := by
  have hcheck := check_of_oddities (oddities_of_negative hneg) false
  have hnext := next_begin_legacy root false buffer
  rw [Run.follow_of_checked (by omega) hcheck] at hnext
  rw [Walker.walk, Run.rest, Run.drain, hnext, rootError]
  by_cases hreach : Region.legacy.Reaches buffer root
  · rw [Run.visit_of_reaching rfl rfl hreach, if_pos hreach]
    exact ⟨rfl, rfl⟩
  · rw [Run.visit_of_astray rfl hneg hreach, if_neg hreach]
    exact ⟨rfl, rfl⟩

/-- A lenient walk from any other root that no capability can have notes it first. -/
theorem head?_notes_of_oddities {root : Nat} (hzero : root ≠ 0)
    (hodd : Walker.oddities root ≠ []) (buffer : Bytes) :
    ((Walker.legacy root).walk buffer).run.notes.head? =
      some (Walker.note root (Walker.oddities root)) := by
  obtain ⟨k, s, hwalk⟩ :=
    Walker.walk_followsOrbit (proper_legacy root false) (opens_legacy root false buffer)
  have hmisplaced : Misplaced root := not_not.1 fun h => hodd ((oddities_eq_nil_iff root).2 h)
  have hnoted : Noted buffer root 0 :=
    ⟨hzero, fun j hj => absurd hj (Nat.not_lt_zero j), hmisplaced⟩
  have hhead := head?_notesBefore (Nat.succ_pos k) hnoted
    fun i hi => absurd hi (Nat.not_lt_zero i)
  rw [hwalk.notes_eq, hhead, legacyOrbit, misplacedNote]

end Walks

/-! ## The entry points -/

/-- What the entry points of the legacy list answer to a caller who gives a root. -/
structure RootAnswered (buffer : Bytes) (root : Int) (options : Options) : Prop where
  /-- They return for every root that does not count from the end, and for every root if
  pointers are checked strictly. -/
  returns : 0 ≤ root ∨ options.strictAlignment = true →
    ∃ listing, (decodeCapabilities buffer (some root) options).value = .ok listing ∧
      listing.Reports (options.withIdentity buffer)
        ((Walker.legacy root options.strictAlignment).walk buffer) buffer
  /-- A strict walk stops at a root that no capability can have. -/
  stopped : options.strictAlignment = true → root ≠ 0 → Walker.oddities root ≠ [] →
    ((Walker.legacy root options.strictAlignment).walk buffer).records = [] ∧
      ((Walker.legacy root options.strictAlignment).walk buffer).run.state =
        .failed (.invalidPointer root root)
  /-- A lenient one notes it before anything else. -/
  noted : options.strictAlignment = false → 0 < root → Walker.oddities root ≠ [] →
    ((Walker.legacy root options.strictAlignment).walk buffer).run.notes.head? =
      some (Walker.note root (Walker.oddities root))
  /-- If such a root counts from the end and may be followed, it is raised. -/
  raises : options.strictAlignment = false → root < 0 →
    ((Walker.legacy root options.strictAlignment).walk buffer).escape =
        some (rootError buffer root) ∧
      (decodeCapabilities buffer (some root) options).value =
        .error (.offset (rootError buffer root))

/-- The listing of a walk that has found nothing before its root is raised. -/
theorem value_listing_of_escape {walk : Walk} {e : OffsetError} (hsteps : walk.steps = [])
    (hescape : walk.escape = some e) (buffer : Bytes) (options : Options) :
    (walk.listing buffer options).value = .error (.offset e) := by
  simp only [Walk.listing, hsteps, List.map_nil, decodeSteps, hescape]

/-- **What becomes of a root.**  A caller who does not ask to fail fast gets a listing that
reports the root, unless the root counts from the end and pointers are not checked
strictly; then, and only then, the root is raised. -/
theorem legacy_root_answered (buffer : Bytes) (root : Int) (options : Options)
    (tolerant : options.failFast = false) : RootAnswered buffer root options := by
  have hfast : (options.withIdentity buffer).failFast = false :=
    (failFast_withIdentity options buffer).trans tolerant
  refine ⟨fun hroot => ?_, fun hstrict hzero hodd => ?_, fun hlenient hpos hodd => ?_,
    fun hlenient hneg => ?_⟩
  · rcases Int.lt_or_le root 0 with hneg | hnonneg
    · -- Checked strictly, the root is refused before anything is read.
      have hstrict : options.strictAlignment = true := hroot.resolve_left (by omega)
      have hwalk := walk_strict_of_oddities (by omega) (oddities_of_negative hneg) buffer
      refine Walk.exists_listing hfast ?_ (Or.inr ⟨.invalidPointer root root, ?_⟩) buffer
      · rw [hstrict, hwalk]
      · rw [hstrict, hwalk]
        rfl
    · obtain ⟨start, rfl⟩ := Int.eq_ofNat_of_zero_le hnonneg
      obtain ⟨k, s, hwalk⟩ := Walker.walk_followsOrbit
        (proper_legacy start options.strictAlignment) (opens_legacy _ _ buffer)
      have hended := (Walker.ends_of_ending hwalk.ending).terminated_or_failed
      rw [← hwalk.state_eq] at hended
      exact Walk.exists_listing hfast hwalk.escape_eq hended buffer
  · rw [hstrict, walk_strict_of_oddities hzero hodd]
    exact ⟨rfl, rfl⟩
  · obtain ⟨start, rfl⟩ := Int.eq_ofNat_of_zero_le (Int.le_of_lt hpos)
    rw [hlenient]
    exact head?_notes_of_oddities (by omega) hodd buffer
  · obtain ⟨hsteps, hescape⟩ := walk_lenient_of_negative hneg buffer
    rw [hlenient]
    refine ⟨hescape, ?_⟩
    change (((Walker.legacy root options.strictAlignment).walk buffer).listing buffer
      (options.withIdentity buffer)).value = _
    rw [hlenient]
    exact value_listing_of_escape hsteps hescape buffer _

/-- A root just outside the region of capabilities, and one that counts from the end. -/
theorem legacy_root_answered_blank :
    ({} : Options).failFast = false ∧
      RootAnswered (List.replicate 0x40 0) 0x3C {} ∧
      RootAnswered (List.replicate 0x40 0) (-3) {} :=
  ⟨rfl, legacy_root_answered _ 0x3C {} rfl, legacy_root_answered _ (-3) {} rfl⟩

/-- Neither entry point returns for every root: one that counts from the end is raised, be it
that it leads to a header or not. -/
theorem negative_root_raises :
    ((Walker.legacy (-3)).walk (List.replicate 0x40 0)).escape = some (.outsideBitmap (-3)) ∧
      (decodeCapabilities (List.replicate 0x40 0) (some (-3)) {}).value =
        .error (.offset (.outsideBitmap (-3))) ∧
      ((Walker.legacy (-1)).walk (List.replicate 0x40 0)).escape = some .unaddressed ∧
      (decodeCapabilities (List.replicate 0x40 0) (some (-1)) {}).value =
        .error (.offset .unaddressed) := by
  decide +kernel

end ConfigSpace
