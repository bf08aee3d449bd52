import ConfigSpace.Dispatcher

/-!
# Dispatchers, one inside the other

A dispatcher selects the decoder for the inside of a container from two tables, and wraps what
goes wrong there.  The decoder that it selects may be another dispatcher, and so on to any depth;
an error from the innermost decoder then passes all of them.  This file says which decoder is
selected and what becomes of its result, for one dispatcher and for a chain of them.

* `LastEntry` — the entry that counts, of several for one key.
* `Dispatcher.Selects` — which decoder is selected by a pair, and `Dispatcher.selects_lookup`:
  this is the one that is looked up.
* `Error.Wraps` — an error holds another one, for a container: `Dispatcher.delivers_dispatch`
  says that a dispatcher wraps an error once and passes everything else on.
* `Dispatcher.Call.Passes` — the dispatchers on the way to an innermost decoder.
  `Dispatcher.Call.Passes.returns` says what comes back, by induction on the way.
* `Error.Wraps.locate_eq` — to locate an error changes nothing inside it.

The main result is `dispatch_selects_and_wraps`.
-/

namespace ConfigSpace

/-! ## Tables -/

/-- The last entry of a table for a key. -/
def LastEntry {κ β : Type} (table : List (κ × β)) (key : κ) (b : β) : Prop :=
  ∃ before after, table = before ++ (key, b) :: after ∧ ∀ e ∈ after, e.1 ≠ key

section Tables

variable {κ β : Type} [BEq κ] [LawfulBEq κ] {table : List (κ × β)} {key : κ}

/-- To look a key up from behind is to find its last entry. -/
theorem lookup_reverse_eq_some_iff {b : β} :
    table.reverse.lookup key = some b ↔ LastEntry table key b := by
  rw [List.lookup_eq_some_iff]
  constructor
  · rintro ⟨after, before, hsplit, hafter⟩
    refine ⟨before.reverse, after.reverse, ?_, fun e hmem heq => ?_⟩
    · rw [← List.reverse_reverse table, hsplit]
      simp
    · simpa [heq] using hafter e (List.mem_reverse.1 hmem)
  · rintro ⟨before, after, rfl, hafter⟩
    refine ⟨after.reverse, before.reverse, by simp, fun e hmem => ?_⟩
    simpa using fun h => hafter e (List.mem_reverse.1 hmem) h.symm

theorem lookup_reverse_eq_none_iff :
    table.reverse.lookup key = none ↔ ∀ e ∈ table, e.1 ≠ key := by
  rw [List.lookup_eq_none_iff]
  constructor
  · intro h e hmem heq
    simpa [heq] using h e (List.mem_reverse.2 hmem)
  · intro h e hmem
    simpa using fun heq => h e (List.mem_reverse.1 hmem) heq.symm

end Tables

/-! ## Errors that hold others -/

/-- What a container says of itself when its inside could not be decoded. -/
structure Frame where
  name : String
  vendorId : Int
  subId : Int
  revision : Option Int
  length : Option Int
  deriving DecidableEq, Repr

namespace Error

/-- The error of a container holds the error from its inside. -/
structure Wraps (k : Frame) (inner outer : Error) : Prop where
  /-- It says which container it is, and holds the other error as it was. -/
  fault_eq : outer.fault =
    .nested k.name k.vendorId k.subId k.revision k.length inner.fault inner.site
  /-- Its own place is not known. -/
  site_eq : outer.site = { offset := none, capId := none }
  /-- The other error can be got from it. -/
  inner?_eq : outer.fault.inner? = some inner
  /-- It was raised from the other error. -/
  cause?_eq : outer.cause? = some inner.kind
  /-- It says what the other error says, behind what the container is called. -/
  message_eq : outer.message =
    s!"{k.name} (VID: {Text.hexLower k.vendorId 4}, ID: {Text.hexLower k.subId 4}) error: "
      ++ inner.message

/-- The error of a container is made to hold the error from its inside. -/
theorem wraps_nested (k : Frame) (e : Error) :
    Wraps k e (nested k.name k.vendorId k.subId k.revision k.length e) :=
  ⟨rfl, rfl, rfl, rfl, rfl⟩

theorem Wraps.locate_eq {k : Frame} {inner outer : Error} (h : Wraps k inner outer)
    (offset capId : Int) :
    outer.locate offset capId = ⟨outer.fault, ⟨some offset, some capId⟩⟩ := by
  rw [locate, h.site_eq]
  rfl

/-- An error that is wrapped for one container after the other, the outermost of them first. -/
inductive WrapsAll : List Frame → Error → Error → Prop where
  | nil (e : Error) : WrapsAll [] e e
  | cons {k : Frame} {rest : List Frame} {e inner outer : Error} (houter : Wraps k inner outer)
      (hinner : WrapsAll rest e inner) : WrapsAll (k :: rest) e outer

end Error

/-! ## One dispatcher -/

namespace Dispatcher

variable {α : Type}

/-- The decoder that a pair selects from two tables, if it selects one: that of the last entry
for the pair, or else that of the last entry for the vendor. -/
inductive Selects (exact : List ((Int × Int) × NestedDecoder α))
    (fallback : List (Int × NestedDecoder α)) (vendorId subId : Int) :
    Option (NestedDecoder α) → Prop where
  | exact {decoder : NestedDecoder α} (hexact : LastEntry exact (vendorId, subId) decoder) :
      Selects exact fallback vendorId subId (some decoder)
  | fallback {decoder : NestedDecoder α} (hexact : ∀ e ∈ exact, e.1 ≠ (vendorId, subId))
      (hfallback : LastEntry fallback vendorId decoder) :
      Selects exact fallback vendorId subId (some decoder)
  | neither (hexact : ∀ e ∈ exact, e.1 ≠ (vendorId, subId))
      (hfallback : ∀ e ∈ fallback, e.1 ≠ vendorId) : Selects exact fallback vendorId subId none

section Tables

variable {name : String} {exact : List ((Int × Int) × NestedDecoder α)}
  {fallback : List (Int × NestedDecoder α)} {vendorId subId : Int}

/-- The decoder that is looked up is the one that the tables select. -/
theorem selects_lookup (name : String) (exact : List ((Int × Int) × NestedDecoder α))
    (fallback : List (Int × NestedDecoder α)) (vendorId subId : Int) :
    Selects exact fallback vendorId subId
      ((ofTables name exact fallback).lookup vendorId subId) := by
  simp only [lookup, ofTables]
  cases hexact : exact.reverse.lookup (vendorId, subId) with
  | some decoder => exact .exact (lookup_reverse_eq_some_iff.1 hexact)
  | none =>
    have hnone := lookup_reverse_eq_none_iff.1 hexact
    cases hfallback : fallback.reverse.lookup vendorId with
    | some decoder => exact .fallback hnone (lookup_reverse_eq_some_iff.1 hfallback)
    | none => exact .neither hnone (lookup_reverse_eq_none_iff.1 hfallback)

/-- A pair selects nothing if neither table has an entry for it. -/
theorem lookup_ofTables_eq_none_iff :
    (ofTables name exact fallback).lookup vendorId subId = none ↔
      (∀ e ∈ exact, e.1 ≠ (vendorId, subId)) ∧ ∀ e ∈ fallback, e.1 ≠ vendorId := by
  rw [← lookup_reverse_eq_none_iff, ← lookup_reverse_eq_none_iff]
  simp only [lookup, ofTables]
  cases exact.reverse.lookup (vendorId, subId) <;> simp

theorem contains_ofTables_iff :
    (ofTables name exact fallback).contains vendorId subId = true ↔
      (∃ e ∈ exact, e.1 = (vendorId, subId)) ∨ ∃ e ∈ fallback, e.1 = vendorId := by
  rw [contains, Option.isSome_iff_ne_none, ne_eq, lookup_ofTables_eq_none_iff,
    Classical.not_and_iff_not_or_not]
  simp only [Classical.not_forall, ne_eq, Classical.not_not, exists_prop]

end Tables

/-- What a dispatcher makes of the result of the decoder that it has selected. -/
structure Delivers (k : Frame) (inner : Except Error α) (outer : Except Error (Option α)) :
    Prop where
  /-- A value is passed on as it is. -/
  ok : ∀ a, inner = .ok a → outer = .ok (some a)
  /-- An error is wrapped once. -/
  error : ∀ e, inner = .error e → ∃ e', outer = .error e' ∧ Error.Wraps k e e'

section Dispatch

variable {d : Dispatcher α} {vendorId subId : Int} {data : Bytes} {revision length : Option Int}

theorem dispatch_of_none (h : d.lookup vendorId subId = none) :
    d.dispatch vendorId subId data revision length = ⟨.ok none, []⟩ := by
  rw [dispatch, h]

/-- The selected decoder is called, and its result delivered. -/
theorem delivers_dispatch {decoder : NestedDecoder α}
    (h : d.lookup vendorId subId = some decoder) :
    Delivers ⟨d.name, vendorId, subId, revision, length⟩ (decoder data subId).value
      (d.dispatch vendorId subId data revision length).value := by
  rw [dispatch, h]
  rcases hresult : decoder data subId with ⟨e | inside, events⟩
  · simp only [hresult]
    refine ⟨nofun, ?_⟩
    rintro _ ⟨⟩
    exact ⟨_, rfl, Error.wraps_nested _ e⟩
  · simp only [hresult]
    refine ⟨?_, nofun⟩
    rintro _ ⟨⟩
    rfl

/-- What a dispatcher fails with is an error that it has wrapped. -/
theorem exists_wraps_of_dispatch {outer : Error}
    (h : (d.dispatch vendorId subId data revision length).value = .error outer) :
    ∃ decoder inner, d.lookup vendorId subId = some decoder ∧
      (decoder data subId).value = .error inner ∧
        Error.Wraps ⟨d.name, vendorId, subId, revision, length⟩ inner outer := by
  cases hlookup : d.lookup vendorId subId with
  | none =>
    rw [dispatch_of_none hlookup] at h
    cases h
  | some decoder =>
    have hdelivers : Delivers ⟨d.name, vendorId, subId, revision, length⟩
        (decoder data subId).value (d.dispatch vendorId subId data revision length).value :=
      delivers_dispatch hlookup
    cases hinner : (decoder data subId).value with
    | ok a =>
      rw [hdelivers.ok a hinner] at h
      cases h
    | error inner =>
      obtain ⟨e', houter, hwraps⟩ := hdelivers.error inner hinner
      rw [houter] at h
      cases h
      exact ⟨decoder, inner, rfl, hinner, hwraps⟩

end Dispatch

/-! ## A chain of dispatchers -/

/-- A dispatcher and what it is given.  Its decoders may have no result, as it may itself. -/
structure Call (α : Type) where
  dispatcher : Dispatcher (Option α)
  vendorId : Int
  subId : Int
  data : Bytes
  revision : Option Int := none
  length : Option Int := none

namespace Call

/-- What the call says of itself in an error. -/
def frame (call : Call α) : Frame :=
  ⟨call.dispatcher.name, call.vendorId, call.subId, call.revision, call.length⟩

/-- Dispatches; no decoder and no result are the same. -/
def run (call : Call α) : Logged (Except Error (Option α)) :=
  (call.dispatcher.dispatch call.vendorId call.subId call.data call.revision call.length).map
    fun result => result.map Option.join

/-- The decoder that hands what it is given to another dispatcher, as it is or as it finds it
inside. -/
def relay (next : Bytes → Int → Call α) : NestedDecoder (Option α) :=
  fun data subId => (next data subId).run

/-- A call passes these dispatchers, each of them selected by the one before, and then comes to a
decoder with this result. -/
inductive Passes : Call α → List Frame → Except Error (Option α) → Prop where
  | last {call : Call α} {decoder : NestedDecoder (Option α)}
      (hlookup : call.dispatcher.lookup call.vendorId call.subId = some decoder) :
      Passes call [call.frame] (decoder call.data call.subId).value
  | relay {call : Call α} {next : Bytes → Int → Call α} {frames : List Frame}
      {result : Except Error (Option α)}
      (hlookup : call.dispatcher.lookup call.vendorId call.subId = some (Call.relay next))
      (hnext : Passes (next call.data call.subId) frames result) :
      Passes call (call.frame :: frames) result

/-- What comes back to a call from the decoder at the end of its way. -/
structure Returns (frames : List Frame) (result answer : Except Error (Option α)) : Prop where
  /-- A result is passed on as it is. -/
  ok : ∀ r, result = .ok r → answer = .ok r
  /-- An error is wrapped by every dispatcher on the way, once by each. -/
  error : ∀ e, result = .error e → ∃ e', answer = .error e' ∧ Error.WrapsAll frames e e'

/-- A dispatcher on the way wraps once more. -/
theorem Returns.delivered {k : Frame} {frames : List Frame} {result : Except Error (Option α)}
    {inner : Except Error (Option α)} {outer : Except Error (Option (Option α))}
    (h : Returns frames result inner) (hdelivers : Delivers k inner outer) :
    Returns (k :: frames) result (outer.map Option.join) := by
  constructor
  · intro r hr
    rw [hdelivers.ok r (h.ok r hr)]
    rfl
  · intro e he
    obtain ⟨e₁, hinner, hchain⟩ := h.error e he
    obtain ⟨e₂, houter, hwraps⟩ := hdelivers.error e₁ hinner
    rw [houter]
    exact ⟨e₂, rfl, .cons hwraps hchain⟩

/-- What comes back has passed all dispatchers on the way. -/
theorem Passes.returns {call : Call α} {frames : List Frame} {result : Except Error (Option α)}
    (h : call.Passes frames result) : Returns frames result call.run.value := by
  induction h with
  | @last call decoder hlookup =>
    have hself : Returns [] (decoder call.data call.subId).value
        (decoder call.data call.subId).value :=
      ⟨fun r hr => hr, fun e he => ⟨e, he, .nil e⟩⟩
    exact hself.delivered (delivers_dispatch hlookup)
  | relay hlookup hnext ih => exact ih.delivered (delivers_dispatch hlookup)

/-- To locate what a call fails with changes nothing but the place of the outermost error. -/
theorem locate_eq_of_run {call : Call α} {outer : Error} (h : call.run.value = .error outer)
    (offset capId : Int) :
    outer.locate offset capId = ⟨outer.fault, ⟨some offset, some capId⟩⟩ := by
  have hdispatch : (call.dispatcher.dispatch call.vendorId call.subId call.data call.revision
      call.length).value = .error outer := by
    cases hvalue : (call.dispatcher.dispatch call.vendorId call.subId call.data call.revision
        call.length).value with
    | ok inside => simp [run, Logged.map, hvalue, Except.map] at h
    | error e => simpa [run, Logged.map, hvalue, Except.map] using h
  obtain ⟨_, _, _, _, hwraps⟩ := exists_wraps_of_dispatch hdispatch
  exact hwraps.locate_eq offset capId

end Call

/-! ## The main result -/

/-- A dispatcher decodes by two tables: it selects by them, and wraps what goes wrong. -/
structure Follows (name : String) (exact : List ((Int × Int) × NestedDecoder α))
    (fallback : List (Int × NestedDecoder α)) (d : Dispatcher α) : Prop where
  /-- The entry for the pair comes first, that for the vendor second. -/
  selects : ∀ v s, Selects exact fallback v s (d.lookup v s)
  /-- The pairs that have either are its members. -/
  contains_iff : ∀ v s, d.contains v s = true ↔
    (∃ e ∈ exact, e.1 = (v, s)) ∨ ∃ e ∈ fallback, e.1 = v
  /-- Nothing is decoded, and nothing is wrong, without a decoder. -/
  nothing : ∀ v s data revision length, d.lookup v s = none →
    d.dispatch v s data revision length = ⟨.ok none, []⟩
  /-- The selected decoder is called with the second identifier; its value is passed on, its
  error wrapped. -/
  delivers : ∀ v s data revision length decoder, d.lookup v s = some decoder →
    Delivers ⟨name, v, s, revision, length⟩ (decoder data s).value
      (d.dispatch v s data revision length).value

/-- What becomes of the result of the decoder at the end of a chain. -/
structure Call.Unwinds (call : Call α) (frames : List Frame)
    (result : Except Error (Option α)) : Prop where
  /-- It is passed on, wrapped if it is an error: once by every dispatcher on the way. -/
  returns : Returns frames result call.run.value
  /-- When the error is located later, the errors inside it stay where they are. -/
  locate_eq : ∀ outer, call.run.value = .error outer → ∀ offset capId,
    outer.locate offset capId = ⟨outer.fault, ⟨some offset, some capId⟩⟩

end Dispatcher

open Dispatcher

/-- **Dispatchers select by their tables and wrap what goes wrong**, and do so at every depth.  A
dispatcher that is given two tables calls the decoder of the last entry for the pair, or else that
of the last entry for the vendor, or else none.  If the decoder is another dispatcher, and so on,
an error of the innermost decoder comes back in as many wrappers as there were dispatchers. -/
theorem dispatch_selects_and_wraps {α : Type} :
    (∀ (name : String) (exact : List ((Int × Int) × NestedDecoder α))
        (fallback : List (Int × NestedDecoder α)),
      Follows name exact fallback (ofTables name exact fallback)) ∧
    ∀ (call : Call α) (frames : List Frame) (result : Except Error (Option α)),
      call.Passes frames result → call.Unwinds frames result := by
  constructor
  · intro name exact fallback
    constructor
    case selects =>
      intro v s
      exact selects_lookup name exact fallback v s
    case contains_iff =>
      intro v s
      exact contains_ofTables_iff
    case nothing =>
      intro v s data revision length hnone
      exact dispatch_of_none hnone
    case delivers =>
      intro v s data revision length decoder hlookup
      exact delivers_dispatch hlookup
  · intro call frames result hpasses
    constructor
    case returns => exact hpasses.returns
    case locate_eq =>
      intro outer hrun offset capId
      exact Call.locate_eq_of_run hrun offset capId

section Nested

/-- A decoder that needs four bytes and finds none. -/
def starved : NestedDecoder (Option Nat) :=
  fun _ _ => .quiet (.error (.outOfData 0 4 0))

/-- A table with two entries for one pair, of which the second counts. -/
def innerCall (data : Bytes) (subId : Int) : Call Nat where
  dispatcher := .ofTables "Inner" [((0x1111, 2), fun _ _ => .quiet (.ok none)),
    ((0x1111, 2), starved)] []
  vendorId := 0x1111
  subId := subId
  data := data

/-- A dispatcher with a decoder for all of a vendor's identifiers, which is a dispatcher too. -/
def outerCall : Call Nat where
  dispatcher := .ofTables "Outer" [((0x1E98, 1), starved)] [(0x1E98, Call.relay innerCall)]
  vendorId := 0x1E98
  subId := 2
  data := []
  revision := some 1
  length := some 16

/-- Two dispatchers, two wrappers. -/
theorem dispatch_selects_and_wraps_nested :
    outerCall.Passes [⟨"Outer", 0x1E98, 2, some 1, some 16⟩, ⟨"Inner", 0x1111, 2, none, none⟩]
        (.error ⟨.outOfData 0 4 0, ⟨some 0, none⟩⟩) ∧
      ∃ outer, outerCall.run.value = .error outer ∧
        Error.WrapsAll
          [⟨"Outer", 0x1E98, 2, some 1, some 16⟩, ⟨"Inner", 0x1111, 2, none, none⟩]
          ⟨.outOfData 0 4 0, ⟨some 0, none⟩⟩ outer ∧
        outer.locate 0x100 0x23 = ⟨outer.fault, ⟨some 0x100, some 0x23⟩⟩ := by
  have hlast : (innerCall [] 2).dispatcher.lookup 0x1111 2 = some starved := rfl
  have hpasses : outerCall.Passes
      [⟨"Outer", 0x1E98, 2, some 1, some 16⟩, ⟨"Inner", 0x1111, 2, none, none⟩]
      (.error ⟨.outOfData 0 4 0, ⟨some 0, none⟩⟩) :=
    .relay rfl (.last hlast)
  have hunwinds := dispatch_selects_and_wraps.2 _ _ _ hpasses
  obtain ⟨outer, hrun, hwraps⟩ := hunwinds.returns.error _ rfl
  exact ⟨hpasses, outer, hrun, hwraps, hunwinds.locate_eq outer hrun 0x100 0x23⟩

end Nested

end ConfigSpace
