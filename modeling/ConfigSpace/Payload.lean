import ConfigSpace.Bits
import ConfigSpace.Bytes
import ConfigSpace.Description
import ConfigSpace.Error

/-!
# Payloads

A decoder gets the bytes that follow a capability's header.  Before it reads a
register it asks for the bytes that the register lies in: `Bytes.require` either
hands the decoder a payload that is known to hold them, or names the structure and
the size that is missing.  So a decoder cannot read past its payload, and the only
shortage it can report is one that it asked about.
-/

namespace ConfigSpace

namespace Bytes

/-- Reads a structure called `name` whose required part takes `size` bytes. -/
def require {α : Type} (payload : Bytes) (name : String) (size : Nat)
    (read : AtLeast size → Except Fault α) : Except Fault α :=
  match payload.atLeast? size with
  | some p => read p
  | none => .error (.unreadable name size payload.length)

theorem require_of_le {α : Type} {payload : Bytes} {name : String} {size : Nat}
    {read : AtLeast size → Except Fault α} (h : size ≤ payload.length) :
    payload.require name size read = read ⟨payload, h⟩ := by
  rw [require, atLeast?_of_le h]

theorem require_of_lt {α : Type} {payload : Bytes} {name : String} {size : Nat}
    {read : AtLeast size → Except Fault α} (h : payload.length < size) :
    payload.require name size read = .error (.unreadable name size payload.length) := by
  rw [require, atLeast?_of_lt h]

end Bytes

/-- A reading that gives a right value if the payload fits, and otherwise fails in one way. -/
theorem outcome_of_fits {α : Type} {result : Except Fault α} {fits : Prop} {right : α → Prop}
    {fault : Fault} (hfits : fits → ∃ a, result = .ok a ∧ right a)
    (hshort : ¬ fits → result = .error fault) :
    ((∃ a, result = .ok a) ↔ fits) ∧ ((¬ ∃ a, result = .ok a) → result = .error fault) ∧
      ∀ a, result = .ok a → right a := by
  by_cases h : fits
  · obtain ⟨a, hresult, ha⟩ := hfits h
    refine ⟨⟨fun _ => h, fun _ => ⟨a, hresult⟩⟩, fun hnone => absurd ⟨a, hresult⟩ hnone, ?_⟩
    intro b hb
    cases hresult.symm.trans hb
    exact ha
  · have hresult := hshort h
    have hnone : ∀ a, result ≠ .ok a := fun a ha => by cases hresult.symm.trans ha
    exact ⟨⟨fun ⟨a, ha⟩ => absurd ha (hnone a), fun h' => absurd h' h⟩, fun _ => hresult,
      fun a ha => absurd ha (hnone a)⟩

end ConfigSpace
