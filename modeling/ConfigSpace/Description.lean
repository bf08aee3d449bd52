import ConfigSpace.Bytes
import ConfigSpace.Encoding

/-!
# Descriptions

A decoded structure can be shown field by field.  Its description is a tree: the
leaves are numbers, truth values, texts and bytes, and a record has two lists of
named parts, the fields that were decoded and the values derived from them.

A derived value need not exist.  Some codes are reserved, which the description
shows as `Description.none`; others stand for nothing, which no decoded field
does but a structure made by hand may (`Undefined`), and are shown with the reason
as `Description.undefined`.
-/

namespace ConfigSpace

/-- What a decoded structure shows. -/
inductive Description where
  /-- Nothing is there. -/
  | none
  | truth (b : Bool)
  | number (n : Int)
  | real (x : Float)
  | text (s : String)
  | bytes (b : Bytes)
  | list (items : List Description)
  /-- Named fields, and named values derived from them. -/
  | record (fields derived : List (String × Description))
  /-- A derived value that does not exist. -/
  | undefined (reason : Undefined)

/-- A record that says first of what kind it is. -/
def Description.tagged (kind : String) : Description → Description
  | .record fields derived => .record (("kind", .text kind) :: fields) derived
  | other => other

/-- Types whose values can be shown. -/
class Describe (α : Type) where
  /-- What a value shows. -/
  describe : α → Description

export Describe (describe)

instance : Describe Bool := ⟨.truth⟩

instance : Describe Nat := ⟨fun n => .number n⟩

instance : Describe Int := ⟨.number⟩

instance : Describe Float := ⟨.real⟩

instance : Describe String := ⟨.text⟩

instance {α : Type} [Describe α] : Describe (List α) := ⟨fun l => .list (l.map describe)⟩

instance : Describe Bytes := ⟨.bytes⟩

instance {α : Type} [Describe α] : Describe (Option α) :=
  ⟨fun o => (o.map describe).getD .none⟩

instance {α : Type} [Describe α] : Describe (Except Undefined α) :=
  ⟨fun
    | .ok a => describe a
    | .error reason => .undefined reason⟩

end ConfigSpace
