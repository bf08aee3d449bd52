import ConfigSpace.Payload

/-!
# MSI-X (legacy 11h)

A Message Control register, and where the vector table and the pending bit array
are.  Both are QWORD aligned, so the low three bits of a location hold the number
of a base address register instead.
-/

namespace ConfigSpace

namespace MsiX

/-- MSI-X Message Control register. -/
structure Control where
  tableSize : Int
  (functionMask msiXEnable : Bool)
  deriving DecidableEq, Repr

/-- The register with the value `w`. -/
def Control.ofWord (w : Nat) : Control where
  tableSize := field w 0 11
  functionMask := flag w 14
  msiXEnable := flag w 15

/-- The number of table entries; the register holds one less. -/
def Control.tableEntries (r : Control) : Int :=
  r.tableSize + 1

instance : Describe Control :=
  ⟨fun r => .record
    [("table_size", describe r.tableSize), ("function_mask", describe r.functionMask),
     ("msi_x_enable", describe r.msiXEnable)]
    [("table_entries", describe r.tableEntries)]⟩

/-- The place of a table: a base address register, and an offset into the memory
it maps. -/
structure Location where
  (bir offset : Nat)
  deriving DecidableEq, Repr

/-- The location with the value `w`. -/
def Location.ofWord (w : Nat) : Location where
  bir := field w 0 3
  offset := 8 * field w 3 29

instance : Describe Location :=
  ⟨fun r => .record
    [("bir", describe r.bir), ("offset", describe r.offset)] []⟩

end MsiX

/-- MSI-X. -/
structure MsiX where
  messageControl : MsiX.Control
  (table pendingBitArray : MsiX.Location)
  deriving DecidableEq, Repr

/-- Reads the MSI-X registers. -/
def MsiX.decode (payload : Bytes) : Except Fault MsiX :=
  payload.require "MSI-X" 10 fun p => .ok {
    messageControl := .ofWord (p.u16 0)
    table := .ofWord (p.u32 2)
    pendingBitArray := .ofWord (p.u32 6) }

instance : Describe MsiX :=
  ⟨fun r => .record
    [("message_control", describe r.messageControl), ("table", describe r.table),
     ("pending_bit_array", describe r.pendingBitArray)] []⟩

end ConfigSpace
