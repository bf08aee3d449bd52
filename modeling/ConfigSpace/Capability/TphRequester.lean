import ConfigSpace.Payload

/-!
# TPH Requester (extended 0017h)

Processing hints are steered by a table of tags.  The table lies in this
capability, in the MSI-X table, or nowhere; it is read only if it lies here, its
size is possible, and the payload holds all of it.
-/

namespace ConfigSpace

namespace TphRequester

/-- TPH Requester Capability register. -/
structure Capability where
  (noStModeSupported interruptVectorModeSupported deviceSpecificModeSupported : Bool)
  extendedTphRequesterSupported : Bool
  (stTableLocation stTableSize : Nat)
  deriving DecidableEq, Repr

/-- The register with the value `w`. -/
def Capability.ofWord (w : Nat) : Capability where
  noStModeSupported := flag w 0
  interruptVectorModeSupported := flag w 1
  deviceSpecificModeSupported := flag w 2
  extendedTphRequesterSupported := flag w 8
  stTableLocation := field w 9 2
  stTableSize := field w 16 11

instance : Describe Capability :=
  ⟨fun r => .record
    [("no_st_mode_supported", describe r.noStModeSupported),
     ("interrupt_vector_mode_supported", describe r.interruptVectorModeSupported),
     ("device_specific_mode_supported", describe r.deviceSpecificModeSupported),
     ("extended_tph_requester_supported", describe r.extendedTphRequesterSupported),
     ("st_table_location", describe r.stTableLocation), ("st_table_size", describe r.stTableSize)]
    []⟩

/-- TPH Requester Control register. -/
structure Control where
  (stModeSelect tphRequesterEnable : Nat)
  deriving DecidableEq, Repr

/-- The register with the value `w`. -/
def Control.ofWord (w : Nat) : Control where
  stModeSelect := field w 0 3
  tphRequesterEnable := field w 8 2

instance : Describe Control :=
  ⟨fun r => .record
    [("st_mode_select", describe r.stModeSelect),
     ("tph_requester_enable", describe r.tphRequesterEnable)] []⟩

/-- An entry of the steering tag table. -/
structure Tag where
  (stLower stUpper : Nat)
  deriving DecidableEq, Repr

instance : Describe Tag :=
  ⟨fun r => .record
    [("st_lower", describe r.stLower), ("st_upper", describe r.stUpper)] []⟩

/-- Where the steering tag table is. -/
inductive Table where
  | notPresent
  /-- The table lies in this capability, and has these tags. -/
  | valid (tags : List Tag)
  /-- The table should lie in this capability, but it is too large or not there. -/
  | invalid
  | msiXTable
  | reserved
  deriving DecidableEq, Repr

namespace Table

/-- The name of what is known about the table. -/
def state : Table → String
  | notPresent => "not_present"
  | valid _ => "valid"
  | invalid => "invalid"
  | msiXTable => "msi_x_table"
  | reserved => "reserved"

/-- The tags that were read. -/
def tags : Table → List Tag
  | valid tags => tags
  | _ => []

end Table

/-- The largest size that the table can have in this capability; a size counts the
tags from zero on. -/
def largestSize : Nat := 63

/-- Reads the table that the capability register describes. -/
def readTable (payload : Bytes) (c : Capability) : Table :=
  match c.stTableLocation with
  | 0 => .notPresent
  | 1 =>
      if c.stTableSize ≤ largestSize then
        match payload.atLeast? (8 + 2 * (c.stTableSize + 1)) with
        | some p => .valid (List.ofFn fun k : Fin (c.stTableSize + 1) =>
            { stLower := p.u8 (8 + 2 * k), stUpper := p.u8 (9 + 2 * k) })
        | none => .invalid
      else .invalid
  | 2 => .msiXTable
  | _ => .reserved

end TphRequester

/-- TPH Requester. -/
structure TphRequester where
  capability : TphRequester.Capability
  control : TphRequester.Control
  table : TphRequester.Table
  deriving DecidableEq, Repr

/-- Reads the processing hint registers and the table that goes with them. -/
def TphRequester.decode (payload : Bytes) : Except Fault TphRequester :=
  payload.require "TPH Requester" 8 fun p =>
    let capability := Capability.ofWord (p.u32 0)
    .ok { capability, control := .ofWord (p.u32 4), table := readTable payload capability }

instance : Describe TphRequester :=
  ⟨fun r => .record
    [("capability", describe r.capability), ("control", describe r.control),
     ("st_table_state", describe r.table.state), ("st_table", describe r.table.tags)] []⟩

end ConfigSpace
