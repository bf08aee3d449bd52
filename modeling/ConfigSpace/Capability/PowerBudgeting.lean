import ConfigSpace.Payload

/-!
# Power Budgeting (extended 0004h)

A window onto a table of power figures: the index selected, the figure found
there, and whether the power is already accounted for by the system.
-/

namespace ConfigSpace

namespace PowerBudgeting

/-- Power Budgeting Data register. -/
structure Data where
  (basePower dataScale pmSubState pmState operationConditionType powerRail : Int)
  deriving DecidableEq, Repr

/-- The register with the value `w`. -/
def Data.ofWord (w : Nat) : Data where
  basePower := field w 0 8
  dataScale := field w 8 2
  pmSubState := field w 10 3
  pmState := field w 13 2
  operationConditionType := field w 15 3
  powerRail := field w 18 3

/-- The factors that the scales stand for. -/
def scales : List Float :=
  [1.0, 0.1, 0.01, 0.001]

/-- The least magnitude that rounds to no finite floating-point number: half a unit
in the last place above the largest one. -/
def floatLimit : Nat :=
  (1 <<< 1024) - (1 <<< 970)

/-- The power in watts.  Base powers from F0h on stand for ranges and not for a
figure. -/
def Data.watts (d : Data) : Except Undefined (Option Float) :=
  if 0xEF < d.basePower then .ok none
  else match Code.entry scales d.dataScale with
    | .error reason => .error reason
    | .ok scale =>
        if d.basePower.natAbs < floatLimit then .ok (some (Float.ofInt d.basePower * scale))
        else .error .doesNotFit

instance : Describe Data :=
  ⟨fun r => .record
    [("base_power", describe r.basePower), ("data_scale", describe r.dataScale),
     ("pm_sub_state", describe r.pmSubState), ("pm_state", describe r.pmState),
     ("operation_condition_type", describe r.operationConditionType),
     ("power_rail", describe r.powerRail)]
    [("watts", describe r.watts)]⟩

end PowerBudgeting

/-- Power Budgeting. -/
structure PowerBudgeting where
  dataSelect : Nat
  data : PowerBudgeting.Data
  systemAllocated : Bool
  deriving DecidableEq, Repr

/-- Reads the power budgeting registers. -/
def PowerBudgeting.decode (payload : Bytes) : Except Fault PowerBudgeting :=
  payload.require "Power Budgeting" 12 fun p => .ok {
    dataSelect := p.u8 0
    data := .ofWord (p.u32 4)
    systemAllocated := flag (p.u8 8) 0 }

instance : Describe PowerBudgeting :=
  ⟨fun r => .record
    [("data_select", describe r.dataSelect), ("data", describe r.data),
     ("system_allocated", describe r.systemAllocated)] []⟩

end ConfigSpace
