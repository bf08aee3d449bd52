import ConfigSpace.Payload

/-!
# Virtio

The vendor-specific capability of a virtio device, without its first three
bytes: where one of the device's structures lies.
-/

namespace ConfigSpace

/-- Virtio structure location. -/
structure Virtio where
  (cfgType bar offset size : Int)
  notifyOffMultiplier : Option Int := none
  deriving DecidableEq, Repr

namespace Virtio

/-- The type of the notification structure, which has one more register. -/
def notifyType : Nat := 2

/-- Which structure it is. -/
def cfgName (v : Virtio) : String :=
  match v.cfgType with
  | 1 => "common"
  | 2 => "notify"
  | 3 => "isr"
  | 4 => "device"
  | _ => "unknown"

/-- Reads the location; the register that only a notification structure has is
read where it is there. -/
def decode (payload : Bytes) : Except Fault Virtio :=
  payload.require "Virtio" 13 fun p => .ok {
    cfgType := p.u8 0
    bar := p.u8 1
    offset := p.u32 5
    size := p.u32 9
    notifyOffMultiplier :=
      if p.u8 0 = notifyType then (payload.atLeast? 17).map fun p => ↑(p.u32 13) else none }

end Virtio

instance : Describe Virtio :=
  ⟨fun r => .record
    [("cfg_type", describe r.cfgType), ("bar", describe r.bar), ("offset", describe r.offset),
     ("size", describe r.size), ("notify_off_multiplier", describe r.notifyOffMultiplier)]
    [("cfg_name", describe r.cfgName)]⟩

end ConfigSpace
