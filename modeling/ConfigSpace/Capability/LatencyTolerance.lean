import ConfigSpace.Payload

/-!
# Latency Tolerance Reporting (extended 0018h)

The largest latencies that software lets a function ask for.
-/

namespace ConfigSpace

/-- A latency: a value and the power of 32 nanoseconds that it is scaled by. -/
structure MaxLatency where
  (value scale : Int)
  deriving DecidableEq, Repr

namespace MaxLatency

/-- The latency in a register with the value `w`. -/
def ofWord (w : Nat) : MaxLatency where
  value := field w 0 10
  scale := field w 10 3

/-- The latency in nanoseconds; the scales above the fifth are reserved. -/
def nanoseconds (l : MaxLatency) : Except Undefined (Option Int) :=
  if 5 < l.scale then .ok none
  else (Code.powerOfTwo (5 * l.scale)).map fun factor => some (l.value * factor)

end MaxLatency

instance : Describe MaxLatency :=
  ⟨fun r => .record
    [("value", describe r.value), ("scale", describe r.scale)]
    [("nanoseconds", describe r.nanoseconds)]⟩

/-- Latency Tolerance Reporting. -/
structure LatencyTolerance where
  (maxSnoopLatency maxNoSnoopLatency : MaxLatency)
  deriving DecidableEq, Repr

/-- Reads the two latencies. -/
def LatencyTolerance.decode (payload : Bytes) : Except Fault LatencyTolerance :=
  payload.require "Latency Tolerance Reporting" 4 fun p => .ok {
    maxSnoopLatency := .ofWord (p.u16 0)
    maxNoSnoopLatency := .ofWord (p.u16 2) }

instance : Describe LatencyTolerance :=
  ⟨fun r => .record
    [("max_snoop_latency", describe r.maxSnoopLatency),
     ("max_no_snoop_latency", describe r.maxNoSnoopLatency)] []⟩

end ConfigSpace
