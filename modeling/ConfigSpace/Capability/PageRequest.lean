import ConfigSpace.Payload

/-!
# Page Request Interface (extended 0013h)

The registers of a function that can ask for pages to be made resident.
-/

namespace ConfigSpace

namespace PageRequest

/-- Page Request Control register. -/
structure Control where
  (enable reset : Bool)
  deriving DecidableEq, Repr

/-- The register with the value `w`. -/
def Control.ofWord (w : Nat) : Control where
  enable := flag w 0
  reset := flag w 1

instance : Describe Control :=
  ⟨fun r => .record
    [("enable", describe r.enable), ("reset", describe r.reset)] []⟩

/-- Page Request Status register. -/
structure Status where
  (responseFailure unexpectedPageRequestGroupIndex stopped prgResponsePasidRequired : Bool)
  deriving DecidableEq, Repr

/-- The register with the value `w`. -/
def Status.ofWord (w : Nat) : Status where
  responseFailure := flag w 0
  unexpectedPageRequestGroupIndex := flag w 1
  stopped := flag w 8
  prgResponsePasidRequired := flag w 15

instance : Describe Status :=
  ⟨fun r => .record
    [("response_failure", describe r.responseFailure),
     ("unexpected_page_request_group_index", describe r.unexpectedPageRequestGroupIndex),
     ("stopped", describe r.stopped),
     ("prg_response_pasid_required", describe r.prgResponsePasidRequired)] []⟩

end PageRequest

/-- Page Request Interface. -/
structure PageRequest where
  control : PageRequest.Control
  status : PageRequest.Status
  (outstandingPageRequestCapacity outstandingPageRequestAllocation : Nat)
  deriving DecidableEq, Repr

/-- Reads the page request registers. -/
def PageRequest.decode (payload : Bytes) : Except Fault PageRequest :=
  payload.require "Page Request Interface" 12 fun p => .ok {
    control := .ofWord (p.u16 0)
    status := .ofWord (p.u16 2)
    outstandingPageRequestCapacity := p.u32 4
    outstandingPageRequestAllocation := p.u32 8 }

instance : Describe PageRequest :=
  ⟨fun r => .record
    [("control", describe r.control), ("status", describe r.status),
     ("outstanding_page_request_capacity", describe r.outstandingPageRequestCapacity),
     ("outstanding_page_request_allocation", describe r.outstandingPageRequestAllocation)] []⟩

end ConfigSpace
