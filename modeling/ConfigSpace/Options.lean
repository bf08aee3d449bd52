import ConfigSpace.Text.Switch

/-!
# Options

What a caller can choose: whether a misplaced pointer stops the walk of the
legacy list, whether the first capability that cannot be decoded stops the
decoding, and the identity of the device, which otherwise is read from
configuration space itself.

The two switches can be set in the environment; settings given by the caller win
over it.
-/

namespace ConfigSpace

/-- How capability lists are walked and decoded. -/
structure Options where
  /-- Stop the legacy walk at a pointer that is misaligned or out of range,
  instead of recording a note and following it. -/
  strictAlignment : Bool := false
  /-- Raise the first error of a capability, instead of recording it. -/
  failFast : Bool := false
  /-- The vendor of the device. -/
  vendorId : Option Int := none
  /-- The device identifier of the device. -/
  deviceId : Option Int := none
  deriving DecidableEq, Repr

namespace Options

/-- A setting that a caller makes by name. -/
inductive Setting where
  | strictAlignment (on : Bool)
  | failFast (on : Bool)
  | vendorId (id : Option Int)
  | deviceId (id : Option Int)
  /-- A name that no option has. -/
  | unknown (name : String)
  deriving DecidableEq, Repr

/-- The options after one more setting, which must name an option. -/
def set (o : Options) : Setting → Option Options
  | .strictAlignment on => some { o with strictAlignment := on }
  | .failFast on => some { o with failFast := on }
  | .vendorId id => some { o with vendorId := id }
  | .deviceId id => some { o with deviceId := id }
  | .unknown _ => none

/-- The options that the environment and then the caller's settings ask for.  Each
switch has the text that the environment gives for it, and one without a text is
off; a setting must name an option. -/
def ofEnvironment (strictAlignment failFast : Option String) (settings : List Setting) :
    Option Options :=
  settings.foldlM set
    { strictAlignment := strictAlignment.any Text.isOn
      failFast := failFast.any Text.isOn }

end Options

end ConfigSpace
