import ConfigSpace.Payload

/-!
# Message Signaled Interrupts (legacy 05h)

The Message Control register opens the structure, and two of its bits shape the
rest: a 64-bit capable function has a second address word, and a function with
per-vector masking has a mask and a pending word at the end.  That makes four
layouts, of 10, 14, 18 and 22 bytes.
-/

namespace ConfigSpace

namespace Msi

/-- MSI Message Control register. -/
structure Control where
  msiEnable : Bool
  (multipleMessageCapable multipleMessageEnable : Int)
  (address64Capable perVectorMaskingCapable extendedMessageDataCapable : Bool)
  extendedMessageDataEnable : Bool
  deriving DecidableEq, Repr

/-- The register with the value `w`. -/
def Control.ofWord (w : Nat) : Control where
  msiEnable := flag w 0
  multipleMessageCapable := field w 1 3
  multipleMessageEnable := field w 4 3
  address64Capable := flag w 7
  perVectorMaskingCapable := flag w 8
  extendedMessageDataCapable := flag w 9
  extendedMessageDataEnable := flag w 10

namespace Control

/-- The number of vectors the function asks for. -/
def vectorsCapable (c : Control) : Except Undefined Nat :=
  Code.powerOfTwo c.multipleMessageCapable

/-- The number of vectors the function may use. -/
def vectorsEnabled (c : Control) : Except Undefined Nat :=
  Code.powerOfTwo c.multipleMessageEnable

/-- The size of the second address word, where there is one. -/
def upperAddressSize (c : Control) : Nat :=
  if c.address64Capable then 4 else 0

/-- The size of the mask and pending words, where there are any. -/
def maskingSize (c : Control) : Nat :=
  if c.perVectorMaskingCapable then 8 else 0

/-- The size of the whole structure, the Message Control register included. -/
def size (c : Control) : Nat :=
  10 + c.upperAddressSize + c.maskingSize

end Control

instance : Describe Control :=
  ⟨fun r => .record
    [("msi_enable", describe r.msiEnable),
     ("multiple_message_capable", describe r.multipleMessageCapable),
     ("multiple_message_enable", describe r.multipleMessageEnable),
     ("a_64_bit_address_capable", describe r.address64Capable),
     ("per_vector_masking_capable", describe r.perVectorMaskingCapable),
     ("extended_message_data_capable", describe r.extendedMessageDataCapable),
     ("extended_message_data_enable", describe r.extendedMessageDataEnable)]
    [("vectors_capable", describe r.vectorsCapable),
     ("vectors_enabled", describe r.vectorsEnabled)]⟩

end Msi

/-- Message Signaled Interrupts. -/
structure Msi where
  messageControl : Msi.Control
  (messageAddress messageData extendedMessageData : Nat)
  (maskBits pendingBits : Option Nat)
  deriving DecidableEq, Repr

namespace Msi

/-- The message address: one word, or two of which the second is the upper half. -/
def address (c : Control) (p : Bytes.AtLeast c.size) : Nat :=
  have size : c.size = 10 + c.upperAddressSize + c.maskingSize := rfl
  p.u32 2 + (if c.address64Capable then p.u32 6 else 0) <<< 32

/-- The `k`th of the two words that a function with per-vector masking has. -/
def maskingWord (c : Control) (p : Bytes.AtLeast c.size) (k : Fin 2) : Option Nat :=
  if hm : c.perVectorMaskingCapable then
    have size : c.size = 10 + c.upperAddressSize + 8 := by
      simp [Control.size, Control.maskingSize, hm]
    some (p.u32 (10 + c.upperAddressSize + 4 * k))
  else none

/-- Reads the registers that a Message Control register calls for. -/
def read (c : Control) (p : Bytes.AtLeast c.size) : Msi :=
  have size : c.size = 10 + c.upperAddressSize + c.maskingSize := rfl
  { messageControl := c
    messageAddress := address c p
    messageData := p.u16 (6 + c.upperAddressSize)
    extendedMessageData := p.u16 (8 + c.upperAddressSize)
    maskBits := maskingWord c p 0
    pendingBits := maskingWord c p 1 }

/-- Reads the Message Control register, and then the structure it calls for. -/
def decode (payload : Bytes) : Except Fault Msi :=
  payload.require "Message Signaled Interrupts" 2 fun p =>
    let control := Control.ofWord (p.u16 0)
    payload.require "Message Signaled Interrupts" control.size fun p => .ok (read control p)

end Msi

instance : Describe Msi :=
  ⟨fun r => .record
    [("message_control", describe r.messageControl),
     ("message_address", describe r.messageAddress), ("message_data", describe r.messageData),
     ("extended_message_data", describe r.extendedMessageData),
     ("mask_bits", describe r.maskBits), ("pending_bits", describe r.pendingBits)] []⟩

end ConfigSpace
