import ConfigSpace.Capability.AccessControl
import ConfigSpace.Proofs.RegisterBlocks

/-!
# Egress control vectors

A function with egress control has a vector behind its registers, with one bit for each port or
function that can be controlled.  Its size is a number of bits, of which zero stands for 256,
and it takes whole words.  This file says which payloads have the vector, and that it is the
bits of the payload, as many as there are and no others.

* `AccessControl.requiredSize` — how many bytes a payload with a vector takes.
* `AccessControl.Sections` — where the registers and the vector lie in the payload.
* `AccessControl.Alike.decode_congr` — bits that are not in the vector have no influence.

The main result is `egress_control_vector`.
-/

namespace ConfigSpace

namespace AccessControl

/-! ## Registers -/

/-- The ACS Capability register. -/
def capabilityRegister : Register where
  layout := {
    bits := 16
    widths := [1, 1, 1, 1, 1, 1, 1, 1, 8]
    name := "ACS capability"
    bits_mem := Layout.mem_sizes_16
    widths_pos := by decide
    total_widths := rfl }
  names :=
    [some "source_validation", some "translation_blocking", some "p2p_request_redirect",
     some "p2p_completion_redirect", some "upstream_forwarding", some "p2p_egress_control",
     some "direct_translated_p2p", some "enhanced_capability",
     some "egress_control_vector_size"]
  length_names := rfl

/-- The ACS Control register. -/
def controlRegister : Register where
  layout := {
    bits := 16
    widths := [1, 1, 1, 1, 1, 1, 1, 9]
    name := "ACS control"
    bits_mem := Layout.mem_sizes_16
    widths_pos := by decide
    total_widths := rfl }
  names :=
    [some "source_validation_enable", some "translation_blocking_enable",
     some "p2p_request_redirect_enable", some "p2p_completion_redirect_enable",
     some "upstream_forwarding_enable", some "p2p_egress_control_enable",
     some "direct_translated_p2p_enable", none]
  length_names := rfl

theorem Capability.shows_ofWord (w : Nat) :
    capabilityRegister.Shows 0xFFFF w (describe (Capability.ofWord w)) :=
  Register.shows rfl rfl

theorem Control.shows_ofWord (w : Nat) :
    controlRegister.Shows 0x007F w (describe (Control.ofWord w)) :=
  Register.shows rfl rfl

/-! ## The vector -/

/-- The number of bits in a vector whose size is written as `v`. -/
def vectorBits (v : Nat) : Nat :=
  if 0 < v then v else 256

/-- The number of bytes in a payload with such a vector, which takes whole words. -/
def requiredSize (v : Nat) : Nat :=
  4 + 4 * ((vectorBits v + 31) / 32)

/-- Bit `j` of the vector in a payload. -/
def vectorBit (p : Bytes) (j : Nat) : Bool :=
  (p.u8 (4 + j / 8)).testBit (j % 8)

/-- The vector in a payload. -/
def vector (p : Bytes) : Nat :=
  (p.window 4 (4 * ((vectorBits (p.u8 1) + 31) / 32))).value % 2 ^ vectorBits (p.u8 1)

/-- What is read of a payload that is long enough. -/
def ofPayload (p : Bytes) : AccessControl where
  capability := .ofWord (p.u16 0)
  control := .ofWord (p.u16 2)
  egressControlVector := if (p.u16 0).testBit 5 then some (vector p) else none

/-- Where the registers and the vector lie in the payload. -/
structure Sections (p : Bytes) (a : AccessControl) : Prop where
  capability : capabilityRegister.Shows 0xFFFF (p.u16 0) (describe a.capability)
  control : controlRegister.Shows 0x007F (p.u16 2) (describe a.control)
  /-- There is a vector if the function has egress control. -/
  vector_eq_none_iff : a.egressControlVector = none ↔ (p.u16 0).testBit 5 = false
  vector_lt : ∀ x, a.egressControlVector = some x → x < 2 ^ vectorBits (p.u8 1)
  /-- The vector has the bits of the bytes behind the registers. -/
  testBit_vector : ∀ x, a.egressControlVector = some x →
    ∀ j < vectorBits (p.u8 1), x.testBit j = (p.u8 (4 + j / 8)).testBit (j % 8)

variable {p q : Bytes}

theorem vector_lt (p : Bytes) : vector p < 2 ^ vectorBits (p.u8 1) :=
  Nat.mod_lt _ (Nat.two_pow_pos _)

/-- The bits of the vector are those of the payload. -/
theorem testBit_vector {j : Nat} (h : j < vectorBits (p.u8 1)) :
    (vector p).testBit j = vectorBit p j := by
  -- The vector takes as many words as it needs, so that its last bit is in one of them.
  have hwords : j < 8 * (4 * ((vectorBits (p.u8 1) + 31) / 32)) := by omega
  rw [vector, Nat.testBit_mod_two_pow, decide_eq_true h, Bool.true_and,
    Bytes.testBit_value_window p hwords, vectorBit]

theorem sections_ofPayload (p : Bytes) : Sections p (ofPayload p) where
  capability := Capability.shows_ofWord _
  control := Control.shows_ofWord _
  vector_eq_none_iff := by simp [ofPayload]
  vector_lt := by
    intro x hx
    obtain ⟨-, rfl⟩ : (p.u16 0).testBit 5 = true ∧ vector p = x := by
      simpa [ofPayload] using hx
    exact vector_lt p
  testBit_vector := by
    intro x hx j hj
    obtain ⟨-, rfl⟩ : (p.u16 0).testBit 5 = true ∧ vector p = x := by
      simpa [ofPayload] using hx
    exact testBit_vector hj

/-! ## Which payloads are decoded -/

/-- The payload has a vector, if the function has egress control. -/
def Fits (p : Bytes) : Prop :=
  (p.u16 0).testBit 5 = false ∨ requiredSize (p.u8 1) ≤ p.length

theorem field_vectorSize (p : Bytes) : field (p.u16 0) 8 8 = p.u8 1 :=
  (p.field_u16 0 0 8).trans (field_of_lt (p.u8_lt 1))

theorem Capability.vectorBits_ofWord (p : Bytes) :
    (Capability.ofWord (p.u16 0)).vectorBits = AccessControl.vectorBits (p.u8 1) := by
  change (if field (p.u16 0) 8 8 = 0 then 256 else field (p.u16 0) 8 8) = _
  rw [field_vectorSize, AccessControl.vectorBits]
  split <;> split <;> omega

theorem Capability.vectorBytes_ofWord (p : Bytes) :
    4 + (Capability.ofWord (p.u16 0)).vectorBytes = requiredSize (p.u8 1) := by
  rw [vectorBytes, vectorBits_ofWord, requiredSize]

/-- The registers say whether there is a vector. -/
theorem decode_eq (h : 4 ≤ p.length) :
    decode p = (egressControl p (.ofWord (p.u16 0))).map
      fun v => ⟨.ofWord (p.u16 0), .ofWord (p.u16 2), v⟩ :=
  Bytes.require_of_le h

/-- A payload with the vector that it calls for is decoded. -/
theorem decode_of_fits (h : 4 ≤ p.length) (hfits : Fits p) : decode p = .ok (ofPayload p) := by
  rw [decode_eq h, egressControl, ofPayload]
  cases hegress : (p.u16 0).testBit 5 with
  | false => rw [if_neg (by simp [Capability.ofWord, flag, hegress])]; rfl
  | true =>
    have hsize : requiredSize (p.u8 1) ≤ p.length :=
      hfits.resolve_left (by simp [hegress])
    have hvector : (p.window 4 (Capability.ofWord (p.u16 0)).vectorBytes).value
        % (1 <<< (Capability.ofWord (p.u16 0)).vectorBits) = vector p := by
      rw [vector, Nat.one_shiftLeft, Capability.vectorBytes, Capability.vectorBits_ofWord]
    rw [← Capability.vectorBytes_ofWord] at hsize
    rw [if_pos (show (Capability.ofWord (p.u16 0)).p2pEgressControl = true from hegress),
      Bytes.require_of_le hsize, ← hvector]
    rfl

theorem decode_of_not_fits (h : 4 ≤ p.length) (hfits : ¬ Fits p) :
    decode p =
      .error (.unreadable "Access Control Services" (requiredSize (p.u8 1)) p.length) := by
  obtain ⟨hset, hshort⟩ := not_or.1 hfits
  have hegress : (Capability.ofWord (p.u16 0)).p2pEgressControl = true :=
    Bool.eq_true_of_not_eq_false hset
  rw [← Capability.vectorBytes_ofWord] at hshort ⊢
  rw [decode_eq h, egressControl, if_pos hegress, Bytes.require_of_lt (Nat.not_le.1 hshort)]
  rfl

/-! ## Bits without influence -/

/-- Payloads that agree in their registers and, if there is one, in the bits of the vector. -/
structure Alike (p q : Bytes) : Prop where
  registers_eq : q.take 4 = p.take 4
  vector_eq : (p.u16 0).testBit 5 = true →
    ∀ j < vectorBits (p.u8 1), vectorBit q j = vectorBit p j

theorem Alike.window_eq (h : Alike p q) {i n : Nat} (hin : i + n ≤ 4) :
    q.window i n = p.window i n := by
  rw [← q.window_take hin, ← p.window_take hin, h.registers_eq]

theorem Alike.u16_eq (h : Alike p q) : q.u16 0 = p.u16 0 :=
  congrArg Bytes.value (h.window_eq (by decide))

theorem Alike.u8_eq (h : Alike p q) : q.u8 1 = p.u8 1 :=
  congrArg Bytes.value (h.window_eq (by decide))

theorem Alike.vector_congr (h : Alike p q) (hegress : (p.u16 0).testBit 5 = true) :
    vector q = vector p := by
  apply Nat.eq_of_testBit_eq
  intro j
  by_cases hj : j < vectorBits (p.u8 1)
  · have hj' : j < vectorBits (q.u8 1) := by rwa [h.u8_eq]
    rw [testBit_vector hj', testBit_vector hj, h.vector_eq hegress j hj]
  · rw [vector, vector, h.u8_eq, Nat.testBit_mod_two_pow, Nat.testBit_mod_two_pow,
      decide_eq_false hj, Bool.false_and, Bool.false_and]

theorem Alike.ofPayload_congr (h : Alike p q) : ofPayload q = ofPayload p := by
  have hcontrol : q.u16 2 = p.u16 2 := congrArg Bytes.value (h.window_eq (by decide))
  rw [ofPayload, ofPayload, h.u16_eq, hcontrol]
  cases hegress : (p.u16 0).testBit 5 with
  | false => rfl
  | true => rw [h.vector_congr hegress]

/-- A payload that has what another one calls for is decoded as that one is. -/
theorem Alike.decode_congr (h : Alike p q) (hlong : 4 ≤ p.length)
    (hfits : (p.u16 0).testBit 5 = false ∨ requiredSize (p.u8 1) ≤ q.length) :
    decode q = .ok (ofPayload p) := by
  have hlong' : 4 ≤ q.length := by
    have hlen := congrArg List.length h.registers_eq
    rw [List.length_take, List.length_take] at hlen
    omega
  rw [← h.u16_eq, ← h.u8_eq] at hfits
  rw [decode_of_fits hlong' hfits, h.ofPayload_congr]

end AccessControl

/-- **The egress control vector is the bits of the payload behind the registers.**  A payload
with egress control is decoded exactly if it has all the words of the vector, and otherwise
their size is reported; what is behind the last bit of the vector has no influence. -/
theorem egress_control_vector (p : Bytes) (h : 4 ≤ p.length) :
    let egress := (p.u16 0).testBit 5
    let size := AccessControl.requiredSize (p.u8 1)
    ((∃ a, AccessControl.decode p = .ok a) ↔ egress = false ∨ size ≤ p.length) ∧
    ((¬ ∃ a, AccessControl.decode p = .ok a) →
      AccessControl.decode p = .error (.unreadable "Access Control Services" size p.length)) ∧
    ∀ a, AccessControl.decode p = .ok a →
      a.Sections p ∧
      ∀ q, AccessControl.Alike p q → egress = false ∨ size ≤ q.length →
        AccessControl.decode q = .ok a := by
  intro egress size
  refine outcome_of_fits (fun hfits => ?_) (AccessControl.decode_of_not_fits h)
  refine ⟨_, AccessControl.decode_of_fits h hfits, AccessControl.sections_ofPayload p, ?_⟩
  intro q halike hq
  exact halike.decode_congr h hq

/-- A vector of 33 bits, which takes two words; all bits behind the last one are set. -/
def paddedVector : Bytes :=
  [0x20, 0x21, 0xFF, 0xFF, 0x01, 0x02, 0x03, 0x04, 0xFF, 0xFF, 0xFF, 0xFF]

/-- The bits behind the vector are not in it, but their bytes must be there. -/
theorem egress_control_vector_padded :
    4 ≤ paddedVector.length ∧
    AccessControl.decode (paddedVector.take 11) =
      .error (.unreadable "Access Control Services" 12 11) ∧
    ∃ a, AccessControl.decode paddedVector = .ok a ∧ a.Sections paddedVector ∧
      a.egressControlVector = some 0x104030201 ∧
      AccessControl.decode (paddedVector.take 8 ++ [0x01, 0x00, 0x00, 0x00, 0x07]) = .ok a := by
  have hlong : 4 ≤ paddedVector.length := by decide
  obtain ⟨hiff, -, hright⟩ := egress_control_vector paddedVector hlong
  obtain ⟨hiff', hshort, -⟩ := egress_control_vector (paddedVector.take 11) (by decide)
  obtain ⟨a, ha⟩ := hiff.2 (by decide)
  obtain ⟨hsections, hcongr⟩ := hright a ha
  have hvector : AccessControl.decode paddedVector =
      .ok (AccessControl.ofPayload paddedVector) :=
    AccessControl.decode_of_fits hlong (.inr (by decide))
  refine ⟨hlong, ?_, a, ha, hsections, ?_, ?_⟩
  · refine hshort fun hdecoded => ?_
    exact absurd (hiff'.1 hdecoded) (by decide)
  · cases ha.symm.trans hvector
    decide
  · exact hcongr _ ⟨by decide, by decide⟩ (by decide)

end ConfigSpace
