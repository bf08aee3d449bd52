import ConfigSpace.Proofs.Requests
import ConfigSpace.Proofs.WholeDump

/-!
# Regions do not interfere

The two lists of a configuration space lie in regions of their own, and what is decoded of
one depends on the bytes of its region only.

* `Region.Alike` — two buffers that look alike to a region: they can be read equally far in
  it, and hold the same bytes there.
* `Alike.visit_eq`, `Alike.next_eq`, `Alike.walk_eq` — so headers, requests and whole walks
  are the same on both.  A walk looks at no offset before its region: an extended pointer
  that leads there is not followed.
* `Alike.listing_eq` — nor does a payload reach out of the region, so the listings are the
  same as well.

The main result is `regions_do_not_interfere`.  That the extended list does not depend on
the identity of the device, which is read from the first bytes of the buffer, is because no
decoder of an extended capability looks at it (`decodeSteps_eq_of_extended`).
-/

namespace ConfigSpace

/-! ## Buffers that look alike -/

/-- Two buffers that look alike to a region. -/
structure Region.Alike (r : Region) (a b : Bytes) : Prop where
  /-- They can be read equally far. -/
  readable_eq : r.readable a = r.readable b
  /-- From the start of the region on they hold the same bytes. -/
  window_eq : ∀ o n, r.base ≤ o → o + n ≤ r.readable a → a.window o n = b.window o n

namespace Region

/-- Bytes behind the legacy region make no difference to it. -/
theorem alike_take_legacy (buffer : Bytes) : Region.legacy.Alike (buffer.take 0x100) buffer := by
  constructor
  · simp only [readable, limit, List.length_take]
    omega
  · intro o n _ hfits
    simp only [readable, limit, List.length_take] at hfits
    exact Bytes.window_take buffer (by omega)

/-- Buffers that hold the same bytes from 0x100 to 0x1000 are both without an extended region,
or look alike to it. -/
theorem alike_extended {a b : Bytes} (h : a.slice 0x100 0x1000 = b.slice 0x100 0x1000) :
    a.length ≤ 0x100 ∧ b.length ≤ 0x100 ∨ 0x100 < a.length ∧ Region.extended.Alike a b := by
  have hwindow : a.window 0x100 0xF00 = b.window 0x100 0xF00 := by
    have ha := a.slice_natCast 0x100 0x1000
    have hb := b.slice_natCast 0x100 0x1000
    exact ha.symm.trans (h.trans hb)
  have hlength := congrArg List.length hwindow
  simp only [Bytes.length_window] at hlength
  rcases Nat.lt_or_ge 0x100 a.length with hlong | hshort
  · refine .inr ⟨hlong, ?_, ?_⟩
    · simp only [readable, limit]
      omega
    · intro o n hbase hfits
      simp only [base, readable, limit] at hbase hfits
      obtain ⟨i, rfl⟩ := Nat.exists_eq_add_of_le hbase
      rw [← Bytes.window_window a (show i + n ≤ 0xF00 by omega), hwindow,
        Bytes.window_window b (by omega)]
  · exact .inl ⟨hshort, by omega⟩

namespace Alike

variable {r : Region} {a b : Bytes} {o : Nat}

/-- A header in the region is the same in both. -/
theorem header_eq (h : r.Alike a b) (hbase : r.base ≤ o)
    (hfits : o + r.headerSize ≤ r.readable a) : r.header a o = r.header b o :=
  header_congr (h.window_eq o r.headerSize hbase hfits)

theorem terminates_iff (h : r.Alike a b) (hbase : r.base ≤ o)
    (hfits : o + r.headerSize ≤ r.readable a) : r.Terminates a o ↔ r.Terminates b o :=
  terminates_congr (h.window_eq o r.headerSize hbase hfits)

end Alike

end Region

/-! ## Walks -/

namespace Region.Alike

variable {w : Walker} {a b : Bytes}

/-- Visiting an offset of the region is the same in both. -/
theorem visit_eq (h : w.region.Alike a b) (r : Run) {o : Nat} (hbase : w.region.base ≤ o) :
    r.visit w a o = r.visit w b o := by
  have hreadable := h.readable_eq
  rcases Nat.lt_or_ge (w.region.readable a) (o + w.region.headerSize) with hpast | hfits
  · rw [Run.visit_of_lt hpast, Run.visit_of_lt (hreadable ▸ hpast)]
  have hfits' : o + w.region.headerSize ≤ w.region.readable b := hreadable ▸ hfits
  have hends := h.terminates_iff hbase hfits
  by_cases hterm : w.region.Terminates a o
  · rw [Run.visit_of_terminates hfits hterm, Run.visit_of_terminates hfits' (hends.1 hterm)]
  · rw [Run.visit_of_header hfits hterm, Run.visit_of_header hfits' (mt hends.2 hterm),
      h.header_eq hbase hfits, Run.accept, Run.accept, hreadable]

theorem follow_eq (h : w.region.Alike a b) (r : Run) (source : Int) (target : Nat) :
    r.follow w a source target = r.follow w b source target := by
  by_cases hzero : (target : Int) = 0
  · rw [Run.follow, if_pos hzero, Run.follow, if_pos hzero]
  cases hcheck : w.check source target with
  | error fault => rw [Run.follow, if_neg hzero, hcheck, Run.follow, if_neg hzero, hcheck]
  | ok note =>
    rw [Run.follow_of_checked hzero hcheck, Run.follow_of_checked hzero hcheck,
      h.visit_eq _ (Walker.base_le_of_check hcheck)]

variable (hroot : 0 ≤ w.root)

include hroot

theorem next_eq (h : w.region.Alike a b) (r : Run) : r.next w a = r.next w b := by
  obtain ⟨root, hnat⟩ := Int.eq_ofNat_of_zero_le hroot
  unfold Run.next
  cases r.position with
  | root =>
    simp only [hnat]
    exact h.follow_eq r root root
  | behind offset next => simp only [h.follow_eq r offset next]
  | ended => rfl

theorem walk_eq (h : w.region.Alike a b) : w.walk a = w.walk b := by
  have hbegin : Run.begin w a = Run.begin w b := by
    have hreadable := h.readable_eq
    unfold Run.begin
    cases hregion : w.region with
    | legacy => rfl
    | extended =>
      have hlength : a.length ≤ 0x100 ↔ b.length ≤ 0x100 := by
        rw [hregion] at hreadable
        simp only [Region.readable, Region.limit] at hreadable
        omega
      simp only [hlength]
  rw [Walker.walk, Walker.walk, hbegin]
  exact Run.drain_congr (h.next_eq hroot) _ _

/-! ## Listings -/

omit hroot in
/-- A payload in the region is the same in both. -/
theorem load_eq (h : w.region.Alike a b) {record : Record} (hin : record.Within w.region a) :
    record.load a = record.load b := by
  have hstart := hin.start_le
  have hstop := hin.stop_le
  have hpayload : record.payload a = record.payload b :=
    h.window_eq record.start (record.stop - record.start) hin.base_le (by omega)
  rw [Record.load, Record.load, hpayload]

theorem steps_eq (h : w.region.Alike a b) :
    (w.walk a).steps.map (·.map (·.load a)) = (w.walk b).steps.map (·.map (·.load b)) := by
  rw [← h.walk_eq hroot]
  refine List.map_congr_left fun step hstep => ?_
  have hin : step.value.Within w.region a :=
    Run.within_of_mem_drain (fun _ => hroot) (List.mem_map_of_mem hstep)
  rw [Logged.map, Logged.map, h.load_eq hin]

theorem listing_eq (h : w.region.Alike a b) (options : Options) :
    (w.walk a).listing a options = (w.walk b).listing b options := by
  unfold Walk.listing
  rw [h.steps_eq hroot, h.walk_eq hroot]

end Region.Alike

/-! ## Legacy capabilities -/

section Legacy

variable {a b : Bytes} (h : Region.legacy.Alike a b)

include h

/-- A buffer holds the bytes before an offset of the legacy region if the other one does. -/
theorem length_le_iff_of_alike {n : Nat} (hn : n ≤ 0x100) : n ≤ a.length ↔ n ≤ b.length := by
  have hreadable := h.readable_eq
  simp only [Region.readable, Region.limit] at hreadable
  omega

theorem value_window_of_alike {i n : Nat} (hfits : i + n ≤ a.length) (hlimit : i + n ≤ 0x100) :
    (a.window i n).value = (b.window i n).value := by
  rw [h.window_eq i n (Nat.zero_le i)]
  simp only [Region.readable, Region.limit]
  omega

theorem capabilitiesRoot_of_alike : capabilitiesRoot a = capabilitiesRoot b := by
  have hlength := length_le_iff_of_alike h (n := 0x35) (by decide)
  rw [capabilitiesRoot_eq, capabilitiesRoot_eq]
  by_cases hshort : a.length ≤ 0x34
  · rw [if_pos (.inl hshort), if_pos (.inl (by omega))]
  · have hstatus : a.u16 0x06 = b.u16 0x06 :=
      value_window_of_alike h (by omega) (by decide)
    have hpointer : a.u8 0x34 = b.u8 0x34 := value_window_of_alike h (by omega) (by decide)
    have hshort' : ¬ b.length ≤ 0x34 := by omega
    simp only [hshort, hshort', hstatus, hpointer]

theorem withIdentity_of_alike (options : Options) :
    options.withIdentity a = options.withIdentity b := by
  have hlength := length_le_iff_of_alike h (n := 4) (by decide)
  unfold Options.withIdentity
  rcases Nat.lt_or_ge a.length 4 with hshort | hlong
  · rw [Bytes.atLeast?_of_lt hshort, Bytes.atLeast?_of_lt (by omega)]
  · have hvendor : a.u16 0x00 = b.u16 0x00 := value_window_of_alike h (by omega) (by decide)
    have hdevice : a.u16 0x02 = b.u16 0x02 := value_window_of_alike h (by omega) (by decide)
    rw [Bytes.atLeast?_of_le hlong, Bytes.atLeast?_of_le (hlength.1 hlong)]
    simp only [Bytes.AtLeast.u16, hvendor, hdevice]

/-- The legacy capabilities are the same, whatever follows the region. -/
theorem decodeCapabilities_of_alike (root : Option Nat) (options : Options) :
    decodeCapabilities a (root.map Int.ofNat) options =
      decodeCapabilities b (root.map Int.ofNat) options := by
  rw [decodeCapabilities_ofNat, decodeCapabilities_ofNat, capabilitiesRoot_of_alike h,
    withIdentity_of_alike h]
  cases root <|> capabilitiesRoot b with
  | none => rfl
  | some start =>
    exact h.listing_eq (w := Walker.legacy start options.strictAlignment)
      (Int.natCast_nonneg start) _

end Legacy

/-! ## Extended capabilities -/

/-- Of the options, the extended listing depends on failing fast only. -/
theorem decodeExtendedCapabilities_options (buffer : Bytes) {options options' : Options}
    (hfast : options.failFast = options'.failFast) :
    decodeExtendedCapabilities buffer options = decodeExtendedCapabilities buffer options' := by
  unfold decodeExtendedCapabilities
  rw [walk_extended_strict, walk_extended_strict buffer options'.strictAlignment]
  unfold Walk.listing
  rw [decodeSteps_eq_of_extended hfast]
  intro step hmem
  obtain ⟨found, hfound, rfl⟩ := List.mem_map.1 hmem
  exact (walk_extended_ended buffer false).2.2 found.value (List.mem_map_of_mem hfound)

/-- Of the buffer, it depends on the bytes from 0x100 to 0x1000 only. -/
theorem decodeExtendedCapabilities_of_slice {a b : Bytes}
    (h : a.slice 0x100 0x1000 = b.slice 0x100 0x1000) (options : Options) :
    decodeExtendedCapabilities a options = decodeExtendedCapabilities b options := by
  unfold decodeExtendedCapabilities
  rcases Region.alike_extended h with ⟨ha, hb⟩ | ⟨-, halike⟩
  · rw [walk_extended_of_le ha, walk_extended_of_le hb]
    rfl
  · exact halike.listing_eq (w := Walker.extended options.strictAlignment)
      (show (0 : Int) ≤ 0x100 by decide) options

/-! ## Both -/

/-- **Regions do not interfere.**  The legacy capabilities, from whatever root that does not
count from the end, are those of the first 0x100 bytes; the extended ones depend on the bytes
from 0x100 to 0x1000 only, and on no option but failing fast; so what lies behind 0x1000 is
never seen.  All of this is about results, errors raised and events reported. -/
theorem regions_do_not_interfere :
    (∀ (buffer : Bytes) (root : Option Nat) (options : Options),
      decodeCapabilities buffer (root.map Int.ofNat) options =
        decodeCapabilities (buffer.take 0x100) (root.map Int.ofNat) options) ∧
    (∀ (a b : Bytes) (options options' : Options),
      a.slice 0x100 0x1000 = b.slice 0x100 0x1000 → options.failFast = options'.failFast →
        decodeExtendedCapabilities a options = decodeExtendedCapabilities b options') ∧
    ∀ (a b : Bytes) (options : Options), a.take 0x1000 = b.take 0x1000 →
      decodeConfigSpace a options = decodeConfigSpace b options := by
  have hlegacy : ∀ (buffer : Bytes) (root : Option Nat) (options : Options),
      decodeCapabilities buffer (root.map Int.ofNat) options =
        decodeCapabilities (buffer.take 0x100) (root.map Int.ofNat) options := by
    intro buffer root options
    exact (decodeCapabilities_of_alike (Region.alike_take_legacy buffer) root options).symm
  refine ⟨hlegacy, ?_, ?_⟩
  · intro a b options options' hslice hfast
    rw [decodeExtendedCapabilities_of_slice hslice, decodeExtendedCapabilities_options b hfast]
  · intro a b options htake
    have hfirst : a.take 0x100 = b.take 0x100 := by
      have hcut := congrArg (List.take 0x100) htake
      rwa [List.take_take, List.take_take] at hcut
    have hslice : a.slice 0x100 0x1000 = b.slice 0x100 0x1000 := by
      have ha := a.slice_natCast 0x100 0x1000
      have hb := b.slice_natCast 0x100 0x1000
      refine ha.trans (Eq.trans ?_ hb.symm)
      rw [← Bytes.window_take a (show 0x100 + (0x1000 - 0x100) ≤ 0x1000 by decide), htake,
        Bytes.window_take b (by decide)]
    have hsame : decodeCapabilities a none options = decodeCapabilities b none options := by
      refine (hlegacy a none options).trans ?_
      rw [hfirst]
      exact (hlegacy b none options).symm
    unfold decodeConfigSpace
    rw [hsame, decodeExtendedCapabilities_of_slice hslice]

/-- A serial number behind a blank legacy region and behind one of ones, decoded with options
that differ; and two dumps that differ in one byte behind the extended region. -/
theorem regions_do_not_interfere_other_bytes :
    let serial : Bytes := [0x03, 0x00, 0x01, 0x00, 1, 2, 3, 4, 5, 6, 7, 8]
    let blank := List.replicate 0x100 0x00 ++ serial
    let ones := List.replicate 0x100 0xFF ++ serial
    let options : Options := { strictAlignment := true, vendorId := some 0x1AF4 }
    let dump : Bytes := List.replicate 0x1000 0xFF
    blank.slice 0x100 0x1000 = ones.slice 0x100 0x1000 ∧
      ({} : Options).failFast = options.failFast ∧
      decodeExtendedCapabilities blank {} = decodeExtendedCapabilities ones options ∧
      (dump ++ [1]).take 0x1000 = (dump ++ [2]).take 0x1000 ∧
      decodeConfigSpace (dump ++ [1]) {} = decodeConfigSpace (dump ++ [2]) {} := by
  intro serial blank ones options dump
  have hregion : ∀ front : Bytes, front.length = 0x100 →
      Bytes.slice (front ++ serial) 0x100 0x1000 = serial.window 0 0xF00 := by
    intro front hfront
    have hslice := Bytes.slice_natCast (front ++ serial) 0x100 0x1000
    have hright := Bytes.window_append_right front serial 0 0xF00
    rw [hfront] at hright
    exact hslice.trans hright
  have hslice : blank.slice 0x100 0x1000 = ones.slice 0x100 0x1000 :=
    (hregion _ List.length_replicate).trans (hregion _ List.length_replicate).symm
  have hdump : ∀ tail : Bytes, (dump ++ tail).take 0x1000 = dump :=
    fun tail => List.take_left' List.length_replicate
  have htake : (dump ++ [1]).take 0x1000 = (dump ++ [2]).take 0x1000 :=
    (hdump [1]).trans (hdump [2]).symm
  obtain ⟨-, hextended, hspace⟩ := regions_do_not_interfere
  exact ⟨hslice, rfl, hextended blank ones {} options hslice rfl, htake,
    hspace (dump ++ [1]) (dump ++ [2]) {} htake⟩

end ConfigSpace
