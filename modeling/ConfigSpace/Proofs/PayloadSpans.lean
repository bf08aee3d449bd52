import ConfigSpace.Proofs.ExtendedWalk
import ConfigSpace.Proofs.LegacyWalk

/-!
# Payload spans

The payload of a record lies between its header and the next capability of the list, as
far as the region can be read.  Where the list runs forwards, from each capability to one
behind its header, headers and payloads together leave nothing out and give nothing twice.

* `Record.Spans` — where the payload of a record starts and ends, both in bounds.
* `Record.Tiles` — records that follow each other without gaps.  Their payloads lie apart,
  their bytes together are those of the buffer between their ends
  (`Record.Tiles.flatMap_bytes`), and each of its offsets is in one of them
  (`Record.Tiles.countP_covers`).
* `Walker.tiles_of_forward` — the records of a list that runs forwards follow each other in
  this way: the walk goes on at the offset where the payload before it ends.
* `payloads_tile` — so for both lists, whatever the buffer.
-/

namespace ConfigSpace

/-! ## One record -/

namespace Record

/-- The payload of a record of a region, as its header has it: a pointer forwards is where
it ends at the latest, and otherwise it runs to the end of what can be read. -/
structure Spans (region : Region) (buffer : Bytes) (record : Record) : Prop where
  /-- It starts behind the header. -/
  start_eq : record.start = record.offset + region.headerSize
  /-- It ends where the pointer leads, if that is forwards and neither within the header nor
  out of reach. -/
  stop_eq : record.stop =
    if record.header.nextPtr ≤ record.offset then region.readable buffer
    else max (record.offset + region.headerSize)
      (min record.header.nextPtr (region.readable buffer))
  /-- It ends no earlier than it starts. -/
  start_le : record.start ≤ record.stop
  /-- It can be read to its end. -/
  stop_le : record.stop ≤ region.readable buffer
  /-- It consists of the bytes in between. -/
  payload_eq : record.payload buffer = buffer.slice record.start record.stop

/-- The offset belongs to the payload of the record. -/
def InPayload (record : Record) (i : Nat) : Prop :=
  record.start ≤ i ∧ i < record.stop

/-- The offset belongs to the header or the payload of the record. -/
def Covers (record : Record) (i : Nat) : Prop :=
  record.offset ≤ i ∧ i < record.stop

instance (record : Record) (i : Nat) : Decidable (record.Covers i) :=
  inferInstanceAs (Decidable (_ ∧ _))

/-- The bytes of a record: its header, then its payload. -/
def bytes (buffer : Bytes) (record : Record) : Bytes :=
  buffer.slice record.offset record.start ++ record.payload buffer

theorem start_ofHeader_header (r : Region) (buffer : Bytes) (o limit : Nat) :
    (ofHeader o (r.header buffer o) limit).start = o + r.headerSize := by
  cases r <;> rfl

/-- A header that can be read has its payload in bounds. -/
theorem spans_ofHeader {r : Region} {buffer : Bytes} {o : Nat}
    (hfits : o + r.headerSize ≤ r.readable buffer) :
    (ofHeader o (r.header buffer o) (r.readable buffer)).Spans r buffer := by
  have hsize : (r.header buffer o).size = r.headerSize := by cases r <;> rfl
  refine ⟨start_ofHeader_header r buffer o _, ?_, start_le_stop_ofHeader _ _ _, ?_, ?_⟩
  · simp only [ofHeader, hsize]
    split <;> split <;> omega
  · simp only [ofHeader, hsize]
    split <;> omega
  · exact (Bytes.slice_natCast _ _ _).symm

end Record

/-! ## Records that follow each other -/

namespace Bytes

theorem slice_append_slice (b : Bytes) {i j k : Nat} (hij : i ≤ j) (hjk : j ≤ k) :
    b.slice i j ++ b.slice j k = b.slice i k := by
  have hsplit := b.window_append_window i (j - i) (k - j)
  rw [Nat.add_sub_cancel' hij, show j - i + (k - j) = k - i by omega] at hsplit
  rw [slice_natCast, slice_natCast, slice_natCast, hsplit]

end Bytes

namespace Record

/-- The records follow each other without gaps from offset `lo` to offset `hi`. -/
inductive Tiles : Nat → List Record → Nat → Prop where
  /-- No record takes no room. -/
  | nil (lo : Nat) : Tiles lo [] lo
  /-- The next record starts where the one before ends. -/
  | cons {record : Record} {records : List Record} {hi : Nat}
      (start_le : record.start ≤ record.stop) (rest : Tiles record.stop records hi) :
      Tiles record.offset (record :: records) hi

namespace Tiles

variable {buffer : Bytes} {lo hi : Nat} {records : List Record} {record : Record}

theorem concat (h : Tiles lo records record.offset) (hle : record.start ≤ record.stop) :
    Tiles lo (records ++ [record]) record.stop := by
  generalize hmid : record.offset = mid at h
  induction h with
  | nil lo =>
    subst hmid
    exact .cons hle (.nil _)
  | cons start_le rest ih => exact .cons start_le (ih hmid)

theorem le (h : Tiles lo records hi) : lo ≤ hi := by
  induction h with
  | nil => exact Nat.le_refl _
  | @cons record _ hi start_le _ ih =>
    have hstart : record.offset ≤ record.start := Nat.le_add_right _ _
    omega

theorem lo_le_offset (h : Tiles lo records hi) (hmem : record ∈ records) :
    lo ≤ record.offset := by
  induction h with
  | nil => cases hmem
  | @cons first _ _ start_le _ ih =>
    have hstart : first.offset ≤ first.start := Nat.le_add_right _ _
    rcases List.mem_cons.1 hmem with rfl | hrest
    · exact Nat.le_refl _
    · have := ih hrest
      omega

/-- The payload of a record ends before all records behind it. -/
theorem pairwise_stop_le (h : Tiles lo records hi) :
    records.Pairwise fun a b => a.stop ≤ b.offset := by
  induction h with
  | nil => exact .nil
  | cons _ rest ih => exact .cons (fun _ hmem => rest.lo_le_offset hmem) ih

theorem pairwise_inPayload (h : Tiles lo records hi) :
    records.Pairwise fun a b => ∀ i, a.InPayload i → ¬ b.InPayload i := by
  refine h.pairwise_stop_le.imp ?_
  rintro a b hle i ⟨-, hia⟩ ⟨hbi, -⟩
  have hstart : b.offset ≤ b.start := Nat.le_add_right _ _
  omega

/-- The bytes of the records are those of the buffer, from end to end. -/
theorem flatMap_bytes (h : Tiles lo records hi) (buffer : Bytes) :
    records.flatMap (bytes buffer) = buffer.slice lo hi := by
  induction h with
  | nil lo =>
    rw [Bytes.slice_natCast, Nat.sub_self]
    rfl
  | @cons record records hi start_le rest ih =>
    have hstart : record.offset ≤ record.start := Nat.le_add_right _ _
    have hpayload : record.payload buffer = buffer.slice record.start record.stop :=
      (Bytes.slice_natCast _ _ _).symm
    calc (record :: records).flatMap (bytes buffer)
        = buffer.slice record.offset record.start ++ buffer.slice record.start record.stop ++
            buffer.slice record.stop hi := by rw [List.flatMap_cons, ih, bytes, hpayload]
      _ = buffer.slice record.offset record.stop ++ buffer.slice record.stop hi := by
          rw [Bytes.slice_append_slice buffer hstart start_le]
      _ = buffer.slice record.offset hi :=
          Bytes.slice_append_slice buffer (hstart.trans start_le) rest.le

/-- An offset between the ends belongs to one of the records, and to one only. -/
theorem countP_covers (h : Tiles lo records hi) (i : Nat) :
    records.countP (fun record => record.Covers i) = if lo ≤ i ∧ i < hi then 1 else 0 := by
  induction h with
  | nil lo =>
    rw [List.countP_nil, if_neg]
    omega
  | @cons record records hi start_le rest ih =>
    have hstart : record.offset ≤ record.start := Nat.le_add_right _ _
    have hrest := rest.le
    rw [List.countP_cons, ih]
    -- The offset is in this record, or behind it if anywhere.
    by_cases hcovers : record.Covers i
    · obtain ⟨hle, hlt⟩ := hcovers
      rw [if_neg (by omega), if_pos (decide_eq_true ⟨hle, hlt⟩), if_pos (by omega)]
    · have hiff : (record.stop ≤ i ∧ i < hi) ↔ (record.offset ≤ i ∧ i < hi) := by
        simp only [Covers] at hcovers
        omega
      simp only [hcovers, decide_false, Bool.false_eq_true, if_false, Nat.add_zero, hiff]

end Tiles

end Record

/-! ## Lists that run forwards -/

namespace Walker

variable {w : Walker} {buffer : Bytes} {i k : Nat}

/-- The records of a walk are those of the offsets of its orbit at which it goes on. -/
theorem records_eq_range (hw : w.Proper) (buffer : Bytes) :
    ∃ k, (∀ i < k, w.Live buffer i) ∧
      (w.walk buffer).records = (List.range k).map (w.recordAt buffer) := by
  by_cases hopen : w.Opens buffer
  · obtain ⟨k, s, hwalk⟩ := walk_followsOrbit hw hopen
    exact ⟨k, fun i hi => live_of_ending_eq_none (hwalk.live i hi), hwalk.records_eq⟩
  · -- There is no list, and the run is over before it starts.
    obtain ⟨hregion, hshort⟩ := Classical.not_imp.1 hopen
    have hbegin : (Run.begin w buffer).position = .ended := by
      simp only [Run.begin, hregion, Nat.not_lt.1 hshort, if_true]
    refine ⟨0, fun i hi => absurd hi (Nat.not_lt_zero i), ?_⟩
    rw [walk, Run.rest_of_ended hbegin]
    rfl

/-- A record whose pointer leads behind its header ends where the walk goes on. -/
theorem stop_recordAt (hlive : w.Live buffer (i + 1))
    (hforward : w.orbit buffer i + w.region.headerSize ≤ w.orbit buffer (i + 1)) :
    (w.recordAt buffer i).stop = w.orbit buffer (i + 1) := by
  have hsize : (w.region.header buffer (w.orbit buffer i)).size = w.region.headerSize := by
    cases w.region <;> rfl
  have hnext : (w.region.header buffer (w.orbit buffer i)).nextPtr = w.orbit buffer (i + 1) := rfl
  have hpos : 0 < w.region.headerSize := by cases w.region <;> decide
  have hfits := hlive.fits
  simp only [recordAt, Record.ofHeader, hsize, hnext]
  split <;> omega

/-- **Records of a list that runs forwards follow each other without gaps.**  The last of
them may point anywhere. -/
theorem tiles_of_forward (hlive : ∀ i < k + 1, w.Live buffer i)
    (hforward : ∀ i < k, w.orbit buffer i + w.region.headerSize ≤ w.orbit buffer (i + 1)) :
    Record.Tiles w.root.toNat ((List.range (k + 1)).map (w.recordAt buffer))
      (w.recordAt buffer k).stop := by
  have hle : ∀ i, (w.recordAt buffer i).start ≤ (w.recordAt buffer i).stop :=
    fun i => Record.start_le_stop_ofHeader _ _ _
  rw [List.range_succ, List.map_append, List.map_singleton]
  induction k with
  | zero => exact Record.Tiles.concat (.nil _) (hle 0)
  | succ k ih =>
    have hbefore := ih (fun i hi => hlive i (by omega)) (fun i hi => hforward i (by omega))
    rw [stop_recordAt (hlive (k + 1) (by omega)) (hforward k (by omega))] at hbefore
    rw [List.range_succ, List.map_append, List.map_singleton]
    exact hbefore.concat (hle (k + 1))

end Walker

/-! ## Whole walks -/

namespace Record

/-- Headers and payloads of the records are the bytes of the buffer from `lo` to `hi`. -/
structure Tiling (buffer : Bytes) (lo : Int) (records : List Record) (hi : Nat) : Prop where
  /-- Payloads lie apart. -/
  disjoint : records.Pairwise fun a b => ∀ i, a.InPayload i → ¬ b.InPayload i
  /-- Headers and payloads, in the order of the records, are what the buffer holds there. -/
  flatMap_eq : records.flatMap (bytes buffer) = buffer.slice lo hi
  /-- No offset in between is left out, and none is in two records. -/
  countP_eq : ∀ i : Nat,
    records.countP (fun record => record.Covers i) = if lo ≤ i ∧ i < hi then 1 else 0

theorem Tiles.tiling {lo hi : Nat} {records : List Record} (h : Tiles lo records hi)
    (buffer : Bytes) : Tiling buffer lo records hi := by
  refine ⟨h.pairwise_inPayload, h.flatMap_bytes buffer, fun i => ?_⟩
  rw [h.countP_covers]
  simp only [Int.ofNat_le]

end Record

/-- Of whatever list, payloads are in bounds, and those of a list that runs forwards tile it. -/
theorem Walker.tiling_of_proper {w : Walker} (hw : w.Proper) (buffer : Bytes) :
    (∀ record ∈ (w.walk buffer).records, record.Spans w.region buffer) ∧
    ∀ last ∈ (w.walk buffer).records.getLast?,
      (∀ record ∈ (w.walk buffer).records.dropLast,
        record.offset + w.region.headerSize ≤ record.header.nextPtr) →
      Record.Tiling buffer w.root (w.walk buffer).records last.stop := by
  obtain ⟨k, hlive, hrecords⟩ := records_eq_range hw buffer
  rw [hrecords]
  constructor
  · intro record hmem
    obtain ⟨i, hi, rfl⟩ := List.mem_map.1 hmem
    exact Record.spans_ofHeader (hlive i (List.mem_range.1 hi)).fits
  · intro last hlast hforward
    cases k with
    | zero => cases hlast
    | succ k =>
      have hlast' : last = w.recordAt buffer k := by
        rw [List.range_succ, List.map_append, List.map_singleton, List.getLast?_concat] at hlast
        exact (Option.some.inj hlast).symm
      have hforward' : ∀ i < k,
          w.orbit buffer i + w.region.headerSize ≤ w.orbit buffer (i + 1) := by
        intro i hi
        rw [List.range_succ, List.map_append, List.map_singleton, List.dropLast_concat] at hforward
        exact hforward _ (List.mem_map_of_mem (List.mem_range.2 hi))
      have htiling := (tiles_of_forward hlive hforward').tiling buffer
      rw [Int.toNat_of_nonneg hw.root_nonneg] at htiling
      rw [hlast']
      exact htiling

/-- **Payloads are in bounds, and tile a list that runs forwards.**  This is so for the
legacy list, from any root that does not count from the end, and for the extended one.  If
all records but the last point behind their headers, then headers and payloads are the bytes
of the buffer from the root to the end of the last payload, each of them once. -/
theorem payloads_tile (buffer : Bytes) (strict : Bool) (w : Walker)
    (hw : (∃ root : Nat, w = .legacy root strict) ∨ w = .extended strict) :
    (∀ record ∈ (w.walk buffer).records, record.Spans w.region buffer) ∧
    ∀ last ∈ (w.walk buffer).records.getLast?,
      (∀ record ∈ (w.walk buffer).records.dropLast,
        record.offset + w.region.headerSize ≤ record.header.nextPtr) →
      Record.Tiling buffer w.root (w.walk buffer).records last.stop := by
  rcases hw with ⟨root, rfl⟩ | rfl
  · exact Walker.tiling_of_proper (proper_legacy root strict) buffer
  · exact Walker.tiling_of_proper (proper_extended strict) buffer

/-- Two legacy capabilities of four bytes each, the first at offset 2. -/
def neighbours : Bytes :=
  [0, 0, 0x09, 6, 0xAA, 0xBB, 0x05, 0, 0xCC, 0xDD]

/-- The first of two neighbours ends where the second starts. -/
theorem payloads_tile_neighbours :
    ((Walker.legacy 2).walk neighbours).records.getLast? =
        some ⟨6, { capId := 5, nextPtr := 0 }, 10⟩ ∧
      (∀ record ∈ ((Walker.legacy 2).walk neighbours).records.dropLast,
        record.offset + 2 ≤ record.header.nextPtr) ∧
      Record.Tiling neighbours 2 ((Walker.legacy 2).walk neighbours).records 10 := by
  have hlast : ((Walker.legacy 2).walk neighbours).records.getLast? =
      some ⟨6, { capId := 5, nextPtr := 0 }, 10⟩ := by decide +kernel
  have hforward : ∀ record ∈ ((Walker.legacy 2).walk neighbours).records.dropLast,
      record.offset + 2 ≤ record.header.nextPtr := by decide +kernel
  have htile := payloads_tile neighbours false (.legacy 2) (Or.inl ⟨2, rfl⟩)
  exact ⟨hlast, hforward, htile.2 _ hlast hforward⟩

end ConfigSpace
