import Katran.Bpf.Bytes
import Katran.Foundation.Rotation
import Mathlib.Algebra.Group.Nat.Defs

/-! # Reading the ring of perf events

The kernel writes records into a ring of pages behind a header page, and `handlePerfEvent`
hands the samples among them to a callback. A record that goes on at the front of the ring is
put together in a buffer first. Reads are checked against what they point into, so that it is
a theorem that none is out of bounds.
-/

namespace Katran

open Foundation

/-! ## The reader -/

/-- `PERF_RECORD_LOST` -/
def perfRecordLost : UInt32 := 2
/-- `PERF_RECORD_SAMPLE` -/
def perfRecordSample : UInt32 := 9

/-- What can end the reader other than that it returns. A loop that has not come to its end
is `running`. -/
inductive PerfFault where
  | outOfBounds
  | checkFailed
  | overflow
  | divisionByZero
  | running
deriving DecidableEq, Repr

/-- A pointer to some place in an object. -/
structure PerfPointer where
  object : List UInt8
  off : Nat
deriving DecidableEq, Repr

namespace PerfPointer

/-- Reads bytes behind a pointer, which must not leave the object. -/
def load (event : PerfPointer) (off size : Nat) : Except PerfFault (List UInt8) :=
  if event.off + off + size ≤ event.object.length then
    .ok ((event.object.drop (event.off + off)).take size)
  else .error .outOfBounds

/-- `header.type` -/
def type (event : PerfPointer) : Except PerfFault UInt32 :=
  (event.load 0 4).map (Bytes.read32 · 0)

/-- `header.size` -/
def headerSize (event : PerfPointer) : Except PerfFault UInt16 :=
  (event.load 6 2).map (Bytes.read16 · 0)

/-- The field `size` of a sample. -/
def size (event : PerfPointer) : Except PerfFault UInt32 := (event.load 8 4).map (Bytes.read32 · 0)

/-- The field `lost` of a record of lost samples. -/
def lost (event : PerfPointer) : Except PerfFault (List UInt8) := event.load 16 8

end PerfPointer

/-- A call of the callback: the memory from the pointer `data` on, and the size. -/
structure PerfCall where
  data : List UInt8
  size : UInt32
deriving DecidableEq, Repr

/-- `std::string::resize` -/
def resizeString (text : List UInt8) (size : Nat) : List UInt8 :=
  text.take size ++ List.replicate (size - text.length) 0

/-- `std::string::assign`, which forgets what the text was -/
def assignString (_ bytes : List UInt8) : List UInt8 := bytes

/-- `std::string::insert` at an index -/
def insertString (text : List UInt8) (index : Nat) (bytes : List UInt8) :
    Except PerfFault (List UInt8) :=
  if index ≤ text.length then .ok (text.take index ++ bytes ++ text.drop index)
  else .error .outOfBounds

/-- `struct perf_event_mmap_page`, with the pages behind it. -/
structure PerfEventMmapPage where
  dataHead : UInt64
  dataTail : UInt64
  data : List UInt8
deriving DecidableEq, Repr

namespace BpfAdapter

/-- The first part of a turn of the loop: the event, the buffer, and the next `begin`.
Pointers into the ring are given by their distance from `base`. -/
def nextEvent (ring : List UInt8) (bufferSize : Nat) (buffer : List UInt8) (start : Nat) :
    Except PerfFault (PerfPointer × List UInt8 × Nat) := do
  let event : PerfPointer := ⟨ring, start⟩
  let size ← event.headerSize
  if start + size.toNat > bufferSize then
    let len := bufferSize - start
    if ¬ len < size.toNat then .error .checkFailed
    else
      let buffer := if size.toNat > buffer.length then resizeString buffer size.toNat else buffer
      let back ← event.load 0 len
      let buffer := assignString buffer back
      let front ← PerfPointer.load ⟨ring, 0⟩ 0 (size.toNat - len)
      let buffer ← insertString buffer len front
      let event : PerfPointer := ⟨buffer, 0⟩
      let size ← event.headerSize
      .ok (event, buffer, size.toNat - len)
  else if start + size.toNat = bufferSize then .ok (event, buffer, 0)
  else .ok (event, buffer, start + size.toNat)

/-- The second part: the callback is called for a sample. What is read of other records is
logged, if that is wanted. -/
def dispatch (verbose : Bool) (event : PerfPointer) : Except PerfFault (Option PerfCall) := do
  let type ← event.type
  if type = perfRecordSample then
    let size ← event.size
    .ok (some ⟨event.object.drop (event.off + 12), size⟩)
  else if type = perfRecordLost then
    if verbose then
      let _ ← event.lost
      .ok none
    else .ok none
  else if verbose then
    let _ ← event.headerSize
    .ok none
  else .ok none

/-- The loop: the calls in their order, and the buffer afterwards. -/
def readEvents (verbose : Bool) (ring : List UInt8) (bufferSize finish : Nat) :
    (fuel : Nat) → (buffer : List UInt8) → (start : Nat) →
      Except PerfFault (List PerfCall × List UInt8)
  | 0, _, _ => .error .running
  | fuel + 1, buffer, start =>
      if start = finish then .ok ([], buffer)
      else do
        let (event, buffer, start) ← nextEvent ring bufferSize buffer start
        let call ← dispatch verbose event
        let (calls, buffer) ← readEvents verbose ring bufferSize finish fuel buffer start
        .ok (call.toList ++ calls, buffer)

/-- The calls of the callback, and the page and the buffer afterwards. -/
def handlePerfEvent (verbose : Bool) (fuel : Nat) (header : Option PerfEventMmapPage)
    (buffer : List UInt8) (pageSize pages : Nat) :
    Except PerfFault (List PerfCall × Option PerfEventMmapPage × List UInt8) :=
  match header with
  | none => .ok ([], none, buffer)
  | some page =>
      let bufferSize := pageSize * pages
      if 2 ^ 31 ≤ bufferSize then .error .overflow
      else if page.dataHead = page.dataTail then .ok ([], some page, buffer)
      else if bufferSize = 0 then .error .divisionByZero
      else do
        let (calls, buffer) ← readEvents verbose page.data bufferSize
          (page.dataHead.toNat % bufferSize) fuel buffer (page.dataTail.toNat % bufferSize)
        .ok (calls, some { page with dataTail := page.dataHead }, buffer)

end BpfAdapter

/-! ## Records -/

/-- A record as the kernel writes it: its header gives its length, which is a multiple of
eight, and it has the fields of its type. -/
structure PerfRecord where
  bytes : List UInt8
  size : (Bytes.read16 bytes 6).toNat = bytes.length
  positive : 0 < bytes.length
  aligned : 8 ∣ bytes.length
  sample : Bytes.read32 bytes 0 = perfRecordSample → 12 ≤ bytes.length
  lost : Bytes.read32 bytes 0 = perfRecordLost → 24 ≤ bytes.length

namespace PerfRecord

/-- Whether a record is a sample. -/
def isSample (record : PerfRecord) : Bool := Bytes.read32 record.bytes 0 = perfRecordSample

private theorem eight_le (record : PerfRecord) : 8 ≤ record.bytes.length :=
  Nat.le_of_dvd record.positive record.aligned

/-- A call hands on a sample: it has the size that the sample gives, and the bytes behind this
field are where the pointer of the call goes. -/
structure Delivered (record : PerfRecord) (call : PerfCall) : Prop where
  size : call.size = Bytes.read32 record.bytes 8
  bytes : record.bytes.drop 12 <+: call.data

end PerfRecord

/-- The bytes from `data_tail` to `data_head`, modulo the size of the ring. -/
def PerfEventMmapPage.pending (page : PerfEventMmapPage) : List UInt8 :=
  (List.range (page.dataHead.toNat - page.dataTail.toNat)).map fun index =>
    Bytes.read8 page.data ((page.dataTail.toNat + index) % page.data.length)

/-! ## Reading a record -/

namespace PerfPointer

variable {event : PerfPointer} {front : List UInt8} {off size : Nat}

/-- What is known to be at a pointer can be read. -/
theorem load_of_start (there : front <+: event.object.drop event.off) (some : 0 < size)
    (inside : off + size ≤ front.length) :
    event.load off size = .ok (Bytes.slice front off size) := by
  have length := there.length_le
  rw [List.length_drop] at length
  rw [load, if_pos (by omega), ← List.drop_drop]
  obtain ⟨others, whole⟩ := there
  rw [← whole, List.drop_append_of_le_length (by omega),
    List.take_append_of_le_length (by rw [List.length_drop]; omega), Bytes.slice]

private theorem headerSize_of_start (there : front <+: event.object.drop event.off)
    (inside : 8 ≤ front.length) : event.headerSize = .ok (Bytes.read16 front 6) := by
  rw [headerSize, load_of_start there (by decide) inside, Except.map,
    Bytes.read16_slice front 6 (by decide)]

private theorem type_of_start (there : front <+: event.object.drop event.off)
    (inside : 8 ≤ front.length) : event.type = .ok (Bytes.read32 front 0) := by
  rw [type, load_of_start there (by decide) (by omega), Except.map,
    Bytes.read32_slice front 0 (by decide)]

end PerfPointer

namespace BpfAdapter

open PerfPointer

variable {ring : List UInt8} {record : PerfRecord} {start : Nat}

/-- The header of a record is in front of the end of the ring, and says how long the record
is. -/
theorem headerSize_of_rotate (ringAligned : 8 ∣ ring.length) (startAligned : 8 ∣ start)
    (inside : start < ring.length) (written : record.bytes <+: ring.rotate start) :
    ∃ size, PerfPointer.headerSize ⟨ring, start⟩ = .ok size ∧ size.toNat = record.bytes.length := by
  have eight := record.eight_le
  have front : (record.bytes.take 8).length = 8 := List.length_take_of_le eight
  have there : record.bytes.take 8 <+: ring.drop start := by
    apply prefix_drop_of_rotate ((List.take_prefix 8 record.bytes).trans written)
    rw [front]
    omega
  have same : Bytes.read16 (record.bytes.take 8) 6 = Bytes.read16 record.bytes 6 :=
    Bytes.read16_of_take List.take_take (by decide : 6 + 2 ≤ 8)
  refine ⟨Bytes.read16 record.bytes 6, ?_, record.size⟩
  rw [headerSize_of_start there (by omega), same]

/-- Putting a record together that goes on at the front of the ring. -/
theorem insertString_back (back front : List UInt8) :
    insertString back back.length front = .ok (back ++ front) := by
  rw [insertString, if_pos (Nat.le_refl _), List.take_length, List.drop_length, List.append_nil]

/-- The event of a turn has the bytes of the record, and the next turn starts behind it. -/
theorem nextEvent_of_rotate (ringAligned : 8 ∣ ring.length) (startAligned : 8 ∣ start)
    (inside : start < ring.length) (written : record.bytes <+: ring.rotate start)
    (buffer : List UInt8) :
    ∃ event later, nextEvent ring ring.length buffer start =
        .ok (event, later, (start + record.bytes.length) % ring.length) ∧
      record.bytes <+: event.object.drop event.off := by
  have short := written.length_le
  rw [List.length_rotate] at short
  have eight := record.eight_le
  obtain ⟨size, sized, length⟩ := headerSize_of_rotate ringAligned startAligned inside written
  unfold nextEvent
  dsimp only
  rw [sized]
  simp only [bind, Except.bind, length]
  by_cases straddles : start + record.bytes.length > ring.length
  · have whole := eq_append_of_rotate written (Nat.le_of_lt inside) (Nat.le_of_lt straddles)
    have rest : (ring.drop start).length = ring.length - start := List.length_drop
    have back : PerfPointer.load ⟨ring, start⟩ 0 (ring.length - start) = .ok (ring.drop start) := by
      rw [load_of_start (List.prefix_rfl : ring.drop start <+: ring.drop start) (by omega)
        (by omega), Bytes.slice, List.drop_zero, List.take_of_length_le (by omega)]
    have front : PerfPointer.load ⟨ring, 0⟩ 0 (record.bytes.length - (ring.length - start)) =
        .ok (ring.take (record.bytes.length - (ring.length - start))) := by
      rw [load_of_start (List.prefix_rfl : ring <+: ring) (by omega) (by omega),
        Bytes.slice, List.drop_zero]
    have again : PerfPointer.headerSize ⟨record.bytes, 0⟩ = .ok (Bytes.read16 record.bytes 6) :=
      headerSize_of_start (List.prefix_rfl : record.bytes <+: record.bytes) eight
    have inserted := insertString_back (ring.drop start)
      (ring.take (record.bytes.length - (ring.length - start)))
    rw [← whole, rest] at inserted
    rw [if_pos straddles, if_neg (by omega), back]
    dsimp only [assignString]
    rw [front]
    dsimp only
    rw [inserted]
    dsimp only
    rw [again]
    dsimp only
    refine ⟨⟨record.bytes, 0⟩, record.bytes, ?_, List.prefix_rfl⟩
    rw [record.size, Nat.mod_eq_sub_mod (by omega), Nat.mod_eq_of_lt (by omega)]
    congr 3
    omega
  · rw [if_neg straddles]
    have there := prefix_drop_of_rotate written (Nat.le_of_not_lt straddles)
    by_cases edge : start + record.bytes.length = ring.length
    · rw [if_pos edge]
      refine ⟨⟨ring, start⟩, buffer, ?_, there⟩
      rw [edge, Nat.mod_self]
    · rw [if_neg edge]
      refine ⟨⟨ring, start⟩, buffer, ?_, there⟩
      rw [Nat.mod_eq_of_lt (by omega)]

/-- A record is handed on if it is a sample. -/
theorem dispatch_of_start (verbose : Bool) {event : PerfPointer}
    (there : record.bytes <+: event.object.drop event.off) :
    ∃ call, dispatch verbose event = .ok call ∧
      List.Forall₂ PerfRecord.Delivered ([record].filter PerfRecord.isSample) call.toList := by
  have eight := record.eight_le
  unfold dispatch
  rw [type_of_start there eight]
  simp only [bind, Except.bind]
  by_cases sample : Bytes.read32 record.bytes 0 = perfRecordSample
  · have long := record.sample sample
    have size : event.size = .ok (Bytes.read32 record.bytes 8) := by
      rw [PerfPointer.size, load_of_start there (by decide) long, Except.map,
        Bytes.read32_slice _ 8 (by decide)]
    have kept : [record].filter PerfRecord.isSample = [record] :=
      List.filter_cons_of_pos (decide_eq_true sample)
    rw [if_pos sample, size, kept]
    refine ⟨_, rfl, .cons ⟨rfl, ?_⟩ .nil⟩
    rw [← List.drop_drop]
    exact there.drop 12
  · have skipped : [record].filter PerfRecord.isSample = [] :=
      List.filter_cons_of_neg (by rw [PerfRecord.isSample, decide_eq_true_eq]; exact sample)
    rw [if_neg sample, skipped]
    refine ⟨none, ?_, .nil⟩
    cases verbose with
    | false => simp only [Bool.false_eq_true, ↓reduceIte, ite_self]
    | true =>
        simp only [↓reduceIte]
        split
        next lost =>
          rw [PerfPointer.lost, load_of_start there (by decide) (record.lost lost)]
        next => rw [headerSize_of_start there eight]

/-! ## Reading all records -/

/-- The loop hands on the samples among the records that start at its position, and ends
behind them. -/
theorem readEvents_of_rotate (verbose : Bool) (ringAligned : 8 ∣ ring.length)
    (records : List PerfRecord) (buffer : List UInt8) {pos : Nat} (posAligned : 8 ∣ pos)
    (written : records.flatMap PerfRecord.bytes <+: ring.rotate pos)
    (fits : (records.flatMap PerfRecord.bytes).length < ring.length) :
    ∃ calls later, (∀ fuel, records.length < fuel →
        readEvents verbose ring ring.length
          ((pos + (records.flatMap PerfRecord.bytes).length) % ring.length) fuel buffer
          (pos % ring.length) = .ok (calls, later)) ∧
      List.Forall₂ PerfRecord.Delivered (records.filter PerfRecord.isSample) calls := by
  induction records generalizing buffer pos with
  | nil =>
      refine ⟨[], buffer, ?_, .nil⟩
      intro fuel enough
      obtain ⟨fuel, rfl⟩ := Nat.exists_eq_succ_of_ne_zero (Nat.ne_of_gt enough)
      exact if_pos rfl
  | cons record records ih =>
      rw [List.flatMap_cons] at written fits ⊢
      have total : (record.bytes ++ records.flatMap PerfRecord.bytes).length =
          record.bytes.length + (records.flatMap PerfRecord.bytes).length := List.length_append
      have positive := record.positive
      have inside : pos % ring.length < ring.length := Nat.mod_lt _ (by omega)
      have here : record.bytes <+: ring.rotate (pos % ring.length) := by
        rw [List.rotate_mod]
        exact (List.prefix_append _ _).trans written
      obtain ⟨event, reassembled, next, there⟩ := nextEvent_of_rotate ringAligned
        ((Nat.dvd_mod_iff ringAligned).mpr posAligned) inside here buffer
      obtain ⟨call, dispatched, delivered⟩ := dispatch_of_start verbose there
      obtain ⟨calls, later, loops, rest⟩ := ih reassembled
        (Nat.dvd_add posAligned record.aligned) (prefix_rotate_add written) (by omega)
      refine ⟨call.toList ++ calls, later, ?_, ?_⟩
      · intro fuel enough
        obtain ⟨fuel, rfl⟩ := Nat.exists_eq_succ_of_ne_zero (Nat.ne_of_gt (Nat.lt_of_le_of_lt
          (Nat.zero_le _) enough))
        have unfinished : ¬ pos % ring.length =
            (pos + (record.bytes ++ records.flatMap PerfRecord.bytes).length) % ring.length :=
          fun same => add_mod_ne pos (by omega) fits same.symm
        have rest := loops fuel (Nat.lt_of_succ_lt_succ enough)
        rw [Nat.add_assoc, ← total] at rest
        rw [readEvents, if_neg unfinished, next]
        simp only [bind, Except.bind, dispatched]
        rw [Nat.mod_add_mod, rest]
      · change List.Forall₂ _ (([record] ++ records).filter _) _
        rw [List.filter_append]
        exact List.rel_append delivered rest

private theorem pending_eq_take_rotate {page : PerfEventMmapPage}
    (fits : page.dataHead.toNat - page.dataTail.toNat ≤ page.data.length) :
    page.pending = (page.data.rotate page.dataTail.toNat).take
      (page.dataHead.toNat - page.dataTail.toNat) :=
  map_range_mod_eq_take_rotate page.data 0 page.dataTail.toNat fits

/-- **Every record is read once.** If the bytes between the two positions are records, then the
reader returns, the callback has been called for the samples among them, in their order, and
the tail is where the head was. No read has been out of bounds. -/
theorem handlePerfEvent_delivers {pageSize pages : Nat} {page : PerfEventMmapPage}
    (pageAligned : 8 ∣ pageSize) (small : pageSize * pages < 2 ^ 31)
    (mapped : page.data.length = pageSize * pages) (tailAligned : 8 ∣ page.dataTail.toNat)
    (ordered : page.dataTail ≤ page.dataHead)
    (part : page.dataHead.toNat - page.dataTail.toNat < pageSize * pages)
    (records : List PerfRecord) (written : page.pending = records.flatMap PerfRecord.bytes)
    (verbose : Bool) (buffer : List UInt8) :
    ∃ calls later, (∀ fuel, records.length < fuel →
        handlePerfEvent verbose fuel (some page) buffer pageSize pages =
          .ok (calls, some { page with dataTail := page.dataHead }, later)) ∧
      List.Forall₂ PerfRecord.Delivered (records.filter PerfRecord.isSample) calls := by
  have taken := pending_eq_take_rotate (by omega : page.dataHead.toNat - page.dataTail.toNat ≤ _)
  have count : (records.flatMap PerfRecord.bytes).length =
      page.dataHead.toNat - page.dataTail.toNat := by
    rw [← written, PerfEventMmapPage.pending, List.length_map, List.length_range]
  have order : page.dataTail.toNat ≤ page.dataHead.toNat := ordered
  have ringAligned : 8 ∣ page.data.length := by
    rw [mapped]
    exact Nat.dvd_mul_right_of_dvd pageAligned pages
  obtain ⟨calls, later, loops, delivered⟩ := readEvents_of_rotate verbose ringAligned records buffer
    tailAligned (by rw [← written, taken]; exact List.take_prefix _ _) (by omega)
  rw [count, Nat.add_sub_cancel' order] at loops
  by_cases nothing : page.dataHead = page.dataTail
  · have none : records = [] := by
      cases records with
      | nil => rfl
      | cons record records =>
          have positive := record.positive
          rw [List.flatMap_cons, List.length_append, nothing, Nat.sub_self] at count
          omega
    subst none
    have same : ({ page with dataTail := page.dataHead } : PerfEventMmapPage) = page :=
      congrArg (PerfEventMmapPage.mk page.dataHead · page.data) nothing
    refine ⟨[], buffer, ?_, .nil⟩
    intro fuel _
    rw [handlePerfEvent, if_neg (Nat.not_le.mpr small), if_pos nothing, same]
  · refine ⟨calls, later, ?_, delivered⟩
    intro fuel enough
    rw [handlePerfEvent, if_neg (Nat.not_le.mpr small), if_neg nothing, if_neg (by omega), ← mapped,
      loops fuel enough]
    rfl

/-! ## A record around the end of the ring -/

/-- A sample of four bytes. -/
def sampleRecord : PerfRecord where
  bytes := [9, 0, 0, 0, 0, 0, 16, 0, 4, 0, 0, 0, 1, 2, 3, 4]
  size := by decide
  positive := by decide
  aligned := by decide
  sample := by decide
  lost := by decide

/-- A ring of two pages with the sample, of which one half is at the end of the ring. -/
def straddled : PerfEventMmapPage where
  dataHead := 40
  dataTail := 24
  data := [4, 0, 0, 0, 1, 2, 3, 4] ++ List.replicate 16 0 ++ [9, 0, 0, 0, 0, 0, 16, 0]

/-- Records that straddle the end of the ring are delivered. -/
theorem handlePerfEvent_delivers_straddled :
    (∃ calls later, (∀ fuel, 1 < fuel → handlePerfEvent true fuel (some straddled) [] 16 2 =
        .ok (calls, some { straddled with dataTail := 40 }, later)) ∧
      List.Forall₂ PerfRecord.Delivered [sampleRecord] calls) ∧
    handlePerfEvent true 2 (some straddled) [] 16 2 =
      .ok ([⟨[1, 2, 3, 4], 4⟩], some { straddled with dataTail := 40 }, sampleRecord.bytes) := by
  refine ⟨?_, by decide⟩
  exact handlePerfEvent_delivers (by decide) (by decide) (by decide) (by decide) (by decide)
    (by decide) [sampleRecord] (by decide) true []

end BpfAdapter

end Katran
