import Katran.Foundation.Run
import Katran.Pcap.PcapWriter
import Mathlib.Algebra.Group.Nat.Defs

/-! # Captures are valid files

A buffer is empty, or it has one header followed by whole records: this is kept by every
message that `runMulti` takes from its queue (`Capture.Sound`), because each part is
written only if there is room for all of it. Reading such a buffer gives the packets back
(`reads_capture`).
-/

namespace Katran

open Foundation PcapWriter PcapParser

/-! ## Timestamps -/

/-- The microseconds are right although the product wraps around. -/
theorem timestamp_exact {unixUsec : Nat} (clock : unixUsec < 2 ^ 32 * 1000000) :
    (nowSec unixUsec).toNat * 1000000 + (nowUsec unixUsec).toNat = unixUsec ∧
      (nowUsec unixUsec).toNat < 1000000 := by
  have seconds : (nowSec unixUsec).toNat = unixUsec / 1000000 := by
    unfold nowSec
    rw [Nat.toUInt32_eq, UInt32.toNat_ofNat']
    omega
  have product : (nowSec unixUsec * 1000000).toNat = unixUsec / 1000000 * 1000000 % 2 ^ 32 := by
    rw [UInt32.toNat_mul, seconds]
    rfl
  have rest : (nowUsec unixUsec).toNat = unixUsec % 1000000 := by
    unfold nowUsec UInt32.ofInt
    rw [product, UInt32.toNat_ofNat']
    omega
  omega

/-! ## Records -/

/-- A packet with the clock when it was written. -/
abbrev Logged := Nat × PcapMsg

/-- The record of a packet. -/
def record (entry : Logged) : List UInt8 := (recHdr entry.1 entry.2).encode ++ entry.2.bytes

/-- A header and the records of packets. -/
def captureBytes (hdr : PcapHdr) (log : List Logged) : List UInt8 :=
  hdr.encode ++ log.flatMap record

private theorem PcapMsg.length_bytes (msg : PcapMsg) :
    msg.bytes.length = msg.capturedLen.toNat := by
  have whole := msg.captured
  rw [bytes, List.length_take]
  omega

/-- The length of a record in a file. -/
theorem record_length (entry : Logged) :
    (record entry).length = pcaprecHdrSize + entry.2.capturedLen.toNat := by
  rw [record, List.length_append, PcapMsg.length_bytes]
  rfl

/-- A packet that is cut is a prefix of its bytes. -/
theorem PcapMsg.bytes_trim (msg : PcapMsg) (snaplen : UInt32) :
    (msg.trim snaplen).bytes = msg.bytes.take snaplen.toNat := by
  simp only [bytes, trim, List.take_take]
  split
  next shorter =>
    rw [UInt32.lt_iff_toNat_lt] at shorter
    congr 1
    omega
  next longer =>
    rw [UInt32.lt_iff_toNat_lt] at longer
    congr 1
    omega

private theorem PcapMsg.capturedLen_trim (msg : PcapMsg) (snaplen : UInt32) :
    (msg.trim snaplen).capturedLen ≤ snaplen := by
  simp only [trim]
  split
  · exact UInt32.le_refl snaplen
  next longer => exact UInt32.not_lt.mp longer

/-! ## Reading -/

/-- The parser reads one record. -/
theorem getPacket_record {snaplen : UInt32} {entry : Logged} (short : entry.2.capturedLen ≤ snaplen)
    (rest : List UInt8) :
    getPacketFromPcap
    { inputFile := record entry ++ rest, firstRead := false, snaplen := snaplen } =
      (some entry.2.bytes, { inputFile := rest, firstRead := false, snaplen := snaplen }) := by
  have size : (recHdr entry.1 entry.2).encode.length = 16 := rfl
  have length : Bytes.read32 (recHdr entry.1 entry.2).encode 8 = entry.2.capturedLen := by
    exact (Bytes.read32_append_right _ _ 0).trans (Bytes.read32_ofUInt32 ..)
  have whole := entry.2.length_bytes
  have fits : ¬ entry.2.capturedLen > snaplen := UInt32.not_lt.mpr short
  simp only [getPacketFromPcap, readHeader, readFile, record, List.append_assoc, pcaprecHdrSize,
    Bool.false_eq_true, ↓reduceIte, List.take_left' size, List.drop_left' size, size, length, fits,
    List.take_left' whole, List.drop_left' whole, whole, ne_eq, not_true_eq_false]

/-- The parser has read the header of a file. -/
theorem getPacket_header (hdr : PcapHdr) (rest : List UInt8) :
    getPacketFromPcap { inputFile := hdr.encode ++ rest } =
      getPacketFromPcap { inputFile := rest, firstRead := false, snaplen := hdr.snaplen } := by
  have size : hdr.encode.length = 24 := rfl
  have snaplen : Bytes.read32 hdr.encode 16 = hdr.snaplen := by
    exact (Bytes.read32_append_right _ _ 0).trans (Bytes.read32_ofUInt32 ..)
  have read : readHeader { inputFile := hdr.encode ++ rest } =
      (true, { inputFile := rest, firstRead := false, snaplen := hdr.snaplen }) := by
    simp only [readHeader, readFile, pcapHdrSize, ↓reduceIte, List.take_left' size,
      List.drop_left' size, size, snaplen, ne_eq, not_true_eq_false]
  have again : readHeader { inputFile := rest, firstRead := false, snaplen := hdr.snaplen } =
      (true, { inputFile := rest, firstRead := false, snaplen := hdr.snaplen }) := rfl
  simp only [getPacketFromPcap, read, again]

/-- The packets of some records are read in order. -/
theorem reads_records {snaplen : UInt32} {log : List Logged}
    (short : ∀ entry ∈ log, entry.2.capturedLen ≤ snaplen) :
    Reads { inputFile := log.flatMap record, firstRead := false, snaplen := snaplen }
      (log.map (·.2.bytes)) := by
  induction log with
  | nil => exact .done rfl
  | cons entry log ih =>
      have one := getPacket_record (short entry List.mem_cons_self) (log.flatMap record)
      rw [List.flatMap_cons, List.map_cons]
      apply Reads.more
      · rw [one]
      · rw [one]
        exact ih fun other member => short other (List.mem_cons_of_mem entry member)

/-- Parsers that return the same go on in the same way. -/
theorem Reads.congr {first second : PcapParser} {packets : List (List UInt8)}
    (same : first.getPacketFromPcap = second.getPacketFromPcap) (reads : Reads second packets) :
    Reads first packets := by
  cases reads with
  | done ended => exact .done (same ▸ ended)
  | more returned rest => exact .more (same ▸ returned) (same ▸ rest)

/-- A capture is read in order. -/
theorem reads_capture {hdr : PcapHdr} {log : List Logged}
    (short : ∀ entry ∈ log, entry.2.capturedLen ≤ hdr.snaplen) :
    Reads { inputFile := captureBytes hdr log } (log.map (·.2.bytes)) :=
  Reads.congr (getPacket_header hdr (log.flatMap record)) (reads_records short)

private theorem reads_empty : Reads { inputFile := [] } [] := .done rfl

/-! ## Whole runs -/

/-- The writer with what it has done: the packets written to each buffer since the last
restart, the number of packets since the last restart or stop, and whether it was stopped. -/
structure Capture where
  writer : PcapWriter
  log : Nat → List Logged
  amount : Nat
  stopped : Bool

namespace Capture

/-- A capture before its first message. -/
def new (capacities : List Nat) (packetLimit snaplen : UInt32) : Capture where
  writer := .new (capacities.map fun capacity => { capacity := capacity }) packetLimit snaplen
  log := fun _ => []
  amount := 0
  stopped := false

/-- After a packet has been handled, and perhaps written. -/
def logged (capture : Capture) (unixUsec : Nat) (message : PcapMsgMeta) :
    PcapWriter × Option PcapMsg → Capture
  | (writer, none) => { capture with writer := writer }
  | (writer, some _) => { capture with
      writer := writer
      log := Function.update capture.log message.event.toNat
        (capture.log message.event.toNat ++ [(unixUsec, message.msg)])
      amount := capture.amount + 1 }

/-- A message is taken from the queue. -/
def consume (capture : Capture) (unixUsec : Nat) (message : PcapMsgMeta) : Option Capture :=
  (capture.writer.runMultiStep unixUsec message).map fun result =>
    if message.control then
      if message.restart then
        { writer := result.1, log := fun _ => [], amount := 0, stopped := false }
      else if message.stop then { capture with writer := result.1, amount := 0, stopped := true }
      else { capture with writer := result.1 }
    else capture.logged unixUsec message result

/-- Messages with the clock at which they are handled; a shutdown message ends the run. -/
def Step (capture : Capture) (input : Nat × PcapMsgMeta) (after : Capture) : Prop :=
  capture.consume input.1 input.2 = some after

/-- The records of a buffer: its packets, cut. -/
def cut (snaplen : UInt32) (log : List Logged) : List Logged :=
  log.map fun entry => (entry.1, entry.2.trim snaplen)

/-- What a buffer holds, given whether its header has been written: nothing, or a capture of
packets. -/
structure Holds (hdr : PcapHdr) (headerExists : Bool) (log : List Logged) (buffer : IOBufWriter) :
    Prop where
  fits : buffer.data.length ≤ buffer.capacity
  empty : headerExists = false → buffer.data = [] ∧ log = []
  file : headerExists = true → buffer.data = captureBytes hdr (cut hdr.snaplen log)

private theorem captureBytes_append (hdr : PcapHdr) (kept : UInt32) (log : List Logged)
    (entry : Logged) :
    captureBytes hdr (cut kept (log ++ [entry])) =
      captureBytes hdr (cut kept log) ++ record (entry.1, entry.2.trim kept) := by
  simp only [captureBytes, cut, List.map_append, List.map_cons, List.map_nil, List.flatMap_append,
    List.flatMap_cons, List.flatMap_nil, List.append_nil, List.append_assoc]

/-- A record that there is room for extends the capture by its packet. -/
theorem Holds.append {hdr : PcapHdr} {log : List Logged} {buffer : IOBufWriter}
    (holds : Holds hdr true log buffer) {entry : Logged}
    (room : buffer.data.length + (record (entry.1, entry.2.trim hdr.snaplen)).length ≤
      buffer.capacity) :
    Holds hdr true (log ++ [entry])
      (buffer.writeData (record (entry.1, entry.2.trim hdr.snaplen))) := by
  refine ⟨?_, nofun, ?_⟩
  · rw [IOBufWriter.writeData, List.length_append]
    exact room
  · intro _
    rw [captureBytes_append, IOBufWriter.writeData, holds.file rfl]

/-- The counter of packets does not wrap around below its limit. -/
theorem toNat_packetAmount_succ {amount limit : UInt32} (below : amount < limit) :
    (amount + 1).toNat = amount.toNat + 1 := by
  have bound := limit.toNat_lt
  have one : (1 : UInt32).toNat = 1 := rfl
  rw [UInt32.lt_iff_toNat_lt] at below
  rw [UInt32.toNat_add, one, Nat.mod_eq_of_lt (by omega)]

/-- Every buffer is a capture, and the packets have been counted. -/
structure Sound (capacities : List Nat) (snaplen : UInt32) (capture : Capture) : Prop where
  snaplen : capture.writer.snaplen = snaplen
  capacities : capture.writer.dataWriters.map (·.capacity) = capacities
  flags : capture.writer.headerExists.length = capture.writer.dataWriters.length
  buffers : ∀ id buffer, capture.writer.dataWriters[id]? = some buffer →
    Holds capture.writer.pcapHdr (capture.writer.headerExists.getD id false) (capture.log id) buffer
  amount : capture.writer.packetAmount.toNat = capture.amount
  stopped : capture.stopped = true → capture.writer.packetLimit = 0

/-- A capture before its first message is sound. -/
theorem new_sound (capacities : List Nat) (packetLimit snaplen : UInt32) :
    Sound capacities snaplen (new capacities packetLimit snaplen) where
  snaplen := rfl
  capacities := by
    simp only [new, PcapWriter.new, List.map_map]
    exact List.map_id _
  flags := List.length_replicate
  buffers := by
    intro id buffer found
    obtain ⟨capacity, _, rfl⟩ := List.mem_map.mp (List.mem_of_getElem? found)
    have unwritten : (List.replicate (capacities.map fun capacity =>
        ({ capacity := capacity } : IOBufWriter)).length false).getD id false = false := by
      rw [List.getD_eq_getElem?_getD, List.getElem?_replicate]
      split <;> rfl
    refine ⟨Nat.zero_le _, fun _ => ⟨rfl, rfl⟩, ?_⟩
    intro written
    cases unwritten.symm.trans written
  amount := rfl
  stopped := nofun

variable {capacities : List Nat} {snaplen : UInt32} {capture : Capture}

/-- Bytes are written to one buffer, which then holds what it should. -/
theorem Sound.of_write (sound : Sound capacities snaplen capture) {after : Capture} {id : Nat}
    {buffer : IOBufWriter} {bytes : List UInt8}
    (found : capture.writer.dataWriters[id]? = some buffer)
    (dataWriters : after.writer.dataWriters =
      capture.writer.dataWriters.modify id (·.writeData bytes))
    (sameSnaplen : after.writer.snaplen = capture.writer.snaplen)
    (flags : after.writer.headerExists.length = capture.writer.headerExists.length)
    (others : ∀ other ≠ id, after.writer.headerExists.getD other false =
      capture.writer.headerExists.getD other false ∧ after.log other = capture.log other)
    (holds : Holds capture.writer.pcapHdr (after.writer.headerExists.getD id false) (after.log id)
      (buffer.writeData bytes))
    (amount : after.writer.packetAmount.toNat = after.amount)
    (stopped : after.stopped = true → after.writer.packetLimit = 0) :
    Sound capacities snaplen after := by
  have hdr : after.writer.pcapHdr = capture.writer.pcapHdr := by
    simp only [pcapHdr, snaplenOrMax, sameSnaplen]
  refine ⟨sameSnaplen.trans sound.snaplen, ?_, ?_, ?_, amount, stopped⟩
  · rw [← sound.capacities, dataWriters]
    apply List.ext_getElem?
    intro other
    simp only [List.getElem?_map, List.getElem?_modify]
    cases capture.writer.dataWriters[other]? with
    | none => rfl
    | some known =>
        by_cases same : id = other
        · simp only [same, ↓reduceIte, Option.map_eq_map, Option.map_some]
          rfl
        · simp only [same, ↓reduceIte, Option.map_eq_map, Option.map_some]
  · rw [flags, dataWriters, List.length_modify]
    exact sound.flags
  · intro other known present
    rw [hdr]
    rw [dataWriters, List.getElem?_modify] at present
    obtain ⟨old, was, rfl⟩ := Option.map_eq_some_iff.mp present
    by_cases same : id = other
    · subst same
      obtain rfl := Option.some.inj (found.symm.trans was)
      rw [if_pos rfl]
      exact holds
    · rw [if_neg same, (others other (Ne.symm same)).1, (others other (Ne.symm same)).2]
      exact sound.buffers other old was

/-- Writing a header keeps the captures valid. -/
theorem Sound.writePcapHeader (sound : Sound capacities snaplen capture) (id : Nat) :
    let result := capture.writer.writePcapHeader id
    Sound capacities snaplen { capture with writer := result.2 } ∧
      result.2.packetAmount = capture.writer.packetAmount ∧
      result.2.packetLimit = capture.writer.packetLimit ∧
      (result.1 = true → (result.2.dataWriters[id]?).isSome ∧
        result.2.headerExists.getD id false = true) := by
  dsimp only
  unfold PcapWriter.writePcapHeader
  split
  next => exact ⟨sound, rfl, rfl, nofun⟩
  next buffer found =>
    split
    next written =>
      refine ⟨sound, rfl, rfl, ?_⟩
      intro _
      rw [found]
      exact ⟨rfl, written⟩
    next unwritten =>
      split
      next => exact ⟨sound, rfl, rfl, nofun⟩
      next room =>
        have inside : id < capture.writer.headerExists.length := by
          rw [sound.flags]
          exact (List.getElem?_eq_some_iff.mp found).1
        have marked : (capture.writer.headerExists.set id true).getD id false = true := by
          rw [List.getD_eq_getElem?_getD, List.getElem?_set_self inside, Option.getD_some]
        have before := sound.buffers id buffer found
        obtain ⟨blank, unlogged⟩ := before.empty (Bool.eq_false_iff.mpr unwritten)
        have free : pcapHdrSize ≤ buffer.capacity := by
          rw [not_not, IOBufWriter.available, decide_eq_true_eq, blank] at room
          exact room
        refine ⟨?_, rfl, rfl, ?_⟩
        · refine sound.of_write found rfl rfl List.length_set ?_ ?_ sound.amount sound.stopped
          · intro other different
            refine ⟨?_, rfl⟩
            rw [List.getD_eq_getElem?_getD, List.getElem?_set_ne (Ne.symm different),
              List.getD_eq_getElem?_getD]
          · dsimp only
            rw [marked, unlogged]
            refine ⟨?_, nofun, ?_⟩
            · rw [IOBufWriter.writeData, blank]
              exact free
            · intro _
              rw [IOBufWriter.writeData, blank]
              rfl
        · intro _
          refine ⟨?_, marked⟩
          simp only [modifyWriter, List.getElem?_modify, found, Option.map_eq_map, Option.map_some,
            Option.isSome_some]

/-- The two parts of a record are written one after the other. -/
theorem writePacket_eq (writer : PcapWriter) (unixUsec : Nat) (msg : PcapMsg) {id : Nat}
    (inside : id < writer.dataWriters.length) :
    writer.writePacket unixUsec msg id =
      writer.modifyWriter id (·.writeData (record (unixUsec, msg))) := by
  rw [PcapWriter.writePacket, if_neg (Nat.not_le.mpr inside)]
  simp only [modifyWriter, PcapWriter.mk.injEq, and_self, and_true]
  apply List.ext_getElem?
  intro other
  simp only [List.getElem?_modify]
  cases writer.dataWriters[other]? with
  | none => rfl
  | some buffer =>
      by_cases same : id = other
      · simp only [same, ↓reduceIte, Option.map_eq_map, Option.map_some, IOBufWriter.writeData,
          record, List.append_assoc]
      · simp only [same, ↓reduceIte, Option.map_eq_map, Option.map_some]

/-- Writing a packet keeps the captures valid, if there is room for its record. -/
theorem Sound.writePacket (sound : Sound capacities snaplen capture) (unixUsec : Nat)
    (msg : PcapMsg) {id : Nat} {buffer : IOBufWriter}
    (found : capture.writer.dataWriters[id]? = some buffer)
    (written : capture.writer.headerExists.getD id false = true)
    (room : buffer.available ((msg.trim capture.writer.snaplenOrMax).capturedLen.toNat +
      pcaprecHdrSize) = true)
    (limited : capture.writer.packetAmount < capture.writer.packetLimit) :
    Sound capacities snaplen { capture with
      writer := { capture.writer.writePacket unixUsec (msg.trim capture.writer.snaplenOrMax) id with
        packetAmount := capture.writer.packetAmount + 1 }
      log := Function.update capture.log id (capture.log id ++ [(unixUsec, msg)])
      amount := capture.amount + 1 } := by
  have before := sound.buffers id buffer found
  have size := record_length (unixUsec, msg.trim capture.writer.snaplenOrMax)
  rw [writePacket_eq _ _ _ (List.getElem?_eq_some_iff.mp found).1]
  refine sound.of_write found rfl rfl rfl ?_ ?_ ?_ sound.stopped
  · intro other different
    exact ⟨rfl, Function.update_of_ne different ..⟩
  · dsimp only [modifyWriter]
    rw [written] at before ⊢
    rw [Function.update_self]
    rw [IOBufWriter.available, decide_eq_true_eq] at room
    have fits := before.fits
    apply before.append
    change _ + (record (unixUsec, msg.trim capture.writer.snaplenOrMax)).length ≤ _
    dsimp only at size
    omega
  · rw [toNat_packetAmount_succ limited, sound.amount]

/-- Taking a packet from the queue keeps the captures valid. -/
theorem Sound.packet (sound : Sound capacities snaplen capture) (unixUsec : Nat)
    (message : PcapMsgMeta) :
    Sound capacities snaplen
      (capture.logged unixUsec message (capture.writer.runMultiPacket unixUsec message)) := by
  unfold runMultiPacket
  split
  next => exact sound
  next limited =>
    obtain ⟨later, amount, limit, written⟩ := sound.writePcapHeader message.event.toNat
    split
    next after returned =>
      rw [returned] at later
      exact later
    next after returned =>
      rw [returned] at later amount limit written
      dsimp only at later amount limit written
      obtain ⟨_, header⟩ := written rfl
      dsimp only
      split
      next => exact later
      next buffer found =>
        split
        next full =>
          exact ⟨later.snaplen, later.capacities, later.flags, later.buffers, later.amount,
            later.stopped⟩
        next room =>
          rw [not_not] at room
          have below : after.packetAmount < after.packetLimit := by
            rw [amount, limit]
            exact UInt32.not_le.mp limited
          have same : (after.writePacket unixUsec (message.msg.trim after.snaplenOrMax)
              message.event.toNat).packetAmount = after.packetAmount := by
            rw [writePacket_eq _ _ _ (List.getElem?_eq_some_iff.mp found).1]
            rfl
          rw [same]
          exact later.writePacket unixUsec message.msg found header room below

private theorem Sound.restart (sound : Sound capacities snaplen capture) (packetLimit : UInt32) :
    Sound capacities snaplen
      { writer := capture.writer.restartWriters packetLimit, log := fun _ => [], amount := 0,
        stopped := false } where
  snaplen := sound.snaplen
  capacities := by
    rw [← sound.capacities, restartWriters, List.map_map]
    rfl
  flags := by
    rw [restartWriters, List.length_map, List.length_map]
    exact sound.flags
  buffers := by
    intro id buffer found
    obtain ⟨old, _, rfl⟩ := List.mem_map.mp (List.mem_of_getElem? found)
    have cleared : (capture.writer.headerExists.map fun _ => false).getD id false = false := by
      rw [List.getD_eq_getElem?_getD, List.getElem?_map]
      cases capture.writer.headerExists[id]? <;> rfl
    refine ⟨Nat.zero_le _, fun _ => ⟨rfl, rfl⟩, ?_⟩
    intro written
    cases cleared.symm.trans written
  amount := rfl
  stopped := nofun

private theorem Sound.stop (sound : Sound capacities snaplen capture) :
    Sound capacities snaplen
      { capture with writer := capture.writer.stopWriters, amount := 0, stopped := true } := by
  have same : capture.writer.dataWriters.map (·.stop) = capture.writer.dataWriters :=
    List.map_id _
  unfold stopWriters
  rw [same]
  exact ⟨sound.snaplen, sound.capacities, sound.flags, sound.buffers, rfl, fun _ => rfl⟩

/-- A message keeps a capture sound. -/
theorem Sound.step (sound : Sound capacities snaplen capture) {input : Nat × PcapMsgMeta}
    {after : Capture} (taken : Step capture input after) : Sound capacities snaplen after := by
  obtain ⟨unixUsec, message⟩ := input
  obtain ⟨result, returned, rfl⟩ := Option.map_eq_some_iff.mp taken
  unfold runMultiStep at returned
  split at returned
  next control =>
    rw [if_pos control]
    split at returned
    next => cases returned
    next =>
      split at returned
      next restarts =>
        obtain rfl := Option.some.inj returned
        rw [if_pos restarts]
        exact sound.restart message.packetLimit
      next goesOn =>
        rw [if_neg goesOn]
        split at returned
        next stops =>
          obtain rfl := Option.some.inj returned
          rw [if_pos stops]
          exact sound.stop
        next other =>
          obtain rfl := Option.some.inj returned
          rw [if_neg other]
          exact sound
  next packet =>
    obtain rfl := Option.some.inj returned
    rw [if_neg packet]
    exact sound.packet unixUsec message

/-- What a buffer of a capture is: no larger than its capacity, empty or a header with whole
records, and read back as the packets that were written to it, each of them cut. -/
structure ValidFile (kept : UInt32) (hdr : PcapHdr) (log : List Logged) (buffer : IOBufWriter) :
    Prop where
  fits : buffer.data.length ≤ buffer.capacity
  file : buffer.data = [] ∨ buffer.data = captureBytes hdr (cut kept log)
  reads : Reads { inputFile := buffer.data } (log.map fun entry => entry.2.bytes.take kept.toNat)
  timestamps : ∀ entry ∈ log, entry.1 < 2 ^ 32 * 1000000 →
    (recHdr entry.1 entry.2).tsSec.toNat * 1000000 + (recHdr entry.1 entry.2).tsUsec.toNat =
        entry.1 ∧ (recHdr entry.1 entry.2).tsUsec.toNat < 1000000

/-- A file that holds its log is valid. -/
theorem Holds.valid {hdr : PcapHdr} {headerExists : Bool} {log : List Logged} {buffer : IOBufWriter}
    (holds : Holds hdr headerExists log buffer) : ValidFile hdr.snaplen hdr log buffer := by
  refine ⟨holds.fits, ?_, ?_, fun entry _ clock => timestamp_exact clock⟩
  · cases written : headerExists with
    | false => exact .inl (holds.empty written).1
    | true => exact .inr (holds.file written)
  · cases written : headerExists with
    | false =>
        obtain ⟨blank, unlogged⟩ := holds.empty written
        rw [blank, unlogged]
        exact reads_empty
    | true =>
        have short : ∀ entry ∈ cut hdr.snaplen log, entry.2.capturedLen ≤ hdr.snaplen := by
          intro entry member
          obtain ⟨whole, _, rfl⟩ := List.mem_map.mp member
          exact whole.2.capturedLen_trim hdr.snaplen
        have reads := reads_capture short
        rw [cut, List.map_map] at reads
        rw [holds.file written]
        have same : (fun entry : Logged => entry.2.bytes.take hdr.snaplen.toNat) =
            (fun entry : Logged => entry.2.bytes) ∘
              fun entry => (entry.1, entry.2.trim hdr.snaplen) := by
          funext entry
          exact (entry.2.bytes_trim hdr.snaplen).symm
        rw [same]
        exact reads

/-- A message other than a restart writes nothing while the writer is stopped. -/
theorem Sound.stopped_silent (sound : Sound capacities snaplen capture)
    (stopped : capture.stopped = true) {unixUsec : Nat} {message : PcapMsgMeta} {after : Capture}
    (other : ¬ (message.control = true ∧ message.restart = true))
    (taken : capture.consume unixUsec message = some after) :
    after.writer.dataWriters = capture.writer.dataWriters := by
  obtain ⟨result, returned, rfl⟩ := Option.map_eq_some_iff.mp taken
  unfold runMultiStep at returned
  split at returned
  next control =>
    have goesOn : ¬ message.restart = true := fun restarts => other ⟨control, restarts⟩
    rw [if_pos control, if_neg goesOn]
    rw [if_neg goesOn] at returned
    split at returned
    next => cases returned
    next =>
      split at returned
      next stops =>
        obtain rfl := Option.some.inj returned
        rw [if_pos stops]
        exact List.map_id _
      next goes =>
        obtain rfl := Option.some.inj returned
        rw [if_neg goes]
  next packet =>
    obtain rfl := Option.some.inj returned
    have limited : capture.writer.packetAmount ≥ capture.writer.packetLimit := by
      rw [sound.stopped stopped]
      exact UInt32.zero_le
    rw [if_neg packet, runMultiPacket, if_pos limited]
    rfl

/-- **Captures are valid files.** After every sequence of messages each buffer holds a header
and whole records of the packets that were captured to it, cut to the snapshot length and within
its capacity. The count of packets is theirs, and a capture that has been stopped writes nothing
until it is restarted. -/
theorem captures_valid {packetLimit : UInt32} {inputs : List (Nat × PcapMsgMeta)}
    (run : Run Step (new capacities packetLimit snaplen) inputs capture) :
    let kept : UInt32 := if snaplen ≠ 0 then snaplen else 65535
    capture.writer.dataWriters.map (·.capacity) = capacities ∧
      (∀ id buffer, capture.writer.dataWriters[id]? = some buffer →
        ValidFile kept capture.writer.pcapHdr (capture.log id) buffer) ∧
      capture.writer.packetAmount.toNat = capture.amount ∧
      (capture.stopped = true → ∀ unixUsec message after,
        ¬ (message.control = true ∧ message.restart = true) →
        capture.consume unixUsec message = some after →
          after.writer.dataWriters = capture.writer.dataWriters) := by
  have sound : Sound capacities snaplen capture :=
    run.invariant (Sound capacities snaplen) (fun _ _ _ before taken => before.step taken)
      (new_sound capacities packetLimit snaplen)
  refine ⟨sound.capacities, ?_, sound.amount, ?_⟩
  · intro id buffer found
    have valid := (sound.buffers id buffer found).valid
    have kept : capture.writer.pcapHdr.snaplen = if snaplen ≠ 0 then snaplen else 65535 := by
      rw [← sound.snaplen]
      rfl
    rw [kept] at valid
    exact valid
  · intro stopped unixUsec message after other taken
    exact sound.stopped_silent stopped other taken

/-- A packet of three bytes, of which two are kept. -/
def samplePacket : PcapMsgMeta := { msg := .ofPacket [1, 2, 3] 3 3 (by decide) }

/-- A capture of one packet can be read back. -/
theorem captures_valid_sample :
    ∃ capture buffer, (new [100] 2 2).consume 1500000 samplePacket = some capture ∧
      capture.writer.dataWriters[0]? = some buffer ∧
      Reads { inputFile := buffer.data } [[1, 2]] := by
  have consumed : ((new [100] 2 2).consume 1500000 samplePacket).map (fun capture =>
      (capture.writer.dataWriters[0]?.isSome,
        (capture.log 0).map fun entry => entry.2.bytes.take (2 : UInt32).toNat)) =
        some (true, [[1, 2]]) := by decide +kernel
  obtain ⟨capture, taken, shape⟩ := Option.map_eq_some_iff.mp consumed
  obtain ⟨present, logged⟩ := Prod.mk.inj shape
  obtain ⟨buffer, found⟩ := Option.isSome_iff_exists.mp present
  have run : Run Step (new [100] 2 2) [(1500000, samplePacket)] capture := .cons taken (.nil _)
  have valid := (captures_valid run).2.1 0 buffer found
  refine ⟨capture, buffer, taken, found, ?_⟩
  rw [← logged]
  exact valid.reads

end Capture

end Katran
