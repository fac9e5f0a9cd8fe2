import Katran.Pcap.Captures
import Mathlib.Algebra.GroupWithZero.Nat

/-! # The limit of packets

`run` writes to one buffer and `runMulti` to a buffer for each event. Both count the packets
and stop writing at a limit. Where the buffers have room, they write the first packets and no
others, as many as the limit says (`RunWrites`, `MultiWrites`). A limit of zero is no limit
for `run`, while `runMulti` then writes nothing.
-/

namespace Katran

open Foundation PcapWriter

/-- The packets that a limit lets through, where zero is no limit. -/
def limited {α : Type} (limit : UInt32) (packets : List α) : List α :=
  if limit = 0 then packets else packets.take limit.toNat

/-- The bytes that are kept of a packet. -/
def keptLength (snaplen : UInt32) : UInt32 := if snaplen ≠ 0 then snaplen else kMaxSnapLen

/-- The bytes that the record of a packet takes. -/
def recordSize (kept : UInt32) (msg : PcapMsg) : Nat :=
  pcaprecHdrSize + (msg.trim kept).capturedLen.toNat

/-- The bytes that the records of packets take. -/
def recordsSize (kept : UInt32) (packets : List (Nat × PcapMsgMeta)) : Nat :=
  (packets.map fun packet => recordSize kept packet.2.msg).sum

/-! ## Room -/

namespace PcapWriter

/-- Every buffer has room for so many bytes, and its header. -/
def Roomy (writer : PcapWriter) (space : Nat) : Prop :=
  ∀ id buffer, writer.dataWriters[id]? = some buffer →
    (if writer.headerExists.getD id false then 0 else pcapHdrSize) + buffer.data.length + space ≤
      buffer.capacity

/-- What writing does not change. -/
structure SameLimits (writer after : PcapWriter) : Prop where
  writers : after.dataWriters.length = writer.dataWriters.length
  flags : after.headerExists.length = writer.headerExists.length
  packetLimit : after.packetLimit = writer.packetLimit
  snaplen : after.snaplen = writer.snaplen

variable {writer : PcapWriter} {space : Nat}

private theorem Roomy.writePcapHeader (roomy : writer.Roomy space) {id : Nat}
    (inside : id < writer.dataWriters.length)
    (flags : writer.headerExists.length = writer.dataWriters.length) :
    ∃ after, writer.writePcapHeader id = (true, after) ∧ after.Roomy space ∧
      SameLimits writer after ∧ after.packetAmount = writer.packetAmount ∧
      after.headerExists.getD id false = true := by
  have found : writer.dataWriters[id]? = some writer.dataWriters[id] :=
    List.getElem?_eq_getElem inside
  unfold PcapWriter.writePcapHeader
  rw [found]
  dsimp only
  by_cases written : writer.headerExists.getD id false = true
  · rw [if_pos written]
    exact ⟨writer, rfl, roomy, ⟨rfl, rfl, rfl, rfl⟩, rfl, written⟩
  · have free := roomy id _ found
    rw [if_neg written] at free
    have available : writer.dataWriters[id].available pcapHdrSize = true := by
      rw [IOBufWriter.available, decide_eq_true_eq]
      omega
    rw [if_neg written, if_neg (not_not.mpr available)]
    refine ⟨_, rfl, ?_, ⟨List.length_modify .., List.length_set, rfl, rfl⟩, rfl, ?_⟩
    · intro other buffer present
      have room := roomy other
      simp only [modifyWriter, List.getElem?_modify] at present
      obtain ⟨old, was, rfl⟩ := Option.map_eq_some_iff.mp present
      by_cases same : id = other
      · subst same
        obtain rfl := Option.some.inj (found.symm.trans was)
        have marked : (writer.headerExists.set id true).getD id false = true := by
          rw [List.getD_eq_getElem?_getD, List.getElem?_set_self (by omega), Option.getD_some]
        have size : writer.pcapHdr.encode.length = pcapHdrSize := rfl
        simp only [marked, ↓reduceIte, IOBufWriter.writeData, List.length_append, size]
        omega
      · have kept : (writer.headerExists.set id true).getD other false =
            writer.headerExists.getD other false := by
          rw [List.getD_eq_getElem?_getD, List.getElem?_set_ne same, List.getD_eq_getElem?_getD]
        simp only [same, ↓reduceIte, kept]
        exact room old was
    · dsimp only
      rw [List.getD_eq_getElem?_getD, List.getElem?_set_self (by omega), Option.getD_some]

/-- A record takes its bytes from the room of its buffer. -/
theorem Roomy.writeData {bytes : List UInt8} (roomy : writer.Roomy (bytes.length + space))
    (id : Nat) : (writer.modifyWriter id (·.writeData bytes)).Roomy space := by
  intro other buffer present
  simp only [modifyWriter, List.getElem?_modify] at present
  obtain ⟨old, was, rfl⟩ := Option.map_eq_some_iff.mp present
  have room := roomy other old was
  change (if writer.headerExists.getD other false then 0 else pcapHdrSize) + _ + space ≤ _
  by_cases same : id = other
  · simp only [same, ↓reduceIte, IOBufWriter.writeData, List.length_append]
    omega
  · simp only [same, ↓reduceIte]
    omega

/-- A packet is written if there is room for it and the limit has not been reached. -/
theorem Roomy.runMultiPacket {unixUsec : Nat} {message : PcapMsgMeta}
    (roomy : writer.Roomy (recordSize writer.snaplenOrMax message.msg + space))
    (inside : message.event.toNat < writer.dataWriters.length)
    (flags : writer.headerExists.length = writer.dataWriters.length)
    (below : writer.packetAmount < writer.packetLimit) :
    ∃ after msg, writer.runMultiPacket unixUsec message = (after, some msg) ∧ after.Roomy space ∧
      SameLimits writer after := by
  obtain ⟨started, header, room, same, _, _⟩ := roomy.writePcapHeader inside flags
  have kept : started.snaplenOrMax = writer.snaplenOrMax := by
    rw [snaplenOrMax, same.snaplen, snaplenOrMax]
  have within : message.event.toNat < started.dataWriters.length := by
    rw [same.writers]
    exact inside
  have found : started.dataWriters[message.event.toNat]? =
      some started.dataWriters[message.event.toNat] := List.getElem?_eq_getElem within
  have free := room _ _ found
  have available : started.dataWriters[message.event.toNat].available
      ((message.msg.trim started.snaplenOrMax).capturedLen.toNat + pcaprecHdrSize) = true := by
    rw [IOBufWriter.available, decide_eq_true_eq, kept]
    unfold recordSize at free
    omega
  unfold PcapWriter.runMultiPacket
  rw [if_neg (UInt32.not_le.mpr below), header]
  dsimp only
  rw [found]
  dsimp only
  rw [if_neg (not_not.mpr available), Capture.writePacket_eq _ _ _ within]
  have size := record_length (unixUsec, message.msg.trim started.snaplenOrMax)
  have sized : started.Roomy ((record (unixUsec, message.msg.trim started.snaplenOrMax)).length +
      space) := by
    rw [size]
    rw [recordSize, ← kept] at room
    exact room
  exact ⟨_, _, rfl, sized.writeData message.event.toNat,
    ⟨(List.length_modify ..).trans same.writers, same.flags, same.packetLimit, same.snaplen⟩⟩

end PcapWriter

/-! ## Several buffers -/

namespace Capture

variable {capacities : List Nat} {snaplen : UInt32} {capture : Capture}

/-- The packets of an event. -/
def eventLog (id : Nat) (packets : List (Nat × PcapMsgMeta)) : List Logged :=
  (packets.filter fun packet => packet.2.event.toNat = id).map fun packet =>
    (packet.1, packet.2.msg)

private theorem eventLog_cons (id : Nat) (packet : Nat × PcapMsgMeta)
    (packets : List (Nat × PcapMsgMeta)) :
    eventLog id (packet :: packets) =
      (if packet.2.event.toNat = id then [(packet.1, packet.2.msg)] else []) ++
        eventLog id packets := by
  unfold eventLog
  by_cases event : packet.2.event.toNat = id
  · simp only [List.filter_cons, event, decide_true, ↓reduceIte, List.map_cons,
      List.singleton_append]
  · simp only [List.filter_cons, event, decide_false, Bool.false_eq_true, ↓reduceIte,
      List.nil_append]

/-- `runMulti` goes through the packets, and each buffer is then the capture of those packets
of its event that the limit lets through. -/
def MultiWrites (snaplen limit : UInt32) (packets : List (Nat × PcapMsgMeta)) (start : Capture) :
    Prop :=
  ∃ after, Run Step start packets after ∧
    ∀ id buffer, after.writer.dataWriters[id]? = some buffer →
      ValidFile (keptLength snaplen) after.writer.pcapHdr (eventLog id (limited limit packets))
        buffer

/-- A packet is taken from the queue. -/
theorem step_packet {unixUsec : Nat} {message : PcapMsgMeta} (data : message.control = false) :
    Step capture (unixUsec, message)
      (capture.logged unixUsec message (capture.writer.runMultiPacket unixUsec message)) := by
  simp only [Step, consume, runMultiStep, data, Bool.false_eq_true, ↓reduceIte, Option.map_some]

/-- A packet that has been written is logged under its event. -/
theorem log_logged (unixUsec : Nat) (message : PcapMsgMeta) (writer : PcapWriter) (msg : PcapMsg)
    (id : Nat) :
    (capture.logged unixUsec message (writer, some msg)).log id =
      capture.log id ++
        if message.event.toNat = id then [(unixUsec, message.msg)] else [] := by
  dsimp only [logged]
  by_cases event : message.event.toNat = id
  · rw [if_pos event, event, Function.update_self]
  · rw [if_neg event, Function.update_of_ne (Ne.symm event), List.append_nil]

/-- Packets are handled until the limit is reached, and those before it are written. -/
theorem Sound.run_packets {packets : List (Nat × PcapMsgMeta)}
    (sound : Sound capacities snaplen capture)
    (roomy : capture.writer.Roomy (recordsSize (keptLength snaplen) packets))
    (plain : ∀ packet ∈ packets, packet.2.control = false ∧
      packet.2.event.toNat < capture.writer.dataWriters.length) :
    ∃ after, Run Step capture packets after ∧ Sound capacities snaplen after ∧
      ∀ id, after.log id = capture.log id ++ eventLog id
        (packets.take (capture.writer.packetLimit.toNat - capture.amount)) := by
  induction packets generalizing capture with
  | nil =>
      refine ⟨capture, .nil _, sound, fun id => ?_⟩
      rw [List.take_nil]
      exact (List.append_nil _).symm
  | cons packet packets ih =>
      obtain ⟨unixUsec, message⟩ := packet
      obtain ⟨⟨data, inside⟩, others⟩ := List.forall_mem_cons.mp plain
      dsimp only at data inside
      have size : recordsSize (keptLength snaplen) ((unixUsec, message) :: packets) =
          recordSize capture.writer.snaplenOrMax message.msg +
            recordsSize (keptLength snaplen) packets := by
        rw [snaplenOrMax, sound.snaplen]
        exact List.sum_cons
      rw [size] at roomy
      have later := sound.packet unixUsec message
      have taken : Step capture (unixUsec, message) _ := step_packet data
      by_cases below : capture.writer.packetAmount < capture.writer.packetLimit
      · obtain ⟨next, msg, returned, room, same⟩ := roomy.runMultiPacket inside sound.flags below
        rw [returned] at later taken
        rw [← same.writers] at others
        obtain ⟨after, run, valid, logs⟩ := ih later room others
        refine ⟨after, .cons taken run, valid, fun id => ?_⟩
        have count := UInt32.lt_iff_toNat_lt.mp below
        rw [sound.amount] at count
        have more : capture.writer.packetLimit.toNat - capture.amount =
            next.packetLimit.toNat - (capture.amount + 1) + 1 := by
          rw [same.packetLimit]
          omega
        rw [logs id, log_logged, more, List.take_succ_cons, eventLog_cons, List.append_assoc]
        rfl
      · have limit : capture.writer.packetLimit.toNat - capture.amount = 0 := by
          rw [UInt32.lt_iff_toNat_lt, sound.amount] at below
          omega
        have silent : capture.writer.runMultiPacket unixUsec message = (capture.writer, none) := by
          rw [runMultiPacket, if_pos (UInt32.not_lt.mp below)]
        rw [silent] at taken
        have room : capture.writer.Roomy (recordsSize (keptLength snaplen) packets) := by
          intro id buffer found
          have free := roomy id buffer found
          omega
        obtain ⟨after, run, valid, logs⟩ := ih sound room others
        refine ⟨after, .cons taken run, valid, fun id => ?_⟩
        rw [logs id, limit, List.take_zero, List.take_zero]

/-- A capture that begins: nothing has been written. -/
structure Begins (capacities : List Nat) (snaplen limit : UInt32) (capture : Capture) : Prop where
  sound : Sound capacities snaplen capture
  log : ∀ id, capture.log id = []
  amount : capture.amount = 0
  limit : capture.writer.packetLimit = limit
  blank : ∀ buffer ∈ capture.writer.dataWriters, buffer.data = []

private theorem new_begins (capacities : List Nat) (limit snaplen : UInt32) :
    Begins capacities snaplen limit (new capacities limit snaplen) where
  sound := new_sound capacities limit snaplen
  log _ := rfl
  amount := rfl
  limit := rfl
  blank := by
    intro buffer listed
    obtain ⟨capacity, _, rfl⟩ := List.mem_map.mp listed
    rfl

/-- A restart begins a capture. -/
theorem Sound.restart_begins (sound : Sound capacities snaplen capture) {unixUsec : Nat}
    {message : PcapMsgMeta} {restarted : Capture} (control : message.control = true)
    (restarts : message.restart = true) (taken : Step capture (unixUsec, message) restarted) :
    Begins capacities snaplen message.packetLimit restarted := by
  have valid := sound.step taken
  obtain ⟨result, returned, rfl⟩ := Option.map_eq_some_iff.mp taken
  simp only [runMultiStep, control, restarts, ↓reduceIte] at returned
  split at returned
  next => cases returned
  next =>
    obtain rfl := Option.some.inj returned
    simp only [control, restarts, ↓reduceIte] at valid ⊢
    refine ⟨valid, fun _ => rfl, rfl, rfl, ?_⟩
    intro buffer listed
    obtain ⟨old, _, rfl⟩ := List.mem_map.mp listed
    rfl

/-- What a capture that begins has written after some packets. -/
theorem Begins.run_packets {limit : UInt32} {packets : List (Nat × PcapMsgMeta)}
    (begins : Begins capacities snaplen limit capture)
    (plain : ∀ packet ∈ packets, packet.2.control = false ∧
      packet.2.event.toNat < capacities.length)
    (room : ∀ capacity ∈ capacities,
      pcapHdrSize + recordsSize (keptLength snaplen) packets ≤ capacity) :
    ∃ after, Run Step capture packets after ∧ Sound capacities snaplen after ∧
      ∀ id, after.log id = eventLog id (packets.take limit.toNat) := by
  have writers : capture.writer.dataWriters.length = capacities.length := by
    rw [← begins.sound.capacities, List.length_map]
  have roomy : capture.writer.Roomy (recordsSize (keptLength snaplen) packets) := by
    intro id buffer found
    have listed := List.mem_of_getElem? found
    have inside : buffer.capacity ∈ capacities := by
      rw [← begins.sound.capacities]
      exact List.mem_map_of_mem listed
    have free := room buffer.capacity inside
    rw [begins.blank buffer listed, List.length_nil]
    split <;> omega
  rw [← writers] at plain
  obtain ⟨after, run, sound, logs⟩ := begins.sound.run_packets roomy plain
  refine ⟨after, run, sound, fun id => ?_⟩
  rw [logs id, begins.log id, begins.limit, begins.amount, List.nil_append, Nat.sub_zero]

/-! ## One buffer -/

/-- `run` goes through the packets, and its buffer is then the capture of those that the
limit lets through. -/
def RunWrites (capacity : Nat) (snaplen limit : UInt32) (packets : List Logged) : Prop :=
  let result := (PcapWriter.new [{ capacity := capacity }] limit snaplen).run
    (packets.map fun packet => (packet.1, some packet.2))
  ∃ buffer, result.1.dataWriters[kDefaultWriter]? = some buffer ∧
    ValidFile (keptLength snaplen) result.1.pcapHdr (limited limit packets) buffer

/-- The packets that a limit lets through after some packets have been seen. -/
def allowed {α : Type} (limit : UInt32) (seen : Nat) (packets : List α) : List α :=
  if limit = 0 then packets else packets.take (limit.toNat - seen)

private theorem allowed_cons {α : Type} {limit : UInt32} {seen : Nat}
    (goes : limit = 0 ∨ seen < limit.toNat) (packet : α) (packets : List α) :
    allowed limit seen (packet :: packets) = packet :: allowed limit (seen + 1) packets := by
  unfold allowed
  by_cases unbounded : limit = 0
  · rw [if_pos unbounded, if_pos unbounded]
  · have below := goes.resolve_left unbounded
    have more : limit.toNat - seen = limit.toNat - (seen + 1) + 1 := by omega
    rw [if_neg unbounded, if_neg unbounded, more, List.take_succ_cons]

private theorem allowed_of_reached {α : Type} {limit : UInt32} {seen : Nat} (bounded : limit ≠ 0)
    (reached : limit.toNat ≤ seen) (packets : List α) : allowed limit seen packets = [] := by
  rw [allowed, if_neg bounded, Nat.sub_eq_zero_of_le reached, List.take_zero]

/-- A packet is written if there is room for it and the limit has not been reached. -/
theorem runLoop_cons {writer : PcapWriter} {buffer : IOBufWriter}
    (one : writer.dataWriters = [buffer])
    (goes : writer.packetLimit = 0 ∨ writer.packetAmount < writer.packetLimit) {unixUsec : Nat}
    {msg : PcapMsg}
    (room : buffer.data.length + recordSize writer.snaplenOrMax msg ≤ buffer.capacity)
    (messages : List (Nat × Option PcapMsg)) :
    (writer.runLoop ((unixUsec, some msg) :: messages)).1 =
      (runLoop { writer with
        dataWriters := [buffer.writeData (record (unixUsec, msg.trim writer.snaplenOrMax))]
        packetAmount := writer.packetAmount + 1 } messages).1 := by
  have found : writer.dataWriters[kDefaultWriter]? = some buffer := by
    rw [one]
    rfl
  have available : buffer.available
      ((msg.trim writer.snaplenOrMax).capturedLen.toNat + pcaprecHdrSize) = true := by
    rw [IOBufWriter.available, decide_eq_true_eq]
    unfold recordSize at room
    omega
  conv_lhs => unfold runLoop
  rw [if_pos goes, found]
  dsimp only
  rw [if_neg (not_not.mpr available),
    writePacket_eq _ _ _ (List.getElem?_eq_some_iff.mp found).1]
  simp only [modifyWriter, one]
  rfl

/-- The loop of `run` appends the packets that the limit still lets through. -/
theorem runLoop_packets {writer : PcapWriter} {buffer : IOBufWriter} {log packets : List Logged}
    (one : writer.dataWriters = [buffer]) (holds : Holds writer.pcapHdr true log buffer)
    (room : buffer.data.length +
      (packets.map fun packet => recordSize writer.snaplenOrMax packet.2).sum ≤ buffer.capacity)
    (counted : writer.packetLimit ≠ 0 → writer.packetAmount.toNat = log.length) :
    ∃ filled, (writer.runLoop (packets.map fun packet => (packet.1, some packet.2))).1.dataWriters =
        [filled] ∧
      (writer.runLoop (packets.map fun packet => (packet.1, some packet.2))).1.pcapHdr =
        writer.pcapHdr ∧
      Holds writer.pcapHdr true (log ++ allowed writer.packetLimit log.length packets) filled := by
  induction packets generalizing writer buffer log with
  | nil =>
      refine ⟨buffer, one, rfl, ?_⟩
      rw [allowed, List.take_nil, ite_self, List.append_nil]
      exact holds
  | cons packet packets ih =>
      obtain ⟨unixUsec, msg⟩ := packet
      rw [List.map_cons]
      rw [List.map_cons, List.sum_cons] at room
      change _ + (recordSize writer.snaplenOrMax msg + _) ≤ _ at room
      by_cases goes : writer.packetLimit = 0 ∨ writer.packetAmount < writer.packetLimit
      · have size : (record (unixUsec, msg.trim writer.snaplenOrMax)).length =
            recordSize writer.snaplenOrMax msg := record_length _
        have fits : buffer.data.length + recordSize writer.snaplenOrMax msg ≤ buffer.capacity := by
          omega
        have space : buffer.data.length +
            (record (unixUsec, msg.trim writer.pcapHdr.snaplen)).length ≤ buffer.capacity := by
          change _ + (record (unixUsec, msg.trim writer.snaplenOrMax)).length ≤ _
          rw [size]
          exact fits
        have longer : Holds writer.pcapHdr true (log ++ [(unixUsec, msg)]) _ := holds.append space
        have next : writer.packetLimit ≠ 0 →
            (writer.packetAmount + 1).toNat = (log ++ [(unixUsec, msg)]).length := by
          intro bounded
          rw [toNat_packetAmount_succ (goes.resolve_left bounded), counted bounded,
            List.length_append, List.length_singleton]
        have below : writer.packetLimit = 0 ∨ log.length < writer.packetLimit.toNat := by
          refine or_iff_not_imp_left.mpr fun bounded => ?_
          have below := UInt32.lt_iff_toNat_lt.mp (goes.resolve_left bounded)
          rw [counted bounded] at below
          exact below
        rw [runLoop_cons one goes fits, allowed_cons below, List.append_cons log]
        have result := @ih { writer with
            dataWriters := [buffer.writeData (record (unixUsec, msg.trim writer.snaplenOrMax))]
            packetAmount := writer.packetAmount + 1 } _ _ rfl longer (by
          rw [IOBufWriter.writeData, List.length_append, size]
          refine Nat.le_trans (Nat.le_of_eq ?_) room
          rw [Nat.add_assoc]
          rfl) next
        rw [List.length_append, List.length_singleton] at result
        exact result
      · have bounded : writer.packetLimit ≠ 0 := fun zero => goes (.inl zero)
        have reached := UInt32.not_lt.mp fun below => goes (.inr below)
        rw [UInt32.le_iff_toNat_le, counted bounded] at reached
        have ended : ∀ messages,
            (writer.runLoop ((unixUsec, some msg) :: messages)).1 = writer := by
          intro messages
          unfold runLoop
          rw [if_neg goes]
        rw [ended, allowed_of_reached bounded reached, List.append_nil]
        exact ⟨buffer, one, rfl, holds⟩

/-- The writer of `run` after its header, for which there is room. -/
theorem new_writePcapHeader {capacity : Nat} (limit snaplen : UInt32)
    (space : pcapHdrSize ≤ capacity) :
    ∃ writer buffer, (PcapWriter.new [{ capacity := capacity }] limit
        snaplen).writePcapHeader kDefaultWriter = (true, writer) ∧
      writer.dataWriters = [buffer] ∧ Holds writer.pcapHdr true [] buffer ∧
      buffer.capacity = capacity ∧ buffer.data.length = pcapHdrSize ∧
      writer.packetLimit = limit ∧ writer.packetAmount = 0 ∧ writer.snaplen = snaplen := by
  have available : ({ capacity := capacity } : IOBufWriter).available pcapHdrSize = true :=
    decide_eq_true space
  unfold PcapWriter.writePcapHeader
  simp only [PcapWriter.new, kDefaultWriter, List.getElem?_cons_zero, List.length_singleton,
    List.replicate_one, List.getD_cons_zero, Bool.false_eq_true, ↓reduceIte, available,
    not_true_eq_false]
  refine ⟨_, _, rfl, rfl, ⟨space, ?_, fun _ => rfl⟩, rfl, rfl, rfl, rfl, rfl⟩
  intro unwritten
  cases unwritten

/-- `run` writes the packets that the limit lets through, and zero is no limit. -/
theorem run_packets {capacity : Nat} {limit : UInt32} {packets : List Logged}
    (room : pcapHdrSize + (packets.map fun packet =>
      recordSize (keptLength snaplen) packet.2).sum ≤ capacity) :
    RunWrites capacity snaplen limit packets := by
  have space : pcapHdrSize ≤ capacity := by omega
  obtain ⟨writer, buffer, started, one, holds, whole, length, limits, amount, kept⟩ :=
    new_writePcapHeader limit snaplen space
  have same : writer.snaplenOrMax = keptLength snaplen := by
    rw [snaplenOrMax, kept, keptLength]
  rw [← same, ← length, ← whole] at room
  obtain ⟨filled, writers, hdr, result⟩ := runLoop_packets one holds room (by
    intro _
    rw [amount]
    rfl)
  unfold RunWrites PcapWriter.run
  rw [started]
  dsimp only
  refine ⟨filled, by rw [writers]; rfl, ?_⟩
  have valid := result.valid
  rw [allowed, limits, List.length_nil, Nat.sub_zero, List.nil_append] at valid
  rw [hdr]
  have snap : writer.pcapHdr.snaplen = keptLength snaplen := same
  rw [snap] at valid
  exact valid

/-! ## Both -/

/-- The limit means the same for `run`, and for `runMulti` from the start and from every
restart. -/
structure LimitsAgree (capacity : Nat) (capacities : List Nat) (snaplen limit : UInt32)
    (packets : List (Nat × PcapMsgMeta)) : Prop where
  single : RunWrites capacity snaplen limit (packets.map fun packet => (packet.1, packet.2.msg))
  multi : MultiWrites snaplen limit packets (new capacities limit snaplen)
  restarted : ∀ first history before unixUsec message restarted,
    Run Step (new capacities first snaplen) history before → message.control = true →
    message.restart = true → message.packetLimit = limit →
    Step before (unixUsec, message) restarted → MultiWrites snaplen limit packets restarted

/-- The bytes of a capture are read in one way. -/
theorem Reads.unique {parser : PcapParser} {first second : List (List UInt8)}
    (left : PcapParser.Reads parser first) (right : PcapParser.Reads parser second) :
    first = second := by
  induction left generalizing second with
  | done ended =>
      cases right with
      | done _ => rfl
      | more returned _ => cases ended.symm.trans returned
  | more returned _ ih =>
      cases right with
      | done ended => cases returned.symm.trans ended
      | more other rest =>
          obtain rfl := Option.some.inj (returned.symm.trans other)
          rw [ih rest]

private theorem run_unique {start first second : Capture} {packets : List (Nat × PcapMsgMeta)}
    (left : Run Step start packets first) (right : Run Step start packets second) :
    first = second := by
  induction left with
  | nil =>
      cases right
      rfl
  | cons taken _ ih =>
      cases right with
      | cons other rest =>
          obtain rfl := Option.some.inj (taken.symm.trans other)
          exact ih rest

/-- `runMulti` takes the limit as a number of packets. -/
theorem Begins.multiWrites {limit : UInt32} {packets : List (Nat × PcapMsgMeta)}
    (begins : Begins capacities snaplen limit capture)
    (plain : ∀ packet ∈ packets, packet.2.control = false ∧
      packet.2.event.toNat < capacities.length)
    (room : ∀ capacity ∈ capacities,
      pcapHdrSize + recordsSize (keptLength snaplen) packets ≤ capacity)
    (same : limited limit packets = packets.take limit.toNat) :
    MultiWrites snaplen limit packets capture := by
  obtain ⟨after, run, sound, logs⟩ := begins.run_packets plain room
  refine ⟨after, run, fun id buffer found => ?_⟩
  have valid := (sound.buffers id buffer found).valid
  have kept : after.writer.pcapHdr.snaplen = keptLength snaplen := by
    rw [← sound.snaplen]
    rfl
  rw [kept, logs id, ← same] at valid
  exact valid

/-- With a limit of zero `runMulti` writes nothing. -/
theorem Begins.not_multiWrites {packets : List (Nat × PcapMsgMeta)}
    (begins : Begins capacities snaplen 0 capture)
    (plain : ∀ packet ∈ packets, packet.2.control = false ∧
      packet.2.event.toNat < capacities.length)
    (room : ∀ capacity ∈ capacities,
      pcapHdrSize + recordsSize (keptLength snaplen) packets ≤ capacity)
    (nonempty : packets ≠ []) : ¬ MultiWrites snaplen 0 packets capture := by
  intro writes
  obtain ⟨after, run, sound, logs⟩ := begins.run_packets plain room
  obtain ⟨other, sameRun, files⟩ := writes
  obtain rfl := run_unique run sameRun
  obtain ⟨packet, rest, rfl⟩ := List.exists_cons_of_ne_nil nonempty
  have inside : packet.2.event.toNat < after.writer.dataWriters.length := by
    have within := (plain packet List.mem_cons_self).2
    rw [← sound.capacities, List.length_map] at within
    exact within
  have found : after.writer.dataWriters[packet.2.event.toNat]? =
      some after.writer.dataWriters[packet.2.event.toNat] := List.getElem?_eq_getElem inside
  have expected := (files _ _ found).reads
  have actual := (sound.buffers _ _ found).valid.reads
  rw [logs, UInt32.toNat_zero, List.take_zero] at actual
  have none := Reads.unique expected actual
  rw [limited, if_pos rfl, eventLog_cons, if_pos rfl] at none
  exact List.cons_ne_nil _ _ none

/-- **The limit means the same in both modes** exactly if it is not zero, or there is no
packet, where every packet has a buffer and the buffers have room. -/
theorem packet_limits_agree_iff {capacity : Nat} {capacities : List Nat} {snaplen limit : UInt32}
    {packets : List (Nat × PcapMsgMeta)}
    (plain : ∀ packet ∈ packets, packet.2.control = false ∧
      packet.2.event.toNat < capacities.length)
    (room : ∀ space ∈ capacity :: capacities,
      pcapHdrSize + recordsSize (keptLength snaplen) packets ≤ space) :
    LimitsAgree capacity capacities snaplen limit packets ↔ limit ≠ 0 ∨ packets = [] := by
  obtain ⟨single, rooms⟩ := List.forall_mem_cons.mp room
  constructor
  · intro agree
    by_contra neither
    obtain ⟨zero, nonempty⟩ := not_or.mp neither
    obtain rfl := not_not.mp zero
    exact (new_begins capacities 0 snaplen).not_multiWrites plain rooms nonempty agree.multi
  · intro either
    have same : limited limit packets = packets.take limit.toNat := by
      unfold limited
      split
      next zero =>
        obtain rfl := either.resolve_left fun bounded => bounded zero
        rw [List.take_nil]
      next => rfl
    refine ⟨run_packets ?_, (new_begins capacities limit snaplen).multiWrites plain rooms same, ?_⟩
    · rw [List.map_map]
      exact single
    · intro first history before unixUsec message restarted run control restarts limits taken
      have sound : Sound capacities snaplen before :=
        run.invariant (Sound capacities snaplen) (fun _ _ _ kept step => kept.step step)
          (new_sound capacities first snaplen)
      have begins := sound.restart_begins control restarts taken
      rw [limits] at begins
      exact begins.multiWrites plain rooms same

/-- Two packets and a limit of one. -/
theorem packet_limits_agree_one :
    LimitsAgree 100 [100, 100] 2 1
      [(1500000, samplePacket), (1600000, { samplePacket with event := 1 })] :=
  (packet_limits_agree_iff (by decide) (by decide)).mpr (.inl (by decide))

/-- Without a limit `run` writes a packet and `runMulti` does not. -/
theorem no_limit_writes_nothing :
    ¬ LimitsAgree 100 [100] 2 0 [(1500000, samplePacket)] ∧
      ((PcapWriter.new [{ capacity := 100 }] 0 2).run
        [(1500000, some samplePacket.msg)]).2.length = 1 ∧
      ((new [100] 0 2).consume 1500000 samplePacket).map (fun capture =>
        capture.writer.dataWriters.map (·.data)) = some [[]] := by
  refine ⟨?_, by decide +kernel, by decide +kernel⟩
  intro agree
  exact (new_begins [100] 0 2).not_multiWrites (by decide) (by decide) (List.cons_ne_nil _ _)
    agree.multi

end Capture

end Katran
