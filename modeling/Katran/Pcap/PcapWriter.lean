import Katran.Bpf.Bytes

/-! # Writing and reading captures

`PcapWriter` takes messages from a queue and writes the packets among them in the pcap
format, each to the buffer of its event. Space is checked before a header or a record is
written, never by the buffer itself. `PcapParser` reads such a file packet by packet.
Structures are written as a little-endian host has them in memory.
-/

namespace Katran

/-! ## Messages -/

/-- A captured packet: its bytes, its length on the wire, and how many of the bytes count. -/
structure PcapMsg where
  pckt : List UInt8 := []
  origLen : UInt32 := 0
  capturedLen : UInt32 := 0
  captured : capturedLen.toNat ≤ pckt.length := by decide

namespace PcapMsg

/-- The constructor from a packet, of which `capturedLen` bytes are copied. -/
def ofPacket (pckt : List UInt8) (origLen capturedLen : UInt32)
    (whole : capturedLen.toNat ≤ pckt.length) : PcapMsg where
  pckt := pckt.take capturedLen.toNat
  origLen := origLen
  capturedLen := capturedLen
  captured := by
    rw [List.length_take]
    omega

/-- The bytes that count. -/
def bytes (msg : PcapMsg) : List UInt8 := msg.pckt.take msg.capturedLen.toNat

/-- `trim`: no more is captured than the limit, nor than before. -/
def trim (msg : PcapMsg) (snaplen : UInt32) : PcapMsg where
  pckt := msg.pckt
  origLen := msg.origLen
  capturedLen := if snaplen < msg.capturedLen then snaplen else msg.capturedLen
  captured := by
    have whole := msg.captured
    split
    next shorter =>
      rw [UInt32.lt_iff_toNat_lt] at shorter
      omega
    next => exact whole

end PcapMsg

/-- A packet with its event, or a control message. -/
structure PcapMsgMeta where
  msg : PcapMsg := {}
  event : UInt32 := 0
  packetLimit : UInt32 := 0
  restart : Bool := false
  control : Bool := false
  stop : Bool := false
  shutdown : Bool := false

/-! ## Buffers -/

/-- A buffer of some capacity that is written from its start. -/
structure IOBufWriter where
  capacity : Nat
  data : List UInt8 := []
deriving DecidableEq, Repr

namespace IOBufWriter

/-- Append bytes; nothing checks that there is room. -/
def writeData (writer : IOBufWriter) (bytes : List UInt8) : IOBufWriter :=
  { writer with data := writer.data ++ bytes }

/-- Whether there is room for more bytes. -/
def available (writer : IOBufWriter) (amount : Nat) : Bool :=
  writer.capacity - writer.data.length ≥ amount

/-- `restart`: the buffer is empty again. -/
def restart (writer : IOBufWriter) : IOBufWriter := { writer with data := [] }

/-- `stop`: nothing is to be done for a buffer. -/
def stop (writer : IOBufWriter) : IOBufWriter := writer

end IOBufWriter

/-! ## Headers -/

/-- The magic number at the start of a file. -/
def kPcapWriterMagic : UInt32 := 0xa1b2c3d4
/-- The format's version, before the point. -/
def kVersionMajor : UInt16 := 2
/-- The format's version, behind the point. -/
def kVersionMinor : UInt16 := 4
/-- Times are those of GMT. -/
def kGmt : UInt32 := 0
/-- The accuracy of the times is not told. -/
def kAccuracy : UInt32 := 0
/-- The most bytes of a packet that are captured without a limit. -/
def kMaxSnapLen : UInt32 := 0xffff
/-- Packets start with an Ethernet header. -/
def kEthernet : UInt32 := 1
/-- The writer of a capture with one file. -/
def kDefaultWriter : Nat := 0

/-- `struct pcap_hdr_s` -/
structure PcapHdr where
  magicNumber : UInt32
  versionMajor : UInt16
  versionMinor : UInt16
  thiszone : UInt32
  sigfigs : UInt32
  snaplen : UInt32
  network : UInt32
deriving DecidableEq, Repr

/-- `sizeof(struct pcap_hdr_s)` -/
def pcapHdrSize : Nat := 24

/-- The header of a file, as it is written. -/
def PcapHdr.encode (hdr : PcapHdr) : List UInt8 :=
  (Bytes.ofUInt32 hdr.magicNumber ++ Bytes.ofUInt16 hdr.versionMajor ++
    Bytes.ofUInt16 hdr.versionMinor ++ Bytes.ofUInt32 hdr.thiszone ++ Bytes.ofUInt32 hdr.sigfigs) ++
    (Bytes.ofUInt32 hdr.snaplen ++ Bytes.ofUInt32 hdr.network)

/-- `struct pcaprec_hdr_s` -/
structure PcaprecHdr where
  tsSec : UInt32
  tsUsec : UInt32
  inclLen : UInt32
  origLen : UInt32
deriving DecidableEq, Repr

/-- `sizeof(struct pcaprec_hdr_s)` -/
def pcaprecHdrSize : Nat := 16

/-- The header of a packet, as it is written. -/
def PcaprecHdr.encode (hdr : PcaprecHdr) : List UInt8 :=
  (Bytes.ofUInt32 hdr.tsSec ++ Bytes.ofUInt32 hdr.tsUsec) ++
    (Bytes.ofUInt32 hdr.inclLen ++ Bytes.ofUInt32 hdr.origLen)

/-! ## The writer -/

/-- The files that a capture is written to, and what is left of its limit. -/
structure PcapWriter where
  dataWriters : List IOBufWriter
  headerExists : List Bool
  packetAmount : UInt32 := 0
  packetLimit : UInt32
  bufferFull : UInt32 := 0
  snaplen : UInt32

namespace PcapWriter

/-- A writer before its first packet. -/
def new (dataWriters : List IOBufWriter) (packetLimit snaplen : UInt32) : PcapWriter where
  dataWriters := dataWriters
  headerExists := List.replicate dataWriters.length false
  packetLimit := packetLimit
  snaplen := snaplen

/-- The number of bytes that are kept of a packet. -/
def snaplenOrMax (writer : PcapWriter) : UInt32 :=
  if writer.snaplen ≠ 0 then writer.snaplen else kMaxSnapLen

/-- Seconds and microseconds of a clock that counts microseconds. The product is
computed in 32 bits, and the difference is cut to 32 bits. -/
def nowSec (unixUsec : Nat) : UInt32 := (unixUsec / 1000000).toUInt32

/-- The microseconds of a time, as the writer computes them. -/
def nowUsec (unixUsec : Nat) : UInt32 :=
  UInt32.ofInt ((unixUsec : Int) - ((nowSec unixUsec * 1000000).toNat : Int))

/-- The header of a packet's record. -/
def recHdr (unixUsec : Nat) (msg : PcapMsg) : PcaprecHdr where
  tsSec := nowSec unixUsec
  tsUsec := nowUsec unixUsec
  inclLen := msg.capturedLen
  origLen := msg.origLen

/-- Write to one of the writers. -/
def modifyWriter (writer : PcapWriter) (writerId : Nat) (change : IOBufWriter → IOBufWriter) :
    PcapWriter :=
  { writer with dataWriters := writer.dataWriters.modify writerId change }

/-- Writes a packet with its header. -/
def writePacket (writer : PcapWriter) (unixUsec : Nat) (msg : PcapMsg) (writerId : Nat) :
    PcapWriter :=
  if writerId ≥ writer.dataWriters.length then writer
  else
    (writer.modifyWriter writerId (·.writeData (recHdr unixUsec msg).encode)).modifyWriter writerId
      (·.writeData msg.bytes)

/-- The header of a file. -/
def pcapHdr (writer : PcapWriter) : PcapHdr where
  magicNumber := kPcapWriterMagic
  versionMajor := kVersionMajor
  versionMinor := kVersionMinor
  thiszone := kGmt
  sigfigs := kAccuracy
  snaplen := writer.snaplenOrMax
  network := kEthernet

/-- Writes the header of a file that has none, if there is room. -/
def writePcapHeader (writer : PcapWriter) (writerId : Nat) : Bool × PcapWriter :=
  match writer.dataWriters[writerId]? with
  | none => (false, writer)
  | some dataWriter =>
      if writer.headerExists.getD writerId false then (true, writer)
      else if ¬ dataWriter.available pcapHdrSize then (false, writer)
      else
        (true, { writer.modifyWriter writerId (·.writeData writer.pcapHdr.encode) with
          headerExists := writer.headerExists.set writerId true })

/-- The loop of `run` over the messages of its queue, each with the clock when it is handled.
A message without a packet ends it. The second component has the packets that have been
written. -/
def runLoop : PcapWriter → List (Nat × Option PcapMsg) → PcapWriter × List PcapMsg
  | writer, [] => (writer, [])
  | writer, (unixUsec, message) :: messages =>
      if writer.packetLimit = 0 ∨ writer.packetAmount < writer.packetLimit then
        match message, writer.dataWriters[kDefaultWriter]? with
        | some msg, some dataWriter =>
            let msg := msg.trim writer.snaplenOrMax
            if ¬ dataWriter.available (msg.capturedLen.toNat + pcaprecHdrSize) then
              ({ writer with bufferFull := writer.bufferFull + 1 }, [])
            else
              let writer := writer.writePacket unixUsec msg kDefaultWriter
              let (writer, written) :=
                runLoop { writer with packetAmount := writer.packetAmount + 1 } messages
              (writer, msg :: written)
        | _, _ => (writer, [])
      else (writer, [])

/-- `run`, for the messages that the queue hands out, and the packets it has written. -/
def run (writer : PcapWriter) (messages : List (Nat × Option PcapMsg)) :
    PcapWriter × List PcapMsg :=
  match writer.writePcapHeader kDefaultWriter with
  | (false, writer) => (writer, [])
  | (true, writer) => writer.runLoop messages

/-- Starts all files again. -/
def restartWriters (writer : PcapWriter) (packetLimit : UInt32) : PcapWriter :=
  { writer with
    headerExists := writer.headerExists.map fun _ => false
    dataWriters := writer.dataWriters.map (·.restart)
    packetLimit := packetLimit
    packetAmount := 0 }

/-- Stops all files. -/
def stopWriters (writer : PcapWriter) : PcapWriter :=
  { writer with
    dataWriters := writer.dataWriters.map (·.stop)
    packetLimit := 0
    packetAmount := 0 }

/-- The part of `runMulti` for a packet. The second component is the packet that has been
written, if one has. -/
def runMultiPacket (writer : PcapWriter) (unixUsec : Nat) (message : PcapMsgMeta) :
    PcapWriter × Option PcapMsg :=
  if writer.packetAmount ≥ writer.packetLimit then (writer, none)
  else
    match writer.writePcapHeader message.event.toNat with
    | (false, writer) => (writer, none)
    | (true, writer) =>
        let msg := message.msg.trim writer.snaplenOrMax
        match writer.dataWriters[message.event.toNat]? with
        | none => (writer, none)
        | some dataWriter =>
            if ¬ dataWriter.available (msg.capturedLen.toNat + pcaprecHdrSize) then
              ({ writer with bufferFull := writer.bufferFull + 1 }, none)
            else
              let writer := writer.writePacket unixUsec msg message.event.toNat
              ({ writer with packetAmount := writer.packetAmount + 1 }, some msg)

/-- One turn of `runMulti`, which ends with a shutdown message. -/
def runMultiStep (writer : PcapWriter) (unixUsec : Nat) (message : PcapMsgMeta) :
    Option (PcapWriter × Option PcapMsg) :=
  if message.control then
    if message.shutdown then none
    else if message.restart then some (writer.restartWriters message.packetLimit, none)
    else if message.stop then some (writer.stopWriters, none)
    else some (writer, none)
  else some (writer.runMultiPacket unixUsec message)

end PcapWriter

/-! ## The parser -/

/-- The rest of the input file, and what has been read of its header. -/
structure PcapParser where
  inputFile : List UInt8
  firstRead : Bool := true
  snaplen : UInt32 := 0
deriving DecidableEq, Repr

namespace PcapParser

/-- `folly::readFile`: the next bytes of a file, or fewer at its end. -/
def readFile (file : List UInt8) (numBytes : Nat) : List UInt8 × List UInt8 :=
  (file.take numBytes, file.drop numBytes)

/-- The header is read once. -/
def readHeader (parser : PcapParser) : Bool × PcapParser :=
  if parser.firstRead then
    let (tmpBuf, file) := readFile parser.inputFile pcapHdrSize
    if tmpBuf.length ≠ pcapHdrSize then
      (false, { parser with firstRead := false, inputFile := file })
    else
      (true, { inputFile := file, firstRead := false, snaplen := Bytes.read32 tmpBuf 16 })
  else (true, parser)

/-- The next packet. -/
def getPacketFromPcap (parser : PcapParser) : Option (List UInt8) × PcapParser :=
  match parser.readHeader with
  | (false, parser) => (none, parser)
  | (true, parser) =>
      let (tmpBuf, file) := readFile parser.inputFile pcaprecHdrSize
      let parser := { parser with inputFile := file }
      if tmpBuf.length ≠ pcaprecHdrSize then (none, parser)
      else
        let pktLen := Bytes.read32 tmpBuf 8
        if pktLen > parser.snaplen then (none, parser)
        else
          let (tmpBuf, file) := readFile parser.inputFile pktLen.toNat
          let parser := { parser with inputFile := file }
          if tmpBuf.length ≠ pktLen.toNat then (none, parser) else (some tmpBuf, parser)

/-- The packets that the parser returns until it has no more. -/
inductive Reads : PcapParser → List (List UInt8) → Prop
  | done {parser : PcapParser} (ended : parser.getPacketFromPcap.1 = none) : Reads parser []
  | more {parser : PcapParser} {packet : List UInt8} {packets : List (List UInt8)}
      (returned : parser.getPacketFromPcap.1 = some packet)
      (rest : Reads parser.getPacketFromPcap.2 packets) : Reads parser (packet :: packets)

end PcapParser

end Katran
