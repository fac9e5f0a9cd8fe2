import Katran.Bpf.Memory

/-! # Parsing packets

Every routine checks that a header lies inside the packet before it reads it. An
ICMP error is described by the packet it quotes, with source and destination
exchanged; an ICMP echo is answered on the spot.
-/

namespace Katran

/-- What a routine hands back: a verdict, with the packet as it left it, or
something to be processed further. -/
inductive Action (α : Type) where
  | done (verdict : Verdict) (data : List UInt8)
  | further (value : α)
deriving DecidableEq, Repr

/-! ## ICMP -/

/-- `ICMP_ECHOREPLY` -/
def icmpEchoreply : UInt8 := 0
/-- `ICMP_DEST_UNREACH` -/
def icmpDestUnreach : UInt8 := 3
/-- `ICMP_ECHO` -/
def icmpEcho : UInt8 := 8
/-- `ICMPV6_DEST_UNREACH` -/
def icmpv6DestUnreach : UInt8 := 1
/-- `ICMPV6_PKT_TOOBIG` -/
def icmpv6PktToobig : UInt8 := 2
/-- `ICMPV6_ECHO_REQUEST` -/
def icmpv6EchoRequest : UInt8 := 128
/-- `ICMPV6_ECHO_REPLY` -/
def icmpv6EchoReply : UInt8 := 129

/-- Exchange the addresses of an Ethernet header. -/
def swapMacAndSend (data : List UInt8) : List UInt8 :=
  let source := (data.drop 6).take 6
  Bytes.write (Bytes.copy data 6 0 6) 0 source

/-- `send_icmp_reply`: the type of an echo is eight more than that of its reply, so
the checksum is adjusted by eight. -/
def sendIcmpReply (cfg : BpfConfig) (data : List UInt8) : Verdict × List UInt8 :=
  if 14 + 20 + 8 > data.length then (.drop, data)
  else
    let saddr := Bytes.read32 data 26
    let daddr := Bytes.read32 data 30
    let data := Bytes.write8 data 34 icmpEchoreply
    let data := Bytes.write16 data 36 (Bytes.read16 data 36 + 0x0008)
    let data := Bytes.write8 data 22 cfg.defaultTtl
    let data := Bytes.write32 data 30 saddr
    let data := Bytes.write32 data 26 daddr
    let data := Bytes.write16 data 24 0
    let data := Bytes.write16 data 24 (ipv4CsumInline data 14)
    (.tx, swapMacAndSend data)

/-- `send_icmp6_reply` -/
def sendIcmp6Reply (cfg : BpfConfig) (data : List UInt8) : Verdict × List UInt8 :=
  if 14 + 40 + 8 > data.length then (.drop, data)
  else
    let saddr := Bytes.read128 data 22
    let daddr := Bytes.read128 data 38
    let data := Bytes.write8 data 54 icmpv6EchoReply
    let data := Bytes.write16 data 56 (Bytes.read16 data 56 - 0x0001)
    let data := Bytes.write8 data 21 cfg.defaultTtl
    let data := Bytes.write128 data 22 daddr
    let data := Bytes.write128 data 38 saddr
    (.tx, swapMacAndSend data)

/-- `parse_icmpv6`: a request is answered, and an error is described by the packet it quotes. -/
def parseIcmpv6 (cfg : BpfConfig) (data : List UInt8) (off : Nat) (pckt : PacketDescription) :
    Action PacketDescription :=
  if off + 8 > data.length then .done .drop data
  else
    let type := Bytes.read8 data off
    if type = icmpv6EchoRequest then
      let reply := sendIcmp6Reply cfg data
      .done reply.1 reply.2
    else if type ≠ icmpv6PktToobig ∧ type ≠ icmpv6DestUnreach then .done .pass data
    else
      let off := off + 8
      if off + 40 > data.length then .done .drop data
      else
        .further { pckt with
          icmp := true
          flow := { pckt.flow with
            proto := Bytes.read8 data (off + 6)
            srcv6 := Bytes.read128 data (off + 24)
            dstv6 := Bytes.read128 data (off + 8) } }

/-- `parse_icmp`: a request is answered, and an error is described by the packet it quotes. -/
def parseIcmp (cfg : BpfConfig) (data : List UInt8) (off : Nat) (pckt : PacketDescription) :
    Action PacketDescription :=
  if off + 8 > data.length then .done .drop data
  else
    let type := Bytes.read8 data off
    if type = icmpEcho then
      let reply := sendIcmpReply cfg data
      .done reply.1 reply.2
    else if type ≠ icmpDestUnreach then .done .pass data
    else
      let off := off + 8
      if off + 20 > data.length then .done .drop data
      else if Bytes.read8 data off &&& 0x0f ≠ 5 then .done .drop data
      else
        .further { pckt with
          icmp := true
          flow := { pckt.flow with
            proto := Bytes.read8 data (off + 9)
            srcv6 := { pckt.flow.srcv6 with w0 := Bytes.read32 data (off + 16) }
            dstv6 := { pckt.flow.dstv6 with w0 := Bytes.read32 data (off + 12) } } }

/-! ## Network headers -/

/-- The packet's description and the length its network header gives. -/
def processL3Headers (cfg : BpfConfig) (data : List UInt8) (off : Nat) (isIpv6 : Bool) :
    Action (PacketDescription × UInt16) :=
  if isIpv6 then
    if off + 40 > data.length then .done .drop data
    else
      let protocol := Bytes.read8 data (off + 6)
      let priority : UInt8 := Bytes.read8 data off &&& 0x0f
      let tos : UInt8 := (priority <<< (4 : UInt8)) &&& 0xf0
      let tos : UInt8 := tos ||| ((Bytes.read8 data (off + 1) >>> (4 : UInt8)) &&& 0x0f)
      let pckt : PacketDescription := { flow := { proto := protocol }, tos := tos }
      let pktBytes := Bytes.htons (Bytes.read16 data (off + 4))
      if protocol = ipprotoFragment then .done .drop data
      else if protocol = ipprotoIcmpv6 then
        match parseIcmpv6 cfg data (off + 40) pckt with
        | .done verdict data => .done verdict data
        | .further pckt => .further (pckt, pktBytes)
      else
        .further ({ pckt with
          flow := { pckt.flow with
            srcv6 := Bytes.read128 data (off + 8)
            dstv6 := Bytes.read128 data (off + 24) } }, pktBytes)
  else
    if off + 20 > data.length then .done .drop data
    else if Bytes.read8 data off &&& 0x0f ≠ 5 then .done .drop data
    else
      let protocol := Bytes.read8 data (off + 9)
      let pckt : PacketDescription :=
        { flow := { proto := protocol }, tos := Bytes.read8 data (off + 1) }
      let pktBytes := Bytes.htons (Bytes.read16 data (off + 2))
      if Bytes.read16 data (off + 6) &&& pcktFragmented ≠ 0 then .done .drop data
      else if protocol = ipprotoIcmp then
        match parseIcmp cfg data (off + 20) pckt with
        | .done verdict data => .done verdict data
        | .further pckt => .further (pckt, pktBytes)
      else
        .further ({ pckt with
          flow := { pckt.flow with
            srcv6 := .ofV4 (Bytes.read32 data (off + 12))
            dstv6 := .ofV4 (Bytes.read32 data (off + 16)) } }, pktBytes)

/-! ## Transport headers -/

/-- `calc_offset`: where the transport header is, behind the quoted one for an ICMP error. -/
def calcOffset (isIpv6 isIcmp : Bool) : Nat :=
  if isIpv6 then 14 + 40 + (if isIcmp then 8 + 40 else 0)
  else 14 + 20 + (if isIcmp then 8 + 20 else 0)

/-- Record the ports, exchanged if the packet was quoted by an ICMP message. -/
def PacketDescription.setPorts (pckt : PacketDescription) (source dest : UInt16) :
    PacketDescription :=
  { pckt with
    flow := { pckt.flow with
      srcPort := if pckt.icmp then dest else source
      dstPort := if pckt.icmp then source else dest } }

/-- `parse_udp`: the ports. -/
def parseUdp (data : List UInt8) (isIpv6 : Bool) (pckt : PacketDescription) :
    Option PacketDescription :=
  let off := calcOffset isIpv6 pckt.icmp
  if off + 8 > data.length then none
  else some (pckt.setPorts (Bytes.read16 data off) (Bytes.read16 data (off + 2)))

/-- `parse_tcp`: the ports, and whether the packet opens a connection. -/
def parseTcp (data : List UInt8) (isIpv6 : Bool) (pckt : PacketDescription) :
    Option PacketDescription :=
  let off := calcOffset isIpv6 pckt.icmp
  if off + 20 > data.length then none
  else
    let syn := Bytes.read8 data (off + 13) &&& 0x02 != 0
    some ({ pckt with synSet := pckt.synSet || syn }.setPorts
      (Bytes.read16 data off) (Bytes.read16 data (off + 2)))

/-- `QUIC_LONG_HEADER` -/
def quicLongHeader : UInt8 := 0x80
/-- `QUIC_HANDSHAKE` -/
def quicHandshake : UInt8 := 0x20
/-- `QUIC_PACKET_TYPE_MASK` -/
def quicPacketTypeMask : UInt8 := 0x30
/-- `QUIC_VERSION_MVFST_OLD` -/
def quicVersionMvfstOld : UInt32 := 0xfaceb000

/-- The offset of the connection id of a packet with a long header. -/
def quicLongConnId (cfg : BpfConfig) (data : List UInt8) (quic : Nat) : Option Nat :=
  let pktType := Bytes.read8 data quic
  if quic + 6 + cfg.quicMinConnidLen.toNat > data.length then none
  else if pktType &&& quicPacketTypeMask < quicHandshake then none
  else
    let connIdLens := Bytes.read8 data (quic + 5)
    let length := if Bytes.read32 data (quic + 1) = quicVersionMvfstOld then connIdLens >>> 4
      else connIdLens
    if length < cfg.quicMinConnidLen then none else some (quic + 6)

/-- `parse_quic`: the index in the connection id. -/
def parseQuic (cfg : BpfConfig) (data : List UInt8) (isIpv6 : Bool) (pckt : PacketDescription) :
    Option Nat :=
  let quic := calcOffset isIpv6 pckt.icmp + 8
  if quic + 1 > data.length then none
  else
    let connId :=
      if Bytes.read8 data quic &&& quicLongHeader = quicLongHeader then quicLongConnId cfg data quic
      else if quic + 1 + cfg.quicMinConnidLen.toNat > data.length then none
      else some (quic + 1)
    connId.bind fun off =>
      if Bytes.read8 data off >>> 6 = cfg.quicConnidVersion then
        some (((Bytes.read8 data off &&& 0x3f).toNat <<< 10) |||
          ((Bytes.read8 data (off + 1)).toNat <<< 2) ||| ((Bytes.read8 data (off + 2)).toNat >>> 6))
      else none

end Katran
