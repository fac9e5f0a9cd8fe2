import Katran.Bpf.OuterHeaders
import Katran.Lb.Structs
import Katran.System.Distinguished

/-! # Asking where a flow goes

`getRealForFlow` makes a packet of a flow, hands it to the forwarding program, and reads the
outer destination of what the program transmits. The program runs on the live maps of some
core, so the packet leaves the trace that a packet of a client leaves; and a packet over
TCP has the SYN flag, so that it is not looked up but recorded anew.
-/

namespace Katran

open Foundation

/-- A flow, as the caller names it. -/
structure KatranFlow where
  src : String
  dst : String
  srcPort : UInt16
  dstPort : UInt16
  proto : UInt8
deriving DecidableEq, Repr

namespace KatranSimulator

/-- The size of a test packet. -/
def kTestPacketSize : Nat := 512
/-- The hop limit of a test packet. -/
def kDefaultTtl : UInt8 := 64

/-- The headroom that the kernel gives to a packet of a test run. -/
def xdpPacketHeadroom : Nat := 256

/-- A buffer for a packet, whose bytes are not initialised. -/
abbrev IOBuf := { bytes : List UInt8 // bytes.length = kTestPacketSize }

/-! ## Making a packet -/

/-- The identification is not written. -/
def createV4Packet (src dst : UInt32) (buf : List UInt8) (proto : UInt8) (size : UInt16) :
    List UInt8 :=
  let buf := Bytes.write16 buf 12 beEthPIp
  let buf := Bytes.write8 buf 14 0x45
  let buf := Bytes.write16 buf 20 0
  let buf := Bytes.write8 buf 23 proto
  let buf := Bytes.write16 buf 24 0
  let buf := Bytes.write8 buf 15 0
  let buf := Bytes.write16 buf 16 (Bytes.htons size)
  let buf := Bytes.write32 buf 30 dst
  let buf := Bytes.write32 buf 26 src
  Bytes.write8 buf 22 kDefaultTtl

/-- An IPv6 packet with a transport header. -/
def createV6Packet (src dst : Be32x4) (buf : List UInt8) (proto : UInt8) (size : UInt16) :
    List UInt8 :=
  let buf := Bytes.write16 buf 12 beEthPIpv6
  let buf := Bytes.write8 buf 14 0x60
  let buf := Bytes.write buf 15 [0, 0, 0]
  let buf := Bytes.write8 buf 20 proto
  let buf := Bytes.write16 buf 18 (Bytes.htons (size - 40))
  let buf := Bytes.write8 buf 21 kDefaultTtl
  let buf := Bytes.write128 buf 38 dst
  Bytes.write128 buf 22 src

/-- The packet opens a connection. -/
def createTcpHeader (buf : List UInt8) (srcPort dstPort : UInt16) (offset : Nat) : List UInt8 :=
  let buf := Bytes.write buf offset (List.replicate 20 0)
  let buf := Bytes.write16 buf offset (Bytes.htons srcPort)
  let buf := Bytes.write16 buf (offset + 2) (Bytes.htons dstPort)
  Bytes.write8 buf (offset + 13) 0x02

/-- The length is written in the order of the host. -/
def createUdpHeader (buf : List UInt8) (srcPort dstPort : UInt16) (offset : Nat) (size : UInt16) :
    List UInt8 :=
  let buf := Bytes.write buf offset (List.replicate 8 0)
  let buf := Bytes.write16 buf offset (Bytes.htons srcPort)
  let buf := Bytes.write16 buf (offset + 2) (Bytes.htons dstPort)
  Bytes.write16 buf (offset + 4) size

/-- The transport header of a packet, behind a network header of some length. -/
def createTransport (flow : KatranFlow) (l3hdrLen : Nat) (buf : List UInt8) : List UInt8 :=
  if flow.proto = ipprotoTcp then createTcpHeader buf flow.srcPort flow.dstPort (14 + l3hdrLen)
  else
    createUdpHeader buf flow.srcPort flow.dstPort (14 + l3hdrLen)
      (kTestPacketSize - 14 - l3hdrLen).toUInt16

/-- There is no packet for a flow with malformed addresses, with addresses of different
families, or with a protocol other than TCP and UDP. -/
def createPacketFromFlow (folly : Folly) (buf : IOBuf) (flow : KatranFlow) : Option (List UInt8) :=
  let payloadSize := (kTestPacketSize - 14).toUInt16
  match folly.parse flow.src, folly.parse flow.dst with
  | some (.v4 src), some (.v4 dst) =>
      if flow.proto = ipprotoTcp ∨ flow.proto = ipprotoUdp then
        some (createTransport flow 20 (createV4Packet src dst buf.1 flow.proto payloadSize))
      else none
  | some (.v6 src), some (.v6 dst) =>
      if flow.proto = ipprotoTcp ∨ flow.proto = ipprotoUdp then
        some (createTransport flow 40 (createV6Packet src dst buf.1 flow.proto payloadSize))
      else none
  | _, _ => none

/-! ## Running the program -/

/-- The outer destination of a packet. -/
def getPcktDst (pckt : List UInt8) : Option IPAddress :=
  if pckt.length < 14 then none
  else if Bytes.read16 pckt 12 = beEthPIp then
    if pckt.length < 14 + 20 then none else some (.v4 (Bytes.read32 pckt 30))
  else
    if pckt.length < 14 + 40 then none else some (.v6 (Bytes.read128 pckt 38))

/-- A packet as a test run hands it to the program. -/
def testXdp (pckt : List UInt8) : XdpMd where
  headroom := List.replicate xdpPacketHeadroom 0
  data := pckt

section Query

variable (folly : Folly) (cfg : BpfConfig) (maps : ConfigMaps) (env : PacketEnv) (tailCalls : Nat)

/-- The packet is handed to the program once, and what it transmits is returned. -/
def runSimulation (pckt : List UInt8) (flow : FlowMaps) : Option (List UInt8) × FlowMaps :=
  let outcome := balancerIngress cfg maps env tailCalls (testXdp pckt) flow
  (if outcome.verdict = .tx then some outcome.xdp.data else none, outcome.flow)

/-- The address of the real of a flow, if it has one, and the maps afterwards. -/
def getRealForFlow (buf : IOBuf) (query : KatranFlow) (flow : FlowMaps) :
    Option IPAddress × FlowMaps :=
  match createPacketFromFlow folly buf query with
  | none => (none, flow)
  | some pckt =>
      match runSimulation cfg maps env tailCalls pckt flow with
      | (none, flow) => (none, flow)
      | (some rpckt, flow) => (getPcktDst rpckt, flow)

end Query

/-! ## The packet of a query -/

/-- The flow of a query, if there is a packet for it, and its family. -/
def flowKey (folly : Folly) (query : KatranFlow) : Option (Bool × FlowKey) :=
  let key : FlowKey :=
    { srcPort := Bytes.htons query.srcPort
      dstPort := Bytes.htons query.dstPort
      proto := query.proto }
  match folly.parse query.src, folly.parse query.dst with
  | some (.v4 src), some (.v4 dst) =>
      if query.proto = ipprotoTcp ∨ query.proto = ipprotoUdp then
        some (false, { key with srcv6 := .ofV4 src, dstv6 := .ofV4 dst })
      else none
  | some (.v6 src), some (.v6 dst) =>
      if query.proto = ipprotoTcp ∨ query.proto = ipprotoUdp then
        some (true, { key with srcv6 := src, dstv6 := dst })
      else none
  | _, _ => none

/-- What the program reads of a network header. -/
structure NetworkHeader (isIpv6 : Bool) (key : FlowKey) (data : List UInt8) : Prop where
  length : data.length = kTestPacketSize
  type : Bytes.read16 data 12 = if isIpv6 then beEthPIpv6 else beEthPIp
  parsed : ∀ cfg, ∃ pktBytes, processL3Headers cfg data 14 isIpv6 =
    .further ({ flow := { key with srcPort := 0, dstPort := 0 } }, pktBytes)

/-- The header of an IPv4 test packet. -/
theorem createV4Packet_spec {buf : List UInt8} (length : buf.length = kTestPacketSize)
    (src dst : UInt32) (proto : UInt8) (size : UInt16) :
    let data := createV4Packet src dst buf proto size
    data.length = kTestPacketSize ∧ Bytes.read16 data 12 = beEthPIp ∧ Bytes.read8 data 14 = 0x45 ∧
      Bytes.read8 data 15 = 0 ∧ Bytes.read16 data 20 = 0 ∧ Bytes.read8 data 23 = proto ∧
      Bytes.read32 data 26 = src ∧ Bytes.read32 data 30 = dst := by
  have long : 512 ≤ buf.length := Nat.le_of_eq length.symm
  dsimp only [createV4Packet]
  refine ⟨?_, ?_, ?_, ?_, ?_, ?_, ?_, ?_⟩
  · simp only [Bytes.length_write8, Bytes.length_write16, Bytes.length_write32, length]
  · simp (disch := omega) only [Bytes.read16_write16_of_outside, Bytes.read16_write8_of_outside,
      Bytes.read16_write32_of_outside]
    exact Bytes.read16_write16 _ (by omega)
  · simp (disch := omega) only [Bytes.read8_write16_of_outside, Bytes.read8_write8_of_ne,
      Bytes.read8_write32_of_outside]
    apply Bytes.read8_write8_self
    rw [Bytes.length_write16]
    omega
  · simp (disch := omega) only [Bytes.read8_write16_of_outside, Bytes.read8_write8_of_ne,
      Bytes.read8_write32_of_outside]
    apply Bytes.read8_write8_self
    simp only [Bytes.length_write8, Bytes.length_write16]
    omega
  · simp (disch := omega) only [Bytes.read16_write16_of_outside, Bytes.read16_write8_of_outside,
      Bytes.read16_write32_of_outside]
    apply Bytes.read16_write16
    simp only [Bytes.length_write8, Bytes.length_write16]
    omega
  · simp (disch := omega) only [Bytes.read8_write16_of_outside, Bytes.read8_write8_of_ne,
      Bytes.read8_write32_of_outside]
    apply Bytes.read8_write8_self
    simp only [Bytes.length_write8, Bytes.length_write16]
    omega
  · refine (Bytes.read32_write_of_outside _ (.inr (by decide : 22 + 1 ≤ 26))).trans ?_
    apply Bytes.read32_write32
    simp only [Bytes.length_write8, Bytes.length_write16, Bytes.length_write32]
    omega
  · refine (Bytes.read32_write_of_outside _ (.inr (by decide : 22 + 1 ≤ 30))).trans ?_
    refine (Bytes.read32_write_of_outside _ (.inr (by decide : 26 + 4 ≤ 30))).trans ?_
    apply Bytes.read32_write32
    simp only [Bytes.length_write8, Bytes.length_write16]
    omega

/-- The header of an IPv6 test packet. -/
theorem createV6Packet_spec {buf : List UInt8} (length : buf.length = kTestPacketSize)
    (src dst : Be32x4) (proto : UInt8) (size : UInt16) :
    let data := createV6Packet src dst buf proto size
    data.length = kTestPacketSize ∧ Bytes.read16 data 12 = beEthPIpv6 ∧
      Bytes.read8 data 14 = 0x60 ∧ Bytes.read8 data 15 = 0 ∧ Bytes.read8 data 20 = proto ∧
      Bytes.read128 data 22 = src ∧ Bytes.read128 data 38 = dst := by
  have long : 512 ≤ buf.length := Nat.le_of_eq length.symm
  dsimp only [createV6Packet]
  refine ⟨?_, ?_, ?_, ?_, ?_, ?_, ?_⟩
  · simp only [Bytes.length_write8, Bytes.length_write16, Bytes.length_write128,
      Bytes.length_write, length]
  · simp (disch := omega) only [Bytes.read16_write16_of_outside, Bytes.read16_write8_of_outside,
      Bytes.read16_write128_of_outside]
    refine (Bytes.read16_write_of_outside _ (.inl (by decide : 12 + 2 ≤ 15))).trans ?_
    simp (disch := omega) only [Bytes.read16_write8_of_outside]
    exact Bytes.read16_write16 _ (by omega)
  · simp (disch := omega) only [Bytes.read8_write16_of_outside, Bytes.read8_write8_of_ne,
      Bytes.read8_write128_of_outside]
    refine (Bytes.read8_write_of_outside _ (.inl (by decide : 14 < 15))).trans ?_
    apply Bytes.read8_write8_self
    rw [Bytes.length_write16]
    omega
  · simp (disch := omega) only [Bytes.read8_write16_of_outside, Bytes.read8_write8_of_ne,
      Bytes.read8_write128_of_outside]
    refine Bytes.read8_write_inside (?_ : 15 + ([0, 0, 0] : List UInt8).length ≤ _) 0 (by decide)
    simp only [Bytes.length_write8, Bytes.length_write16, List.length_cons, List.length_nil]
    omega
  · simp (disch := omega) only [Bytes.read8_write16_of_outside, Bytes.read8_write8_of_ne,
      Bytes.read8_write128_of_outside]
    apply Bytes.read8_write8_self
    simp only [Bytes.length_write8, Bytes.length_write16, Bytes.length_write]
    omega
  · apply Bytes.read128_write128
    simp only [Bytes.length_write8, Bytes.length_write16, Bytes.length_write,
      Bytes.length_write128]
    omega
  · refine (Bytes.read128_write_of_outside _ (.inr (by decide : 22 + 16 ≤ 38))).trans ?_
    apply Bytes.read128_write128
    simp only [Bytes.length_write8, Bytes.length_write16, Bytes.length_write]
    omega

/-- A transport header does not touch what is in front of it. -/
theorem createTransport_take (query : KatranFlow) (l3hdrLen : Nat) (data : List UInt8) :
    (createTransport query l3hdrLen data).take (14 + l3hdrLen) = data.take (14 + l3hdrLen) ∧
      (createTransport query l3hdrLen data).length = data.length := by
  unfold createTransport
  split
  · dsimp only [createTcpHeader]
    constructor
    · rw [Bytes.write8, Bytes.take_write _ _ (by omega), Bytes.write16,
        Bytes.take_write _ _ (by omega), Bytes.write16, Bytes.take_write _ _ (by omega),
        Bytes.take_write _ _ (by omega)]
    · simp only [Bytes.length_write8, Bytes.length_write16, Bytes.length_write]
  · dsimp only [createUdpHeader]
    constructor
    · rw [Bytes.write16, Bytes.take_write _ _ (by omega), Bytes.write16,
        Bytes.take_write _ _ (by omega), Bytes.write16, Bytes.take_write _ _ (by omega),
        Bytes.take_write _ _ (by omega)]
    · simp only [Bytes.length_write16, Bytes.length_write]

/-- The ports, and for TCP the flags. -/
theorem createTransport_spec (query : KatranFlow) {l3hdrLen : Nat} {data : List UInt8}
    (room : 14 + l3hdrLen + 20 ≤ data.length) :
    let packet := createTransport query l3hdrLen data
    Bytes.read16 packet (14 + l3hdrLen) = Bytes.htons query.srcPort ∧
      Bytes.read16 packet (14 + l3hdrLen + 2) = Bytes.htons query.dstPort ∧
      (query.proto = ipprotoTcp → Bytes.read8 packet (14 + l3hdrLen + 13) = 0x02) := by
  dsimp only
  unfold createTransport
  split
  next tcp =>
    dsimp only [createTcpHeader]
    refine ⟨?_, ?_, fun _ => ?_⟩
    · simp (disch := omega) only [Bytes.read16_write8_of_outside, Bytes.read16_write16_of_outside]
      apply Bytes.read16_write16
      rw [Bytes.length_write]
      omega
    · simp (disch := omega) only [Bytes.read16_write8_of_outside]
      apply Bytes.read16_write16
      rw [Bytes.length_write16, Bytes.length_write]
      omega
    · apply Bytes.read8_write8_self
      rw [Bytes.length_write16, Bytes.length_write16, Bytes.length_write]
      omega
  next udp =>
    dsimp only [createUdpHeader]
    refine ⟨?_, ?_, fun tcp => (udp tcp).elim⟩
    · simp (disch := omega) only [Bytes.read16_write16_of_outside]
      apply Bytes.read16_write16
      rw [Bytes.length_write]
      omega
    · simp (disch := omega) only [Bytes.read16_write16_of_outside]
      apply Bytes.read16_write16
      rw [Bytes.length_write16, Bytes.length_write]
      omega

/-- A test packet for an IPv4 flow has the header of that flow. -/
theorem networkHeader_v4 {query : KatranFlow} {src dst : UInt32} (buf : IOBuf) (size : UInt16)
    (transport : query.proto = ipprotoTcp ∨ query.proto = ipprotoUdp) :
    NetworkHeader false
      ⟨.ofV4 src, .ofV4 dst, Bytes.htons query.srcPort, Bytes.htons query.dstPort, query.proto⟩
      (createTransport query 20 (createV4Packet src dst buf.1 query.proto size)) := by
  obtain ⟨length, type, version, tos, unfragmented, proto, saddr, daddr⟩ :=
    createV4Packet_spec buf.2 src dst query.proto size
  obtain ⟨front, sameLength⟩ :=
    createTransport_take query 20 (createV4Packet src dst buf.1 query.proto size)
  rw [← Bytes.read16_of_take front (by decide)] at type unfragmented
  rw [← Bytes.read8_of_take front (by decide)] at version tos proto
  rw [← Bytes.read32_of_take front (by decide)] at saddr daddr
  rw [← sameLength] at length
  generalize createTransport query 20 (createV4Packet src dst buf.1 query.proto size) = data at *
  refine ⟨length, type, fun cfg => ⟨Bytes.htons (Bytes.read16 data 16), ?_⟩⟩
  have notIcmp : query.proto ≠ ipprotoIcmp := by
    rcases transport with tcp | udp
    · rw [tcp]
      decide
    · rw [udp]
      decide
  have long : ¬ 14 + 20 > data.length := by
    rw [length]
    decide
  unfold processL3Headers
  rw [if_neg (by decide), if_neg long]
  simp only [Nat.reduceAdd, version, tos, unfragmented, proto, saddr, daddr, notIcmp, ↓reduceIte]
  rfl

/-- A test packet for an IPv6 flow has the header of that flow. -/
theorem networkHeader_v6 {query : KatranFlow} {src dst : Be32x4} (buf : IOBuf) (size : UInt16)
    (transport : query.proto = ipprotoTcp ∨ query.proto = ipprotoUdp) :
    NetworkHeader true
      ⟨src, dst, Bytes.htons query.srcPort, Bytes.htons query.dstPort, query.proto⟩
      (createTransport query 40 (createV6Packet src dst buf.1 query.proto size)) := by
  obtain ⟨length, type, version, label, proto, saddr, daddr⟩ :=
    createV6Packet_spec buf.2 src dst query.proto size
  obtain ⟨front, sameLength⟩ :=
    createTransport_take query 40 (createV6Packet src dst buf.1 query.proto size)
  rw [← Bytes.read16_of_take front (by decide)] at type
  rw [← Bytes.read8_of_take front (by decide)] at version label proto
  rw [← Bytes.read128_of_take front (by decide)] at saddr daddr
  rw [← sameLength] at length
  generalize createTransport query 40 (createV6Packet src dst buf.1 query.proto size) = data at *
  refine ⟨length, type, fun cfg => ⟨Bytes.htons (Bytes.read16 data 18), ?_⟩⟩
  have notExtension : query.proto ≠ ipprotoFragment ∧ query.proto ≠ ipprotoIcmpv6 := by
    rcases transport with tcp | udp
    · rw [tcp]
      decide
    · rw [udp]
      decide
  have long : ¬ 14 + 40 > data.length := by
    rw [length]
    decide
  unfold processL3Headers
  rw [if_pos rfl, if_neg long]
  simp only [Nat.reduceAdd, version, label, proto, saddr, daddr, notExtension.1, notExtension.2,
    ↓reduceIte]
  rfl

/-- The packet of a query: its frame, and how it is described unless it is taken for a
tunnel that ends here. -/
structure QueryPacket (isIpv6 : Bool) (key : FlowKey) (data : List UInt8) : Prop where
  length : data.length = kTestPacketSize
  type : Bytes.read16 data 12 = if isIpv6 then beEthPIpv6 else beEthPIp
  proto : key.proto = ipprotoTcp ∨ key.proto = ipprotoUdp
  described : ∀ cfg : BpfConfig, ∃ pktBytes, describe cfg isIpv6 data =
    if key.proto = ipprotoUdp ∧ cfg.inlineDecapGue = true ∧
      key.dstPort = Bytes.htons cfg.gueDport then none
    else some ({ flow := key, synSet := decide (key.proto = ipprotoTcp) }, pktBytes)

private theorem queryPacket_of_headers {isIpv6 : Bool} {key : FlowKey} {data : List UInt8}
    (network : NetworkHeader isIpv6 key data)
    (proto : key.proto = ipprotoTcp ∨ key.proto = ipprotoUdp)
    (source : Bytes.read16 data (calcOffset isIpv6 false) = key.srcPort)
    (dest : Bytes.read16 data (calcOffset isIpv6 false + 2) = key.dstPort)
    (syn : key.proto = ipprotoTcp → Bytes.read8 data (calcOffset isIpv6 false + 13) = 0x02) :
    QueryPacket isIpv6 key data where
  length := network.length
  type := network.type
  proto := proto
  described := by
    intro cfg
    obtain ⟨pktBytes, parsed⟩ := network.parsed cfg
    refine ⟨pktBytes, ?_⟩
    have far : calcOffset isIpv6 false + 20 ≤ data.length := by
      rw [network.length]
      cases isIpv6 with
      | false => decide
      | true => decide
    have untunnelledIpip : ¬ (cfg.inlineDecapIpip = true ∧
        (key.proto = ipprotoIpip ∨ key.proto = ipprotoIpv6)) := by
      rintro ⟨_, tunnel⟩
      rcases proto with tcp | udp
      · rw [tcp] at tunnel
        exact absurd tunnel (by decide)
      · rw [udp] at tunnel
        exact absurd tunnel (by decide)
    unfold describe
    rw [parsed]
    dsimp only
    rw [if_neg untunnelledIpip]
    rcases proto with tcp | udp
    · have room : ¬ calcOffset isIpv6 false + 20 > data.length := by omega
      have notUdp : ¬ (key.proto = ipprotoUdp ∧ cfg.inlineDecapGue = true ∧
          key.dstPort = Bytes.htons cfg.gueDport) := by
        rw [tcp]
        exact fun tunnel => absurd tunnel.1 (by decide)
      rw [if_pos tcp, if_neg notUdp, decide_eq_true tcp]
      simp only [parseTcp, PacketDescription.setPorts, room, ↓reduceIte, source, dest, syn tcp,
        Option.map_some, Bool.false_eq_true]
      rfl
    · have room : ¬ calcOffset isIpv6 false + 8 > data.length := by omega
      have notTcp : ¬ key.proto = ipprotoTcp := by
        rw [udp]
        decide
      rw [if_neg notTcp, if_pos udp]
      by_cases tunnel : cfg.inlineDecapGue = true ∧ key.dstPort = Bytes.htons cfg.gueDport
      · rw [if_pos ⟨udp, tunnel⟩]
        simp only [parseUdp, PacketDescription.setPorts, room, ↓reduceIte, source, dest,
          Option.filter_some, tunnel, and_self, not_true_eq_false, decide_false,
          Bool.false_eq_true, Option.map_none]
      · rw [if_neg fun both => tunnel both.2]
        simp only [parseUdp, PacketDescription.setPorts, room, ↓reduceIte, source, dest,
          Option.filter_some, tunnel, not_false_eq_true, decide_true, Option.map_some, notTcp,
          decide_false, Bool.false_eq_true]

private theorem QueryPacket.eq_of_describe {isIpv6 : Bool} {key : FlowKey} {data : List UInt8}
    {cfg : BpfConfig} {pckt : PacketDescription} {pktBytes : UInt16}
    (packet : QueryPacket isIpv6 key data)
    (parsed : describe cfg isIpv6 data = some (pckt, pktBytes)) :
    pckt = { flow := key, synSet := decide (key.proto = ipprotoTcp) } := by
  obtain ⟨_, described⟩ := packet.described cfg
  rw [parsed] at described
  split at described
  · cases described
  · exact (Prod.mk.inj (Option.some.inj described)).1

/-- There is a packet for a query exactly if it has a flow. -/
theorem createPacketFromFlow_spec (folly : Folly) (buf : IOBuf) (query : KatranFlow) :
    createPacketFromFlow folly buf query = none ∧ flowKey folly query = none ∨
    ∃ data isIpv6 key, createPacketFromFlow folly buf query = some data ∧
      flowKey folly query = some (isIpv6, key) ∧ QueryPacket isIpv6 key data := by
  unfold createPacketFromFlow flowKey
  dsimp only
  split
  next src dst _ _ =>
    split
    next transport =>
      have length := (createV4Packet_spec buf.2 src dst query.proto
        (kTestPacketSize - 14).toUInt16).1
      obtain ⟨source, dest, syn⟩ := createTransport_spec query
        (by rw [length]; decide : 14 + 20 + 20 ≤ (createV4Packet src dst buf.1 query.proto
          (kTestPacketSize - 14).toUInt16).length)
      exact .inr ⟨_, _, _, rfl, rfl,
        queryPacket_of_headers (networkHeader_v4 buf _ transport) transport source dest syn⟩
    next => exact .inl ⟨rfl, rfl⟩
  next src dst _ _ =>
    split
    next transport =>
      have length := (createV6Packet_spec buf.2 src dst query.proto
        (kTestPacketSize - 14).toUInt16).1
      obtain ⟨source, dest, syn⟩ := createTransport_spec query
        (by rw [length]; decide : 14 + 40 + 20 ≤ (createV6Packet src dst buf.1 query.proto
          (kTestPacketSize - 14).toUInt16).length)
      exact .inr ⟨_, _, _, rfl, rfl,
        queryPacket_of_headers (networkHeader_v6 buf _ transport) transport source dest syn⟩
    next => exact .inl ⟨rfl, rfl⟩
  next => exact .inl ⟨rfl, rfl⟩

/-! ## The answer -/

/-- The destination in an IPv4 header. -/
theorem createV4Hdr_daddr (cfg : BpfConfig) {data : List UInt8} (tos : UInt8)
    (saddr daddr : UInt32) (pktBytes : UInt16) (proto : UInt8) (room : 34 ≤ data.length) :
    Bytes.read32 (createV4Hdr cfg data 14 tos saddr daddr pktBytes proto) 30 = daddr := by
  dsimp only [createV4Hdr]
  refine (Bytes.read32_write_of_outside _ (.inr (by decide : 24 + 2 ≤ 30))).trans ?_
  refine (Bytes.read32_write_of_outside _ (.inr (by decide : 22 + 1 ≤ 30))).trans ?_
  refine (Bytes.read32_write_of_outside _ (.inr (by decide : 26 + 4 ≤ 30))).trans ?_
  apply Bytes.read32_write32
  simp only [Bytes.length_write8, Bytes.length_write16]
  omega

/-- The destination in an IPv6 header. -/
theorem createV6Hdr_daddr (cfg : BpfConfig) {data : List UInt8} (tc : UInt8)
    (saddr daddr : Be32x4) (payloadLen : UInt16) (proto : UInt8) (room : 54 ≤ data.length) :
    Bytes.read128 (createV6Hdr cfg data 14 tc saddr daddr payloadLen proto) 38 = daddr := by
  dsimp only [createV6Hdr]
  apply Bytes.read128_write128
  simp only [Bytes.length_write8, Bytes.length_write16, Bytes.length_write128, Bytes.length_write]
  omega

private theorem getPcktDst_createV4Hdr (cfg : BpfConfig) {data : List UInt8} (tos : UInt8)
    (saddr daddr : UInt32) (pktBytes : UInt16) (proto : UInt8) (room : 34 ≤ data.length)
    (type : Bytes.read16 data 12 = beEthPIp) :
    getPcktDst (createV4Hdr cfg data 14 tos saddr daddr pktBytes proto) = some (.v4 daddr) := by
  obtain ⟨length, _, _, _, sameType, _⟩ :=
    createV4Hdr_spec cfg tos saddr daddr pktBytes proto room
  have long : ¬ data.length < 14 := by omega
  have longer : ¬ data.length < 14 + 20 := by omega
  rw [getPcktDst, length, if_neg long, sameType, if_pos type, if_neg longer,
    createV4Hdr_daddr cfg tos saddr daddr pktBytes proto room]

private theorem getPcktDst_createV6Hdr (cfg : BpfConfig) {data : List UInt8} (tc : UInt8)
    (saddr daddr : Be32x4) (payloadLen : UInt16) (proto : UInt8) (room : 54 ≤ data.length)
    (type : Bytes.read16 data 12 = beEthPIpv6) :
    getPcktDst (createV6Hdr cfg data 14 tc saddr daddr payloadLen proto) = some (.v6 daddr) := by
  obtain ⟨length, _, sameType, _⟩ := createV6Hdr_spec cfg tc saddr daddr payloadLen proto room
  have long : ¬ data.length < 14 := by omega
  have longer : ¬ data.length < 14 + 40 := by omega
  have other : ¬ beEthPIpv6 = beEthPIp := by decide
  rw [getPcktDst, length, if_neg long, sameType, type, if_neg other, if_neg longer,
    createV6Hdr_daddr cfg tc saddr daddr payloadLen proto room]

/-- The address of a real. -/
def address (real : RealDefinition) : IPAddress :=
  if real.isIpv6 then .v6 real.dstv6 else .v4 real.dstv6.w0

/-- The outer destination of a packet that is wrapped for a real is the real's address. -/
theorem getPcktDst_of_encap {cfg : BpfConfig} {maps : ConfigMaps} {isIpv6 : Bool}
    {pckt : PacketDescription} {dst : RealDefinition} {pktBytes : UInt16} {xdp wrapped : XdpMd}
    (encapsulated : pcktEncap cfg maps isIpv6 pckt dst pktBytes xdp = some wrapped) :
    getPcktDst wrapped.data = some (address dst) := by
  unfold pcktEncap at encapsulated
  unfold address
  split at encapsulated
  next v6 =>
    rw [if_pos v6]
    split at encapsulated
    · obtain ⟨wide, made, rfl⟩ := Option.map_eq_some_iff.mp encapsulated
      obtain ⟨long, type⟩ := writeEth_of_makeRoom made maps.ctlMac beEthPIpv6
      have udp := fun sport len => createUdpHdr_spec
        (writeEth maps.ctlMac wide.data 48 beEthPIpv6) sport cfg.gueDport len (by decide : 14 ≤ 54)
      cases isIpv6 with
      | false =>
          apply getPcktDst_createV6Hdr
          · rw [(udp _ _).1]
            omega
          · exact (udp _ _).2.trans type
      | true =>
          apply getPcktDst_createV6Hdr
          · rw [(udp _ _).1]
            omega
          · exact (udp _ _).2.trans type
    · obtain ⟨wide, made, rfl⟩ := Option.map_eq_some_iff.mp encapsulated
      obtain ⟨long, type⟩ := writeEth_of_makeRoom made maps.ctlMac beEthPIpv6
      exact getPcktDst_createV6Hdr cfg _ _ _ _ _ (by omega) type
  next v4 =>
    rw [if_neg v4]
    split at encapsulated
    · obtain ⟨wide, made, rfl⟩ := Option.map_eq_some_iff.mp encapsulated
      obtain ⟨long, type⟩ := writeEth_of_makeRoom made maps.ctlMac beEthPIp
      have udp := fun sport len => createUdpHdr_spec
        (writeEth maps.ctlMac wide.data 28 beEthPIp) sport cfg.gueDport len (by decide : 14 ≤ 34)
      apply getPcktDst_createV4Hdr
      · rw [(udp _ _).1]
        omega
      · exact (udp _ _).2.trans type
    · obtain ⟨wide, made, rfl⟩ := Option.map_eq_some_iff.mp encapsulated
      obtain ⟨long, type⟩ := writeEth_of_makeRoom made maps.ctlMac beEthPIp
      exact getPcktDst_createV4Hdr cfg _ _ _ _ _ (by omega) type

/-! ## Whether a query is noticed -/

/-- The next packet of a flow that has an entry in the connection table of its core is sent
to the address of the answer, unless the VIP goes by connection ids. -/
def AnswersNext (cfg : BpfConfig) (maps : ConfigMaps) (asked : Option (Bool × FlowKey))
    (answer : Option IPAddress) (flow : FlowMaps) : Prop :=
  ∀ isIpv6 key, asked = some (isIpv6, key) →
    ∀ (env : PacketEnv) (tailCalls : Nat) (xdp : XdpMd) pckt pktBytes vip info described entry sent,
      xdp.IsIp → xdp.frameIpv6 = isIpv6 →
      describe cfg isIpv6 xdp.data = some (pckt, pktBytes) → pckt.flow = key → pckt.icmp = false →
      lookupVip maps isIpv6 pckt = some (vip, info, described) → info.quicVip = false →
      Hits cfg env (lruMapOf cfg maps env.cpu) info (lruPckt info described) flow.lru entry →
      (balancerIngress cfg maps env tailCalls xdp flow).sent = some sent →
        answer = some (address sent.dst)

/-- What a query should be: it changes no connection, later packets go where they would have
gone, and the answer is where the flow goes. -/
structure Unnoticed (cfg : BpfConfig) (maps : ConfigMaps) (asked : Option (Bool × FlowKey))
    (before : FlowMaps) (result : Option IPAddress × FlowMaps) : Prop where
  connections : SameConnections before result.2
  forwarding : ∀ packets, forwarded cfg before packets = forwarded cfg result.2 packets
  answer : AnswersNext cfg maps asked result.1 result.2

/-- The cores that have an entry for a flow send it to one address. -/
def OneAddress (cfg : BpfConfig) (maps : ConfigMaps) (key : FlowKey) (flow : FlowMaps) : Prop :=
  ∀ cpu other entry otherEntry,
    flow.lru (lruMapOf cfg maps cpu) key = some entry →
    flow.lru (lruMapOf cfg maps other) key = some otherEntry →
    entry.pos < cfg.maxReals → otherEntry.pos < cfg.maxReals →
      address (maps.reals entry.pos) = address (maps.reals otherEntry.pos)

/-- The packet of a query leaves no trace, and the cores agree about its flow. -/
def Harmless (cfg : BpfConfig) (maps : ConfigMaps) (env : PacketEnv) (tailCalls : Nat)
    (data : List UInt8) (flow : FlowMaps) : Prop :=
  Traceless cfg maps env (innermost cfg maps env.cpu tailCalls (testXdp data) flow) flow ∧
    ∀ pckt pktBytes vip info described,
      describe cfg (testXdp data).frameIpv6 data = some (pckt, pktBytes) →
      lookupVip maps (testXdp data).frameIpv6 pckt = some (vip, info, described) →
      info.quicVip = false → OneAddress cfg maps (lruPckt info described).flow flow

section Unnoticed

variable {folly : Folly} {cfg : BpfConfig} {maps : ConfigMaps} {env : PacketEnv} {tailCalls : Nat}
  {buf : IOBuf} {query : KatranFlow} {flow : FlowMaps} {data : List UInt8} {isIpv6 : Bool}
  {key : FlowKey} {pckt described : PacketDescription} {pktBytes : UInt16} {vip : VipDefinition}
  {info : VipMeta} {entry : RealPosLru} {xdp : XdpMd}

/-- The answer is the destination of the test packet, if it is sent. -/
theorem getRealForFlow_eq (created : createPacketFromFlow folly buf query = some data) :
    let outcome := balancerIngress cfg maps env tailCalls (testXdp data) flow
    getRealForFlow folly cfg maps env tailCalls buf query flow =
      (if outcome.verdict = .tx then getPcktDst outcome.xdp.data else none, outcome.flow) := by
  dsimp only
  unfold getRealForFlow runSimulation
  rw [created]
  dsimp only
  split
  next later returned =>
    obtain ⟨unsent, rfl⟩ := Prod.mk.inj returned
    split at unsent
    · cases unsent
    next other => rw [if_neg other]
  next rpckt later returned =>
    obtain ⟨transmitted, rfl⟩ := Prod.mk.inj returned
    split at transmitted
    next sent =>
      obtain rfl := Option.some.inj transmitted
      rw [if_pos sent]
    · cases transmitted

/-- A test packet is an Ethernet frame of its family. -/
theorem QueryPacket.frame (packet : QueryPacket isIpv6 key data) :
    (testXdp data).IsIp ∧ (testXdp data).frameIpv6 = isIpv6 := by
  have type := packet.type
  have length := packet.length
  refine ⟨⟨?_, ?_⟩, ?_⟩
  · change 14 ≤ data.length
    rw [length]
    decide
  · change Bytes.read16 data 12 = beEthPIp ∨ Bytes.read16 data 12 = beEthPIpv6
    rw [type]
    cases isIpv6 with
    | false => exact .inl rfl
    | true => exact .inr rfl
  · change decide (Bytes.read16 data 12 = beEthPIpv6) = isIpv6
    rw [type]
    cases isIpv6 with
    | false => rfl
    | true => rfl

/-- A packet that is described is no tunnel that ends here. -/
theorem untunnelled_of_describe (parsed : describe cfg isIpv6 data = some (pckt, pktBytes)) :
    ¬ (pckt.flow.proto = ipprotoUdp ∧ cfg.inlineDecapGue = true ∧
      pckt.flow.dstPort = Bytes.htons cfg.gueDport) := by
  rintro ⟨udp, tunnel⟩
  unfold describe at parsed
  split at parsed
  · cases parsed
  · dsimp only at parsed
    split at parsed
    · cases parsed
    · split at parsed
      next tcp =>
        obtain ⟨transport, read, same⟩ := Option.map_eq_some_iff.mp parsed
        obtain ⟨rfl, _⟩ := Prod.mk.inj same
        unfold parseTcp at read
        dsimp only at read
        split at read
        · cases read
        · obtain rfl := Option.some.inj read
          exact absurd (tcp.symm.trans udp) (by decide)
      next =>
        split at parsed
        · obtain ⟨transport, read, same⟩ := Option.map_eq_some_iff.mp parsed
          obtain ⟨rfl, _⟩ := Prod.mk.inj same
          have kept := (Option.filter_eq_some_iff.mp read).2
          exact (of_decide_eq_true kept) tunnel
        · cases parsed

private theorem innermost_of_describe (cpu : Nat)
    (parsed : describe cfg xdp.frameIpv6 xdp.data = some (pckt, pktBytes)) :
    innermost cfg maps cpu tailCalls xdp flow = xdp := by
  cases tailCalls with
  | zero => rfl
  | succ tailCalls =>
      unfold innermost
      split
      · rcases parsePacket_spec cfg maps cpu xdp.frameIpv6 xdp flow with
          ⟨_, _, _, same⟩ | ⟨undescribed, _⟩
        · rw [same]
        · cases undescribed.symm.trans parsed
      · rfl

/-- A packet that is described is processed once. -/
theorem balancerIngress_of_describe (below : VipNumsBelow cfg maps) (env : PacketEnv)
    (tailCalls : Nat) (flow : FlowMaps) (ip : xdp.IsIp)
    (parsed : describe cfg xdp.frameIpv6 xdp.data = some (pckt, pktBytes)) :
    balancerIngress cfg maps env tailCalls xdp flow =
      processPacket cfg maps env xdp.frameIpv6 xdp flow := by
  apply balancerIngress_settled tailCalls flow ip
  intro again
  obtain ⟨_, _, final, _⟩ := processPacket_recirculated below again
  rcases parsePacket_spec cfg maps env.cpu xdp.frameIpv6 xdp flow with
    ⟨_, _, _, same⟩ | ⟨undescribed, _⟩
  · cases final.symm.trans same
  · cases undescribed.symm.trans parsed

/-- A frame that finds its entry is sent to the entry's real. -/
theorem sent_of_hits (sane : cfg.Sane) (below : VipNumsBelow cfg maps) (env : PacketEnv)
    (tailCalls : Nat) (ip : xdp.IsIp)
    (parsed : describe cfg xdp.frameIpv6 xdp.data = some (pckt, pktBytes))
    (found : lookupVip maps xdp.frameIpv6 pckt = some (vip, info, described))
    (fits : xdp.data.length ≤ cfg.maxPcktSize) (noQuic : info.quicVip = false)
    (hits : Hits cfg env (lruMapOf cfg maps env.cpu) info (lruPckt info described) flow.lru entry) :
    (∀ sent, (balancerIngress cfg maps env tailCalls xdp flow).sent = some sent →
      sent.dst = maps.reals entry.pos) ∧
    (48 ≤ xdp.headroom.length → ∃ sent,
      (balancerIngress cfg maps env tailCalls xdp flow).sent = some sent) := by
  obtain ⟨balanced, _⟩ := balancerIngress_balanced below env tailCalls flow ip parsed found fits
  have unrouted := quicRouted_eq_false cfg xdp.frameIpv6 xdp.data described noQuic
  obtain ⟨decided, _⟩ := balanced.decision.of_hits unrouted (sane.present maps env.cpu) hits
  have number : info.vipNum < cfg.maxVips := below vip info (lookupVip_spec found).2.1
  constructor
  · intro sent sending
    obtain ⟨chosen, chose, rfl, _⟩ := balanced.of_sent sent sending
    obtain rfl := Option.some.inj (decided.symm.trans chose)
    rfl
  · intro room
    refine ⟨_, balanced.sends _ decided room ?_ hits.known⟩
    unfold BpfConfig.statsMapSize
    omega

private theorem fits_of_sent {sent : Sent} (below : VipNumsBelow cfg maps) (ip : xdp.IsIp)
    (parsed : describe cfg xdp.frameIpv6 xdp.data = some (pckt, pktBytes))
    (sending : (balancerIngress cfg maps env tailCalls xdp flow).sent = some sent) :
    xdp.data.length ≤ cfg.maxPcktSize := by
  rw [balancerIngress_of_describe below env tailCalls flow ip parsed] at sending
  rcases processPacket_cases cfg maps env xdp.frameIpv6 xdp flow with
    ⟨unsent, _⟩ | ⟨_, _, _, _, _, _, _, _, balanced⟩
  · cases unsent.symm.trans sending
  · exact balanced.fits

/-- A test packet has room for the outer headers. -/
theorem testXdp_room (data : List UInt8) : 48 ≤ (testXdp data).headroom.length := by
  rw [testXdp, List.length_replicate]
  decide

/-- A test packet is not too big. -/
theorem QueryPacket.fits (sane : cfg.Sane) (packet : QueryPacket isIpv6 key data) :
    (testXdp data).data.length ≤ cfg.maxPcktSize := by
  change data.length ≤ cfg.maxPcktSize
  rw [packet.length]
  exact sane.size

/-- The answer for a flow whose entry is found. -/
theorem answer_of_hits (sane : cfg.Sane) (below : VipNumsBelow cfg maps)
    (created : createPacketFromFlow folly buf query = some data)
    (packet : QueryPacket isIpv6 key data)
    (parsed : describe cfg isIpv6 data = some (pckt, pktBytes))
    (found : lookupVip maps isIpv6 pckt = some (vip, info, described))
    (noQuic : info.quicVip = false)
    (hits : Hits cfg env (lruMapOf cfg maps env.cpu) info (lruPckt info described) flow.lru entry) :
    (getRealForFlow folly cfg maps env tailCalls buf query flow).1 =
      some (address (maps.reals entry.pos)) := by
  obtain ⟨ip, family⟩ := packet.frame
  rw [← family] at parsed found
  obtain ⟨target, sends⟩ :=
    sent_of_hits sane below env tailCalls ip parsed found (packet.fits sane) noQuic hits
  obtain ⟨sent, sending⟩ := sends (testXdp_room data)
  have dst := target sent sending
  rw [getRealForFlow_eq created]
  dsimp only
  rw [balancerIngress_of_describe below env tailCalls flow ip parsed] at sending ⊢
  rcases processPacket_verdict cfg maps env (testXdp data).frameIpv6 (testXdp data) flow with
    unsent | transmitted
  · cases unsent.symm.trans sending
  · obtain ⟨_, _, _, encapsulated⟩ := pcktEncap_of_sent sending
    rw [if_pos transmitted, getPcktDst_of_encap encapsulated, dst]

private theorem lruPckt_flow_congr {first second : PacketDescription} (info : VipMeta)
    (same : first.flow = second.flow) :
    (lruPckt info first).flow = (lruPckt info second).flow := by
  unfold lruPckt
  split
  · dsimp only
    rw [same]
  · exact same

/-- A query of a VIP's flow that leaves no trace finds the flow's entry. -/
theorem hits_of_traceless (sane : cfg.Sane) (packet : QueryPacket isIpv6 key data)
    (parsed : describe cfg isIpv6 data = some (pckt, pktBytes))
    (found : lookupVip maps isIpv6 pckt = some (vip, info, described))
    (noQuic : info.quicVip = false)
    (traceless : Traceless cfg maps env (innermost cfg maps env.cpu tailCalls (testXdp data) flow)
      flow) :
    ∃ entry,
      Hits cfg env (lruMapOf cfg maps env.cpu) info (lruPckt info described) flow.lru entry := by
  obtain ⟨ip, family⟩ := packet.frame
  rw [← family] at parsed found
  rw [innermost_of_describe env.cpu parsed] at traceless
  rcases traceless pckt pktBytes vip info described ip parsed found (packet.fits sane) with
    routed | ⟨entry, hits, _⟩
  · cases noQuic.symm.trans (quicVip_of_quicRouted routed)
  · exact ⟨entry, hits⟩

/-- Where a query is not noticed, the cores agree about its flow: each could have the flow's
next packet. -/
theorem oneAddress_of_unnoticed (sane : cfg.Sane) (below : VipNumsBelow cfg maps)
    (created : createPacketFromFlow folly buf query = some data)
    (keyed : flowKey folly query = some (isIpv6, key)) (packet : QueryPacket isIpv6 key data)
    (parsed : describe cfg isIpv6 data = some (pckt, pktBytes))
    (found : lookupVip maps isIpv6 pckt = some (vip, info, described))
    (noQuic : info.quicVip = false)
    (traceless : Traceless cfg maps env (innermost cfg maps env.cpu tailCalls (testXdp data) flow)
      flow)
    (answer : AnswersNext cfg maps (flowKey folly query)
      (getRealForFlow folly cfg maps env tailCalls buf query flow).1
      (getRealForFlow folly cfg maps env tailCalls buf query flow).2) :
    OneAddress cfg maps (lruPckt info described).flow flow := by
  obtain ⟨ip, family⟩ := packet.frame
  obtain ⟨first, hits⟩ := hits_of_traceless sane packet parsed found noQuic traceless
  have shown := packet.eq_of_describe parsed
  have lru : (getRealForFlow folly cfg maps env tailCalls buf query flow).2.lru = flow.lru := by
    rw [getRealForFlow_eq created]
    exact ((balancerIngress_traceless_iff sane below env tailCalls (testXdp data) flow).mpr
      traceless).lru.symm
  -- a packet of the flow on any core, at the time of the core's entry
  have next : ∀ cpu entry, flow.lru (lruMapOf cfg maps cpu) (lruPckt info described).flow =
      some entry → entry.pos < cfg.maxReals →
      (getRealForFlow folly cfg maps env tailCalls buf query flow).1 =
        some (address (maps.reals entry.pos)) := by
    intro cpu entry recorded known
    have fresh : lruExpired cfg entry.atime (lruPckt info described).flow.proto entry = false := by
      rw [lruExpired, decide_eq_false_iff_not, UInt64.sub_self]
      rintro ⟨_, older⟩
      exact absurd older (by rw [gt_iff_lt, UInt64.lt_iff_toNat_lt]; exact Nat.not_lt_zero _)
    have live : Hits cfg { env with cpu := cpu, lookupTime := entry.atime }
        (lruMapOf cfg maps cpu) info (lruPckt info described)
        (getRealForFlow folly cfg maps env tailCalls buf query flow).2.lru entry :=
      ⟨hits.established, hits.used, by rw [lru]; exact recorded, fresh, known⟩
    have framed := parsed
    have resolved := found
    rw [← family] at framed resolved
    obtain ⟨target, sends⟩ := sent_of_hits sane below
      { env with cpu := cpu, lookupTime := entry.atime } 0 ip framed resolved (packet.fits sane)
      noQuic live
    obtain ⟨sent, sending⟩ := sends (testXdp_room data)
    rw [answer isIpv6 key keyed _ 0 (testXdp data) pckt pktBytes vip info described entry sent ip
      family parsed (by rw [shown]) (by rw [shown]) found noQuic live sending, target sent sending]
  intro cpu other entry otherEntry recorded otherRecorded known otherKnown
  exact Option.some.inj ((next cpu entry recorded known).symm.trans
    (next other otherEntry otherRecorded otherKnown))

/-- Where a query leaves no trace and the cores agree about its flow, the answer is where the
flow's next packet goes. -/
theorem answersNext_of_harmless (sane : cfg.Sane) (below : VipNumsBelow cfg maps)
    (created : createPacketFromFlow folly buf query = some data)
    (keyed : flowKey folly query = some (isIpv6, key)) (packet : QueryPacket isIpv6 key data)
    (harmless : Harmless cfg maps env tailCalls data flow) :
    AnswersNext cfg maps (flowKey folly query)
      (getRealForFlow folly cfg maps env tailCalls buf query flow).1
      (getRealForFlow folly cfg maps env tailCalls buf query flow).2 := by
  obtain ⟨traceless, agree⟩ := harmless
  have lru : (getRealForFlow folly cfg maps env tailCalls buf query flow).2.lru = flow.lru := by
    rw [getRealForFlow_eq created]
    exact ((balancerIngress_traceless_iff sane below env tailCalls (testXdp data) flow).mpr
      traceless).lru.symm
  intro family other asked nextEnv calls xdp pckt pktBytes vip info described entry sent ip type
    parsed same _ found noQuic hits sending
  obtain ⟨rfl, rfl⟩ := Prod.mk.inj (Option.some.inj (keyed.symm.trans asked))
  -- the packet of the query is for the same VIP
  have untunnelled := untunnelled_of_describe parsed
  rw [same] at untunnelled
  obtain ⟨queryBytes, shown⟩ := packet.described cfg
  rw [if_neg untunnelled] at shown
  have queried : lookupVip maps isIpv6
      { flow := key, synSet := decide (key.proto = ipprotoTcp) } = some (vip, info, _) :=
    lookupVip_congr rfl same.symm found
  obtain ⟨first, queryHits⟩ := hits_of_traceless sane packet shown queried noQuic traceless
  rw [answer_of_hits sane below created packet shown queried noQuic queryHits]
  have target : sent.dst = maps.reals entry.pos := by
    rw [← type] at parsed found
    exact (sent_of_hits sane below nextEnv calls ip parsed found
      (fits_of_sent below ip parsed sending) noQuic hits).1 sent sending
  rw [target]
  have recorded := hits.found
  rw [lru] at recorded
  have keys :
      (lruPckt info { flow := described.flow, synSet := decide (key.proto = ipprotoTcp) }).flow =
        (lruPckt info described).flow := lruPckt_flow_congr info rfl
  rw [← keys] at recorded
  have frame := packet.frame.2
  rw [← frame] at shown queried
  exact congrArg some (agree _ queryBytes vip info _ shown queried noQuic env.cpu nextEnv.cpu first
    entry queryHits.found recorded queryHits.known hits.known)

/-- **Queries go unnoticed, unless they leave a trace.** For every state, core, time and buffer:
a query tells where a packet of the flow would be sent, and changes nothing that later packets
could tell, exactly if its packet leaves no trace and the cores agree about its flow. -/
theorem query_unnoticed_iff (sane : cfg.Sane) (below : VipNumsBelow cfg maps) (folly : Folly)
    (env : PacketEnv) (tailCalls : Nat) (buf : IOBuf) (query : KatranFlow) (flow : FlowMaps) :
    Unnoticed cfg maps (flowKey folly query) flow
        (getRealForFlow folly cfg maps env tailCalls buf query flow) ↔
      ∀ data, createPacketFromFlow folly buf query = some data →
        Harmless cfg maps env tailCalls data flow := by
  rcases createPacketFromFlow_spec folly buf query with
    ⟨uncreated, unkeyed⟩ | ⟨data, isIpv6, key, created, keyed, packet⟩
  · have answer : getRealForFlow folly cfg maps env tailCalls buf query flow = (none, flow) := by
      rw [getRealForFlow, uncreated]
    rw [answer, unkeyed]
    constructor
    · intro _ data created
      cases uncreated.symm.trans created
    · intro _
      exact ⟨(Alike.refl cfg flow).sameConnections, fun _ => rfl, nofun⟩
  · have later : (getRealForFlow folly cfg maps env tailCalls buf query flow).2 =
        (balancerIngress cfg maps env tailCalls (testXdp data) flow).flow := by
      rw [getRealForFlow_eq created]
    constructor
    · intro unnoticed other alsoCreated
      obtain rfl := Option.some.inj (created.symm.trans alsoCreated)
      have forwarding := unnoticed.forwarding
      rw [later] at forwarding
      have traceless := (forwarded_eq_iff_traceless sane below env tailCalls (testXdp data)
        flow).mp forwarding
      refine ⟨traceless, ?_⟩
      intro pckt pktBytes vip info described parsed found noQuic
      rw [packet.frame.2] at parsed found
      exact oneAddress_of_unnoticed sane below created keyed packet parsed found noQuic traceless
        unnoticed.answer
    · intro harmless
      have alike := (balancerIngress_traceless_iff sane below env tailCalls (testXdp data)
        flow).mpr (harmless data created).1
      rw [← later] at alike
      exact ⟨alike.sameConnections, forwarded_alike alike,
        answersNext_of_harmless sane below created keyed packet (harmless data created)⟩

end Unnoticed

/-! ## Queries of an open connection -/

/-- The library restricted to the addresses of a query. -/
def queried : Folly :=
  { Folly.small with
    parse := fun text =>
      if text = "1.1.1.1" then some (.v4 0x01010101)
      else if text = "10.200.1.1" then some (.v4 0x0101c80a)
      else none }

/-- A buffer of zeros. -/
def zeroed : IOBuf := ⟨List.replicate kTestPacketSize 0, List.length_replicate⟩

/-- The configuration of the examples is sane. -/
theorem smallConfig_sane : smallConfig.Sane :=
  ⟨by decide, by decide, by decide, by decide, by decide, by decide⟩

/-- A VIP for UDP, whose ring has two reals. -/
def twoRealsUdp : ConfigMaps :=
  { twoReals with
    vipMap := fun vip => if vip = ⟨.ofV4 0x0101c80a, 0x5000, 17⟩ then some ⟨0, 1⟩ else none }

theorem twoRealsUdp_vipNumsBelow : VipNumsBelow smallConfig twoRealsUdp := by
  intro vip info found
  simp only [twoRealsUdp] at found
  split at found
  · obtain rfl := Option.some.inj found
    decide
  · cases found

/-- A query about a flow of UDP. -/
def udpQuery : KatranFlow := ⟨"1.1.1.1", "10.200.1.1", 4000, 80, ipprotoUdp⟩

/-- The packet of the query, and its flow. -/
def udpData : List UInt8 := (createPacketFromFlow queried zeroed udpQuery).getD []

/-- The flow that the query is about. -/
def udpConnection : FlowKey := { connection with proto := ipprotoUdp }

/-- The state after a query. -/
def askedOnce : FlowMaps :=
  (getRealForFlow queried smallConfig twoRealsUdp (sampleEnv 6) 0 zeroed udpQuery .fresh).2

private theorem udpData_described :
    createPacketFromFlow queried zeroed udpQuery = some udpData ∧
      (testXdp udpData).frameIpv6 = false ∧
      describe smallConfig false udpData = some ({ flow := udpConnection }, 498) ∧
      lookupVip twoRealsUdp false { flow := udpConnection } =
        some (⟨.ofV4 0x0101c80a, 0x5000, 17⟩, ⟨0, 1⟩, { flow := udpConnection }) ∧
      askedOnce.lru (some 0) udpConnection = some ⟨2, 6⟩ ∧
        askedOnce.lru none udpConnection = none := by
  decide +kernel

/-- A second query at the same time finds the entry that the first one has recorded. -/
theorem query_unnoticed_iff_repeated :
    let result := getRealForFlow queried smallConfig twoRealsUdp (sampleEnv 6) 0 zeroed udpQuery
      askedOnce
    Unnoticed smallConfig twoRealsUdp (flowKey queried udpQuery) askedOnce result := by
  obtain ⟨created, family, parsed, found, recorded, unrecorded⟩ := udpData_described
  refine (query_unnoticed_iff smallConfig_sane twoRealsUdp_vipNumsBelow queried (sampleEnv 6) 0
    zeroed udpQuery askedOnce).mpr ?_
  intro data alsoCreated
  obtain rfl := Option.some.inj (created.symm.trans alsoCreated)
  constructor
  · intro pckt pktBytes vip info described _ alsoParsed alsoFound _
    change describe smallConfig (testXdp udpData).frameIpv6 udpData = _ at alsoParsed
    change lookupVip twoRealsUdp (testXdp udpData).frameIpv6 pckt = _ at alsoFound
    rw [family] at alsoParsed alsoFound
    obtain ⟨rfl, rfl⟩ := Prod.mk.inj (Option.some.inj (parsed.symm.trans alsoParsed))
    obtain ⟨rfl, rfl, rfl⟩ := Option.some.inj (found.symm.trans alsoFound)
    exact .inr ⟨⟨2, 6⟩, ⟨rfl, rfl, recorded, by decide, by decide⟩, fun _ => rfl⟩
  · intro pckt pktBytes vip info described alsoParsed alsoFound _
    rw [family] at alsoParsed alsoFound
    obtain ⟨rfl, rfl⟩ := Prod.mk.inj (Option.some.inj (parsed.symm.trans alsoParsed))
    obtain ⟨rfl, rfl, rfl⟩ := Option.some.inj (found.symm.trans alsoFound)
    have only : ∀ cpu entry, askedOnce.lru (lruMapOf smallConfig twoRealsUdp cpu) udpConnection =
        some entry → entry = ⟨2, 6⟩ := by
      intro cpu entry held
      unfold lruMapOf at held
      split at held
      next own =>
        obtain rfl : cpu = 0 := beq_iff_eq.mp own.2
        exact (Option.some.inj (recorded.symm.trans held)).symm
      next => cases unrecorded.symm.trans held
    intro cpu other entry otherEntry held otherHeld _ _
    rw [only cpu entry held, only other otherEntry otherHeld]

/-- A query of a connection over TCP. -/
def tcpQuery : KatranFlow := ⟨"1.1.1.1", "10.200.1.1", 4000, 80, ipprotoTcp⟩

/-- What the query does to an open connection after its VIP's ring has been rewritten. -/
theorem tcpQuery_moves :
    let result := getRealForFlow queried smallConfig rewritten (sampleEnv 6) 0 zeroed tcpQuery
      established
    let next := fun flow =>
      (balancerIngress smallConfig rewritten (sampleEnv 7) 0 ackPacket flow).sent.map
        fun sent => address sent.dst
    result.1 = some (.v4 0x0100000a) ∧
      established.lru (some 0) connection = some ⟨2, 0⟩ ∧
      result.2.lru (some 0) connection = some ⟨1, 0⟩ ∧
      next established = some (.v4 0x0200000a) ∧ next result.2 = some (.v4 0x0100000a) := by
  decide +kernel

/-- A connection that goes to the second real is asked about when its ring has the first one
only: the answer is the first real, and the connection goes there from now on. -/
theorem query_moves_connection :
    let result := getRealForFlow queried smallConfig rewritten (sampleEnv 6) 0 zeroed tcpQuery
      established
    let next := fun flow =>
      (balancerIngress smallConfig rewritten (sampleEnv 7) 0 ackPacket flow).sent.map
        fun sent => address sent.dst
    ¬ Unnoticed smallConfig rewritten (flowKey queried tcpQuery) established result ∧
      result.1 = some (.v4 0x0100000a) ∧ next established = some (.v4 0x0200000a) ∧
      next result.2 = some (.v4 0x0100000a) := by
  obtain ⟨answer, before, after, stays, moves⟩ := tcpQuery_moves
  refine ⟨?_, answer, stays, moves⟩
  intro unnoticed
  have same := (unnoticed.connections (some 0) connection).1
  rw [before, after] at same
  cases same

end KatranSimulator

end Katran
