import Katran.Bpf.Checksum
import Katran.Bpf.Decap
import Katran.Bpf.QuicHeader
import Katran.System.AcceptedIds
import Katran.System.Migration
import Katran.System.Simulator

/-! # What a query leaves open

`createPacketFromFlow` writes the headers of a packet into a buffer whose other bytes are
whatever the memory held before. The program looks at these bytes twice: it reads the
connection id of a packet for a QUIC VIP, and it reads everything behind the outer headers of
a tunnel that ends here. So the answer is a function of the flow exactly if the flow is no
such tunnel and every connection id leads to the address that the tables have for the flow
(`answer_determined_iff`).
-/

namespace Katran

open Foundation

/-! ## The real that the tables have -/

section Tables

variable {cfg : BpfConfig} {maps : ConfigMaps} {env : PacketEnv} {isIpv6 routed : Bool}
  {info : VipMeta} {pckt : PacketDescription} {flow : FlowMaps}

/-- The real that the tables have for a packet: that of its connection, if there is an entry
to go by, or that of its source route or of its slot of the ring. -/
def tableReal (cfg : BpfConfig) (maps : ConfigMaps) (env : PacketEnv) (isIpv6 : Bool)
    (info : VipMeta) (pckt : PacketDescription) (flow : FlowMaps) : Option RealDefinition :=
  let live := (flow.lru (lruMapOf cfg maps env.cpu) pckt.flow).filter fun entry =>
    ¬ pckt.synSet ∧ ¬ info.lruBypass ∧ ¬ lruExpired cfg env.lookupTime pckt.flow.proto entry ∧
      entry.pos < cfg.maxReals
  let picked := pickDst cfg maps isIpv6 (isUnderFlood cfg env.cpu env.floodTime flow).1 info
    pckt.flow
  match live with
  | some entry => some (maps.reals entry.pos)
  | none => picked.bind fun pick => realsLookup cfg maps pick.1

private theorem live_iff (entry : RealPosLru) :
    (flow.lru (lruMapOf cfg maps env.cpu) pckt.flow).filter (fun entry =>
      ¬ pckt.synSet ∧ ¬ info.lruBypass ∧ ¬ lruExpired cfg env.lookupTime pckt.flow.proto entry ∧
        entry.pos < cfg.maxReals) = some entry ↔
      Hits cfg env (lruMapOf cfg maps env.cpu) info pckt flow.lru entry := by
  rw [Option.filter_eq_some_iff, decide_eq_true_eq]
  simp only [Bool.not_eq_true]
  constructor
  · rintro ⟨found, established, used, fresh, known⟩
    exact ⟨established, used, found, fresh, known⟩
  · intro hits
    exact ⟨hits.found, hits.established, hits.used, hits.fresh, hits.known⟩

private theorem tableReal_of_hits {entry : RealPosLru}
    (hits : Hits cfg env (lruMapOf cfg maps env.cpu) info pckt flow.lru entry) :
    tableReal cfg maps env isIpv6 info pckt flow = some (maps.reals entry.pos) := by
  unfold tableReal
  rw [(live_iff entry).mpr hits]

private theorem tableReal_of_misses
    (misses : ∀ entry, ¬ Hits cfg env (lruMapOf cfg maps env.cpu) info pckt flow.lru entry) :
    tableReal cfg maps env isIpv6 info pckt flow =
      (pickDst cfg maps isIpv6 (isUnderFlood cfg env.cpu env.floodTime flow).1 info
        pckt.flow).bind fun pick => realsLookup cfg maps pick.1 := by
  unfold tableReal
  dsimp only
  split
  next entry live => exact (misses entry ((live_iff entry).mp live)).elim
  next => rfl

private theorem realsLookup_of_lt {key : Nat} (known : key < cfg.maxReals) :
    realsLookup cfg maps key = some (maps.reals key) := if_pos known

private theorem realsLookup_of_le {key : Nat} (unknown : cfg.maxReals ≤ key) :
    realsLookup cfg maps key = none := if_neg (Nat.not_lt.mpr unknown)

/-- A packet that does not go by its connection id goes to the real that the tables have. -/
theorem Decision.dst_eq {decided : Option Chosen} {lru : Option Nat → FlowKey → Option RealPosLru}
    (decision : Decision cfg maps env isIpv6 routed info pckt flow decided lru)
    (unrouted : routed = false) (present : CountersPresent cfg maps env.cpu)
    (counted : cfg.maxVips + lruMissCntr < cfg.statsMapSize) :
    decided.map Chosen.dst = tableReal cfg maps env isIpv6 info pckt flow := by
  cases decision with
  | quic byId _ => cases unrouted.symm.trans byId
  | uncounted missing => exact (missing present).elim
  | hit entry _ _ hits =>
      rw [tableReal_of_hits hits]
      rfl
  | unpicked _ _ misses _ reason =>
      rw [tableReal_of_misses misses]
      rcases reason with small | unknown
      · exact absurd counted (Nat.not_lt.mpr small)
      · cases picks : pickDst cfg maps isIpv6 (isUnderFlood cfg env.cpu env.floodTime flow).1 info
            pckt.flow with
        | none => rfl
        | some pick => exact (realsLookup_of_le (unknown pick.1 pick.2 picks)).symm
  | picked _ key _ _ _ misses _ picks known =>
      rw [tableReal_of_misses misses, picks]
      exact (realsLookup_of_lt known).symm

/-- The index that the connection id of a packet names, if the packet goes by it. -/
def routedId (cfg : BpfConfig) (isIpv6 : Bool) (data : List UInt8) (info : VipMeta)
    (pckt : PacketDescription) : Option Nat :=
  if info.quicVip then (parseQuic cfg data isIpv6 pckt).filter Routable else none

/-- The real of a packet: that of its connection id, or the one that the tables have. -/
def packetReal (cfg : BpfConfig) (maps : ConfigMaps) (env : PacketEnv) (isIpv6 : Bool)
    (id : Option Nat) (info : VipMeta) (pckt : PacketDescription) (flow : FlowMaps) :
    Option RealDefinition :=
  match id with
  | some index => realsLookup cfg maps (maps.quicMapping index)
  | none => tableReal cfg maps env isIpv6 info (lruPckt info pckt) flow

private theorem chooseDst_dst (sane : cfg.Sane) (maps : ConfigMaps) (env : PacketEnv)
    (isIpv6 : Bool)
    (data : List UInt8) (info : VipMeta) (pckt : PacketDescription) (flow : FlowMaps) :
    (chooseDst cfg maps env isIpv6 data info pckt flow).1.map Chosen.dst =
      packetReal cfg maps env isIpv6 (routedId cfg isIpv6 data info pckt) info pckt flow := by
  have counters : cfg.maxVips + quicRouteStats < cfg.statsMapSize := sane.counter (by decide)
  cases id : routedId cfg isIpv6 data info pckt with
  | some index =>
      unfold routedId at id
      split at id
      next quicVip =>
        obtain ⟨decodes, routable⟩ := Option.filter_eq_some_iff.mp id
        rw [chooseDst_of_routable maps env flow counters quicVip decodes
          (of_decide_eq_true routable)]
        simp only [packetReal]
        unfold realsLookup
        split <;> rfl
      next => cases id
  | none =>
      have unrouted : quicRouted cfg isIpv6 data info pckt = false := by
        rw [Bool.eq_false_iff]
        intro byId
        have quicVip := quicVip_of_quicRouted byId
        rw [routedId, if_pos quicVip, Option.filter_eq_none_iff] at id
        rw [quicRouted, decide_eq_true_eq] at byId
        apply byId.2
        refine ⟨counters, fun index parsed => not_routable_iff.mp fun routable => ?_⟩
        exact id index parsed (decide_eq_true routable)
      exact (chooseDst_decision cfg maps env isIpv6 data info pckt flow).dst_eq unrouted
        (sane.present maps env.cpu) (sane.counter (by decide))

end Tables

namespace KatranSimulator

/-! ## The bytes that are not written -/

section Unwritten

variable {folly : Folly} {buf : IOBuf} {query : KatranFlow} {data : List UInt8} {isIpv6 : Bool}
  {key : FlowKey}

/-- The transport header is behind the network header. -/
theorem calcOffset_eq (isIpv6 : Bool) : calcOffset isIpv6 false = 14 + netHlen isIpv6 := by
  cases isIpv6 with
  | false => rfl
  | true => rfl

private theorem createV4Packet_drop (src dst : UInt32) (buf : List UInt8) (proto : UInt8)
    (size : UInt16) :
    (createV4Packet src dst buf proto size).drop 34 = buf.drop 34 := by
  dsimp only [createV4Packet]
  rw [Bytes.drop_write8 _ _ (by decide), Bytes.drop_write32 _ _ (by decide),
    Bytes.drop_write32 _ _ (by decide), Bytes.drop_write16 _ _ (by decide),
    Bytes.drop_write8 _ _ (by decide), Bytes.drop_write16 _ _ (by decide),
    Bytes.drop_write8 _ _ (by decide), Bytes.drop_write16 _ _ (by decide),
    Bytes.drop_write8 _ _ (by decide), Bytes.drop_write16 _ _ (by decide)]

private theorem createV6Packet_drop (src dst : Be32x4) (buf : List UInt8) (proto : UInt8)
    (size : UInt16) :
    (createV6Packet src dst buf proto size).drop 54 = buf.drop 54 := by
  dsimp only [createV6Packet]
  rw [Bytes.drop_write128 _ _ (by decide), Bytes.drop_write128 _ _ (by decide),
    Bytes.drop_write8 _ _ (by decide), Bytes.drop_write16 _ _ (by decide),
    Bytes.drop_write8 _ _ (by decide), Bytes.drop_write _ (by decide),
    Bytes.drop_write8 _ _ (by decide), Bytes.drop_write16 _ _ (by decide)]

/-- The packet of a query is a transport header behind a network header, with the bytes of the
buffer behind both. -/
theorem createPacketFromFlow_made (created : createPacketFromFlow folly buf query = some data)
    (keyed : flowKey folly query = some (isIpv6, key)) :
    key.proto = query.proto ∧ NetworkHeader isIpv6 key data ∧
      key.dstPort = Bytes.htons query.dstPort ∧
      ∃ network : List UInt8, data = createTransport query (netHlen isIpv6) network ∧
        network.length = kTestPacketSize ∧
        network.drop (14 + netHlen isIpv6) = buf.1.drop (14 + netHlen isIpv6) := by
  unfold createPacketFromFlow at created
  unfold flowKey at keyed
  dsimp only at created keyed
  split at created
  next src dst source dest =>
    rw [source, dest] at keyed
    dsimp only at keyed
    split at created
    next transport =>
      rw [if_pos transport] at keyed
      obtain ⟨rfl, rfl⟩ := Prod.mk.inj (Option.some.inj keyed)
      obtain rfl := Option.some.inj created
      exact ⟨rfl, networkHeader_v4 buf _ transport, rfl, _, rfl,
        (createV4Packet_spec buf.2 src dst query.proto _).1, createV4Packet_drop ..⟩
    next => cases created
  next src dst source dest =>
    rw [source, dest] at keyed
    dsimp only at keyed
    split at created
    next transport =>
      rw [if_pos transport] at keyed
      obtain ⟨rfl, rfl⟩ := Prod.mk.inj (Option.some.inj keyed)
      obtain rfl := Option.some.inj created
      exact ⟨rfl, networkHeader_v6 buf _ transport, rfl, _, rfl,
        (createV6Packet_spec buf.2 src dst query.proto _).1, createV6Packet_drop ..⟩
    next => cases created
  next => cases created

/-- The payload of a packet over UDP is what the buffer held. -/
theorem payload_of_udp (created : createPacketFromFlow folly buf query = some data)
    (keyed : flowKey folly query = some (isIpv6, key)) (udp : key.proto = ipprotoUdp) :
    data.drop (calcOffset isIpv6 false + 8) = buf.1.drop (calcOffset isIpv6 false + 8) := by
  obtain ⟨proto, _, _, network, rfl, _, kept⟩ := createPacketFromFlow_made created keyed
  have notTcp : ¬ query.proto = ipprotoTcp := by
    rw [← proto, udp]
    decide
  have later : network.drop (14 + netHlen isIpv6 + 8) = buf.1.drop (14 + netHlen isIpv6 + 8) := by
    rw [← List.drop_drop, kept, List.drop_drop]
  rw [calcOffset_eq, createTransport, if_neg notTcp, ← later]
  dsimp only [createUdpHeader]
  rw [Bytes.drop_write16 _ _ (by omega), Bytes.drop_write16 _ _ (by omega),
    Bytes.drop_write16 _ _ (by omega),
    Bytes.drop_write _ (by rw [List.length_replicate])]

/-- Where a QUIC header would be, a header of TCP has zeros. -/
theorem zeros_of_tcp (created : createPacketFromFlow folly buf query = some data)
    (keyed : flowKey folly query = some (isIpv6, key)) (tcp : key.proto = ipprotoTcp)
    {off : Nat} (behind : 4 ≤ off) (before : off < 13) :
    Bytes.read8 data (calcOffset isIpv6 false + off) = 0 := by
  obtain ⟨proto, _, _, network, rfl, length, _⟩ := createPacketFromFlow_made created keyed
  have room : 14 + netHlen isIpv6 + 20 ≤ network.length := by
    rw [length]
    cases isIpv6 with
    | false => decide
    | true => decide
  rw [calcOffset_eq, createTransport, if_pos (proto.symm.trans tcp)]
  dsimp only [createTcpHeader]
  rw [Bytes.read8_write8_of_ne _ _ (by omega), Bytes.read8_write16_of_outside _ _ (by omega),
    Bytes.read8_write16_of_outside _ _ (by omega),
    Bytes.read8_write_inside (by rw [List.length_replicate]; exact room) off
      (by rw [List.length_replicate]; omega)]
  simp only [Bytes.read8, List.getD_eq_getElem?_getD, List.getElem?_replicate]
  split <;> rfl

end Unwritten

/-! ## The answer for a packet with a description -/

/-- The description of the packet of a query. -/
def queryPckt (key : FlowKey) : PacketDescription :=
  { flow := key, synSet := decide (key.proto = ipprotoTcp) }

/-- The packet is taken for a tunnel. -/
def EndsTunnel (cfg : BpfConfig) (key : FlowKey) : Prop :=
  key.proto = ipprotoUdp ∧ cfg.inlineDecapGue = true ∧ key.dstPort = Bytes.htons cfg.gueDport

section Answer

variable {folly : Folly} {cfg : BpfConfig} {maps : ConfigMaps} {env : PacketEnv} {tailCalls : Nat}
  {buf : IOBuf} {query : KatranFlow} {flow : FlowMaps} {data : List UInt8} {isIpv6 : Bool}
  {key : FlowKey} {described : PacketDescription} {vip : VipDefinition} {info : VipMeta}

private theorem queryPacket_of_created (created : createPacketFromFlow folly buf query = some data)
    (keyed : flowKey folly query = some (isIpv6, key)) : QueryPacket isIpv6 key data := by
  rcases createPacketFromFlow_spec folly buf query with
    ⟨uncreated, _⟩ | ⟨other, family, same, alsoCreated, alsoKeyed, packet⟩
  · cases uncreated.symm.trans created
  · obtain rfl := Option.some.inj (created.symm.trans alsoCreated)
    obtain ⟨rfl, rfl⟩ := Prod.mk.inj (Option.some.inj (keyed.symm.trans alsoKeyed))
    exact packet

private theorem described_of_untunnelled (packet : QueryPacket isIpv6 key data)
    (untunnelled : ¬ EndsTunnel cfg key) :
    ∃ pktBytes, describe cfg isIpv6 data = some (queryPckt key, pktBytes) := by
  obtain ⟨pktBytes, parsed⟩ := packet.described cfg
  unfold EndsTunnel at untunnelled
  rw [if_neg untunnelled] at parsed
  exact ⟨pktBytes, parsed⟩

/-- The answer comes from the part of the program that balances. -/
theorem answer_of_untunnelled (below : VipNumsBelow cfg maps)
    (created : createPacketFromFlow folly buf query = some data)
    (packet : QueryPacket isIpv6 key data) {pktBytes : UInt16}
    (parsed : describe cfg isIpv6 data = some (queryPckt key, pktBytes)) :
    let outcome := balancePacket cfg maps env isIpv6 (queryPckt key) pktBytes (testXdp data) flow
    (getRealForFlow folly cfg maps env tailCalls buf query flow).1 =
      if outcome.verdict = .tx then getPcktDst outcome.xdp.data else none := by
  obtain ⟨ip, family⟩ := packet.frame
  have framed := parsed
  rw [← family] at framed
  rw [getRealForFlow_eq created]
  dsimp only
  rw [balancerIngress_of_describe below env tailCalls flow ip framed, family]
  rcases parsePacket_spec cfg maps env.cpu isIpv6 (testXdp data) flow with
    ⟨_, _, same, goesOn⟩ | ⟨undescribed, _⟩
  · obtain ⟨rfl, rfl⟩ := Prod.mk.inj (Option.some.inj (parsed.symm.trans same))
    simp only [processPacket, goesOn]
  · cases undescribed.symm.trans parsed

/-- A query for something else than a VIP has no answer. -/
theorem answer_of_stranger (below : VipNumsBelow cfg maps)
    (created : createPacketFromFlow folly buf query = some data)
    (packet : QueryPacket isIpv6 key data) (untunnelled : ¬ EndsTunnel cfg key)
    (stranger : lookupVip maps isIpv6 (queryPckt key) = none) :
    (getRealForFlow folly cfg maps env tailCalls buf query flow).1 = none := by
  obtain ⟨pktBytes, parsed⟩ := described_of_untunnelled packet untunnelled
  rw [answer_of_untunnelled below created packet parsed]
  simp only [balancePacket, stranger, reduceCtorEq, ↓reduceIte]

/-- The answer for a VIP is the address of the real of the packet. -/
theorem answer_of_vip (sane : cfg.Sane) (below : VipNumsBelow cfg maps)
    (created : createPacketFromFlow folly buf query = some data)
    (packet : QueryPacket isIpv6 key data) (untunnelled : ¬ EndsTunnel cfg key)
    (found : lookupVip maps isIpv6 (queryPckt key) = some (vip, info, described)) :
    (getRealForFlow folly cfg maps env tailCalls buf query flow).1 =
      (packetReal cfg maps env isIpv6 (routedId cfg isIpv6 data info described) info described
        flow).map address := by
  obtain ⟨pktBytes, parsed⟩ := described_of_untunnelled packet untunnelled
  have chooses : Chooses cfg env.cpu flow
      (chooseDst cfg maps env isIpv6 (testXdp data).data info described flow) := .chooseDst ..
  have small : ¬ (testXdp data).data.length > cfg.maxPcktSize :=
    Nat.not_lt.mpr (packet.fits sane)
  have number : info.vipNum < cfg.statsMapSize := by
    have below := below vip info (lookupVip_spec found).2.1
    unfold BpfConfig.statsMapSize
    omega
  have long : 14 ≤ (testXdp data).data.length := packet.frame.1.1
  rw [answer_of_untunnelled below created packet parsed, ← chooseDst_dst sane]
  simp only [balancePacket, found, small, ↓reduceIte]
  change _ = Option.map address (Option.map Chosen.dst
    (chooseDst cfg maps env isIpv6 (testXdp data).data info described flow).1)
  generalize chooseDst cfg maps env isIpv6 (testXdp data).data info described flow = choice
    at chooses ⊢
  obtain ⟨decided, later⟩ := choice
  cases decided with
  | none => rfl
  | some chosen =>
      have known := chooses.known chosen rfl
      obtain ⟨wrapped, encapsulated⟩ := Option.isSome_iff_exists.mp
        (pcktEncap_isSome cfg maps isIpv6 chosen.pckt chosen.dst pktBytes (testXdp_room data) long)
      simp only [sendToReal, countStats, encapsulated, number, known, ↓reduceIte,
        getPcktDst_of_encap encapsulated, Option.map_some]

end Answer

/-! ## The answer for a tunnel -/

section Tunnel

variable {folly : Folly} {cfg : BpfConfig} {maps : ConfigMaps} {buf : IOBuf} {query : KatranFlow}
  {data : List UInt8} {isIpv6 : Bool} {key : FlowKey}

private theorem innerOff_eq (isIpv6 : Bool) :
    DecapCall.gue.seenOff isIpv6 = calcOffset isIpv6 false + 8 := by
  cases isIpv6 with
  | false => rfl
  | true => rfl

/-- The check returns whether the destination is none of those for tunnels. -/
theorem checkDecapDst_eq (sane : cfg.Sane) (maps : ConfigMaps) (cpu : Nat) (isIpv6 : Bool)
    (pckt : PacketDescription) (flow : FlowMaps) :
    (checkDecapDst cfg maps cpu isIpv6 pckt flow).1 =
      some (! maps.decapDst (dstAddress isIpv6 pckt.flow)) := by
  have counted : cfg.maxVips + remoteEncapCntrs < cfg.statsMapSize := sane.counter (by decide)
  unfold checkDecapDst
  cases maps.decapDst (dstAddress isIpv6 pckt.flow) with
  | true => simp only [↓reduceIte, countStats, counted, Bool.not_true]
  | false => simp only [Bool.false_eq_true, ↓reduceIte, Bool.not_false]

/-- A packet that is taken for a tunnel is decapsulated. -/
theorem processPacket_of_tunnel (sane : cfg.Sane) (maps : ConfigMaps) (env : PacketEnv)
    (flow : FlowMaps)
    (created : createPacketFromFlow folly buf query = some data)
    (keyed : flowKey folly query = some (isIpv6, key)) (tunnel : EndsTunnel cfg key) :
    let outcome := processPacket cfg maps env isIpv6 (testXdp data) flow
    let result := DecapCall.gue.run (testXdp data) isIpv6 (! maps.decapDst (dstAddress isIpv6 key))
    outcome.verdict = result.1 ∧ outcome.xdp = result.2 := by
  obtain ⟨_, network, port, bytes, made, length, _⟩ := createPacketFromFlow_made created keyed
  obtain ⟨udp, enabled, gue⟩ := tunnel
  obtain ⟨pktBytes, parsed⟩ := network.parsed cfg
  have room : 14 + netHlen isIpv6 + 20 ≤ bytes.length := by
    rw [length]
    cases isIpv6 with
    | false => decide
    | true => decide
  obtain ⟨_, dest, _⟩ := createTransport_spec query room
  rw [← made, ← port, gue] at dest
  have whole : ¬ 14 + netHlen isIpv6 + 8 > data.length := by
    rw [network.length, ← length]
    omega
  have untunnelledIpip : ¬ (cfg.inlineDecapIpip = true ∧
      (key.proto = ipprotoIpip ∨ key.proto = ipprotoIpv6)) := by
    rw [udp]
    exact fun ipip => absurd ipip.2 (by decide)
  have notTcp : ¬ key.proto = ipprotoTcp := by
    rw [udp]
    decide
  have ports : parseUdp data isIpv6 { flow := { key with srcPort := 0, dstPort := 0 } } =
      some { flow := { key with
        srcPort := Bytes.read16 data (14 + netHlen isIpv6)
        dstPort := Bytes.htons cfg.gueDport } } := by
    simp only [parseUdp, PacketDescription.setPorts, calcOffset_eq, dest, Bool.false_eq_true, whole,
      ↓reduceIte]
  have decapsulates : ∃ later, parsePacket cfg maps env.cpu isIpv6 (testXdp data) flow =
      .final (DecapCall.gue.run (testXdp data) isIpv6
          (! maps.decapDst (dstAddress isIpv6 key))).1
        (DecapCall.gue.run (testXdp data) isIpv6
          (! maps.decapDst (dstAddress isIpv6 key))).2 later := by
    unfold parsePacket
    change processL3Headers cfg (testXdp data).data 14 isIpv6 = _ at parsed
    rw [parsed]
    dsimp only
    rw [if_neg untunnelledIpip, if_neg notTcp, if_pos udp]
    change parseUdp (testXdp data).data isIpv6 _ = _ at ports
    rw [ports]
    dsimp only
    rw [if_pos ⟨enabled, rfl⟩]
    exact processTunnel_of_check (checkDecapDst_eq sane maps env.cpu isIpv6 _ flow)
  obtain ⟨later, final⟩ := decapsulates
  simp only [processPacket, final, and_self]

/-- What is left of the outer headers of a tunnel, in front of an inner IPv4 packet. -/
def innerFrame (front inner : List UInt8) : List UInt8 := front ++ Bytes.ofUInt16 beEthPIp ++ inner

private theorem innerFrame_length {front : List UInt8} (addresses : front.length = 12)
    (inner : List UInt8) : (innerFrame front inner).length = 14 + inner.length := by
  rw [innerFrame, List.length_append, List.length_append, addresses]
  rfl

private theorem read16_innerFrame {front : List UInt8} (addresses : front.length = 12)
    (inner : List UInt8) : Bytes.read16 (innerFrame front inner) 12 = beEthPIp := by
  rw [innerFrame, List.append_assoc, ← Nat.add_zero 12, ← addresses, Bytes.read16_append_right]
  exact Bytes.read16_ofUInt16 ..

private theorem read8_innerFrame {front : List UInt8} (addresses : front.length = 12)
    (inner : List UInt8) (off : Nat) :
    Bytes.read8 (innerFrame front inner) (14 + off) = Bytes.read8 inner off := by
  have length : (front ++ Bytes.ofUInt16 beEthPIp).length = 14 := by
    rw [List.length_append, addresses]
    rfl
  rw [innerFrame, Bytes.read8_append_right _ (by omega), length, Nat.add_sub_cancel_left]

/-- A tunnel that ends here is handed to the program again without its outer headers. The
inner packet is what the buffer held. -/
theorem recirculated_of_tunnel (sane : cfg.Sane) (env : PacketEnv) (flow : FlowMaps)
    (created : createPacketFromFlow folly buf query = some data)
    (keyed : flowKey folly query = some (isIpv6, key)) (tunnel : EndsTunnel cfg key)
    (own : maps.decapDst (dstAddress isIpv6 key) = true) {payload : List UInt8}
    (unwritten : buf.1.drop (calcOffset isIpv6 false + 8) = payload)
    (version : Bytes.read8 payload 0 &&& guev1Ipv6mask = 0) (left : Bytes.read8 payload 8 ≠ 1) :
    let outcome := processPacket cfg maps env isIpv6 (testXdp data) flow
    outcome.verdict = .recirculate ∧
      outcome.xdp.data = innerFrame (data.take 12) (decrementTtl payload 0 false).2 := by
  dsimp only
  have behind := payload_of_udp created keyed tunnel.1
  rw [unwritten] at behind
  have long : calcOffset isIpv6 false + 8 + 20 ≤ data.length := by
    rw [(queryPacket_of_created created keyed).length]
    cases isIpv6 with
    | false => decide
    | true => decide
  have read : ∀ off, Bytes.read8 data (calcOffset isIpv6 false + 8 + off) =
      Bytes.read8 payload off := by
    intro off
    rw [← behind, Bytes.read8_drop]
  have seen : DecapCall.gue.seenIpv6 isIpv6 data = false := by
    cases isIpv6 with
    | false => rfl
    | true =>
        have first : Bytes.read8 data 62 = Bytes.read8 payload 0 := read 0
        simp only [DecapCall.seenIpv6, first, version, ne_eq, not_true_eq_false, and_false,
          decide_false]
  have goesOn : (decrementTtl data (calcOffset isIpv6 false + 8) false).1 = true := by
    rw [decrementTtl_goesOn_iff]
    refine ⟨long, ?_⟩
    rw [hopLimit, read]
    exact left
  obtain ⟨sameVerdict, sameXdp⟩ :=
    processPacket_of_tunnel sane maps env flow created keyed tunnel
  have does := DecapCall.gue.run_does (testXdp data) isIpv6
    (! maps.decapDst (dstAddress isIpv6 key))
  have again := does.verdict
  change _ = if (decrementTtl data _ (DecapCall.gue.seenIpv6 isIpv6 data)).1 = true then _ else _
    at again
  rw [seen, innerOff_eq, goesOn, own] at again
  have bytes := does.bytes (by rw [own, again]; decide)
  change _ = data.take 12 ++
    Bytes.ofUInt16 (if DecapCall.gue.seenIpv6 isIpv6 data then beEthPIpv6 else beEthPIp) ++
    (decrementTtl data _ (DecapCall.gue.seenIpv6 isIpv6 data)).2.drop _ at bytes
  rw [seen, innerOff_eq, decrementTtl_drop long, behind] at bytes
  rw [sameVerdict, sameXdp, own]
  rw [own] at bytes
  exact ⟨again, bytes⟩

/-- What becomes of a packet for a tunnel whose inner packet is decided about at once. -/
theorem answer_of_tunnel (sane : cfg.Sane) (env : PacketEnv) (tailCalls : Nat) (flow : FlowMaps)
    (created : createPacketFromFlow folly buf query = some data)
    (keyed : flowKey folly query = some (isIpv6, key)) (tunnel : EndsTunnel cfg key)
    (own : maps.decapDst (dstAddress isIpv6 key) = true) {payload out : List UInt8}
    {verdict : Verdict}
    (unwritten : buf.1.drop (calcOffset isIpv6 false + 8) = payload)
    (version : Bytes.read8 payload 0 &&& guev1Ipv6mask = 0) (left : Bytes.read8 payload 8 ≠ 1)
    (decided : processL3Headers cfg
      (innerFrame (data.take 12) (decrementTtl payload 0 false).2) 14 false = .done verdict out)
    (settled : verdict ≠ .recirculate) :
    (getRealForFlow folly cfg maps env (tailCalls + 1) buf query flow).1 =
      if verdict = .tx then getPcktDst out else none := by
  have packet := queryPacket_of_created created keyed
  obtain ⟨ip, family⟩ := packet.frame
  have addresses : (data.take 12).length = 12 := by
    rw [List.length_take, packet.length]
    rfl
  obtain ⟨again, bytes⟩ :=
    recirculated_of_tunnel sane env flow created keyed tunnel own unwritten version left
  rw [getRealForFlow_eq created]
  dsimp only
  rw [← family] at again bytes
  rw [balancerIngress_recirculated tailCalls flow ip again]
  generalize (processPacket cfg maps env (testXdp data).frameIpv6 (testXdp data) flow).xdp = inner
    at bytes ⊢
  generalize (processPacket cfg maps env (testXdp data).frameIpv6 (testXdp data) flow).flow = later
  have innerIp : inner.IsIp := by
    refine ⟨?_, .inl ?_⟩
    · rw [bytes, innerFrame_length addresses]
      omega
    · rw [bytes, read16_innerFrame addresses]
  have innerFamily : inner.frameIpv6 = false := by
    rw [XdpMd.frameIpv6, bytes, read16_innerFrame addresses]
    rfl
  rw [← bytes] at decided
  have outcome : processPacket cfg maps env inner.frameIpv6 inner later =
      ⟨verdict, { inner with data := out }, later, none⟩ := by
    simp only [innerFamily, processPacket, parsePacket, decided]
  rw [balancerIngress_settled tailCalls later innerIp (by rw [outcome]; exact settled), outcome]

/-- A tunnel that does not end here, or that cannot be looked into, has no answer. -/
theorem answer_of_foreign_tunnel (sane : cfg.Sane) (env : PacketEnv) {tailCalls : Nat}
    (flow : FlowMaps)
    (created : createPacketFromFlow folly buf query = some data)
    (keyed : flowKey folly query = some (isIpv6, key)) (tunnel : EndsTunnel cfg key)
    (foreign : tailCalls = 0 ∨ maps.decapDst (dstAddress isIpv6 key) = false) :
    (getRealForFlow folly cfg maps env tailCalls buf query flow).1 = none := by
  obtain ⟨ip, family⟩ := (queryPacket_of_created created keyed).frame
  obtain ⟨verdict, _⟩ := processPacket_of_tunnel sane maps env flow created keyed tunnel
  rw [(DecapCall.gue.run_does (testXdp data) isIpv6 _).verdict, ← family] at verdict
  rw [getRealForFlow_eq created]
  dsimp only
  by_cases again :
      (processPacket cfg maps env (testXdp data).frameIpv6 (testXdp data) flow).verdict =
        .recirculate
  · rcases foreign with rfl | other
    · rw [balancerIngress_exhausted flow ip again]
      rfl
    · rw [again, family, other] at verdict
      split at verdict
      · cases verdict
      · cases verdict
  · rw [balancerIngress_settled tailCalls flow ip again, if_neg]
    rw [verdict]
    split
    · split
      · decide
      · decide
    · decide

end Tunnel

/-! ## Three buffers -/

section Buffers

variable {folly : Folly} {cfg : BpfConfig} {maps : ConfigMaps} {env : PacketEnv} {tailCalls : Nat}
  {query : KatranFlow} {flow : FlowMaps} {data : List UInt8} {isIpv6 : Bool}
  {key : FlowKey} {described : PacketDescription} {info : VipMeta}

/-- A buffer with some bytes where a packet over UDP has its payload, and zeros elsewhere. -/
def bufferWith (isIpv6 : Bool) (payload : List UInt8) : IOBuf where
  val := (List.replicate (calcOffset isIpv6 false + 8) 0 ++
    (payload ++ List.replicate kTestPacketSize 0)).take kTestPacketSize
  property := by
    rw [List.length_take, List.length_append, List.length_append, List.length_replicate,
      List.length_replicate]
    omega

private theorem bufferWith_drop (isIpv6 : Bool) (payload : List UInt8) :
    (bufferWith isIpv6 payload).1.drop (calcOffset isIpv6 false + 8) =
      (payload ++ List.replicate kTestPacketSize 0).take
        (kTestPacketSize - (calcOffset isIpv6 false + 8)) := by
  rw [bufferWith, List.drop_take, List.drop_left' List.length_replicate]

/-- The payload of a packet that was made in such a buffer. -/
theorem read8_payload {payload : List UInt8}
    (created : createPacketFromFlow folly (bufferWith isIpv6 payload) query = some data)
    (keyed : flowKey folly query = some (isIpv6, key)) (udp : key.proto = ipprotoUdp) {off : Nat}
    (near : off < 400) :
    Bytes.read8 data (calcOffset isIpv6 false + 8 + off) = Bytes.read8 payload off := by
  have inside : off < kTestPacketSize - (calcOffset isIpv6 false + 8) := by
    cases isIpv6 with
    | false => exact Nat.lt_of_lt_of_le near (by decide)
    | true => exact Nat.lt_of_lt_of_le near (by decide)
  rw [← Bytes.read8_drop, payload_of_udp created keyed udp, bufferWith_drop]
  simp only [Bytes.read8, List.getD_eq_getElem?_getD, List.getElem?_take, inside, ↓reduceIte,
    List.getElem?_append]
  split
  · rfl
  next beyond =>
    rw [List.getElem?_eq_none (Nat.le_of_not_lt beyond), List.getElem?_replicate]
    split <;> rfl

/-- Zeros where a QUIC header would be are no connection id to go by. -/
theorem routedId_of_zeros (cfg : BpfConfig) (info : VipMeta) (quoted : described.icmp = false)
    (zeros : ∀ off < 4, Bytes.read8 data (calcOffset isIpv6 false + 8 + off) = 0) :
    routedId cfg isIpv6 data info described = none := by
  have flags := zeros 0 (by decide)
  have first := zeros 1 (by decide)
  have second := zeros 2 (by decide)
  have third := zeros 3 (by decide)
  rw [routedId]
  split
  · rw [Option.filter_eq_none_iff]
    intro index decodes routable
    suffices zero : index = 0 by
      rw [zero] at routable
      exact absurd routable (by decide)
    unfold parseQuic at decodes
    rw [quoted] at decodes
    dsimp only at decodes
    rw [Nat.add_zero] at flags
    split at decodes
    · cases decodes
    · rw [flags, if_neg (by decide)] at decodes
      split at decodes
      · cases decodes
      · rw [Option.bind_some] at decodes
        split at decodes
        · rw [Nat.add_assoc _ 1 1, Nat.add_assoc _ 1 2, first, second, third] at decodes
          exact (Option.some.inj decodes).symm
        · cases decodes
  · rfl

/-- The version of a connection id has two bits. -/
theorem connidVersion_of_parseQuic {pckt : PacketDescription} {index : Nat}
    (decodes : parseQuic cfg data isIpv6 pckt = some index) : cfg.quicConnidVersion < 4 := by
  have two : ∀ byte : UInt8, byte >>> 6 < 4 := forall_byte (by decide +kernel)
  unfold parseQuic at decodes
  dsimp only at decodes
  split at decodes
  · cases decodes
  · obtain ⟨off, _, version⟩ := Option.bind_eq_some_iff.mp decodes
    split at version
    next same =>
      rw [← same]
      exact two _
    next => cases version

/-- A short header with a connection id that names an index. -/
def shortHeaderOf (version : UInt8) (index : Nat) : List UInt8 :=
  [0, (64 * version.toNat + index / 1024).toUInt8, (index / 4).toUInt8, (64 * (index % 4)).toUInt8]

private theorem routedId_of_shortHeader {index : Nat}
    (created : createPacketFromFlow folly
      (bufferWith isIpv6 (shortHeaderOf cfg.quicConnidVersion index)) query = some data)
    (keyed : flowKey folly query = some (isIpv6, key)) (udp : key.proto = ipprotoUdp)
    (quoted : described.icmp = false) (quicVip : info.quicVip = true)
    (version : cfg.quicConnidVersion < 4) (routable : Routable index) :
    routedId cfg isIpv6 data info described = some index := by
  have read := fun off (near : off < 400) => read8_payload created keyed udp near
  have small : index < 65536 := Nat.lt_trans routable.2 (by decide)
  have four : cfg.quicConnidVersion.toNat < 4 := version
  have header : ShortHeader cfg isIpv6 data described index := by
    refine ⟨?_, ?_, ?_, ?_, ?_, ?_⟩
    · rw [quoted, ← Nat.add_zero (_ + 8), read 0 (by decide)]
      change (0 : UInt8) &&& quicLongHeader ≠ quicLongHeader
      decide
    · have bytes := cfg.quicMinConnidLen.toNat_lt
      rw [quoted, (queryPacket_of_created created keyed).length, kTestPacketSize]
      cases isIpv6 with
      | false =>
          change 34 + 8 + 1 + _ ≤ 512
          omega
      | true =>
          change 54 + 8 + 1 + _ ≤ 512
          omega
    · rw [quoted, read 1 (by decide), ← UInt8.toNat_inj, UInt8.toNat_shiftRight]
      change (64 * cfg.quicConnidVersion.toNat + index / 1024).toUInt8.toNat >>> 6 = _
      rw [UInt8.toNat_ofNat', Nat.shiftRight_eq_div_pow]
      omega
    · rw [quoted, read 1 (by decide), UInt8.toNat_and]
      change (64 * cfg.quicConnidVersion.toNat + index / 1024).toUInt8.toNat &&& (2 ^ 6 - 1) = _
      rw [UInt8.toNat_ofNat', Nat.and_two_pow_sub_one_eq_mod]
      omega
    · rw [quoted, Nat.add_assoc _ 1 1, read 2 (by decide)]
      exact UInt8.toNat_ofNat'
    · rw [quoted, Nat.add_assoc _ 1 2, read 3 (by decide)]
      change (64 * (index % 4)).toUInt8.toNat / 64 = _
      rw [UInt8.toNat_ofNat']
      omega
  rw [routedId, if_pos quicVip, header.decodes, Option.filter_some,
    if_pos (decide_eq_true routable)]

/-- A packet without a header is dropped. -/
theorem processL3Headers_of_headless (cfg : BpfConfig) {front inner : List UInt8}
    (addresses : front.length = 12) (headless : Bytes.read8 inner 0 &&& 0x0f ≠ 5) :
    processL3Headers cfg (innerFrame front inner) 14 false =
      .done .drop (innerFrame front inner) := by
  have first : Bytes.read8 (innerFrame front inner) 14 = Bytes.read8 inner 0 :=
    read8_innerFrame addresses inner 0
  rw [processL3Headers, if_neg Bool.false_ne_true]
  split
  · rfl
  · rw [first, if_pos headless]

/-- An IPv4 packet with a request for an ICMP echo. -/
structure EchoPacket (inner : List UInt8) : Prop where
  length : 40 ≤ inner.length
  version : Bytes.read8 inner 0 &&& 0x0f = 5
  total : Bytes.read16 inner 2 = Bytes.htons 28
  unfragmented : Bytes.read16 inner 6 &&& pcktFragmented = 0
  protocol : Bytes.read8 inner 9 = ipprotoIcmp
  type : Bytes.read8 inner 20 = icmpEcho

private theorem read16_innerFrame_inner {front : List UInt8} (addresses : front.length = 12)
    (inner : List UInt8) (off : Nat) :
    Bytes.read16 (innerFrame front inner) (14 + off) = Bytes.read16 inner off := by
  rw [Bytes.read16, read8_innerFrame addresses, Nat.add_assoc, read8_innerFrame addresses,
    ← Bytes.read16]

private theorem EchoPacket.request {front inner : List UInt8} (addresses : front.length = 12)
    (echo : EchoPacket inner) : EchoRequest false (innerFrame front inner) := by
  have length := innerFrame_length addresses inner
  have long := echo.length
  have total : icmpLength false (innerFrame front inner) = 8 := by
    change (Bytes.htons (Bytes.read16 (innerFrame front inner) (14 + 2))).toNat - 20 = 8
    rw [read16_innerFrame_inner addresses, echo.total]
    decide
  refine ⟨⟨by omega, ?_, ?_⟩, ?_, ?_, by omega, ?_⟩
  · exact (congrArg (· &&& 0x0f) (read8_innerFrame addresses inner 0)).trans echo.version
  · exact (congrArg (· &&& pcktFragmented) (read16_innerFrame_inner addresses inner 6)).trans
      echo.unfragmented
  · exact (read8_innerFrame addresses inner 9).trans echo.protocol
  · exact (read8_innerFrame addresses inner 20).trans echo.type
  · rw [total, length]
    change 34 + 8 ≤ _
    omega

/-- A request for an ICMP echo is answered. -/
theorem EchoPacket.answered (cfg : BpfConfig) {front inner : List UInt8}
    (addresses : front.length = 12) (echo : EchoPacket inner) :
    ∃ out, processL3Headers cfg (innerFrame front inner) 14 false = .done .tx out ∧
      (getPcktDst out).isSome = true := by
  have length := innerFrame_length addresses inner
  have long := echo.length
  refine ⟨_, processL3Headers_of_echo cfg (echo.request addresses), ?_⟩
  change (getPcktDst (sendIcmpReply cfg (innerFrame front inner)).2).isSome = true
  rw [getPcktDst, sendIcmpReply_length, if_neg (by omega)]
  split
  · rw [if_neg (by omega)]
    rfl
  · rw [if_neg (by omega)]
    rfl

/-- A request for an ICMP echo, as a tunnel could carry it. -/
def echoRequest : List UInt8 :=
  [0x45, 0, 0, 28, 0, 0, 0, 0, 64, 1, 0, 0, 1, 1, 1, 1, 10, 200, 1, 1, 8, 0, 0, 0, 0, 0, 0, 0]

private theorem headless_payload : ∀ isIpv6,
    let payload := (bufferWith isIpv6 []).1.drop (calcOffset isIpv6 false + 8)
    Bytes.read8 payload 0 &&& guev1Ipv6mask = 0 ∧ Bytes.read8 payload 8 ≠ 1 ∧
      Bytes.read8 (decrementTtl payload 0 false).2 0 &&& 0x0f ≠ 5 := by
  decide +kernel

private theorem echo_payload : ∀ isIpv6,
    let payload := (bufferWith isIpv6 echoRequest).1.drop (calcOffset isIpv6 false + 8)
    Bytes.read8 payload 0 &&& guev1Ipv6mask = 0 ∧ Bytes.read8 payload 8 ≠ 1 ∧
      EchoPacket (decrementTtl payload 0 false).2 := by
  have bytes : ∀ isIpv6,
      let payload := (bufferWith isIpv6 echoRequest).1.drop (calcOffset isIpv6 false + 8)
      let inner := (decrementTtl payload 0 false).2
      Bytes.read8 payload 0 &&& guev1Ipv6mask = 0 ∧ Bytes.read8 payload 8 ≠ 1 ∧
        40 ≤ inner.length ∧ Bytes.read8 inner 0 &&& 0x0f = 5 ∧
        Bytes.read16 inner 2 = Bytes.htons 28 ∧ Bytes.read16 inner 6 &&& pcktFragmented = 0 ∧
        Bytes.read8 inner 9 = ipprotoIcmp ∧ Bytes.read8 inner 20 = icmpEcho := by
    decide +kernel
  intro isIpv6
  obtain ⟨version, left, length, header, total, unfragmented, protocol, type⟩ := bytes isIpv6
  exact ⟨version, left, length, header, total, unfragmented, protocol, type⟩

end Buffers

/-! ## When the answer is a function of the flow -/

/-- The bytes that are not written do not matter for the answer: the packet is not looked into
as a tunnel, and if it may go by a connection id, then every connection id leads to the
address that the tables have for the flow. -/
structure PayloadIgnored (cfg : BpfConfig) (maps : ConfigMaps) (env : PacketEnv) (tailCalls : Nat)
    (isIpv6 : Bool) (key : FlowKey) (flow : FlowMaps) : Prop where
  tunnel : EndsTunnel cfg key → tailCalls = 0 ∨ maps.decapDst (dstAddress isIpv6 key) = false
  connId : key.proto = ipprotoUdp → ¬ EndsTunnel cfg key → ∀ vip info described,
    lookupVip maps isIpv6 (queryPckt key) = some (vip, info, described) → info.quicVip = true →
    cfg.quicConnidVersion < 4 → ∀ index, Routable index →
      (realsLookup cfg maps (maps.quicMapping index)).map address =
        (tableReal cfg maps env isIpv6 info (lruPckt info described) flow).map address

section Determined

variable {folly : Folly} {cfg : BpfConfig} {maps : ConfigMaps} {env : PacketEnv} {tailCalls : Nat}
  {query : KatranFlow} {flow : FlowMaps} {isIpv6 : Bool} {key : FlowKey}

private theorem created_of_keyed (keyed : flowKey folly query = some (isIpv6, key)) (buf : IOBuf) :
    ∃ data, createPacketFromFlow folly buf query = some data ∧ QueryPacket isIpv6 key data := by
  rcases createPacketFromFlow_spec folly buf query with ⟨_, unkeyed⟩ | ⟨data, _, _, created, _, _⟩
  · cases unkeyed.symm.trans keyed
  · exact ⟨data, created, queryPacket_of_created created keyed⟩

/-- A tunnel that ends here is answered as its inner packet is. -/
theorem foreign_of_determined (sane : cfg.Sane)
    (keyed : flowKey folly query = some (isIpv6, key)) (tunnel : EndsTunnel cfg key)
    (determined : ∀ first second : IOBuf,
      (getRealForFlow folly cfg maps env tailCalls first query flow).1 =
        (getRealForFlow folly cfg maps env tailCalls second query flow).1) :
    tailCalls = 0 ∨ maps.decapDst (dstAddress isIpv6 key) = false := by
  cases tailCalls with
  | zero => exact .inl rfl
  | succ tailCalls =>
      right
      rw [Bool.eq_false_iff]
      intro own
      obtain ⟨empty, emptyCreated, emptyPacket⟩ := created_of_keyed keyed (bufferWith isIpv6 [])
      obtain ⟨echo, echoCreated, echoPacket⟩ :=
        created_of_keyed keyed (bufferWith isIpv6 echoRequest)
      have addresses : ∀ data : List UInt8, data.length = kTestPacketSize →
          (data.take 12).length = 12 := by
        intro data length
        rw [List.length_take, length]
        rfl
      obtain ⟨version, left, headless⟩ := headless_payload isIpv6
      have dropped := answer_of_tunnel sane env tailCalls flow emptyCreated keyed tunnel own rfl
        version left
        (processL3Headers_of_headless cfg (addresses empty emptyPacket.length) headless) (by decide)
      obtain ⟨echoVersion, echoLeft, request⟩ := echo_payload isIpv6
      obtain ⟨out, answered, somewhere⟩ := request.answered cfg (addresses echo echoPacket.length)
      have echoed := answer_of_tunnel sane env tailCalls flow echoCreated keyed tunnel own rfl
        echoVersion echoLeft answered (by decide)
      rw [if_neg (by decide)] at dropped
      rw [if_pos rfl] at echoed
      rw [← echoed, ← determined (bufferWith isIpv6 []), dropped] at somewhere
      cases somewhere

/-- A connection id leads elsewhere, or to the address that the tables have. -/
theorem sameAddress_of_determined (sane : cfg.Sane) (below : VipNumsBelow cfg maps)
    (keyed : flowKey folly query = some (isIpv6, key)) (udp : key.proto = ipprotoUdp)
    (untunnelled : ¬ EndsTunnel cfg key) {vip : VipDefinition} {info : VipMeta}
    {described : PacketDescription} {index : Nat}
    (found : lookupVip maps isIpv6 (queryPckt key) = some (vip, info, described))
    (quicVip : info.quicVip = true) (version : cfg.quicConnidVersion < 4)
    (routable : Routable index)
    (determined : ∀ first second : IOBuf,
      (getRealForFlow folly cfg maps env tailCalls first query flow).1 =
        (getRealForFlow folly cfg maps env tailCalls second query flow).1) :
    (realsLookup cfg maps (maps.quicMapping index)).map address =
      (tableReal cfg maps env isIpv6 info (lruPckt info described) flow).map address := by
  have quoted : described.icmp = false :=
    congrArg PacketDescription.icmp (lookupVip_spec found).2.2
  obtain ⟨empty, emptyCreated, emptyPacket⟩ := created_of_keyed keyed (bufferWith isIpv6 [])
  obtain ⟨data, created, packet⟩ := created_of_keyed keyed
    (bufferWith isIpv6 (shortHeaderOf cfg.quicConnidVersion index))
  have named := routedId_of_shortHeader created keyed udp quoted quicVip version routable
  have unnamed : routedId cfg isIpv6 empty info described = none := by
    apply routedId_of_zeros cfg info quoted
    intro off near
    rw [read8_payload emptyCreated keyed udp (by omega)]
    rfl
  have same := determined (bufferWith isIpv6 (shortHeaderOf cfg.quicConnidVersion index))
    (bufferWith isIpv6 [])
  rw [answer_of_vip sane below created packet untunnelled found,
    answer_of_vip sane below emptyCreated emptyPacket untunnelled found, named, unnamed] at same
  exact same

/-- Where the bytes that are not written do not matter, the answer for a VIP is the address
that the tables have. -/
theorem answer_of_ignored (sane : cfg.Sane) (below : VipNumsBelow cfg maps)
    (keyed : flowKey folly query = some (isIpv6, key)) (untunnelled : ¬ EndsTunnel cfg key)
    {vip : VipDefinition} {info : VipMeta} {described : PacketDescription}
    (found : lookupVip maps isIpv6 (queryPckt key) = some (vip, info, described))
    (ignored : PayloadIgnored cfg maps env tailCalls isIpv6 key flow) (buf : IOBuf) :
    (getRealForFlow folly cfg maps env tailCalls buf query flow).1 =
      (tableReal cfg maps env isIpv6 info (lruPckt info described) flow).map address := by
  obtain ⟨data, created, packet⟩ := created_of_keyed keyed buf
  have quoted : described.icmp = false :=
    congrArg PacketDescription.icmp (lookupVip_spec found).2.2
  rw [answer_of_vip sane below created packet untunnelled found]
  cases id : routedId cfg isIpv6 data info described with
  | none => rfl
  | some index =>
      rcases packet.proto with tcp | udp
      · have zeros : routedId cfg isIpv6 data info described = none := by
          apply routedId_of_zeros cfg info quoted
          intro off near
          rw [Nat.add_assoc]
          exact zeros_of_tcp created keyed tcp (by omega) (by omega)
        cases zeros.symm.trans id
      · unfold routedId at id
        split at id
        next quicVip =>
          obtain ⟨decodes, routable⟩ := Option.filter_eq_some_iff.mp id
          exact ignored.connId udp untunnelled vip info described found quicVip
            (connidVersion_of_parseQuic decodes) index (of_decide_eq_true routable)
        next => cases id

/-- **The answer is a function of the flow** exactly if the bytes of the buffer that are not
written do not matter: the flow is no tunnel that the program looks into, and if its VIP goes
by connection ids, then they all lead to the address that the tables have for the flow. -/
theorem answer_determined_iff (sane : cfg.Sane) (below : VipNumsBelow cfg maps) (folly : Folly)
    (env : PacketEnv) (tailCalls : Nat) (query : KatranFlow) (flow : FlowMaps) :
    (∀ first second : IOBuf, (getRealForFlow folly cfg maps env tailCalls first query flow).1 =
      (getRealForFlow folly cfg maps env tailCalls second query flow).1) ↔
    ∀ isIpv6 key, flowKey folly query = some (isIpv6, key) →
      PayloadIgnored cfg maps env tailCalls isIpv6 key flow := by
  constructor
  · intro determined isIpv6 key keyed
    refine ⟨fun tunnel => foreign_of_determined sane keyed tunnel determined, ?_⟩
    intro udp untunnelled vip info described found quicVip version index routable
    exact sameAddress_of_determined sane below keyed udp untunnelled found quicVip version routable
      determined
  · intro ignored first second
    cases keyed : flowKey folly query with
    | none =>
        have unanswered : ∀ buf : IOBuf,
            (getRealForFlow folly cfg maps env tailCalls buf query flow).1 = none := by
          intro buf
          rcases createPacketFromFlow_spec folly buf query with
            ⟨uncreated, _⟩ | ⟨_, _, _, _, alsoKeyed, _⟩
          · rw [getRealForFlow, uncreated]
          · cases keyed.symm.trans alsoKeyed
        rw [unanswered first, unanswered second]
    | some asked =>
        obtain ⟨isIpv6, key⟩ := asked
        have ignored := ignored isIpv6 key keyed
        obtain ⟨data, created, packet⟩ := created_of_keyed keyed first
        obtain ⟨other, alsoCreated, otherPacket⟩ := created_of_keyed keyed second
        by_cases tunnel : EndsTunnel cfg key
        · rw [answer_of_foreign_tunnel sane env flow created keyed tunnel (ignored.tunnel tunnel),
            answer_of_foreign_tunnel sane env flow alsoCreated keyed tunnel (ignored.tunnel tunnel)]
        · cases found : lookupVip maps isIpv6 (queryPckt key) with
          | none =>
              rw [answer_of_stranger below created packet tunnel found,
                answer_of_stranger below alsoCreated otherPacket tunnel found]
          | some known =>
              obtain ⟨vip, info, described⟩ := known
              rw [answer_of_ignored sane below keyed tunnel found ignored first,
                answer_of_ignored sane below keyed tunnel found ignored second]

end Determined

/-! ## Queries for a VIP with connection ids -/

/-- A VIP without the flag for connection ids: whatever the buffer held, its query has the
same answer. -/
theorem answer_determined_iff_udp :
    (∀ first second : IOBuf,
      (getRealForFlow queried smallConfig twoRealsUdp (sampleEnv 6) 0 first udpQuery .fresh).1 =
        (getRealForFlow queried smallConfig twoRealsUdp (sampleEnv 6) 0 second udpQuery .fresh).1) ∧
      (getRealForFlow queried smallConfig twoRealsUdp (sampleEnv 6) 0 zeroed udpQuery .fresh).1 =
        some (.v4 0x0200000a) := by
  refine ⟨(answer_determined_iff smallConfig_sane twoRealsUdp_vipNumsBelow queried (sampleEnv 6) 0
    udpQuery .fresh).mpr ?_, by decide +kernel⟩
  intro isIpv6 key _
  refine ⟨fun _ => .inl rfl, ?_⟩
  intro _ _ vip info described found quicVip
  have plain : info = ⟨0, 1⟩ := by
    have held := (lookupVip_spec found).2.1
    simp only [twoRealsUdp] at held
    split at held
    · exact (Option.some.inj held).symm
    · cases held
  rw [plain] at quicVip
  cases quicVip

/-- The same VIP with the flag, and one real with a connection id. -/
def quicUdp : ConfigMaps :=
  { twoRealsUdp with
    vipMap := fun vip => if vip = ⟨.ofV4 0x0101c80a, 0x5000, 17⟩ then some ⟨4, 1⟩ else none
    quicMapping := fun index => if index = 7 then 1 else 0 }

/-- One query, asked twice at the same time in the same state: over zeros the answer is the real
of the ring's slot, over a buffer that held a connection id it is the real of the id. -/
theorem answer_depends_on_memory :
    ¬ (∀ first second : IOBuf,
      (getRealForFlow queried smallConfig quicUdp (sampleEnv 6) 0 first udpQuery .fresh).1 =
        (getRealForFlow queried smallConfig quicUdp (sampleEnv 6) 0 second udpQuery .fresh).1) ∧
    (getRealForFlow queried smallConfig quicUdp (sampleEnv 6) 0 zeroed udpQuery .fresh).1 =
      some (.v4 0x0200000a) ∧
    (getRealForFlow queried smallConfig quicUdp (sampleEnv 6) 0
      (bufferWith false (shortHeaderOf 1 7)) udpQuery .fresh).1 = some (.v4 0x0100000a) := by
  have ring : (getRealForFlow queried smallConfig quicUdp (sampleEnv 6) 0 zeroed udpQuery
      .fresh).1 = some (.v4 0x0200000a) := by decide +kernel
  have id : (getRealForFlow queried smallConfig quicUdp (sampleEnv 6) 0
      (bufferWith false (shortHeaderOf 1 7)) udpQuery .fresh).1 = some (.v4 0x0100000a) := by
    decide +kernel
  refine ⟨?_, ring, id⟩
  intro determined
  have same := determined zeroed (bufferWith false (shortHeaderOf 1 7))
  rw [ring, id] at same
  exact absurd same (by decide)

end KatranSimulator

end Katran
