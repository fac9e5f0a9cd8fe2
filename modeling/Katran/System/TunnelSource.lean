import Katran.Bpf.OuterHeaders
import Katran.System.Quic

/-! # Where tunnel packets say they come from

A server that receives the packets of many tunnels spreads them over its queues by the outer
source: an address that `encap_v4` and `encap_v6` make from the client's address and port, or
a UDP port that `gue_encap_v4` and `gue_encap_v6` make of them. They take both from the
description of the packet, in which the port has been erased by then, or the address and the
port overwritten, if the VIP's flags say so and the packet has come that far (`Route`). So the
packets of one flow share their source as long as they take the same way or ways that erase
the same, to reals of one family (`flows_share_source`).
-/

namespace Katran

open Foundation

/-! ## The source of a tunnel packet -/

/-- The family and the source address of a tunnel packet, and the source port if it has one. -/
structure TunnelSource where
  outerIpv6 : Bool
  address : Be32x4
  port : Option UInt16
deriving DecidableEq, Repr

/-- The source that the outer headers of a frame give. -/
def readSource (gue : Bool) (frame : List UInt8) : TunnelSource where
  outerIpv6 := tunnelIpv6 frame
  address := if tunnelIpv6 frame then Bytes.read128 frame 22 else .ofV4 (Bytes.read32 frame 26)
  port := if gue then some (Bytes.read16 frame (if tunnelIpv6 frame then 54 else 34)) else none

/-- The source that is made for a flow. -/
def madeSource (cfg : BpfConfig) (maps : ConfigMaps) (isIpv6 outerIpv6 : Bool) (flow : FlowKey) :
    TunnelSource where
  outerIpv6 := outerIpv6
  address :=
    if outerIpv6 then
      if cfg.gueEncap then (maps.pcktSrcs v6SrcIndex).dstv6
      else ⟨cfg.ipipV6Prefix1, cfg.ipipV6Prefix2, cfg.ipipV6Prefix3,
        (if isIpv6 then flow.srcv6.w3 else flow.srcv6.w0) ^^^ flow.srcPort.toUInt32⟩
    else
      if cfg.gueEncap then .ofV4 (maps.pcktSrcs v4SrcIndex).dstv6.w0
      else .ofV4 (((0xffff0000 : UInt32) &&&
        (((Bytes.htons flow.srcPort).toUInt32 <<< (16 : UInt32)) ^^^ flow.srcv6.w0)) |||
          cfg.ipipV4Prefix)
  port :=
    if cfg.gueEncap then
      if outerIpv6 then
        some ((if isIpv6 then flow.srcv6.w3.toUInt16
          else (flow.srcv6.w0 >>> (16 : UInt32)).toUInt16) ^^^ flow.srcPort)
      else some (Bytes.htons flow.srcPort ^^^ (flow.srcv6.w0 >>> (16 : UInt32)).toUInt16)
    else none

section Encap

variable {cfg : BpfConfig} {maps : ConfigMaps} {isIpv6 : Bool} {pckt : PacketDescription}
  {dst : RealDefinition} {pktBytes : UInt16} {data mac : List UInt8} {xdp wrapped : XdpMd}

/-- The source in an IPv4 header. -/
theorem read32_createV4Hdr (cfg : BpfConfig) (tos : UInt8) (saddr daddr : UInt32)
    (pktBytes : UInt16) (proto : UInt8) (room : 34 ≤ data.length) :
    Bytes.read32 (createV4Hdr cfg data 14 tos saddr daddr pktBytes proto) 26 = saddr := by
  have two : ∀ value : UInt16, (Bytes.ofUInt16 value).length = 2 := fun _ => rfl
  simp only [createV4Hdr, Bytes.write16, Bytes.write8]
  rw [Bytes.read32_write_of_outside _ (by rw [two]; omega),
    Bytes.read32_write_of_outside _ (by rw [List.length_singleton]; omega)]
  apply Bytes.read32_write32
  simp only [Bytes.write32, Bytes.length_write]
  omega

/-- The source in an IPv6 header. -/
theorem read128_createV6Hdr (cfg : BpfConfig) (tc : UInt8) (saddr daddr : Be32x4)
    (payloadLen : UInt16) (proto : UInt8) (room : 54 ≤ data.length) :
    Bytes.read128 (createV6Hdr cfg data 14 tc saddr daddr payloadLen proto) 22 = saddr := by
  have sixteen : (Bytes.ofBe32x4 daddr).length = 16 := rfl
  rw [createV6Hdr, Bytes.write128, Bytes.read128_write_of_outside _ (by rw [sixteen]; omega)]
  apply Bytes.read128_write128
  simp only [Bytes.length_write8, Bytes.length_write16, Bytes.length_write]
  omega

private theorem read16_createUdpHdr {udph : Nat} (sport dport len : UInt16)
    (room : udph + 8 ≤ data.length) :
    Bytes.read16 (createUdpHdr data udph sport dport len) udph = sport := by
  rw [createUdpHdr, Bytes.read16_write16_of_outside _ _ (by omega),
    Bytes.read16_write16_of_outside _ _ (by omega), Bytes.read16_write16_of_outside _ _ (by omega),
    Bytes.read16_write16 _ (by omega)]

/-- The port behind a header that is written. -/
theorem read16_of_drop {first second : List UInt8} {off : Nat}
    (same : first.drop off = second.drop off) (long : off + 2 ≤ first.length) :
    Bytes.read16 first off = Bytes.read16 second off := by
  have quoted : first.drop off <+: second.drop off := ⟨[], by rw [List.append_nil, same]⟩
  exact Bytes.read16_of_quoted quoted 0 (by omega)

private theorem readSource_createV4Hdr (cfg : BpfConfig) (gue : Bool) (tos : UInt8)
    (saddr daddr : UInt32)
    (pktBytes : UInt16) (proto : UInt8) (room : 34 + (if gue then 2 else 0) ≤ data.length)
    (type : Bytes.read16 data 12 = beEthPIp) :
    readSource gue (createV4Hdr cfg data 14 tos saddr daddr pktBytes proto) =
      ⟨false, .ofV4 saddr, if gue then some (Bytes.read16 data 34) else none⟩ := by
  obtain ⟨length, _, _, _, sameType, rest⟩ :=
    createV4Hdr_spec cfg tos saddr daddr pktBytes proto (by omega : 34 ≤ data.length)
  have family : tunnelIpv6 (createV4Hdr cfg data 14 tos saddr daddr pktBytes proto) = false := by
    rw [tunnelIpv6, sameType, type]
    decide
  have source := read32_createV4Hdr cfg tos saddr daddr pktBytes proto (by omega : 34 ≤ data.length)
  simp only [readSource, family, Bool.false_eq_true, ↓reduceIte, source]
  cases gue with
  | false => simp only [Bool.false_eq_true, ↓reduceIte]
  | true =>
      simp only [↓reduceIte] at room ⊢
      rw [read16_of_drop rest (by omega)]

private theorem readSource_createV6Hdr (cfg : BpfConfig) (gue : Bool) (tc : UInt8)
    (saddr daddr : Be32x4)
    (payloadLen : UInt16) (proto : UInt8) (room : 54 + (if gue then 2 else 0) ≤ data.length)
    (type : Bytes.read16 data 12 = beEthPIpv6) :
    readSource gue (createV6Hdr cfg data 14 tc saddr daddr payloadLen proto) =
      ⟨true, saddr, if gue then some (Bytes.read16 data 54) else none⟩ := by
  obtain ⟨length, _, sameType, rest⟩ :=
    createV6Hdr_spec cfg tc saddr daddr payloadLen proto (by omega : 54 ≤ data.length)
  have family : tunnelIpv6 (createV6Hdr cfg data 14 tc saddr daddr payloadLen proto) = true := by
    rw [tunnelIpv6, sameType, type]
    decide
  have source :=
    read128_createV6Hdr cfg tc saddr daddr payloadLen proto (by omega : 54 ≤ data.length)
  simp only [readSource, family, ↓reduceIte, source]
  cases gue with
  | false => simp only [Bool.false_eq_true, ↓reduceIte]
  | true =>
      simp only [↓reduceIte] at room ⊢
      rw [read16_of_drop rest (by omega)]

/-- The outer headers give the source that is made for the flow. -/
theorem readSource_pcktEncap
    (encapsulated : pcktEncap cfg maps isIpv6 pckt dst pktBytes xdp = some wrapped) :
    readSource cfg.gueEncap wrapped.data = madeSource cfg maps isIpv6 dst.isIpv6 pckt.flow := by
  unfold pcktEncap at encapsulated
  unfold madeSource
  cases family : dst.isIpv6 with
  | true =>
      simp only [family, ↓reduceIte] at encapsulated ⊢
      split at encapsulated
      next gue =>
        obtain ⟨wide, made, rfl⟩ := Option.map_eq_some_iff.mp encapsulated
        obtain ⟨room, type⟩ := writeEth_of_makeRoom made maps.ctlMac beEthPIpv6
        dsimp only
        generalize writeEth maps.ctlMac wide.data 48 beEthPIpv6 = eth at room type ⊢
        have reads : ∀ sport len, readSource true (createV6Hdr cfg
            (createUdpHdr eth 54 sport cfg.gueDport len) 14 pckt.tos
            (maps.pcktSrcs v6SrcIndex).dstv6 dst.dstv6 len ipprotoUdp) =
              ⟨true, (maps.pcktSrcs v6SrcIndex).dstv6, some sport⟩ := by
          intro sport len
          obtain ⟨sameLength, sameType⟩ := createUdpHdr_spec eth sport cfg.gueDport len
            (by decide : 14 ≤ 54)
          have read := readSource_createV6Hdr cfg true pckt.tos
            (maps.pcktSrcs v6SrcIndex).dstv6 dst.dstv6 len ipprotoUdp
            (by rw [sameLength]; exact Nat.le_trans (by decide) room) (sameType.trans type)
          rw [read, if_pos rfl, read16_createUdpHdr _ _ _ room]
        rw [gue]
        cases isIpv6 with
        | true => exact reads _ _
        | false => exact reads _ _
      next ipip =>
        obtain ⟨wide, made, rfl⟩ := Option.map_eq_some_iff.mp encapsulated
        obtain ⟨room, type⟩ := writeEth_of_makeRoom made maps.ctlMac beEthPIpv6
        rw [Bool.eq_false_iff.mpr ipip]
        cases isIpv6 with
        | true => exact readSource_createV6Hdr cfg false _ _ _ _ _ room type
        | false => exact readSource_createV6Hdr cfg false _ _ _ _ _ room type
  | false =>
      simp only [family, Bool.false_eq_true, ↓reduceIte] at encapsulated ⊢
      split at encapsulated
      next gue =>
        obtain ⟨wide, made, rfl⟩ := Option.map_eq_some_iff.mp encapsulated
        obtain ⟨room, type⟩ := writeEth_of_makeRoom made maps.ctlMac beEthPIp
        dsimp only
        generalize writeEth maps.ctlMac wide.data 28 beEthPIp = eth at room type ⊢
        obtain ⟨sameLength, sameType⟩ := createUdpHdr_spec eth
          (Bytes.htons pckt.flow.srcPort ^^^ (pckt.flow.srcv6.w0 >>> (16 : UInt32)).toUInt16)
          cfg.gueDport (pktBytes + 8) (by decide : 14 ≤ 34)
        rw [gue, readSource_createV4Hdr cfg true _ _ _ _ _
          (by rw [sameLength]; exact Nat.le_trans (by decide) room) (sameType.trans type),
          if_pos rfl,
          read16_createUdpHdr _ _ _ room]
        rfl
      next ipip =>
        obtain ⟨wide, made, rfl⟩ := Option.map_eq_some_iff.mp encapsulated
        obtain ⟨room, type⟩ := writeEth_of_makeRoom made maps.ctlMac beEthPIp
        rw [Bool.eq_false_iff.mpr ipip]
        exact readSource_createV4Hdr cfg false _ _ _ _ _ room type

end Encap

/-! ## The way of a packet -/

/-- How a packet got to its real: by its connection id, by the description with which the
connection table is searched, or by the hash. -/
inductive Route where
  | connId
  | searched
  | hashed
deriving DecidableEq, Repr

/-- What is left of a packet's description on its way. -/
def Route.flow (route : Route) (info : VipMeta) (described : PacketDescription) : FlowKey :=
  match route with
  | .connId => described.flow
  | .searched => (lruPckt info described).flow
  | .hashed => hashedFlow info (lruPckt info described).flow

/-- What a way erases under the flags of a VIP: the client's port, and the client's address. -/
def Route.erases (route : Route) (info : VipMeta) : Bool × Bool :=
  (route != .connId && info.hashNoSrcPort, route == .hashed && info.hashDportOnly)

/-- The way of a packet of a VIP: the connection id comes first, then the connection table and
the source address, then the hash. -/
def routeOf (cfg : BpfConfig) (maps : ConfigMaps) (env : PacketEnv) (isIpv6 : Bool)
    (data : List UInt8) (info : VipMeta) (described : PacketDescription)
    (flow : FlowMaps) : Route :=
  let pckt := lruPckt info described
  if quicRouted cfg isIpv6 data info described then .connId
  else if (lookupDst cfg maps env (lruMapOf cfg maps env.cpu) info pckt flow).1.isSome
    then .searched
  else if (routedReal cfg maps isIpv6 (isUnderFlood cfg env.cpu env.floodTime flow).1 info
      pckt.flow).isSome then .searched
  else .hashed

section Routes

variable {cfg : BpfConfig} {maps : ConfigMaps} {env : PacketEnv} {isIpv6 : Bool} {xdp : XdpMd}
  {flow : FlowMaps} {vip : VipDefinition} {info : VipMeta} {described : PacketDescription}

/-- The description of a packet that has got to a real. -/
theorem flow_of_balanced {chosen : Chosen} {outcome : Outcome}
    (balanced : Balanced cfg maps env isIpv6 xdp flow vip info described (some chosen) outcome) :
    chosen.pckt.flow =
      (routeOf cfg maps env isIpv6 xdp.data info described flow).flow info described := by
  by_cases byId : quicRouted cfg isIpv6 xdp.data info described = true
  · obtain ⟨index, _, _, rfl⟩ := chosen_of_quicRouted byId balanced.chooses
    simp only [routeOf, byId, ↓reduceIte, Route.flow]
  have unrouted := Bool.eq_false_of_not_eq_true byId
  rcases lookupDst_spec cfg maps env (lruMapOf cfg maps env.cpu) info (lruPckt info described)
      flow with
    ⟨entry, hits, looked, _⟩ | ⟨misses, missed, _⟩
  · obtain ⟨same, _⟩ :=
      balanced.decision.of_hits unrouted (balanced.decision.present unrouted) hits
    obtain rfl := Option.some.inj same
    simp only [routeOf, byId, looked, Bool.false_eq_true, Option.isSome_some, ↓reduceIte,
      Route.flow]
  · obtain ⟨key, recorded, _, picks, _, rfl, _⟩ := balanced.decision.of_misses unrouted misses
    unfold pickDst at picks
    split at picks
    next real routed =>
      obtain ⟨_, rfl⟩ := Prod.mk.inj (Option.some.inj picks)
      simp only [routeOf, byId, missed, routed, Bool.false_eq_true, Option.isSome_none,
        Option.isSome_some, ↓reduceIte, Route.flow]
    next unmatched =>
      obtain ⟨slot, _, same⟩ := Option.map_eq_some_iff.mp picks
      obtain ⟨_, rfl⟩ := Prod.mk.inj same
      simp only [routeOf, byId, missed, unmatched, Bool.false_eq_true, Option.isSome_none,
        ↓reduceIte, Route.flow]

/-- The source in a description. -/
def FlowKey.source (flow : FlowKey) : Be32x4 × UInt16 := (flow.srcv6, flow.srcPort)

/-- What is left of the source is what the way does not erase. -/
theorem Route.source_flow (route : Route) (info : VipMeta) (described : PacketDescription) :
    (route.flow info described).source =
      if (route.erases info).2 then (.zero, described.flow.dstPort)
      else if (route.erases info).1 then (described.flow.srcv6, 0)
      else described.flow.source := by
  cases route <;> cases port : info.hashNoSrcPort <;> cases address : info.hashDportOnly <;>
    simp only [Route.flow, Route.erases, FlowKey.source, hashedFlow, lruPckt, port, address] <;> rfl

/-- Ways that erase the same leave the same source. -/
theorem Route.source_of_erases {first second : Route} {info : VipMeta}
    {described other : PacketDescription} (flows : other.flow = described.flow)
    (same : first.erases info = second.erases info) :
    (first.flow info described).source = (second.flow info other).source := by
  rw [first.source_flow, second.source_flow, same, flows]

private theorem madeSource_congr {first second : FlowKey} (same : first.source = second.source)
    (outerIpv6 : Bool) :
    madeSource cfg maps isIpv6 outerIpv6 first = madeSource cfg maps isIpv6 outerIpv6 second := by
  obtain ⟨address, port⟩ := Prod.mk.inj same
  unfold madeSource
  rw [address, port]

end Routes

/-! ## Runs -/

/-- With the control plane at rest, a packet is processed or an entry is evicted. -/
inductive PacketEvent where
  | packet (env : PacketEnv) (isIpv6 : Bool) (xdp : XdpMd)
  | evict (lruMap : Option Nat) (key : FlowKey)

/-- A packet, and the tables when it is processed. -/
structure Handled where
  env : PacketEnv
  isIpv6 : Bool
  xdp : XdpMd
  flow : FlowMaps

/-- The packets of a run, in order. -/
def handled (cfg : BpfConfig) (maps : ConfigMaps) : FlowMaps → List PacketEvent → List Handled
  | _, [] => []
  | flow, .packet env isIpv6 xdp :: events =>
      ⟨env, isIpv6, xdp, flow⟩ ::
        handled cfg maps (processPacket cfg maps env isIpv6 xdp flow).flow events
  | flow, .evict lruMap key :: events => handled cfg maps (flow.lruEvict lruMap key) events

namespace Handled

variable (cfg : BpfConfig) (maps : ConfigMaps)

/-- What becomes of a packet. -/
def outcome (packet : Handled) : Outcome :=
  processPacket cfg maps packet.env packet.isIpv6 packet.xdp packet.flow

/-- The source of the tunnel packet that is transmitted. -/
def source (packet : Handled) : TunnelSource :=
  readSource cfg.gueEncap (packet.outcome cfg maps).xdp.data

/-- The addresses, ports and protocol of a packet. -/
def key (packet : Handled) : Option FlowKey :=
  (describe cfg packet.isIpv6 packet.xdp.data).map (·.1.flow)

/-- The VIP's flags and the description of a packet of a VIP. -/
def resolved (packet : Handled) : Option (VipMeta × PacketDescription) :=
  (describe cfg packet.isIpv6 packet.xdp.data).bind fun parsed =>
    (lookupVip maps packet.isIpv6 parsed.1).map (·.2)

/-- The way of a packet. -/
def route (packet : Handled) (info : VipMeta) (described : PacketDescription) : Route :=
  routeOf cfg maps packet.env packet.isIpv6 packet.xdp.data info described packet.flow

/-- The family of the real that a packet is wrapped for. -/
def realIpv6 (packet : Handled) : Option Bool :=
  (encapDst cfg maps packet.env packet.isIpv6 packet.xdp packet.flow).map (·.isIpv6)

/-- Packets with the same addresses, ports and protocol. -/
structure SameFlow (first second : Handled) : Prop where
  family : first.isIpv6 = second.isIpv6
  key : first.key cfg = second.key cfg

/-- Two packets go to reals of one family, by ways that erase the same under their VIP's
flags. -/
structure Steady (first second : Handled) : Prop where
  family : ∀ left ∈ first.realIpv6 cfg maps, ∀ right ∈ second.realIpv6 cfg maps, left = right
  routes : ∀ info described other, first.resolved cfg maps = some (info, described) →
    second.resolved cfg maps = some (info, other) →
    (first.route cfg maps info described).erases info =
      (second.route cfg maps info other).erases info

variable {cfg maps} {packet first second : Handled}

/-- What the source of a packet that is forwarded is made of. -/
theorem source_of_forwarded (forwarded : (packet.outcome cfg maps).sent.isSome = true) :
    ∃ info described outerIpv6, packet.resolved cfg maps = some (info, described) ∧
      packet.realIpv6 cfg maps = some outerIpv6 ∧
      packet.source cfg maps = madeSource cfg maps packet.isIpv6 outerIpv6
        ((packet.route cfg maps info described).flow info described) := by
  obtain ⟨sent, sending⟩ := Option.isSome_iff_exists.mp forwarded
  obtain ⟨called, wraps⟩ := encapDst_of_sent sending
  rcases processPacket_cases cfg maps packet.env packet.isIpv6 packet.xdp packet.flow with
    ⟨unsent, _⟩ | ⟨pckt, pktBytes, vip, info, described, decided, parsed, found, balanced⟩
  · cases unsent.symm.trans sending
  · obtain ⟨chosen, rfl, rfl, _⟩ := balanced.of_sent sent sending
    refine ⟨info, described, chosen.dst.isIpv6, ?_, ?_, ?_⟩
    · rw [resolved, parsed, Option.bind_some, found]
      rfl
    · rw [realIpv6, called]
      rfl
    · rw [route, ← flow_of_balanced balanced]
      exact readSource_pcktEncap wraps

/-- Packets of one flow belong to one VIP and have descriptions with one flow. -/
theorem SameFlow.resolved (same : SameFlow cfg first second) {info otherInfo : VipMeta}
    {described other : PacketDescription}
    (found : first.resolved cfg maps = some (info, described))
    (alsoFound : second.resolved cfg maps = some (otherInfo, other)) :
    otherInfo = info ∧ other.flow = described.flow := by
  obtain ⟨parsed, parses, looked⟩ := Option.bind_eq_some_iff.mp found
  obtain ⟨otherParsed, otherParses, otherLooked⟩ := Option.bind_eq_some_iff.mp alsoFound
  have key : otherParsed.1.flow = parsed.1.flow := by
    have keys := same.key
    rw [Handled.key, Handled.key, parses, otherParses] at keys
    exact (Option.some.inj keys).symm
  obtain ⟨⟨vip, _⟩, resolves, rfl⟩ := Option.map_eq_some_iff.mp looked
  rw [← same.family, lookupVip_of_flow key, resolves, Option.map_some,
    Option.map_some] at otherLooked
  obtain ⟨rfl, rfl⟩ := Prod.mk.inj (Option.some.inj otherLooked)
  exact ⟨rfl, rfl⟩

/-- Two packets of a flow that go the same way, or ways that erase the same, share their
source. -/
theorem Steady.source (steady : Steady cfg maps first second) (same : SameFlow cfg first second)
    (forwarded : (first.outcome cfg maps).sent.isSome = true)
    (alsoForwarded : (second.outcome cfg maps).sent.isSome = true) :
    first.source cfg maps = second.source cfg maps := by
  obtain ⟨info, described, outerIpv6, found, family, source⟩ := source_of_forwarded forwarded
  obtain ⟨otherInfo, other, _, alsoFound, alsoFamily, alsoSource⟩ :=
    source_of_forwarded alsoForwarded
  obtain ⟨rfl, flows⟩ := same.resolved found alsoFound
  obtain rfl := steady.family outerIpv6 family _ alsoFamily
  have left := Route.source_of_erases flows (steady.routes _ described other found alsoFound)
  rw [source, alsoSource, ← same.family]
  exact madeSource_congr left outerIpv6

end Handled

section Sources

variable (cfg : BpfConfig) (maps : ConfigMaps)

/-- Any two packets of a flow that a run forwards have one outer source. -/
def SharesSource (start : FlowMaps) (events : List PacketEvent) : Prop :=
  ∀ first ∈ handled cfg maps start events, ∀ second ∈ handled cfg maps start events,
    Handled.SameFlow cfg first second → (first.outcome cfg maps).sent.isSome = true →
      (second.outcome cfg maps).sent.isSome = true →
        first.source cfg maps = second.source cfg maps

end Sources

/-- **One flow, one tunnel source.** In every run with the control plane at rest, the packets of
a flow that are forwarded share their outer source, if any two of them go to reals of one family
and by ways that erase the same of the client's address and port. -/
theorem flows_share_source {cfg : BpfConfig} {maps : ConfigMaps} {start : FlowMaps}
    {events : List PacketEvent}
    (steady : ∀ first ∈ handled cfg maps start events, ∀ second ∈ handled cfg maps start events,
      Handled.SameFlow cfg first second → Handled.Steady cfg maps first second) :
    SharesSource cfg maps start events := by
  intro first firstIn second secondIn same forwarded alsoForwarded
  exact (steady first firstIn second secondIn same).source same forwarded alsoForwarded

/-- A packet goes to one of the reals. -/
theorem real_of_balanced {cfg : BpfConfig} {maps : ConfigMaps} {env : PacketEnv} {isIpv6 : Bool}
    {xdp : XdpMd} {flow : FlowMaps} {vip : VipDefinition} {info : VipMeta}
    {described : PacketDescription} {chosen : Chosen} {outcome : Outcome}
    (balanced : Balanced cfg maps env isIpv6 xdp flow vip info described (some chosen) outcome) :
    ∃ num, chosen.dst = maps.reals num := by
  rcases balanced.decision.chosen_cases with routed | ⟨entry, _, rfl⟩ | ⟨key, _, _, _, rfl⟩
  · obtain ⟨index, _, _, rfl⟩ := chosen_of_quicRouted routed balanced.chooses
    exact ⟨_, rfl⟩
  · exact ⟨_, rfl⟩
  · exact ⟨_, rfl⟩

/-- Nothing is unsteady if the reals are of one family and no VIP erases the client's port or
address. -/
theorem Handled.steady_of_unflagged {cfg : BpfConfig} {maps : ConfigMaps} {outerIpv6 : Bool}
    (family : ∀ num, (maps.reals num).isIpv6 = outerIpv6)
    (unflagged : ∀ vip info, maps.vipMap vip = some info →
      info.hashNoSrcPort = false ∧ info.hashDportOnly = false)
    (first second : Handled) : Steady cfg maps first second := by
  have real : ∀ {packet : Handled} {six}, packet.realIpv6 cfg maps = some six →
      six = outerIpv6 := by
    intro packet six wrapped
    obtain ⟨dst, called, rfl⟩ := Option.map_eq_some_iff.mp wrapped
    obtain ⟨_, _, _, _, _, chosen, _, _, balanced, rfl⟩ := encapDst_eq_some called
    obtain ⟨num, reaches⟩ := real_of_balanced balanced
    rw [reaches, family]
  refine ⟨fun left leftReal right rightReal => (real leftReal).trans (real rightReal).symm, ?_⟩
  intro info described other found alsoFound
  obtain ⟨parsed, _, looked⟩ := Option.bind_eq_some_iff.mp found
  obtain ⟨⟨vip, _⟩, resolves, rfl⟩ := Option.map_eq_some_iff.mp looked
  obtain ⟨keepsPort, keepsAddress⟩ := unflagged _ _ (lookupVip_spec resolves).2.1
  simp only [Route.erases, keepsPort, keepsAddress, Bool.and_false]

/-- The packets that open and continue a connection. -/
theorem flows_share_source_opened :
    SharesSource smallConfig twoReals .fresh
        [.packet (sampleEnv 5) false (sampleTcp 0x01010101 0x0101c80a 4000 80 true),
          .packet (sampleEnv 6) false (sampleTcp 0x01010101 0x0101c80a 4000 80 false)] ∧
      ((handled smallConfig twoReals .fresh
        [.packet (sampleEnv 5) false (sampleTcp 0x01010101 0x0101c80a 4000 80 true),
          .packet (sampleEnv 6) false (sampleTcp 0x01010101 0x0101c80a 4000 80 false)]).all
        fun packet => (packet.outcome smallConfig twoReals).sent.isSome) = true := by
  refine ⟨flows_share_source fun first _ second _ _ => ?_, by decide +kernel⟩
  have family : ∀ num, (twoReals.reals num).isIpv6 = false := by
    intro num
    change ((0 : UInt8) &&& 1 != 0) = false
    decide
  refine Handled.steady_of_unflagged family ?_ first second
  intro vip info known
  change (if _ then some ⟨0, 1⟩ else none) = some info at known
  split at known
  · obtain rfl := Option.some.inj known
    decide
  · cases known

/-- A VIP that routes by connection id and erases the client's port. -/
def erasing : ConfigMaps :=
  { twoReals with
    vipMap := fun vip => if vip = ⟨.ofV4 0x0101c80a, 0xbb01, 17⟩ then some ⟨5, 1⟩ else none
    quicMapping := fun index => if index = 4 then 2 else 0 }

/-- A packet with the id 4 and one without an id, of one flow, have two sources. -/
theorem flow_with_two_sources :
    ¬ SharesSource smallConfig erasing .fresh
      [.packet (sampleEnv 5) false (quicPacket [0x40, 1, 0, 0, 0, 0, 0, 0]),
        .packet (sampleEnv 6) false (quicPacket [0, 0, 0, 0, 0, 0, 0, 0])] := by
  intro shares
  have same := shares _ (.head _) _ (.tail _ (.head _)) ⟨rfl, by decide +kernel⟩ (by decide +kernel)
    (by decide +kernel)
  exact absurd same (by decide +kernel)

/-! ## Runs from empty tables -/

section Plain

variable {cfg : BpfConfig} {maps : ConfigMaps} {env : PacketEnv} {isIpv6 : Bool} {xdp : XdpMd}
  {flow start : FlowMaps} {vip : VipDefinition} {info : VipMeta}
  {pckt described : PacketDescription}

/-- The key of a connection is as it is hashed, unless the source address chose. -/
def ProjectedKey (maps : ConfigMaps) (isIpv6 : Bool) (_lruMap : Option Nat) (key : FlowKey)
    (_pos : Nat) : Prop :=
  ∀ vip info, vipOf maps isIpv6 key = some (vip, info) → info.srcRouting = false →
    hashedFlow info key = key

/-- Connections are recorded under projected keys in every run. -/
theorem ProjectedKey.run (empty : start.lru = fun _ _ => none) {events : List FlowEvent}
    (run : Run (FlowMaps.Step cfg maps isIpv6) start events flow) :
    EveryEntry (fun place key entry => ProjectedKey maps isIpv6 place key entry.pos) flow.lru := by
  refine FlowMaps.Step.every_run ?_ empty run
  intro pckt vip info described underFlood lruMap key recorded found picks other otherInfo resolved
    plain
  rw [vipOf_recorded picks, vipOf_lruPckt found] at resolved
  obtain ⟨rfl, rfl⟩ := Prod.mk.inj (Option.some.inj resolved)
  obtain ⟨rfl, _⟩ := pickDst_of_not_srcRouting picks plain
  exact hashedFlow_idem info _

/-- An entry that is found leaves in the description what the hash leaves. -/
theorem flow_of_plain
    (projected : EveryEntry (fun place key entry => ProjectedKey maps isIpv6 place key entry.pos)
      flow.lru)
    (found : lookupVip maps isIpv6 pckt = some (vip, info, described))
    (noQuic : info.quicVip = false) (plain : info.srcRouting = false) (data : List UInt8) :
    (routeOf cfg maps env isIpv6 data info described flow).flow info described =
      hashedFlow info (lruPckt info described).flow := by
  have unrouted := quicRouted_eq_false cfg isIpv6 data described noQuic
  have unmatched : routedReal cfg maps isIpv6 (isUnderFlood cfg env.cpu env.floodTime flow).1 info
      (lruPckt info described).flow = none := by
    simp only [routedReal, plain, Bool.false_eq_true, false_and, and_false, ↓reduceIte]
  rcases lookupDst_spec cfg maps env (lruMapOf cfg maps env.cpu) info (lruPckt info described)
      flow with
    ⟨entry, hits, looked, _⟩ | ⟨_, missed, _⟩
  · simp only [routeOf, unrouted, looked, Bool.false_eq_true, Option.isSome_some, ↓reduceIte,
      Route.flow]
    exact (projected _ _ entry hits.found vip info (vipOf_lruPckt found) plain).symm
  · simp only [routeOf, unrouted, missed, unmatched, Bool.false_eq_true, Option.isSome_none,
      ↓reduceIte, Route.flow]

/-- What the source of a packet is made of, if its VIP routes by the table and the ring. -/
theorem Handled.source_of_plain {packet : Handled} {events : List FlowEvent}
    (empty : start.lru = fun _ _ => none)
    (run : Run (FlowMaps.Step cfg maps packet.isIpv6) start events packet.flow)
    (found : packet.resolved cfg maps = some (info, described)) (noQuic : info.quicVip = false)
    (plain : info.srcRouting = false) (forwarded : (packet.outcome cfg maps).sent.isSome = true) :
    packet.source cfg maps = madeSource cfg maps packet.isIpv6
      (maps.reals (maps.chRings (ringKey cfg packet.isIpv6 info
        (hashedFlow info (lruPckt info described).flow)))).isIpv6
      (hashedFlow info (lruPckt info described).flow) := by
  obtain ⟨sent, sending⟩ := Option.isSome_iff_exists.mp forwarded
  obtain ⟨_, wraps⟩ := encapDst_of_sent sending
  rcases processPacket_cases cfg maps packet.env packet.isIpv6 packet.xdp packet.flow with
    ⟨unsent, _⟩ | ⟨pckt, pktBytes, vip, other, settled, decided, parsed, looked, balanced⟩
  · cases unsent.symm.trans sending
  · rw [Handled.resolved, parsed, Option.bind_some, looked, Option.map_some] at found
    obtain ⟨rfl, rfl⟩ := Prod.mk.inj (Option.some.inj found)
    obtain ⟨chosen, rfl, rfl, _⟩ := balanced.of_sent sent sending
    have real : chosen.dst = maps.reals (maps.chRings (ringKey cfg packet.isIpv6 other
        (hashedFlow other (lruPckt other settled).flow))) := by
      rcases balanced.decision.chosen_cases with
        routed | ⟨entry, hits, rfl⟩ | ⟨key, recorded, picks, _, rfl⟩
      · cases noQuic.symm.trans (quicVip_of_quicRouted routed)
      · dsimp only
        rw [AgreesWithRing.run empty run _ _ entry hits.found vip other
          (vipOf_lruPckt looked) noQuic plain]
      · dsimp only
        rw [(pickDst_of_not_srcRouting picks plain).2]
    rw [Handled.source, ← real,
      ← flow_of_plain (.run empty run) looked noQuic plain packet.xdp.data,
      ← flow_of_balanced balanced]
    exact readSource_pcktEncap wraps

/-- **No exceptions for plain VIPs.** In every run of packets of one family from empty connection
tables, the packets of a flow share their outer source if their VIP routes neither by connection
id nor by source, whatever else its flags are. -/
theorem plain_flows_share_source {first second : Handled} {earlier later : List FlowEvent}
    (empty : start.lru = fun _ _ => none)
    (run : Run (FlowMaps.Step cfg maps first.isIpv6) start earlier first.flow)
    (alsoRun : Run (FlowMaps.Step cfg maps second.isIpv6) start later second.flow)
    (same : Handled.SameFlow cfg first second)
    (plain : ∀ info described, first.resolved cfg maps = some (info, described) →
      info.quicVip = false ∧ info.srcRouting = false)
    (forwarded : (first.outcome cfg maps).sent.isSome = true)
    (alsoForwarded : (second.outcome cfg maps).sent.isSome = true) :
    first.source cfg maps = second.source cfg maps := by
  obtain ⟨info, described, _, found, _⟩ := Handled.source_of_forwarded forwarded
  obtain ⟨otherInfo, other, _, alsoFound, _⟩ := Handled.source_of_forwarded alsoForwarded
  obtain ⟨rfl, flows⟩ := same.resolved found alsoFound
  obtain ⟨noQuic, unrouted⟩ := plain _ described found
  have searched : (lruPckt otherInfo other).flow = (lruPckt otherInfo described).flow := by
    unfold lruPckt
    split
    · dsimp only
      rw [flows]
    · exact flows
  rw [Handled.source_of_plain empty run found noQuic unrouted forwarded,
    Handled.source_of_plain empty alsoRun alsoFound noQuic unrouted alsoForwarded, searched,
    same.family]

end Plain

end Katran
