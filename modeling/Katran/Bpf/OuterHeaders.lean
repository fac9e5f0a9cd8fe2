import Katran.Bpf.Icmp
import Katran.Bpf.XdpDecap

/-! # What the outer headers say

`process_packet` chooses the tunnel by the family of the real alone (`encapDst`). The
protocol and the lengths of the outer headers describe the packet inside
(`OuterDescribes`), unless it is an IPv6 packet in an IPv4 tunnel: `encap_v4` writes the
protocol of IPv4 packets, and adds nothing for the header that the payload length of an
IPv6 packet leaves out (`outerDescribes_iff`). The lengths are sums of sixteen bits: they are
those of the packet as long as these do not overflow (`outer_lengths_iff`).
-/

namespace Katran

namespace Bytes

private theorem htons_toNat (value : UInt16) :
    (htons value).toNat = 2 ^ 8 * (value.toNat % 2 ^ 8) + value.toNat / 2 ^ 8 := by
  have small : value.toNat < 2 ^ 16 := value.toNat_lt
  have low : value.toNat / 2 ^ 8 < 2 ^ 8 := by omega
  have high : (value <<< 8).toNat = 2 ^ 8 * (value.toNat % 2 ^ 8) := by
    rw [UInt16.toNat_shiftLeft, Nat.shiftLeft_eq]
    change value.toNat * 2 ^ 8 % 2 ^ 16 = _
    omega
  have rest : (value >>> 8).toNat = value.toNat / 2 ^ 8 := by
    rw [UInt16.toNat_shiftRight, Nat.shiftRight_eq_div_pow]
    rfl
  rw [htons, UInt16.toNat_or, high, rest, ← Nat.two_pow_add_eq_or_of_lt low]

@[simp] private theorem htons_htons (value : UInt16) : htons (htons value) = value := by
  have small : value.toNat < 2 ^ 16 := value.toNat_lt
  rw [← UInt16.toNat_inj, htons_toNat, htons_toNat]
  omega

end Bytes

/-! ## Lengths -/

/-- The length of the packet in a frame, by its network header, which for an IPv6 packet
gives the length of what follows the header. -/
def packetLength (isIpv6 : Bool) (data : List UInt8) : UInt16 :=
  if isIpv6 then netBytes isIpv6 data + 40 else netBytes isIpv6 data

/-- The description of a packet comes with the length in its network header. -/
theorem netBytes_of_describe {cfg : BpfConfig} {isIpv6 : Bool} {data : List UInt8}
    {pckt : PacketDescription} {pktBytes : UInt16}
    (parsed : describe cfg isIpv6 data = some (pckt, pktBytes)) :
    pktBytes = netBytes isIpv6 data := by
  unfold describe at parsed
  split at parsed
  · cases parsed
  next headers bytes accepted =>
    have same := ((processL3Headers_iff ..).mp accepted).2.1
    dsimp only at parsed
    split at parsed
    · cases parsed
    split at parsed
    · obtain ⟨_, _, pair⟩ := Option.map_eq_some_iff.mp parsed
      rw [← (Prod.mk.inj pair).2, same]
    split at parsed
    · obtain ⟨_, _, pair⟩ := Option.map_eq_some_iff.mp parsed
      rw [← (Prod.mk.inj pair).2, same]
    · cases parsed

/-- The length in an IPv4 header is that of the packet and the header. -/
theorem netBytes_createV4Hdr (cfg : BpfConfig) {data : List UInt8} (tos : UInt8)
    (saddr daddr : UInt32) (pktBytes : UInt16) (proto : UInt8) (room : 34 ≤ data.length) :
    netBytes false (createV4Hdr cfg data 14 tos saddr daddr pktBytes proto) = pktBytes + 20 := by
  simp (disch := omega) only [netBytes, createV4Hdr, Bool.false_eq_true, ↓reduceIte,
    Bytes.read16_write16_of_outside, Bytes.read16_write8_of_outside,
    Bytes.read16_write32_of_outside]
  rw [Bytes.read16_write16, Bytes.htons_htons]
  simp only [Bytes.length_write8, Bytes.length_write16]
  omega

/-- The length in an IPv6 header is that of the packet. -/
theorem netBytes_createV6Hdr (cfg : BpfConfig) {data : List UInt8} (tc : UInt8)
    (saddr daddr : Be32x4) (payloadLen : UInt16) (proto : UInt8) (room : 54 ≤ data.length) :
    netBytes true (createV6Hdr cfg data 14 tc saddr daddr payloadLen proto) = payloadLen := by
  simp (disch := omega) only [netBytes, createV6Hdr, ↓reduceIte,
    Bytes.read16_write128_of_outside, Bytes.read16_write8_of_outside]
  rw [Bytes.read16_write16, Bytes.htons_htons]
  simp only [Bytes.length_write8, Bytes.length_write]
  omega

/-- A UDP header keeps the length of the frame and its EtherType. -/
theorem createUdpHdr_spec (data : List UInt8) {udph : Nat} (sport dport len : UInt16)
    (behind : 14 ≤ udph) :
    (createUdpHdr data udph sport dport len).length = data.length ∧
      Bytes.read16 (createUdpHdr data udph sport dport len) 12 = Bytes.read16 data 12 := by
  dsimp only [createUdpHdr]
  constructor
  · simp only [Bytes.length_write16]
  · simp (disch := omega) only [Bytes.read16_write16_of_outside]

/-- The length in a UDP header. -/
def udpBytes (data : List UInt8) (udph : Nat) : UInt16 := Bytes.htons (Bytes.read16 data (udph + 4))

/-- The length in a UDP header. -/
theorem udpBytes_createUdpHdr {data : List UInt8} {udph : Nat} (sport dport len : UInt16)
    (room : udph + 8 ≤ data.length) :
    udpBytes (createUdpHdr data udph sport dport len) udph = len := by
  simp (disch := omega) only [udpBytes, createUdpHdr, Bytes.read16_write16_of_outside]
  rw [Bytes.read16_write16, Bytes.htons_htons]
  simp only [Bytes.length_write16]
  omega

private theorem udpBytes_of_drop {first second : List UInt8} {udph : Nat}
    (same : first.drop udph = second.drop udph) (inside : udph + 6 ≤ first.length) :
    udpBytes first udph = udpBytes second udph := by
  have quoted : first.drop udph <+: second.drop udph := ⟨[], by rw [List.append_nil, same]⟩
  rw [udpBytes, Bytes.read16_of_quoted quoted 4 (by omega), udpBytes]

/-! ## What is written -/

/-- The headers in front of a packet: an IP header, and a UDP header if there is one, for a
packet of some protocol and length. -/
structure OuterHeaders (outerIpv6 gue : Bool) (proto : UInt8) (bytes : UInt16)
    (wrapped : List UInt8) : Prop where
  ethProto : Bytes.read16 wrapped 12 = if outerIpv6 then beEthPIpv6 else beEthPIp
  protocol : outerProto outerIpv6 wrapped = if gue then ipprotoUdp else proto
  length : packetLength outerIpv6 wrapped =
    bytes + (if gue then 8 else 0) + if outerIpv6 then 40 else 20
  udpLength : gue = true → udpBytes wrapped (if outerIpv6 then 54 else 34) = bytes + 8

section Encap

variable {cfg : BpfConfig} {maps : ConfigMaps} {isIpv6 : Bool} {pckt : PacketDescription}
  {dst : RealDefinition} {pktBytes : UInt16} {data mac : List UInt8} {xdp wrapped : XdpMd}

private theorem createV4Hdr_headers (cfg : BpfConfig) (gue : Bool) (bytes : UInt16) (tos : UInt8)
    (saddr daddr : UInt32) (proto : UInt8) (room : 34 ≤ data.length)
    (type : Bytes.read16 data 12 = beEthPIp)
    (udp : gue = true → 42 ≤ data.length ∧ udpBytes data 34 = bytes + 8) :
    OuterHeaders false gue proto bytes
      (createV4Hdr cfg data 14 tos saddr daddr (bytes + if gue then 8 else 0)
        (if gue then ipprotoUdp else proto)) := by
  obtain ⟨length, _, _, protocol, sameType, rest⟩ := createV4Hdr_spec cfg tos saddr daddr
    (bytes + if gue then 8 else 0) (if gue then ipprotoUdp else proto) room
  refine ⟨sameType.trans type, protocol, ?_, ?_⟩
  · rw [packetLength, if_neg Bool.false_ne_true, if_neg Bool.false_ne_true]
    exact netBytes_createV4Hdr cfg tos saddr daddr _ _ room
  · intro isGue
    obtain ⟨long, written⟩ := udp isGue
    rw [← written, if_neg Bool.false_ne_true]
    exact udpBytes_of_drop rest (by omega)

private theorem createV6Hdr_headers (cfg : BpfConfig) (gue : Bool) (bytes : UInt16) (tc : UInt8)
    (saddr daddr : Be32x4) (proto : UInt8) (room : 54 ≤ data.length)
    (type : Bytes.read16 data 12 = beEthPIpv6)
    (udp : gue = true → 62 ≤ data.length ∧ udpBytes data 54 = bytes + 8) :
    OuterHeaders true gue proto bytes
      (createV6Hdr cfg data 14 tc saddr daddr (bytes + if gue then 8 else 0)
        (if gue then ipprotoUdp else proto)) := by
  obtain ⟨length, protocol, sameType, rest⟩ := createV6Hdr_spec cfg tc saddr daddr
    (bytes + if gue then 8 else 0) (if gue then ipprotoUdp else proto) room
  refine ⟨sameType.trans type, protocol, ?_, ?_⟩
  · rw [packetLength, if_pos rfl, if_pos rfl, netBytes_createV6Hdr cfg tc saddr daddr _ _ room]
  · intro isGue
    obtain ⟨long, written⟩ := udp isGue
    rw [← written, if_pos rfl]
    exact udpBytes_of_drop rest (by omega)

/-- The Ethernet header of a frame with room for outer headers. -/
theorem writeEth_of_makeRoom {wide : XdpMd} {size : Nat} (made : makeRoom xdp size = some wide)
    (mac : List UInt8) (ethProto : UInt16) :
    size + 14 ≤ (writeEth mac wide.data size ethProto).length ∧
      Bytes.read16 (writeEth mac wide.data size ethProto) 12 =
        Bytes.read16 (Bytes.ofUInt16 ethProto) 0 := by
  obtain ⟨length, _, long⟩ := makeRoom_spec made
  obtain ⟨sameLength, type, _⟩ := writeEth_spec mac wide.data size ethProto (by omega)
  exact ⟨by omega, type⟩

private theorem encapV4_headers
    (encapsulated : encapV4 cfg mac pckt dst pktBytes xdp = some wrapped) :
    OuterHeaders false false ipprotoIpip pktBytes wrapped.data := by
  obtain ⟨wide, made, rfl⟩ := Option.map_eq_some_iff.mp encapsulated
  obtain ⟨room, type⟩ := writeEth_of_makeRoom made mac beEthPIp
  have headers := fun saddr => createV4Hdr_headers cfg false pktBytes pckt.tos saddr dst.dstv6.w0
    ipprotoIpip room type nofun
  simp only [Bool.false_eq_true, ↓reduceIte, UInt16.add_zero] at headers
  exact headers _

private theorem gueEncapV4_headers {pcktSrcs : Nat → RealDefinition} (proto : UInt8)
    (encapsulated : gueEncapV4 cfg pcktSrcs mac pckt dst pktBytes xdp = some wrapped) :
    OuterHeaders false true proto pktBytes wrapped.data := by
  obtain ⟨wide, made, rfl⟩ := Option.map_eq_some_iff.mp encapsulated
  obtain ⟨room, type⟩ := writeEth_of_makeRoom made mac beEthPIp
  dsimp only
  generalize writeEth mac wide.data 28 beEthPIp = eth at room type ⊢
  obtain ⟨sameLength, sameType⟩ := createUdpHdr_spec eth
    (Bytes.htons pckt.flow.srcPort ^^^ (pckt.flow.srcv6.w0 >>> (16 : UInt32)).toUInt16) cfg.gueDport
    (pktBytes + 8) (by decide : 14 ≤ 34)
  refine createV4Hdr_headers cfg true pktBytes pckt.tos _ _ proto ?_ (sameType.trans type) ?_
  · rw [sameLength]
    omega
  · intro _
    rw [sameLength]
    exact ⟨room, udpBytes_createUdpHdr _ _ _ room⟩

private theorem encapV6_headers
    (encapsulated : encapV6 cfg mac isIpv6 pckt dst (netBytes isIpv6 data) xdp = some wrapped) :
    OuterHeaders true false (if isIpv6 then ipprotoIpv6 else ipprotoIpip) (packetLength isIpv6 data)
      wrapped.data := by
  obtain ⟨wide, made, rfl⟩ := Option.map_eq_some_iff.mp encapsulated
  obtain ⟨room, type⟩ := writeEth_of_makeRoom made mac beEthPIpv6
  have headers := fun saddr proto =>
      createV6Hdr_headers cfg false (packetLength isIpv6 data) pckt.tos
    saddr dst.dstv6 proto room type nofun
  simp only [Bool.false_eq_true, ↓reduceIte, UInt16.add_zero] at headers
  cases isIpv6 with
  | true => exact headers _ _
  | false => exact headers _ _

private theorem gueEncapV6_headers {pcktSrcs : Nat → RealDefinition} (proto : UInt8)
    (encapsulated : gueEncapV6 cfg pcktSrcs mac isIpv6 pckt dst (netBytes isIpv6 data) xdp =
      some wrapped) :
    OuterHeaders true true proto (packetLength isIpv6 data) wrapped.data := by
  obtain ⟨wide, made, rfl⟩ := Option.map_eq_some_iff.mp encapsulated
  obtain ⟨room, type⟩ := writeEth_of_makeRoom made mac beEthPIpv6
  dsimp only
  generalize writeEth mac wide.data 48 beEthPIpv6 = eth at room type ⊢
  have headers : ∀ sport len, len = packetLength isIpv6 data + 8 →
      OuterHeaders true true proto (packetLength isIpv6 data)
        (createV6Hdr cfg (createUdpHdr eth 54 sport cfg.gueDport len) 14 pckt.tos
          (pcktSrcs v6SrcIndex).dstv6 dst.dstv6 len ipprotoUdp) := by
    rintro sport _ rfl
    obtain ⟨sameLength, sameType⟩ := createUdpHdr_spec eth sport cfg.gueDport
      (packetLength isIpv6 data + 8) (by decide : 14 ≤ 54)
    refine createV6Hdr_headers cfg true _ pckt.tos _ _ proto ?_ (sameType.trans type) ?_
    · rw [sameLength]
      omega
    · intro _
      rw [sameLength]
      exact ⟨room, udpBytes_createUdpHdr _ _ _ room⟩
  cases isIpv6 with
  | true =>
      have length : netBytes true data + 48 = packetLength true data + 8 := by
        rw [packetLength, if_pos rfl, UInt16.add_assoc]
        rfl
      exact headers _ _ length
  | false => exact headers _ _ rfl

/-- A packet in a tunnel has the protocol and the length that are written for it. -/
theorem pcktEncap_headers
    (encapsulated : pcktEncap cfg maps isIpv6 pckt dst (netBytes isIpv6 data) xdp = some wrapped) :
    OuterHeaders dst.isIpv6 cfg.gueEncap
      (if isIpv6 ∧ dst.isIpv6 then ipprotoIpv6 else ipprotoIpip)
      (if dst.isIpv6 then packetLength isIpv6 data else netBytes isIpv6 data) wrapped.data := by
  unfold pcktEncap at encapsulated
  cases family : dst.isIpv6 with
  | true =>
      simp only [family, ↓reduceIte] at encapsulated
      simp only [and_true, ↓reduceIte]
      split at encapsulated
      next gue =>
        rw [gue]
        exact gueEncapV6_headers _ encapsulated
      next ipip =>
        rw [Bool.eq_false_iff.mpr ipip]
        exact encapV6_headers encapsulated
  | false =>
      simp only [family, Bool.false_eq_true, ↓reduceIte] at encapsulated
      simp only [Bool.false_eq_true, and_false, ↓reduceIte]
      split at encapsulated
      next gue =>
        rw [gue]
        exact gueEncapV4_headers _ encapsulated
      next ipip =>
        rw [Bool.eq_false_iff.mpr ipip]
        exact encapV4_headers encapsulated

/-- The headers in front of a packet have its protocol, and its length and that of the
headers in between. -/
def OuterDescribes (cfg : BpfConfig) (isIpv6 : Bool) (data wrapped : List UInt8) : Prop :=
  ∃ outerIpv6, OuterHeaders outerIpv6 cfg.gueEncap (if isIpv6 then ipprotoIpv6 else ipprotoIpip)
    (packetLength isIpv6 data) wrapped

/-- The outer headers describe every packet but an IPv6 packet in an IPv4 tunnel. -/
theorem outerDescribes_iff
    (encapsulated : pcktEncap cfg maps isIpv6 pckt dst (netBytes isIpv6 data) xdp = some wrapped) :
    OuterDescribes cfg isIpv6 data wrapped.data ↔ (isIpv6 = true → dst.isIpv6 = true) := by
  have headers := pcktEncap_headers encapsulated
  constructor
  · rintro ⟨outerIpv6, described⟩ rfl
    by_contra other
    simp only [Bool.eq_false_iff.mpr other, Bool.false_eq_true, and_false, ↓reduceIte] at headers
    have family : outerIpv6 = false := by
      have type := described.ethProto.symm.trans headers.ethProto
      cases outerIpv6 with
      | false => rfl
      | true => exact absurd type (by decide)
    subst family
    have length := described.length.symm.trans headers.length
    rw [UInt16.add_left_inj, UInt16.add_left_inj, packetLength, if_pos rfl] at length
    exact absurd (UInt16.add_eq_left.mp length) (by decide)
  · intro families
    refine ⟨dst.isIpv6, ?_⟩
    cases isIpv6 with
    | true => simpa only [families rfl, and_self, ↓reduceIte] using headers
    | false =>
        simpa only [Bool.false_eq_true, false_and, ↓reduceIte, packetLength, ite_self] using headers

end Encap

/-! ## The call of the macros -/

section Call

variable {cfg : BpfConfig} {maps : ConfigMaps} {env : PacketEnv} {isIpv6 : Bool} {xdp : XdpMd}
  {flow : FlowMaps} {pckt described : PacketDescription} {pktBytes : UInt16} {vip : VipDefinition}
  {info : VipMeta} {dst : RealDefinition}

/-- The real for which `process_packet` calls `PCKT_ENCAP_V4` or `PCKT_ENCAP_V6`, if it gets
there. -/
def encapDst (cfg : BpfConfig) (maps : ConfigMaps) (env : PacketEnv) (isIpv6 : Bool) (xdp : XdpMd)
    (flow : FlowMaps) : Option RealDefinition :=
  match parsePacket cfg maps env.cpu isIpv6 xdp flow with
  | .final _ _ _ => none
  | .described pckt _ =>
      match lookupVip maps isIpv6 pckt with
      | none => none
      | some (_, info, pckt) =>
          if xdp.data.length > cfg.maxPcktSize then none
          else (chooseDst cfg maps env isIpv6 xdp.data info pckt flow).1.map Chosen.dst

/-- If the macros are called for a real, the packet has been balanced for it: it is sent there
unless there is no room for the headers or a counter is missing. -/
theorem encapDst_eq_some (called : encapDst cfg maps env isIpv6 xdp flow = some dst) :
    ∃ pckt pktBytes vip info described chosen,
      describe cfg isIpv6 xdp.data = some (pckt, pktBytes) ∧
      lookupVip maps isIpv6 pckt = some (vip, info, described) ∧
      Balanced cfg maps env isIpv6 xdp flow vip info described (some chosen)
        (processPacket cfg maps env isIpv6 xdp flow) ∧ chosen.dst = dst := by
  unfold encapDst at called
  rcases parsePacket_spec cfg maps env.cpu isIpv6 xdp flow with
    ⟨pckt, pktBytes, found, parsed⟩ | ⟨_, _, _, _, parsed, _⟩
  · simp only [parsed] at called
    split at called
    · cases called
    next vip info described looked =>
      split at called
      · cases called
      next fits =>
        obtain ⟨chosen, chooses, rfl⟩ := Option.map_eq_some_iff.mp called
        have balanced := processPacket_balanced env flow found looked (Nat.le_of_not_lt fits)
        rw [chooses] at balanced
        exact ⟨pckt, pktBytes, vip, info, described, chosen, found, looked, balanced, rfl⟩
  · simp only [parsed] at called
    cases called

/-- The macros are called for the real that a packet is balanced for. -/
theorem encapDst_of_balanced {outcome : Outcome} {chosen : Chosen}
    (parsed : describe cfg isIpv6 xdp.data = some (pckt, pktBytes))
    (found : lookupVip maps isIpv6 pckt = some (vip, info, described))
    (balanced : Balanced cfg maps env isIpv6 xdp flow vip info described (some chosen) outcome) :
    encapDst cfg maps env isIpv6 xdp flow = some chosen.dst := by
  have small : ¬ xdp.data.length > cfg.maxPcktSize := Nat.not_lt.mpr balanced.fits
  rcases parsePacket_spec cfg maps env.cpu isIpv6 xdp flow with
    ⟨_, _, same, goesOn⟩ | ⟨undescribed, _⟩
  · obtain ⟨rfl, rfl⟩ := Prod.mk.inj (Option.some.inj (parsed.symm.trans same))
    simp only [encapDst, goesOn, found, small, ↓reduceIte, balanced.chooses, Option.map_some]
  · cases undescribed.symm.trans parsed

/-- A packet that is sent has been wrapped for the real. -/
theorem encapDst_of_sent {sent : Sent}
    (sending : (processPacket cfg maps env isIpv6 xdp flow).sent = some sent) :
    encapDst cfg maps env isIpv6 xdp flow = some sent.dst ∧
      pcktEncap cfg maps isIpv6 sent.pckt sent.dst (netBytes isIpv6 xdp.data) xdp =
        some (processPacket cfg maps env isIpv6 xdp flow).xdp := by
  refine ⟨?_, ?_⟩
  · rcases processPacket_cases cfg maps env isIpv6 xdp flow with
      ⟨unsent, _⟩ | ⟨pckt, pktBytes, vip, info, described, decided, parsed, found, balanced⟩
    · cases unsent.symm.trans sending
    · obtain ⟨chosen, rfl, rfl, _⟩ := balanced.of_sent sent sending
      exact encapDst_of_balanced parsed found balanced
  · obtain ⟨_, _, parsed, encapsulated⟩ := pcktEncap_of_sent sending
    rw [← netBytes_of_describe parsed]
    exact encapsulated

end Call

/-! ## Lengths that fit -/

section Lengths

variable {cfg : BpfConfig} {maps : ConfigMaps} {env : PacketEnv} {isIpv6 : Bool} {xdp : XdpMd}
  {flow : FlowMaps}

/-- The length of the packet in a frame by its network header, as a number. -/
def innerLength (isIpv6 : Bool) (data : List UInt8) : Nat :=
  if isIpv6 then (netBytes isIpv6 data).toNat + 40 else (netBytes isIpv6 data).toNat

/-- Whether a frame is one of IPv6, by its EtherType. -/
def tunnelIpv6 (data : List UInt8) : Bool := Bytes.read16 data 12 = beEthPIpv6

/-- What the network header of a tunnel adds to the length that it states. -/
def tunnelAdded (gue outerIpv6 : Bool) : Nat := (if gue then 8 else 0) + if outerIpv6 then 0 else 20

/-- The lengths in the outer headers are the length of the packet inside and the sizes of the
headers that they cover. -/
structure OuterLengths (gue : Bool) (inner : Nat) (wrapped : List UInt8) : Prop where
  network : (netBytes (tunnelIpv6 wrapped) wrapped).toNat =
    inner + tunnelAdded gue (tunnelIpv6 wrapped)
  udp : gue = true →
    (udpBytes wrapped (if tunnelIpv6 wrapped then 54 else 34)).toNat = inner + 8

/-- The packet is of the tunnel's family or an IPv4 packet, and its length fits the outer header
together with what is added to it. -/
def LengthsFit (gue isIpv6 outerIpv6 : Bool) (data : List UInt8) : Prop :=
  (isIpv6 = true → outerIpv6 = true) ∧ innerLength isIpv6 data + tunnelAdded gue outerIpv6 < 2 ^ 16

private theorem tunnelIpv6_of_headers {outerIpv6 gue : Bool} {proto : UInt8} {bytes : UInt16}
    {wrapped : List UInt8} (headers : OuterHeaders outerIpv6 gue proto bytes wrapped) :
    tunnelIpv6 wrapped = outerIpv6 := by
  rw [tunnelIpv6, headers.ethProto]
  cases outerIpv6 <;> decide

/-- The length in the network header of a tunnel. -/
theorem netBytes_of_headers {outerIpv6 gue : Bool} {proto : UInt8} {bytes : UInt16}
    {wrapped : List UInt8} (headers : OuterHeaders outerIpv6 gue proto bytes wrapped) :
    (netBytes outerIpv6 wrapped).toNat = (bytes.toNat + tunnelAdded gue outerIpv6) % 2 ^ 16 := by
  have length := headers.length
  cases outerIpv6 with
  | true =>
      simp only [packetLength, ↓reduceIte, UInt16.add_left_inj] at length
      rw [length, UInt16.toNat_add]
      cases gue <;> rfl
  | false =>
      simp only [packetLength, Bool.false_eq_true, ↓reduceIte] at length
      rw [length, UInt16.toNat_add, UInt16.toNat_add]
      cases gue with
      | true =>
          change ((bytes.toNat + 8) % 2 ^ 16 + 20) % 2 ^ 16 = (bytes.toNat + 28) % 2 ^ 16
          omega
      | false =>
          change ((bytes.toNat + 0) % 2 ^ 16 + 20) % 2 ^ 16 = (bytes.toNat + 20) % 2 ^ 16
          omega

private theorem packetLength_toNat (isIpv6 : Bool) (data : List UInt8) :
    (packetLength isIpv6 data).toNat = innerLength isIpv6 data % 2 ^ 16 := by
  cases isIpv6 with
  | true => exact UInt16.toNat_add _ _
  | false => exact (Nat.mod_eq_of_lt (netBytes false data).toNat_lt).symm

/-- A tunnel of the family of its packet, or an IPv6 tunnel. -/
theorem outerLengths_iff_of_families {outerIpv6 gue : Bool} {proto : UInt8} {bytes : UInt16}
    {wrapped : List UInt8} {inner : Nat} (headers : OuterHeaders outerIpv6 gue proto bytes wrapped)
    (stated : bytes.toNat = inner % 2 ^ 16) :
    OuterLengths gue inner wrapped ↔ inner + tunnelAdded gue outerIpv6 < 2 ^ 16 := by
  have family := tunnelIpv6_of_headers headers
  have network := netBytes_of_headers headers
  have udp : gue = true → (udpBytes wrapped (if outerIpv6 then 54 else 34)).toNat =
      (bytes.toNat + 8) % 2 ^ 16 := by
    intro tunneled
    rw [headers.udpLength tunneled, UInt16.toNat_add]
    rfl
  have covered : gue = true → 8 ≤ tunnelAdded gue outerIpv6 := by
    rintro rfl
    exact Nat.le_add_right _ _
  constructor
  · intro lengths
    have same := lengths.network
    rw [family, network] at same
    have small : (bytes.toNat + tunnelAdded gue outerIpv6) % 2 ^ 16 < 2 ^ 16 :=
      Nat.mod_lt _ (by decide)
    omega
  · intro fits
    have whole : bytes.toNat = inner := by
      rw [stated]
      exact Nat.mod_eq_of_lt (by omega)
    refine ⟨?_, ?_⟩
    · rw [family, network, whole]
      exact Nat.mod_eq_of_lt fits
    · intro tunneled
      have more := covered tunneled
      rw [family, udp tunneled, whole]
      exact Nat.mod_eq_of_lt (by omega)

/-- The header of an IPv6 packet is missing from the lengths of an IPv4 tunnel. -/
theorem not_outerLengths_of_sixInFour {gue : Bool} {proto : UInt8} {wrapped data : List UInt8}
    (headers : OuterHeaders false gue proto (netBytes true data) wrapped) :
    ¬ OuterLengths gue (innerLength true data) wrapped := by
  intro lengths
  have same := lengths.network
  rw [tunnelIpv6_of_headers headers, netBytes_of_headers headers] at same
  have bound := Nat.mod_le ((netBytes true data).toNat + tunnelAdded gue false) (2 ^ 16)
  change _ = (netBytes true data).toNat + 40 + _ at same
  omega

/-- **The outer lengths are those of the packet, exactly if they fit.** A packet that is sent
has the lengths of its headers, exactly if the real that is chosen takes packets of its family
and the length fits the outer header together with what is added. -/
theorem outer_lengths_iff {sent : Sent}
    (sending : (processPacket cfg maps env isIpv6 xdp flow).sent = some sent) :
    OuterLengths cfg.gueEncap (innerLength isIpv6 xdp.data)
        (processPacket cfg maps env isIpv6 xdp flow).xdp.data ↔
      ∃ dst, encapDst cfg maps env isIpv6 xdp flow = some dst ∧
        LengthsFit cfg.gueEncap isIpv6 dst.isIpv6 xdp.data := by
  obtain ⟨called, encapsulated⟩ := encapDst_of_sent sending
  have headers := pcktEncap_headers encapsulated
  simp only [called, Option.some.injEq, exists_eq_left', LengthsFit]
  by_cases families : isIpv6 = true → sent.dst.isIpv6 = true
  · rw [and_iff_right families]
    apply outerLengths_iff_of_families headers
    split
    · exact packetLength_toNat isIpv6 xdp.data
    next four =>
      have plain : isIpv6 = false := Bool.eq_false_iff.mpr fun six => four (families six)
      rw [plain]
      exact packetLength_toNat false xdp.data
  · obtain ⟨rfl, four⟩ : isIpv6 = true ∧ ¬ sent.dst.isIpv6 = true := Classical.not_imp.mp families
    rw [Bool.eq_false_iff.mpr four] at headers
    exact iff_of_false (not_outerLengths_of_sixInFour headers) fun fit => families fit.1

/-- A VIP with one real of a family. -/
def oneReal (real : RealDefinition) : ConfigMaps :=
  { ConfigMaps.fresh [2, 0, 0, 0, 0, 1] (fun _ => true) with
    vipMap := fun vip => if vip = ⟨.ofV4 0x0101c80a, 0x5000, 6⟩ then some ⟨0, 1⟩ else none
    reals := fun _ => real }

/-- A TCP packet whose network header states a length. -/
def statedTcp (length : UInt16) : XdpMd :=
  let xdp := sampleTcp 0x01010101 0x0101c80a 4000 80 true
  { xdp with data := Bytes.write16 xdp.data 16 (Bytes.htons length) }

/-- The lengths around a packet of 40 bytes. -/
theorem outer_lengths_iff_forty :
    OuterLengths false 40
      (processPacket smallConfig (oneReal ⟨.ofV4 0x0a00000a, 0⟩) (sampleEnv 0) false
      (statedTcp 40) .fresh).xdp.data := by
  have sends : (processPacket smallConfig (oneReal ⟨.ofV4 0x0a00000a, 0⟩) (sampleEnv 0) false
      (statedTcp 40) .fresh).sent.isSome = true := by decide +kernel
  obtain ⟨sent, sending⟩ := Option.isSome_iff_exists.mp sends
  refine (outer_lengths_iff sending).mpr ⟨⟨.ofV4 0x0a00000a, 0⟩, by decide +kernel, ?_⟩
  exact ⟨nofun, by decide⟩

/-- The length that a packet states wraps in the outer header. -/
theorem outer_length_wraps :
    (processPacket smallConfig (oneReal ⟨.ofV4 0x0a00000a, 0⟩) (sampleEnv 0) false
      (statedTcp 65530) .fresh).verdict = .tx ∧
    netBytes false (processPacket smallConfig (oneReal ⟨.ofV4 0x0a00000a, 0⟩) (sampleEnv 0) false
      (statedTcp 65530) .fresh).xdp.data = 14 ∧
    ¬ OuterLengths false (innerLength false (statedTcp 65530).data)
      (processPacket smallConfig (oneReal ⟨.ofV4 0x0a00000a, 0⟩) (sampleEnv 0) false
        (statedTcp 65530) .fresh).xdp.data := by
  refine ⟨by decide +kernel, by decide +kernel, ?_⟩
  intro lengths
  exact absurd lengths.network (by decide +kernel)

end Lengths

end Katran
