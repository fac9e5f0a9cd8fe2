import Katran.Lb.Structs
import Katran.System.Affinity

/-! # The keys of the two families

The keys of `vip_map`, of the connection tables and of `decap_dst` hold an address of
either family in the same sixteen bytes, and nothing says which family it is: an IPv4
address is followed by twelve zero bytes. The keys of an IPv4 address and of an IPv6
address differ unless the IPv6 address is the IPv4 address followed by zeros
(`familiesApart_iff`). Reals carry a flag for their family and source routing rules are
kept in one trie for each, so neither is affected.
-/

namespace Katran

/-- A key of a map that is looked up by address. -/
inductive LookupKey where
  | vip (key : VipDefinition)
  | flow (key : FlowKey)
  | decap (key : Be32x4)
deriving DecidableEq, Repr

/-- The destination in a key. -/
def LookupKey.dst : LookupKey → Be32x4
  | vip key => key.vipv6
  | flow key => key.dstv6
  | decap key => key

/-- The keys that `processPacket` builds for a packet. -/
inductive Builds (cfg : BpfConfig) (maps : ConfigMaps) (isIpv6 : Bool) (data : List UInt8) :
    LookupKey → Prop
  | ipip {pckt : PacketDescription} {pktBytes : UInt16}
      (parsed : processL3Headers cfg data 14 isIpv6 = .further (pckt, pktBytes))
      (tunnel : cfg.inlineDecapIpip ∧
        (pckt.flow.proto = ipprotoIpip ∨ pckt.flow.proto = ipprotoIpv6)) :
      Builds cfg maps isIpv6 data (.decap (dstAddress isIpv6 pckt.flow))
  | gue {pckt ported : PacketDescription} {pktBytes : UInt16}
      (parsed : processL3Headers cfg data 14 isIpv6 = .further (pckt, pktBytes))
      (udp : pckt.flow.proto = ipprotoUdp) (ports : parseUdp data isIpv6 pckt = some ported)
      (tunnel : cfg.inlineDecapGue ∧ ported.flow.dstPort = Bytes.htons cfg.gueDport) :
      Builds cfg maps isIpv6 data (.decap (dstAddress isIpv6 ported.flow))
  | vip {pckt : PacketDescription} {pktBytes : UInt16}
      (parsed : describe cfg isIpv6 data = some (pckt, pktBytes)) :
      Builds cfg maps isIpv6 data
        (.vip ⟨dstAddress isIpv6 pckt.flow, pckt.flow.dstPort, pckt.flow.proto⟩)
  | portless {pckt : PacketDescription} {pktBytes : UInt16}
      (parsed : describe cfg isIpv6 data = some (pckt, pktBytes))
      (absent : maps.vipMap ⟨dstAddress isIpv6 pckt.flow, pckt.flow.dstPort, pckt.flow.proto⟩ =
        none) :
      Builds cfg maps isIpv6 data (.vip ⟨dstAddress isIpv6 pckt.flow, 0, pckt.flow.proto⟩)
  | searched {pckt described : PacketDescription} {pktBytes : UInt16} {vip : VipDefinition}
      {info : VipMeta} (parsed : describe cfg isIpv6 data = some (pckt, pktBytes))
      (found : lookupVip maps isIpv6 pckt = some (vip, info, described)) :
      Builds cfg maps isIpv6 data (.flow (lruPckt info described).flow)
  | recorded {pckt described : PacketDescription} {pktBytes : UInt16} {vip : VipDefinition}
      {info : VipMeta} (parsed : describe cfg isIpv6 data = some (pckt, pktBytes))
      (found : lookupVip maps isIpv6 pckt = some (vip, info, described)) :
      Builds cfg maps isIpv6 data (.flow (hashedFlow info (lruPckt info described).flow))

/-- The destination of the flow that a packet belongs to, which for an ICMP error is that
of the answered packet's source. -/
def destination (cfg : BpfConfig) (isIpv6 : Bool) (data : List UInt8) : Option Be32x4 :=
  match processL3Headers cfg data 14 isIpv6 with
  | .done _ _ => none
  | .further (pckt, _) => some pckt.flow.dstv6

variable {cfg : BpfConfig} {maps : ConfigMaps} {isIpv6 : Bool} {data : List UInt8}
  {pckt described : PacketDescription} {pktBytes : UInt16} {info : VipMeta} {vip : VipDefinition}

/-! ## Destinations -/

/-- An IPv4 packet leaves the rest of its destination blank. -/
theorem processL3Headers_dst_v4
    (parsed : processL3Headers cfg data 14 false = .further (pckt, pktBytes)) :
    pckt.flow.dstv6 = .ofV4 pckt.flow.dstv6.w0 := by
  unfold processL3Headers at parsed
  simp only [Bool.false_eq_true, ↓reduceIte] at parsed
  split at parsed
  · cases parsed
  split at parsed
  · cases parsed
  split at parsed
  · cases parsed
  split at parsed
  · split at parsed
    next => cases parsed
    next quoted icmp =>
      cases parsed
      unfold parseIcmp at icmp
      split at icmp
      · cases icmp
      dsimp only at icmp
      split at icmp
      · cases icmp
      split at icmp
      · cases icmp
      split at icmp
      · cases icmp
      split at icmp
      · cases icmp
      · cases icmp
        rfl
  · cases parsed
    rfl

private theorem dstAddress_eq
    (parsed : processL3Headers cfg data 14 isIpv6 = .further (pckt, pktBytes)) :
    dstAddress isIpv6 pckt.flow = pckt.flow.dstv6 := by
  cases isIpv6 with
  | true => rfl
  | false => exact (processL3Headers_dst_v4 parsed).symm

private theorem parseUdp_addresses {ported : PacketDescription}
    (ports : parseUdp data isIpv6 pckt = some ported) :
    ported.flow.srcv6 = pckt.flow.srcv6 ∧ ported.flow.dstv6 = pckt.flow.dstv6 := by
  unfold parseUdp at ports
  dsimp only at ports
  split at ports
  · cases ports
  · cases ports
    exact ⟨rfl, rfl⟩

private theorem parseTcp_addresses {ported : PacketDescription}
    (ports : parseTcp data isIpv6 pckt = some ported) :
    ported.flow.srcv6 = pckt.flow.srcv6 ∧ ported.flow.dstv6 = pckt.flow.dstv6 := by
  unfold parseTcp at ports
  dsimp only at ports
  split at ports
  · cases ports
  · cases ports
    exact ⟨rfl, rfl⟩

/-- Ports do not change the addresses of a packet. -/
theorem describe_addresses (parsed : describe cfg isIpv6 data = some (pckt, pktBytes)) :
    ∃ plain, processL3Headers cfg data 14 isIpv6 = .further (plain, pktBytes) ∧
      pckt.flow.srcv6 = plain.flow.srcv6 ∧ pckt.flow.dstv6 = plain.flow.dstv6 := by
  unfold describe at parsed
  split at parsed
  · cases parsed
  next plain bytes headers =>
    rw [headers]
    dsimp only at parsed
    split at parsed
    · cases parsed
    split at parsed
    · obtain ⟨ported, ports, same⟩ := Option.map_eq_some_iff.mp parsed
      obtain ⟨rfl, rfl⟩ := Prod.mk.inj same
      exact ⟨plain, rfl, parseTcp_addresses ports⟩
    split at parsed
    · obtain ⟨ported, ports, same⟩ := Option.map_eq_some_iff.mp parsed
      obtain ⟨rfl, rfl⟩ := Prod.mk.inj same
      exact ⟨plain, rfl, parseUdp_addresses (Option.eq_some_of_filter_eq_some ports)⟩
    · cases parsed

/-- The destination of a described packet. -/
theorem destination_of_describe (parsed : describe cfg isIpv6 data = some (pckt, pktBytes)) :
    destination cfg isIpv6 data = some pckt.flow.dstv6 ∧
      dstAddress isIpv6 pckt.flow = pckt.flow.dstv6 := by
  obtain ⟨plain, headers, _, dst⟩ := describe_addresses parsed
  constructor
  · simp only [destination, headers, dst]
  · have same := dstAddress_eq headers
    unfold dstAddress at same ⊢
    rw [dst]
    exact same

/-- The VIP has the destination of the packet. -/
theorem lookupVip_dst (found : lookupVip maps isIpv6 pckt = some (vip, info, described)) :
    vip.vipv6 = dstAddress isIpv6 pckt.flow ∧
      (lruPckt info described).flow.dstv6 = pckt.flow.dstv6 := by
  have kept : described.flow.dstv6 = pckt.flow.dstv6 := by
    rw [(lookupVip_spec found).2.2]
  constructor
  · unfold lookupVip at found
    dsimp only at found
    split at found
    · cases found
      rfl
    · split at found
      · cases found
      · cases found
        rfl
  · rw [← kept]
    unfold lruPckt
    split <;> rfl

private theorem hashedFlow_dst (info : VipMeta) (flow : FlowKey) :
    (hashedFlow info flow).dstv6 = flow.dstv6 := by
  unfold hashedFlow
  split <;> rfl

/-- Every key that a packet builds holds its destination. -/
theorem Builds.destination {key : LookupKey} (builds : Builds cfg maps isIpv6 data key) :
    Katran.destination cfg isIpv6 data = some key.dst := by
  cases builds with
  | ipip parsed _ => simp only [Katran.destination, parsed, LookupKey.dst, dstAddress_eq parsed]
  | gue parsed _ ports _ =>
      have dst := (parseUdp_addresses ports).2
      have same := dstAddress_eq parsed
      unfold dstAddress at same
      simp only [Katran.destination, parsed, LookupKey.dst, dstAddress, dst, same]
  | vip parsed =>
      obtain ⟨dst, same⟩ := destination_of_describe parsed
      rw [dst, ← same]
      rfl
  | portless parsed _ =>
      obtain ⟨dst, same⟩ := destination_of_describe parsed
      rw [dst, ← same]
      rfl
  | searched parsed found =>
      rw [(destination_of_describe parsed).1, ← (lookupVip_dst found).2]
      rfl
  | recorded parsed found =>
      rw [(destination_of_describe parsed).1, ← (lookupVip_dst found).2, ← hashedFlow_dst]
      rfl

/-- A packet that is sent was found to be for a VIP with its destination. -/
theorem destination_of_sent {env : PacketEnv} {xdp : XdpMd} {flow : FlowMaps} {sent : Sent}
    (sending : (processPacket cfg maps env isIpv6 xdp flow).sent = some sent) :
    destination cfg isIpv6 xdp.data = some sent.vip.vipv6 := by
  rcases processPacket_cases cfg maps env isIpv6 xdp flow with
    ⟨unsent, _, _⟩ | ⟨pckt, bytes, vip, info, described, decided, parsed, found, balanced⟩
  · cases unsent.symm.trans sending
  · obtain ⟨chosen, _, rfl, _⟩ := balanced.of_sent sent sending
    obtain ⟨dst, same⟩ := destination_of_describe parsed
    rw [dst, ← same, ← (lookupVip_dst found).1]

/-! ## Keys of different families -/

/-- An IPv4 address and an IPv6 address share no key: VIPs on them are stored apart, their
packets build different keys, and a packet to one of them is never taken for a VIP on the
other. -/
structure FamiliesApart (cfg : BpfConfig) (a : UInt32) (b : Be32x4) : Prop where
  vips : ∀ vip4 vip6 : VipKey, vipDefinition (.v4 a) vip4 ≠ vipDefinition (.v6 b) vip6
  packets : ∀ (maps4 maps6 : ConfigMaps) (data4 data6 : List UInt8) (key : LookupKey),
    destination cfg false data4 = some (.ofV4 a) → destination cfg true data6 = some b →
      ¬ (Builds cfg maps4 false data4 key ∧ Builds cfg maps6 true data6 key)
  matched : ∀ (maps : ConfigMaps) (env : PacketEnv) (xdp : XdpMd) (flow : FlowMaps) (sent : Sent)
    (vip : VipKey),
    (destination cfg true xdp.data = some b →
      (processPacket cfg maps env true xdp flow).sent = some sent →
        sent.vip ≠ vipDefinition (.v4 a) vip) ∧
    (destination cfg false xdp.data = some (.ofV4 a) →
      (processPacket cfg maps env false xdp flow).sent = some sent →
        sent.vip ≠ vipDefinition (.v6 b) vip)

/-- **Keys of different families** coincide exactly if the IPv6 address is the IPv4
address followed by twelve zero bytes. -/
theorem familiesApart_iff (cfg : BpfConfig) (a : UInt32) (b : Be32x4) :
    FamiliesApart cfg a b ↔ b ≠ .ofV4 a := by
  constructor
  · rintro apart rfl
    exact apart.vips ⟨"", 0, 0⟩ ⟨"", 0, 0⟩ rfl
  · intro different
    refine ⟨?_, ?_, ?_⟩
    · intro vip4 vip6 same
      have addresses : Be32x4.ofV4 a = b := congrArg VipDefinition.vipv6 same
      exact different addresses.symm
    · intro maps4 maps6 data4 data6 key dst4 dst6 builds
      have addresses := Option.some.inj (dst4.symm.trans builds.1.destination)
      rw [← Option.some.inj (dst6.symm.trans builds.2.destination)] at addresses
      exact different addresses.symm
    · intro maps env xdp flow sent vip
      refine ⟨fun dst sending same => ?_, fun dst sending same => ?_⟩
      · have addresses := Option.some.inj (dst.symm.trans (destination_of_sent sending))
        rw [same] at addresses
        exact different addresses
      · have addresses := Option.some.inj (dst.symm.trans (destination_of_sent sending))
        rw [same] at addresses
        exact different addresses.symm

/-- An IPv6 packet with a TCP header and no payload. -/
def sampleTcp6 (src dst : Be32x4) (sport dport : UInt16) : XdpMd where
  headroom := List.replicate 64 0
  data := [2, 0, 0, 0, 0, 2, 2, 0, 0, 0, 0, 3, 0x86, 0xdd] ++ [0x60, 0, 0, 0, 0, 20, 6, 64] ++
    Bytes.ofBe32x4 src ++ Bytes.ofBe32x4 dst ++
    Bytes.ofUInt16 (Bytes.htons sport) ++ Bytes.ofUInt16 (Bytes.htons dport) ++
    [0, 0, 0, 1, 0, 0, 0, 1, 0x50, 0x10, 0, 0, 0, 0, 0, 0]

/-- A packet from 101:101:: to ac8:101::. -/
def ackPacket6 : XdpMd := sampleTcp6 (.ofV4 0x01010101) (.ofV4 0x0101c80a) 4000 80

/-- The addresses 10.200.1.1 and ac8:101:: share their keys. VIPs on them are stored under
one key, and an IPv6 packet is taken for the VIP on the IPv4 address and goes by the entry
that an IPv4 packet has left in the connection table. -/
theorem families_collide :
    ¬ FamiliesApart smallConfig 0x0101c80a ⟨0x0101c80a, 0, 0, 0⟩ ∧
      vipDefinition (.v4 0x0101c80a) ⟨"10.200.1.1", 80, 6⟩ =
        vipDefinition (.v6 ⟨0x0101c80a, 0, 0, 0⟩) ⟨"ac8:101::", 80, 6⟩ ∧
      destination smallConfig true ackPacket6.data = some ⟨0x0101c80a, 0, 0, 0⟩ ∧
      (processPacket smallConfig rewritten (sampleEnv 6) true ackPacket6 .fresh).sent.map
        (fun sent => (sent.vip, sent.pckt.realIndex)) =
          some (vipDefinition (.v4 0x0101c80a) ⟨"10.200.1.1", 80, 6⟩, 1) ∧
      (processPacket smallConfig rewritten (sampleEnv 6) true ackPacket6 established).sent.map
        (fun sent => (sent.pckt.flow, sent.pckt.realIndex)) = some (connection, 2) ∧
      ∃ key, Builds { smallConfig with inlineDecapIpip := true } twoReals false
          (Bytes.write8 ackPacket.data 23 ipprotoIpip) (.decap key) ∧
        Builds { smallConfig with inlineDecapIpip := true } twoReals true
          (Bytes.write8 ackPacket6.data 20 ipprotoIpip) (.decap key) := by
  have shared : ¬ FamiliesApart smallConfig 0x0101c80a ⟨0x0101c80a, 0, 0, 0⟩ :=
    fun apart => apart.vips ⟨"10.200.1.1", 80, 6⟩ ⟨"ac8:101::", 80, 6⟩ rfl
  refine ⟨shared, rfl, by decide +kernel, by decide +kernel, by decide +kernel,
    .ofV4 0x0101c80a, ?_, ?_⟩
  · have parsed : processL3Headers { smallConfig with inlineDecapIpip := true }
        (Bytes.write8 ackPacket.data 23 ipprotoIpip) 14 false =
          .further ({ flow := ⟨.ofV4 0x01010101, .ofV4 0x0101c80a, 0, 0, 4⟩ }, 40) := by
      decide +kernel
    exact .ipip parsed ⟨rfl, .inl rfl⟩
  · have parsed : processL3Headers { smallConfig with inlineDecapIpip := true }
        (Bytes.write8 ackPacket6.data 20 ipprotoIpip) 14 true =
          .further ({ flow := ⟨.ofV4 0x01010101, .ofV4 0x0101c80a, 0, 0, 4⟩ }, 20) := by
      decide +kernel
    exact .ipip parsed ⟨rfl, .inl rfl⟩

end Katran
