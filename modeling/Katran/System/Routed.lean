import Katran.System.Headroom

/-! # What routers change

On its way a frame gets new Ethernet addresses, and its network header another time to live
and, for IPv4, another checksum (`Routed`). None of this decides anything about a packet: it is
described the same way (`Routed.describe`), and the same is decided about it
(`Routed.balancePacket`).
-/

namespace Katran

open Foundation

/-! ## Bytes that are known -/

namespace Bytes

variable {known : Nat → Prop} {first second : List UInt8} {off : Nat}

private theorem read8_of_agree (agree : Agree known first second) (place : known off) :
    read8 first off = read8 second off := by
  simp only [read8, List.getD_eq_getElem?_getD, agree.getElem? off place]

private theorem read16_of_agree (agree : Agree known first second)
    (inside : ∀ index, off ≤ index → index < off + 2 → known index) :
    read16 first off = read16 second off := by
  rw [read16, read16, read8_of_agree agree (inside off (by omega) (by omega)),
    read8_of_agree agree (inside (off + 1) (by omega) (by omega))]

private theorem read32_of_agree (agree : Agree known first second)
    (inside : ∀ index, off ≤ index → index < off + 4 → known index) :
    read32 first off = read32 second off := by
  rw [read32, read32,
    read16_of_agree agree fun index beyond below => inside index beyond (by omega),
    read16_of_agree agree fun index beyond below => inside index (by omega) (by omega)]

end Bytes

/-! ## Frames on their way -/

/-- A byte of a frame that no router changes: it is behind the Ethernet addresses, and neither
the time to live nor the checksum of the network header. -/
def Unrouted (isIpv6 : Bool) (index : Nat) : Prop :=
  12 ≤ index ∧ index ≠ 14 + hopOff isIpv6 ∧ (isIpv6 = false → index ≠ 24 ∧ index ≠ 25)

/-- Frames that are the same but for what routers change. -/
def Routed (isIpv6 : Bool) : List UInt8 → List UInt8 → Prop := Agree (Unrouted isIpv6)

namespace Routed

variable {cfg : BpfConfig} {maps : ConfigMaps} {isIpv6 : Bool} {first second third : List UInt8}

private theorem unrouted_of_header (isIpv6 : Bool) {index : Nat} (behind : 12 ≤ index)
    (before : index < 21) : Unrouted isIpv6 index := by
  cases isIpv6 with
  | true => exact ⟨behind, by change index ≠ 21; omega, nofun⟩
  | false => exact ⟨behind, by change index ≠ 22; omega, fun _ => by omega⟩

private theorem unrouted_of_behind (isIpv6 : Bool) {index : Nat} (behind : 26 ≤ index) :
    Unrouted isIpv6 index := by
  cases isIpv6 with
  | true => exact ⟨by omega, by change index ≠ 21; omega, nofun⟩
  | false => exact ⟨by omega, by change index ≠ 22; omega, fun _ => by omega⟩

/-- A packet is routed like itself. -/
theorem refl (isIpv6 : Bool) (data : List UInt8) : Routed isIpv6 data data :=
  ⟨rfl, fun _ _ => rfl⟩

/-- Packets are routed alike in both directions. -/
theorem symm (routed : Routed isIpv6 first second) : Routed isIpv6 second first :=
  ⟨routed.length.symm, fun index place => (routed.getElem? index place).symm⟩

/-- Packets that are routed like the same one are routed alike. -/
theorem trans (left : Routed isIpv6 first second) (right : Routed isIpv6 second third) :
    Routed isIpv6 first third :=
  ⟨left.length.trans right.length,
    fun index place => (left.getElem? index place).trans (right.getElem? index place)⟩

private theorem read8 (routed : Routed isIpv6 first second) {off : Nat} (behind : 26 ≤ off) :
    Bytes.read8 first off = Bytes.read8 second off :=
  Bytes.read8_of_agree routed (unrouted_of_behind isIpv6 behind)

/-- Packets that are routed alike have the same half-words behind the header's checksum. -/
theorem read16 (routed : Routed isIpv6 first second) {off : Nat} (behind : 26 ≤ off) :
    Bytes.read16 first off = Bytes.read16 second off :=
  Bytes.read16_of_agree routed fun _ beyond _ => unrouted_of_behind isIpv6 (by omega)

private theorem read32 (routed : Routed isIpv6 first second) {off : Nat} (behind : 26 ≤ off) :
    Bytes.read32 first off = Bytes.read32 second off :=
  Bytes.read32_of_agree routed fun _ beyond _ => unrouted_of_behind isIpv6 (by omega)

private theorem read128 (routed : Routed isIpv6 first second) {off : Nat}
    (behind : 26 ≤ off ∨ (isIpv6 = true ∧ 22 ≤ off)) :
    Bytes.read128 first off = Bytes.read128 second off := by
  refine Bytes.read128_of_agree routed fun index beyond _ => ?_
  rcases behind with far | ⟨rfl, near⟩
  · exact unrouted_of_behind isIpv6 (by omega)
  · exact ⟨by omega, by change index ≠ 21; omega, nofun⟩

/-- Packets that are routed alike are the same behind the header's checksum. -/
theorem drop (routed : Routed isIpv6 first second) {start : Nat} (behind : 26 ≤ start) :
    first.drop start = second.drop start := by
  apply List.ext_getElem?
  intro index
  rw [List.getElem?_drop, List.getElem?_drop]
  exact routed.getElem? _ (unrouted_of_behind isIpv6 (by omega))

/-- Packets that are routed alike have the same EtherType. -/
theorem frameType (routed : Routed isIpv6 first second) :
    Bytes.read16 first 12 = Bytes.read16 second 12 :=
  Bytes.read16_of_agree routed fun _ beyond below =>
    unrouted_of_header isIpv6 beyond (by omega)

/-- Packets that are routed alike have the same first bytes of the network header. -/
theorem header8 (routed : Routed isIpv6 first second) {off : Nat} (behind : 12 ≤ off)
    (before : off < 21) : Bytes.read8 first off = Bytes.read8 second off :=
  Bytes.read8_of_agree routed (unrouted_of_header isIpv6 behind before)

/-- Packets that are routed alike have the same protocol. -/
theorem outerProto (routed : Routed isIpv6 first second) :
    Katran.outerProto isIpv6 first = Katran.outerProto isIpv6 second := by
  apply Bytes.read8_of_agree routed
  cases isIpv6 with
  | true => exact unrouted_of_header true (by decide) (by decide)
  | false => exact ⟨by decide, by decide, fun _ => by decide⟩

private theorem netBytes (routed : Routed isIpv6 first second) :
    Katran.netBytes isIpv6 first = Katran.netBytes isIpv6 second := by
  apply congrArg Bytes.htons
  apply Bytes.read16_of_agree routed
  intro index beyond below
  apply unrouted_of_header
  · split at beyond <;> omega
  · split at below <;> omega

private theorem outerTos (routed : Routed isIpv6 first second) :
    Katran.outerTos isIpv6 first = Katran.outerTos isIpv6 second := by
  unfold Katran.outerTos
  rw [routed.header8 (by decide : 12 ≤ 14) (by decide),
    routed.header8 (by decide : 12 ≤ 15) (by decide)]

/-- Packets that are routed alike have both a network header, or none. -/
theorem netHeader (routed : Routed isIpv6 first second) :
    NetHeader isIpv6 first ↔ NetHeader isIpv6 second := by
  unfold NetHeader
  rw [routed.length, routed.outerProto, routed.header8 (by decide : 12 ≤ 14) (by decide)]
  cases isIpv6 with
  | true => rfl
  | false =>
      have offset : Bytes.read16 first 20 = Bytes.read16 second 20 :=
        Bytes.read16_of_agree routed fun index beyond below =>
          ⟨by omega, by change index ≠ 22; omega, fun _ => by omega⟩
      rw [offset]

/-- Packets that are routed alike are described alike. -/
theorem ownPckt (routed : Routed isIpv6 first second) :
    Katran.ownPckt isIpv6 first = Katran.ownPckt isIpv6 second := by
  unfold Katran.ownPckt
  rw [routed.outerProto, routed.outerTos]
  rw [routed.read32 (by decide : 26 ≤ 26), routed.read32 (by decide : 26 ≤ 30)]
  cases isIpv6 with
  | true =>
      have source : Bytes.read128 first 22 = Bytes.read128 second 22 :=
        routed.read128 (.inr ⟨rfl, by decide⟩)
      have destination : Bytes.read128 first 38 = Bytes.read128 second 38 :=
        routed.read128 (.inl (by decide))
      rw [source, destination]
  | false => rfl

private theorem quotesPacket (routed : Routed isIpv6 first second) :
    QuotesPacket isIpv6 first ↔ QuotesPacket isIpv6 second := by
  unfold QuotesPacket
  rw [routed.length, routed.read8 (by decide : 26 ≤ 54), routed.read8 (by decide : 26 ≤ 34),
    routed.read8 (by decide : 26 ≤ 42)]

private theorem quotedPckt (routed : Routed isIpv6 first second) (tos : UInt8) :
    Katran.quotedPckt isIpv6 first tos = Katran.quotedPckt isIpv6 second tos := by
  have source : Bytes.read128 first 86 = Bytes.read128 second 86 :=
    routed.read128 (.inl (by decide))
  have destination : Bytes.read128 first 70 = Bytes.read128 second 70 :=
    routed.read128 (.inl (by decide))
  unfold Katran.quotedPckt
  rw [source, destination, routed.read8 (by decide : 26 ≤ 68), routed.read32 (by decide : 26 ≤ 58),
    routed.read32 (by decide : 26 ≤ 54), routed.read8 (by decide : 26 ≤ 51)]

private theorem further_iff (routed : Routed isIpv6 first second) (cfg : BpfConfig)
    (pckt : PacketDescription) (pktBytes : UInt16) :
    processL3Headers cfg first 14 isIpv6 = .further (pckt, pktBytes) ↔
      processL3Headers cfg second 14 isIpv6 = .further (pckt, pktBytes) := by
  rw [processL3Headers_iff, processL3Headers_iff, routed.netHeader, routed.netBytes,
    routed.outerProto, routed.ownPckt, routed.quotesPacket, routed.outerTos, routed.quotedPckt]

/-- A transport header is behind what routers change. -/
theorem calcOffset_le (isIpv6 isIcmp : Bool) : 26 ≤ calcOffset isIpv6 isIcmp := by
  unfold calcOffset
  split
  · exact Nat.le_add_right_of_le (by decide)
  · exact Nat.le_add_right_of_le (by decide)

private theorem parseTcp (routed : Routed isIpv6 first second) (pckt : PacketDescription) :
    Katran.parseTcp first isIpv6 pckt = Katran.parseTcp second isIpv6 pckt := by
  have behind := calcOffset_le isIpv6 pckt.icmp
  unfold Katran.parseTcp
  dsimp only
  rw [routed.length, routed.read8 (by omega : 26 ≤ calcOffset isIpv6 pckt.icmp + 13),
    routed.read16 behind, routed.read16 (by omega : 26 ≤ calcOffset isIpv6 pckt.icmp + 2)]

private theorem parseUdp (routed : Routed isIpv6 first second) (pckt : PacketDescription) :
    Katran.parseUdp first isIpv6 pckt = Katran.parseUdp second isIpv6 pckt := by
  have behind := calcOffset_le isIpv6 pckt.icmp
  unfold Katran.parseUdp
  dsimp only
  rw [routed.length, routed.read16 behind,
    routed.read16 (by omega : 26 ≤ calcOffset isIpv6 pckt.icmp + 2)]

private theorem quicLongConnId_le {data : List UInt8} {quic off : Nat}
    (found : quicLongConnId cfg data quic = some off) : quic ≤ off := by
  unfold quicLongConnId at found
  dsimp only at found
  split at found
  · cases found
  · split at found
    · cases found
    · generalize (if Bytes.read32 data (quic + 1) = quicVersionMvfstOld then _ else _) = size
        at found
      split at found
      · cases found
      · obtain rfl := Option.some.inj found
        omega

private theorem parseQuic (routed : Routed isIpv6 first second) (cfg : BpfConfig)
    (pckt : PacketDescription) :
    Katran.parseQuic cfg first isIpv6 pckt = Katran.parseQuic cfg second isIpv6 pckt := by
  have behind : 26 ≤ calcOffset isIpv6 pckt.icmp + 8 :=
    Nat.le_add_right_of_le (calcOffset_le isIpv6 pckt.icmp)
  unfold Katran.parseQuic
  dsimp only
  generalize calcOffset isIpv6 pckt.icmp + 8 = quic at behind
  have long : quicLongConnId cfg first quic = quicLongConnId cfg second quic := by
    unfold quicLongConnId
    rw [routed.length, routed.read8 behind, routed.read8 (by omega : 26 ≤ quic + 5),
      routed.read32 (by omega : 26 ≤ quic + 1)]
  rw [routed.length, routed.read8 behind, long]
  split
  · rfl
  · apply Option.bind_congr
    intro off found
    have far : 26 ≤ off := by
      split at found
      · exact (quicLongConnId_le found).trans' (by omega)
      · split at found
        · cases found
        · obtain rfl := Option.some.inj found
          omega
    rw [routed.read8 far, routed.read8 (by omega : 26 ≤ off + 1),
      routed.read8 (by omega : 26 ≤ off + 2)]

/-- Routers do not change how a packet is described. -/
theorem describe (routed : Routed isIpv6 first second) (cfg : BpfConfig) :
    Katran.describe cfg isIpv6 first = Katran.describe cfg isIpv6 second := by
  unfold Katran.describe
  cases parsed : processL3Headers cfg first 14 isIpv6 with
  | further value =>
      obtain ⟨pckt, pktBytes⟩ := value
      rw [(routed.further_iff cfg pckt pktBytes).mp parsed]
      dsimp only
      rw [routed.parseTcp, routed.parseUdp]
  | done verdict after =>
      cases other : processL3Headers cfg second 14 isIpv6 with
      | further value =>
          obtain ⟨pckt, pktBytes⟩ := value
          cases parsed.symm.trans ((routed.further_iff cfg pckt pktBytes).mpr other)
      | done verdict after => rfl

private theorem quicDst (routed : Routed isIpv6 first second) (cfg : BpfConfig) (maps : ConfigMaps)
    (cpu : Nat) (pckt : PacketDescription) (flow : FlowMaps) :
    Katran.quicDst cfg maps cpu isIpv6 first pckt flow =
      Katran.quicDst cfg maps cpu isIpv6 second pckt flow := by
  unfold Katran.quicDst
  rw [routed.parseQuic]

private theorem chooseDst (routed : Routed isIpv6 first second) (cfg : BpfConfig)
    (maps : ConfigMaps)
    (env : PacketEnv) (info : VipMeta) (pckt : PacketDescription) (flow : FlowMaps) :
    Katran.chooseDst cfg maps env isIpv6 first info pckt flow =
      Katran.chooseDst cfg maps env isIpv6 second info pckt flow := by
  unfold Katran.chooseDst
  simp only [routed.quicDst]

end Routed

/-! ## A described packet -/

section Described

variable {cfg : BpfConfig} {maps : ConfigMaps} {env : PacketEnv} {isIpv6 : Bool}
  {first second : XdpMd} {flow : FlowMaps}

/-- The same decision, and the same state. -/
structure SameDecision (left right : Outcome) : Prop where
  verdict : left.verdict = right.verdict
  sent : left.sent = right.sent
  flow : left.flow = right.flow

private theorem growHead_of_room {xdp : XdpMd} {size : Nat} (room : size ≤ xdp.headroom.length) :
    ∃ wide, xdp.growHead size = some wide ∧ wide.data.length = size + xdp.data.length := by
  unfold XdpMd.growHead
  rw [if_pos room]
  refine ⟨_, rfl, ?_⟩
  rw [List.length_append, List.length_drop]
  omega

private theorem sendIcmp4TooBig_of_room (cfg : BpfConfig) (csumDiff : CsumDiff) (xdp : XdpMd)
    (room : 48 ≤ xdp.headroom.length) : (sendIcmp4TooBig cfg csumDiff xdp).1 =
      if icmpToobigSize > xdp.data.length then .drop else .tx := by
  obtain ⟨wide, grown, length⟩ := growHead_of_room (by omega : 28 ≤ xdp.headroom.length)
  unfold sendIcmp4TooBig
  rw [grown]
  dsimp only
  by_cases short : icmpToobigSize > xdp.data.length
  · rw [if_pos (by omega), if_pos short]
  · rw [if_neg (by omega), if_neg short]

private theorem sendIcmp6TooBig_of_room (cfg : BpfConfig) (csumDiff : CsumDiff) (xdp : XdpMd)
    (room : 48 ≤ xdp.headroom.length) : (sendIcmp6TooBig cfg csumDiff xdp).1 =
      if icmp6ToobigSize > xdp.data.length then .drop else .tx := by
  obtain ⟨wide, grown, length⟩ := growHead_of_room room
  unfold sendIcmp6TooBig
  rw [grown]
  dsimp only
  by_cases short : icmp6ToobigSize > xdp.data.length
  · rw [if_pos (by omega), if_pos short]
  · rw [if_neg (by omega), if_neg short]

private theorem adjustTail_eq (xdp : XdpMd) {size : Nat} (large : 14 ≤ size) :
    xdp.adjustTail (size - xdp.data.length) =
      if size ≤ xdp.data.length then some { xdp with data := xdp.data.take size } else none := by
  unfold XdpMd.adjustTail XdpMd.ethHlen
  rw [add_sub_cancel, Int.toNat_natCast]
  by_cases fits : size ≤ xdp.data.length
  · rw [if_pos (by omega), if_pos fits]
  · rw [if_neg (by omega), if_neg fits]

/-- With room for its headers, an error is sent for every packet that is long enough. -/
theorem sendIcmpTooBig_of_room (cfg : BpfConfig) (csumDiff : CsumDiff) (isIpv6 : Bool) {xdp : XdpMd}
    (room : 48 ≤ xdp.headroom.length) : (sendIcmpTooBig cfg csumDiff isIpv6 xdp).1 =
      if (if isIpv6 then icmp6ToobigSize else icmpToobigSize) ≤ xdp.data.length then .tx
      else .drop := by
  have taken : ∀ size, size ≤ xdp.data.length → ¬ size > (xdp.data.take size).length := by
    intro size fits
    rw [List.length_take]
    omega
  unfold sendIcmpTooBig
  dsimp only
  cases isIpv6 with
  | true =>
      simp only [↓reduceIte]
      rw [adjustTail_eq xdp (by decide : 14 ≤ icmp6ToobigSize)]
      by_cases fits : icmp6ToobigSize ≤ xdp.data.length
      · rw [if_pos fits, if_pos fits]
        exact (sendIcmp6TooBig_of_room cfg csumDiff ⟨xdp.headroom, xdp.data.take icmp6ToobigSize⟩
          room).trans (if_neg (taken _ fits))
      · rw [if_neg fits, if_neg fits]
  | false =>
      simp only [Bool.false_eq_true, ↓reduceIte]
      rw [adjustTail_eq xdp (by decide : 14 ≤ icmpToobigSize)]
      by_cases fits : icmpToobigSize ≤ xdp.data.length
      · rw [if_pos fits, if_pos fits]
        exact (sendIcmp4TooBig_of_room cfg csumDiff ⟨xdp.headroom, xdp.data.take icmpToobigSize⟩
          room).trans (if_neg (taken _ fits))
      · rw [if_neg fits, if_neg fits]

private theorem sendToReal_of_room (cpu : Nat) (vip : VipDefinition) (info : VipMeta)
    (pktBytes : UInt16) (chosen : Chosen) (flow : FlowMaps) (long : 14 ≤ first.data.length)
    (otherLong : 14 ≤ second.data.length) (room : 48 ≤ first.headroom.length)
    (otherRoom : 48 ≤ second.headroom.length) :
    SameDecision (sendToReal cfg maps cpu isIpv6 vip info pktBytes chosen first flow)
      (sendToReal cfg maps cpu isIpv6 vip info pktBytes chosen second flow) := by
  obtain ⟨wrapped, encapsulated⟩ := Option.isSome_iff_exists.mp
    (pcktEncap_isSome cfg maps isIpv6 chosen.pckt chosen.dst pktBytes room long)
  obtain ⟨other, encapsulatedToo⟩ := Option.isSome_iff_exists.mp
    (pcktEncap_isSome cfg maps isIpv6 chosen.pckt chosen.dst pktBytes otherRoom otherLong)
  unfold sendToReal
  rw [encapsulated, encapsulatedToo]
  dsimp only
  split
  · exact ⟨rfl, rfl, rfl⟩
  · split
    · exact ⟨rfl, rfl, rfl⟩
    · exact ⟨rfl, rfl, rfl⟩

/-- Routers do not change what is decided about a packet. -/
theorem Routed.balancePacket (routed : Routed isIpv6 first.data second.data)
    (long : 14 ≤ first.data.length) (room : 48 ≤ first.headroom.length)
    (otherRoom : 48 ≤ second.headroom.length) (cfg : BpfConfig) (maps : ConfigMaps)
    (env : PacketEnv) (pckt : PacketDescription) (pktBytes : UInt16) (flow : FlowMaps) :
    SameDecision (balancePacket cfg maps env isIpv6 pckt pktBytes first flow)
      (balancePacket cfg maps env isIpv6 pckt pktBytes second flow) := by
  unfold Katran.balancePacket
  rw [← routed.length]
  split
  · exact ⟨rfl, rfl, rfl⟩
  next vip info described found =>
    split
    · unfold processTooBig
      split
      · split
        · exact ⟨rfl, rfl, rfl⟩
        · refine ⟨?_, rfl, rfl⟩
          dsimp only
          rw [sendIcmpTooBig_of_room cfg env.csumDiff isIpv6 room,
            sendIcmpTooBig_of_room cfg env.csumDiff isIpv6 otherRoom, routed.length]
      · exact ⟨rfl, rfl, rfl⟩
    · rw [routed.chooseDst]
      split
      · exact ⟨rfl, rfl, rfl⟩
      · exact sendToReal_of_room env.cpu vip info pktBytes _ _ long
          (by rw [← routed.length]; exact long) room otherRoom

private theorem sendToReal_settled (cpu : Nat) (vip : VipDefinition) (info : VipMeta)
    (pktBytes : UInt16) (chosen : Chosen) (xdp : XdpMd) (flow : FlowMaps) :
    (sendToReal cfg maps cpu isIpv6 vip info pktBytes chosen xdp flow).verdict ≠ .recirculate := by
  unfold sendToReal
  split
  · nofun
  · split
    · nofun
    · split
      · nofun
      · nofun

/-- A packet with a description is not processed again. -/
theorem balancePacket_settled (pckt : PacketDescription) (pktBytes : UInt16) (xdp : XdpMd)
    (flow : FlowMaps) :
    (balancePacket cfg maps env isIpv6 pckt pktBytes xdp flow).verdict ≠ .recirculate := by
  unfold balancePacket
  split
  · nofun
  next vip info described found =>
    split
    · unfold processTooBig
      split
      · split
        · nofun
        · exact sendIcmpTooBig_verdict cfg env.csumDiff isIpv6 xdp
      · nofun
    · split
      · nofun
      · exact sendToReal_settled env.cpu vip info pktBytes _ xdp _

variable {pckt : PacketDescription} {pktBytes : UInt16}

/-- A packet that is described is balanced. -/
theorem processPacket_of_described {xdp : XdpMd}
    (described : describe cfg isIpv6 xdp.data = some (pckt, pktBytes)) (flow : FlowMaps) :
    processPacket cfg maps env isIpv6 xdp flow =
      balancePacket cfg maps env isIpv6 pckt pktBytes xdp flow := by
  rcases parsePacket_spec cfg maps env.cpu isIpv6 xdp flow with
    ⟨_, _, same, parsed⟩ | ⟨undescribed, _⟩
  · obtain ⟨rfl, rfl⟩ := Prod.mk.inj (Option.some.inj (described.symm.trans same))
    simp only [processPacket, parsed]
  · cases undescribed.symm.trans described

/-- The header of a packet with a description is whole. -/
theorem whole_of_described {data : List UInt8}
    (described : describe cfg isIpv6 data = some (pckt, pktBytes)) :
    14 + netHlen isIpv6 ≤ data.length := by
  unfold describe at described
  cases parsed : processL3Headers cfg data 14 isIpv6 with
  | done verdict after =>
      rw [parsed] at described
      cases described
  | further value =>
      have header := ((processL3Headers_iff cfg isIpv6 data value.1 value.2).mp parsed).1
      cases isIpv6 with
      | true => exact header.1
      | false => exact header.1

end Described

end Katran
