import Katran.System.DirectChecks
import Katran.System.Payload
import Katran.System.Routed

/-! # Balancers in front of balancers

The real of one balancer may be another balancer that ends the tunnel itself: it removes the
outer headers and processes the packet again. On the way from one to the next, routers change
Ethernet addresses and the time to live of the outer header, and the removal changes those of
the packet (`Routed`). None of this decides anything about a packet.

A packet that has passed any number of balancers gets to the real that the last of them would
have chosen for the packet itself, with a hop for each balancer spent (`cascade_transparent`).
-/

namespace Katran

open Foundation

/-! ## Packets in tunnels -/

/-- The key of a real among the destinations of tunnels. -/
def RealDefinition.tunnelKey (real : RealDefinition) : Be32x4 :=
  if real.isIpv6 then real.dstv6 else .ofV4 real.dstv6.w0

/-- A frame that carries another one to a real. -/
structure Tunneled (cfg : BpfConfig) (isIpv6 : Bool) (real : RealDefinition)
    (frame wire : List UInt8) : Prop where
  whole : 14 ≤ frame.length
  length : wire.length = netHlen real.isIpv6 + DirectHc.udpSize cfg.gueEncap + frame.length
  type : Bytes.read16 wire 12 = if real.isIpv6 then beEthPIpv6 else beEthPIp
  header : NetHeader real.isIpv6 wire
  protocol : outerProto real.isIpv6 wire = if cfg.gueEncap then ipprotoUdp
    else if isIpv6 ∧ real.isIpv6 then ipprotoIpv6 else ipprotoIpip
  destination : dstAddress real.isIpv6 (ownPckt real.isIpv6 wire).flow = real.tunnelKey
  port : cfg.gueEncap = true →
    Bytes.read16 wire (14 + netHlen real.isIpv6 + 2) = Bytes.htons cfg.gueDport
  payload : wire.drop (14 + netHlen real.isIpv6 + DirectHc.udpSize cfg.gueEncap) = frame.drop 14

section Wrap

variable {cfg : BpfConfig} {maps : ConfigMaps} {isIpv6 : Bool} {pckt : PacketDescription}
  {dst : RealDefinition} {pktBytes : UInt16} {xdp wide wrapped : XdpMd}

/-- New headers leave the packet behind them alone. -/
theorem payload_of_layers {old wide eth data wire : List UInt8} {udp : Nat} (net : Nat)
    (behind : wide.drop (net + udp) = old) (ethRest : eth.drop 14 = wide.drop 14)
    (udpRest : data.drop (14 + net + udp) = eth.drop (14 + net + udp))
    (rest : wire.drop (14 + net) = data.drop (14 + net)) :
    wire.drop (14 + net + udp) = old.drop 14 := by
  calc
    wire.drop (14 + net + udp) = (wire.drop (14 + net)).drop udp := by rw [List.drop_drop]
    _ = eth.drop (14 + net + udp) := by rw [rest, List.drop_drop, udpRest]
    _ = (eth.drop 14).drop (net + udp) := by rw [List.drop_drop, ← Nat.add_assoc]
    _ = (wide.drop (net + udp)).drop 14 := by
      rw [ethRest, List.drop_drop, List.drop_drop, Nat.add_comm]
    _ = old.drop 14 := by rw [behind]

/-- A frame behind a new IPv4 header, and a UDP header if there is one. -/
theorem wrapped_v4 (gue : Bool) (made : makeRoom xdp (20 + DirectHc.udpSize gue) = some wide)
    (cfg : BpfConfig) (mac : List UInt8) (sport dport len : UInt16) (tos : UInt8)
    (saddr daddr : UInt32) (bytes : UInt16) (proto : UInt8) :
    let eth := writeEth mac wide.data (20 + DirectHc.udpSize gue) beEthPIp
    let udp := if gue then createUdpHdr eth 34 sport dport len else eth
    let wire := createV4Hdr cfg udp 14 tos saddr daddr bytes proto
    wire.length = 20 + DirectHc.udpSize gue + xdp.data.length ∧ NetHeader false wire ∧
      (gue = true → Bytes.read16 wire 36 = Bytes.htons dport) ∧
      wire.drop (34 + DirectHc.udpSize gue) = xdp.data.drop 14 := by
  obtain ⟨length, behind, long⟩ := makeRoom_spec made
  obtain ⟨ethLength, _, ethRest⟩ :=
    writeEth_spec mac wide.data (20 + DirectHc.udpSize gue) beEthPIp (by omega)
  dsimp only
  generalize writeEth mac wide.data (20 + DirectHc.udpSize gue) beEthPIp = eth
    at ethLength ethRest ⊢
  obtain ⟨udpLength, _, udpRest, udp⟩ :=
    DirectHc.udp_spec gue sport dport len (by omega : 14 ≤ 34) (by omega : _ ≤ eth.length)
  generalize (if gue then createUdpHdr eth 34 sport dport len else eth) = data
    at udpLength udpRest udp ⊢
  obtain ⟨total, version, unfragmented, _, _, rest⟩ :=
    createV4Hdr_spec cfg tos saddr daddr bytes proto (by omega : 34 ≤ data.length)
  generalize createV4Hdr cfg data 14 tos saddr daddr bytes proto = wire
    at total version unfragmented rest ⊢
  refine ⟨by omega, ⟨by omega, ?_, ?_⟩, ?_, ?_⟩
  · rw [version]
    rfl
  · rw [unfragmented]
    rfl
  · intro enabled
    have quoted : wire.drop 34 <+: data.drop 34 := ⟨[], by rw [List.append_nil, rest]⟩
    subst enabled
    have room : 42 ≤ wire.length := by
      change _ = 20 + 8 + _ at length
      omega
    exact (Bytes.read16_of_quoted quoted 2 (by omega)).trans (udp rfl).1
  · rw [payload_of_layers 20 behind ethRest udpRest rest]

/-- A frame behind a new IPv6 header, and a UDP header if there is one. -/
theorem wrapped_v6 (gue : Bool) (made : makeRoom xdp (40 + DirectHc.udpSize gue) = some wide)
    (cfg : BpfConfig) (mac : List UInt8) (sport dport len : UInt16) (tc : UInt8)
    (saddr daddr : Be32x4) (bytes : UInt16) (proto : UInt8) :
    let eth := writeEth mac wide.data (40 + DirectHc.udpSize gue) beEthPIpv6
    let udp := if gue then createUdpHdr eth 54 sport dport len else eth
    let wire := createV6Hdr cfg udp 14 tc saddr daddr bytes proto
    wire.length = 40 + DirectHc.udpSize gue + xdp.data.length ∧
      (gue = true → Bytes.read16 wire 56 = Bytes.htons dport) ∧
      wire.drop (54 + DirectHc.udpSize gue) = xdp.data.drop 14 := by
  obtain ⟨length, behind, long⟩ := makeRoom_spec made
  obtain ⟨ethLength, _, ethRest⟩ :=
    writeEth_spec mac wide.data (40 + DirectHc.udpSize gue) beEthPIpv6 (by omega)
  dsimp only
  generalize writeEth mac wide.data (40 + DirectHc.udpSize gue) beEthPIpv6 = eth
    at ethLength ethRest ⊢
  obtain ⟨udpLength, _, udpRest, udp⟩ :=
    DirectHc.udp_spec gue sport dport len (by omega : 14 ≤ 54) (by omega : _ ≤ eth.length)
  generalize (if gue then createUdpHdr eth 54 sport dport len else eth) = data
    at udpLength udpRest udp ⊢
  obtain ⟨total, _, _, rest⟩ :=
    createV6Hdr_spec cfg tc saddr daddr bytes proto (by omega : 54 ≤ data.length)
  generalize createV6Hdr cfg data 14 tc saddr daddr bytes proto = wire at total rest ⊢
  refine ⟨by omega, ?_, ?_⟩
  · intro enabled
    have quoted : wire.drop 54 <+: data.drop 54 := ⟨[], by rw [List.append_nil, rest]⟩
    subst enabled
    have room : 62 ≤ wire.length := by
      change _ = 40 + 8 + _ at length
      omega
    exact (Bytes.read16_of_quoted quoted 2 (by omega)).trans (udp rfl).1
  · rw [payload_of_layers 40 behind ethRest udpRest rest]

/-- A packet that is wrapped for a real is carried to the real. -/
theorem tunneled_of_encap
    (encapsulated : pcktEncap cfg maps isIpv6 pckt dst (netBytes isIpv6 xdp.data) xdp =
      some wrapped) : Tunneled cfg isIpv6 dst xdp.data wrapped.data := by
  have headers := pcktEncap_headers encapsulated
  have address := KatranSimulator.getPcktDst_of_encap encapsulated
  have wraps : 14 ≤ xdp.data.length ∧ wrapped.data.length =
        netHlen dst.isIpv6 + DirectHc.udpSize cfg.gueEncap + xdp.data.length ∧
      (dst.isIpv6 = false → NetHeader false wrapped.data) ∧
      (cfg.gueEncap = true →
        Bytes.read16 wrapped.data (14 + netHlen dst.isIpv6 + 2) = Bytes.htons cfg.gueDport) ∧
      wrapped.data.drop (14 + netHlen dst.isIpv6 + DirectHc.udpSize cfg.gueEncap) =
        xdp.data.drop 14 := by
    unfold pcktEncap at encapsulated
    cases family : dst.isIpv6 with
    | true =>
        rw [family, if_pos rfl] at encapsulated
        cases gue : cfg.gueEncap with
        | true =>
            rw [gue, if_pos rfl] at encapsulated
            obtain ⟨wide, made, rfl⟩ := Option.map_eq_some_iff.mp encapsulated
            obtain ⟨length, port, payload⟩ := wrapped_v6 true made cfg maps.ctlMac _ cfg.gueDport _
              pckt.tos (maps.pcktSrcs v6SrcIndex).dstv6 dst.dstv6 _ ipprotoUdp
            exact ⟨(makeRoom_spec made).2.2, length, nofun, port, payload⟩
        | false =>
            rw [gue, if_neg Bool.false_ne_true] at encapsulated
            obtain ⟨wide, made, rfl⟩ := Option.map_eq_some_iff.mp encapsulated
            obtain ⟨length, _, payload⟩ := wrapped_v6 false made cfg maps.ctlMac 0 0 0
              pckt.tos _ dst.dstv6 _ _
            exact ⟨(makeRoom_spec made).2.2, length, nofun, nofun, payload⟩
    | false =>
        rw [family, if_neg Bool.false_ne_true] at encapsulated
        cases gue : cfg.gueEncap with
        | true =>
            rw [gue, if_pos rfl] at encapsulated
            obtain ⟨wide, made, rfl⟩ := Option.map_eq_some_iff.mp encapsulated
            obtain ⟨length, header, port, payload⟩ := wrapped_v4 true made cfg maps.ctlMac _
              cfg.gueDport _ pckt.tos (maps.pcktSrcs v4SrcIndex).dstv6.w0 dst.dstv6.w0 _ ipprotoUdp
            exact ⟨(makeRoom_spec made).2.2, length, fun _ => header, port, payload⟩
        | false =>
            rw [gue, if_neg Bool.false_ne_true] at encapsulated
            obtain ⟨wide, made, rfl⟩ := Option.map_eq_some_iff.mp encapsulated
            obtain ⟨length, header, _, payload⟩ := wrapped_v4 false made cfg maps.ctlMac 0 0 0
              pckt.tos _ dst.dstv6.w0 _ ipprotoIpip
            exact ⟨(makeRoom_spec made).2.2, length, fun _ => header, nofun, payload⟩
  obtain ⟨long, length, header, port, payload⟩ := wraps
  refine ⟨long, length, headers.ethProto, ?_, headers.protocol, ?_, port, payload⟩
  · cases family : dst.isIpv6 with
    | true =>
        have protocol := headers.protocol
        rw [family] at protocol length
        refine ⟨?_, ?_⟩
        · change _ = 40 + _ + _ at length
          omega
        · rw [protocol]
          split
          · decide
          · split
            · decide
            · decide
    | false => exact header family
  · have type := headers.ethProto
    unfold KatranSimulator.getPcktDst KatranSimulator.address at address
    unfold RealDefinition.tunnelKey
    cases family : dst.isIpv6 with
    | true =>
        rw [family] at type address length
        change _ = 40 + _ + _ at length
        rw [if_neg (by omega), type, if_neg (by decide), if_neg (by omega)] at address
        exact IPAddress.v6.inj (Option.some.inj address)
    | false =>
        rw [family] at type address length
        change _ = 20 + _ + _ at length
        rw [if_neg (by omega), type, if_pos (by decide), if_neg (by omega)] at address
        change Be32x4.ofV4 (Bytes.read32 wrapped.data 30) = _
        rw [IPAddress.v4.inj (Option.some.inj address)]
        rfl

end Wrap

/-! ## The end of a tunnel -/

section End

variable {front cfg : BpfConfig} {maps : ConfigMaps} {env : PacketEnv} {isIpv6 : Bool}
  {real : RealDefinition} {frame wire : List UInt8} {xdp : XdpMd} {flow : FlowMaps}

/-- Routers leave a packet in its tunnel. -/
theorem Tunneled.routed {received : List UInt8}
    (tunneled : Tunneled front isIpv6 real frame wire) (routed : Routed real.isIpv6 wire received) :
    Tunneled front isIpv6 real frame received where
  whole := tunneled.whole
  length := routed.length.symm.trans tunneled.length
  type := routed.frameType.symm.trans tunneled.type
  header := routed.netHeader.mp tunneled.header
  protocol := routed.outerProto.symm.trans tunneled.protocol
  destination := by rw [← routed.ownPckt, tunneled.destination]
  port := by
    intro gue
    rw [← routed.read16, tunneled.port gue]
    cases real.isIpv6 with
    | true => decide
    | false => decide
  payload := by
    rw [← routed.drop, tunneled.payload]
    cases real.isIpv6 with
    | true => exact Nat.le_add_right_of_le (by decide)
    | false => exact Nat.le_add_right_of_le (by decide)

/-- A balancer that ends the tunnels of another one to a real. -/
structure EndsTunnels (cfg : BpfConfig) (maps : ConfigMaps) (front : BpfConfig)
    (real : RealDefinition) : Prop where
  listed : maps.decapDst real.tunnelKey = true
  counted : cfg.maxVips + remoteEncapCntrs < cfg.statsMapSize
  ipip : front.gueEncap = false → cfg.inlineDecapIpip = true
  gue : front.gueEncap = true → cfg.inlineDecapGue = true ∧ cfg.gueDport = front.gueDport

/-- The routine that is called for the packets of another balancer. -/
def tunnelCall (front : BpfConfig) (isIpv6 outerIpv6 : Bool) : DecapCall :=
  if front.gueEncap then .gue else .ipip (if isIpv6 ∧ outerIpv6 then ipprotoIpv6 else ipprotoIpip)

private theorem checkDecapDst_of_listed {pckt : PacketDescription} (cpu : Nat) (flow : FlowMaps)
    (listed : maps.decapDst (dstAddress isIpv6 pckt.flow) = true)
    (counted : cfg.maxVips + remoteEncapCntrs < cfg.statsMapSize) :
    (checkDecapDst cfg maps cpu isIpv6 pckt flow).1 = some false := by
  simp only [checkDecapDst, listed, countStats, counted, ↓reduceIte]

/-- The outer headers of a packet are removed where its tunnel ends. -/
theorem parsePacket_of_tunneled (tunneled : Tunneled front isIpv6 real frame xdp.data)
    (ends : EndsTunnels cfg maps front real) (cpu : Nat) (flow : FlowMaps) :
    ∃ later, parsePacket cfg maps cpu real.isIpv6 xdp flow =
      .final ((tunnelCall front isIpv6 real.isIpv6).run xdp real.isIpv6 false).1
        ((tunnelCall front isIpv6 real.isIpv6).run xdp real.isIpv6 false).2 later := by
  have protocol := tunneled.protocol
  have own : outerProto real.isIpv6 xdp.data ≠ icmpProto real.isIpv6 := by
    rw [protocol]
    cases real.isIpv6 with
    | true => cases isIpv6 <;> cases front.gueEncap <;> decide
    | false => cases isIpv6 <;> cases front.gueEncap <;> decide
  have listed := ends.listed
  rw [← tunneled.destination] at listed
  unfold parsePacket tunnelCall
  rw [processL3Headers_of_own cfg tunneled.header own]
  dsimp only
  rw [ownPckt_proto, protocol]
  cases gue : front.gueEncap with
  | false =>
      have protocols : (if isIpv6 = true ∧ real.isIpv6 = true then ipprotoIpv6 else ipprotoIpip) =
          ipprotoIpip ∨ (if isIpv6 = true ∧ real.isIpv6 = true then ipprotoIpv6 else ipprotoIpip) =
          ipprotoIpv6 := by
        split
        · exact .inr rfl
        · exact .inl rfl
      simp only [Bool.false_eq_true, ↓reduceIte]
      rw [if_pos ⟨ends.ipip gue, protocols⟩]
      exact processTunnel_of_check (checkDecapDst_of_listed cpu flow listed ends.counted)
  | true =>
      have plain : ¬ (cfg.inlineDecapIpip = true ∧
          (ipprotoUdp = ipprotoIpip ∨ ipprotoUdp = ipprotoIpv6)) :=
        fun both => absurd both.2 (by decide)
      have other : ¬ ipprotoUdp = ipprotoTcp := by decide
      simp only [↓reduceIte]
      rw [if_neg plain, if_neg other]
      obtain ⟨enabled, samePort⟩ := ends.gue gue
      have long : ¬ 14 + netHlen real.isIpv6 + 8 > xdp.data.length := by
        have whole := tunneled.whole
        have length := tunneled.length
        rw [gue] at length
        change _ = _ + 8 + _ at length
        omega
      have udp : parseUdp xdp.data real.isIpv6 (ownPckt real.isIpv6 xdp.data) =
          some ((ownPckt real.isIpv6 xdp.data).setPorts
            (Bytes.read16 xdp.data (14 + netHlen real.isIpv6)) (Bytes.htons cfg.gueDport)) := by
        have plain : (ownPckt real.isIpv6 xdp.data).icmp = false := rfl
        unfold parseUdp
        dsimp only
        rw [plain, KatranSimulator.calcOffset_eq, if_neg long, tunneled.port gue, samePort]
      rw [udp]
      dsimp only
      rw [if_pos ⟨enabled, rfl⟩]
      exact processTunnel_of_check (checkDecapDst_of_listed cpu flow listed ends.counted)

private theorem headroom_decapTunnel {strip : XdpMd → Option XdpMd} (offset : Nat)
    (innerIpv6 pass : Bool) (grows : ∀ before after, strip before = some after →
      before.headroom.length ≤ after.headroom.length) :
    xdp.headroom.length ≤ (decapTunnel xdp offset innerIpv6 pass strip).2.headroom.length := by
  unfold decapTunnel finishDecap
  dsimp only
  split
  · exact Nat.le_refl _
  next after stripped =>
    have more := grows _ after stripped
    split
    · exact more
    · split
      · exact more
      · exact more

/-- Outer headers that are removed become headroom. -/
theorem headroom_decap (size : Nat) (ethProto : UInt16) (before after : XdpMd)
    (stripped : decap before size ethProto = some after) :
    before.headroom.length ≤ after.headroom.length := by
  unfold decap XdpMd.shrinkHead at stripped
  dsimp only at stripped
  split at stripped
  · obtain rfl := Option.some.inj stripped
    rw [List.length_append]
    exact Nat.le_add_right ..
  · cases stripped

private theorem headroom_run (call : DecapCall) (xdp : XdpMd) (isIpv6 pass : Bool) :
    xdp.headroom.length ≤ (call.run xdp isIpv6 pass).2.headroom.length := by
  cases call with
  | ipip protocol =>
      simp only [DecapCall.run, processEncapedIpipPckt]
      split
      · split
        · split
          · exact Nat.le_refl _
          · exact headroom_decapTunnel 54 false pass (headroom_decap 40 beEthPIp)
        · split
          · exact Nat.le_refl _
          · exact headroom_decapTunnel 34 false pass (headroom_decap 20 beEthPIp)
      · split
        · exact Nat.le_refl _
        · exact headroom_decapTunnel 54 true pass (headroom_decap 40 beEthPIpv6)
  | gue =>
      simp only [DecapCall.run, processEncapedGuePckt]
      split
      · split
        · exact Nat.le_refl _
        · split
          · exact headroom_decapTunnel 62 true pass (headroom_decap 48 beEthPIpv6)
          · exact headroom_decapTunnel 62 false pass (headroom_decap 48 beEthPIp)
      · split
        · exact Nat.le_refl _
        · exact headroom_decapTunnel 42 false pass (headroom_decap 28 beEthPIp)

/-- Packets that the outer headers of a tunnel stand for: not an IPv6 packet in an IPv4 tunnel,
and with a version that fits, where there is no protocol. -/
structure Recognized (front : BpfConfig) (isIpv6 outerIpv6 : Bool) (frame : List UInt8) : Prop where
  families : isIpv6 = true → outerIpv6 = true
  version : front.gueEncap = true → (Bytes.read8 frame 14 &&& guev1Ipv6mask ≠ 0 ↔ isIpv6 = true)

/-- The inner packet is where the routine looks for it, and what it takes it for. -/
theorem Tunneled.inner (tunneled : Tunneled front isIpv6 real frame wire)
    (recognized : Recognized front isIpv6 real.isIpv6 frame) :
    let call := tunnelCall front isIpv6 real.isIpv6
    call.seenOff real.isIpv6 = 14 + netHlen real.isIpv6 + DirectHc.udpSize front.gueEncap ∧
      call.seenIpv6 real.isIpv6 wire = isIpv6 := by
  have first : Bytes.read8 wire (14 + netHlen real.isIpv6 + DirectHc.udpSize front.gueEncap) =
      Bytes.read8 frame 14 := by
    have payload := congrArg (fun rest => Bytes.read8 rest 0) tunneled.payload
    rwa [Bytes.read8_drop, Bytes.read8_drop] at payload
  dsimp only
  unfold tunnelCall
  cases gue : front.gueEncap with
  | false =>
      rw [if_neg Bool.false_ne_true]
      have tunnel : (DecapCall.ipip (if isIpv6 = true ∧ real.isIpv6 = true then ipprotoIpv6
          else ipprotoIpip)).Tunnel := by
        change _ = ipprotoIpip ∨ _ = ipprotoIpv6
        split
        · exact .inr rfl
        · exact .inl rfl
      have family : (DecapCall.ipip (if isIpv6 = true ∧ real.isIpv6 = true then ipprotoIpv6
          else ipprotoIpip)).innerIpv6 real.isIpv6 wire = isIpv6 := by
        cases isIpv6 with
        | true =>
            rw [recognized.families rfl]
            rfl
        | false => rfl
      obtain ⟨place, seen⟩ := DecapCall.seen_eq_inner tunnel
        (fun six => recognized.families (family.symm.trans six))
      exact ⟨place.trans (Nat.add_comm ..), seen.trans family⟩
  | true =>
      rw [if_pos rfl]
      rw [gue] at first
      change Bytes.read8 wire (14 + netHlen real.isIpv6 + 8) = _ at first
      have place : DecapCall.gue.innerOff real.isIpv6 = 14 + netHlen real.isIpv6 + 8 := by
        change netHlen real.isIpv6 + 8 + 14 = _
        omega
      have family : DecapCall.gue.innerIpv6 real.isIpv6 wire = isIpv6 := by
        unfold DecapCall.innerIpv6
        dsimp only
        rw [place, first, Bool.eq_iff_iff, decide_eq_true_eq]
        exact recognized.version gue
      obtain ⟨same, seen⟩ := DecapCall.gue.seen_eq_inner trivial
        (fun six => recognized.families (family.symm.trans six))
      exact ⟨same.trans place, seen.trans family⟩

/-- The bytes that spending a hop does not change. -/
theorem getElem?_decrementTtl (data : List UInt8) (isIpv6 : Bool) {index : Nat}
    (kept : Unrouted isIpv6 (14 + index)) :
    (decrementTtl data 0 isIpv6).2[index]? = data[index]? := by
  unfold decrementTtl
  cases isIpv6 with
  | true =>
      have other : index ≠ 7 := fun same => kept.2.1 (by rw [same]; rfl)
      rw [if_pos rfl]
      split
      · rfl
      · exact Bytes.getElem?_write_of_outside _ (by rw [List.length_singleton]; omega)
  | false =>
      have other : index ≠ 8 := fun same => kept.2.1 (by rw [same]; rfl)
      have outside : index ≠ 10 ∧ index ≠ 11 := by
        have sum := kept.2.2 rfl
        omega
      rw [if_neg Bool.false_ne_true]
      split
      · rfl
      · dsimp only
        split
        · exact Bytes.getElem?_write_of_outside _ (by rw [List.length_singleton]; omega)
        · rw [Bytes.write16, Bytes.getElem?_write_of_outside _ (by change _ ∨ _ + 2 ≤ _; omega)]
          exact Bytes.getElem?_write_of_outside _ (by rw [List.length_singleton]; omega)

/-- A frame with new Ethernet addresses and a hop spent. -/
structure Spent (isIpv6 : Bool) (frame inner : List UInt8) : Prop where
  routed : Routed isIpv6 frame inner
  hops : hopLimit inner 14 isIpv6 = hopLimit frame 14 isIpv6 - 1

private theorem spent_of_decap {front : List UInt8} (addresses : front.length = 12)
    (type : Bytes.read16 frame 12 = if isIpv6 then beEthPIpv6 else beEthPIp)
    (whole : 14 + netHlen isIpv6 ≤ frame.length) :
    Spent isIpv6 frame (front ++ Bytes.ofUInt16 (if isIpv6 then beEthPIpv6 else beEthPIp) ++
      (decrementTtl (frame.drop 14) 0 isIpv6).2) := by
  have start : (front ++ Bytes.ofUInt16 (if isIpv6 then beEthPIpv6 else beEthPIp)).length = 14 := by
    rw [List.length_append, addresses]
    rfl
  have rest : (decrementTtl (frame.drop 14) 0 isIpv6).2.length = frame.length - 14 := by
    rw [decrementTtl_length, List.length_drop]
  refine ⟨⟨?_, ?_⟩, ?_⟩
  · rw [List.length_append, start, rest]
    omega
  · intro index place
    by_cases inside : index < 14
    · obtain ⟨off, rfl⟩ : ∃ off, index = 12 + off :=
        ⟨index - 12, (Nat.add_sub_cancel' place.1).symm⟩
      have written := @Bytes.read16_append_drop frame 12 (by omega)
      rw [type] at written
      rw [List.getElem?_append_left (by omega), List.getElem?_append_right (by omega), addresses,
        Nat.add_sub_cancel_left, ← List.getElem?_drop, ← written, List.getElem?_append_left]
      change off < 2
      omega
    · obtain ⟨off, rfl⟩ : ∃ off, index = 14 + off := ⟨index - 14, by omega⟩
      rw [List.getElem?_append_right (by omega), start, Nat.add_sub_cancel_left,
        getElem?_decrementTtl _ isIpv6 place, List.getElem?_drop]
  · unfold hopLimit
    rw [Bytes.read8_append_right _ (by omega), start, Nat.add_sub_cancel_left]
    have spent := @hopLimit_decrementTtl (frame.drop 14) 0 isIpv6 (by rw [List.length_drop]; omega)
    unfold hopLimit at spent
    rw [Nat.zero_add, Bytes.read8_drop] at spent
    exact spent

/-- Where its tunnel ends, a packet is processed again with a hop spent. -/
theorem processPacket_of_tunneled (tunneled : Tunneled front isIpv6 real frame xdp.data)
    (ends : EndsTunnels cfg maps front real)
    (recognized : Recognized front isIpv6 real.isIpv6 frame)
    (type : Bytes.read16 frame 12 = if isIpv6 then beEthPIpv6 else beEthPIp)
    (whole : 14 + netHlen isIpv6 ≤ frame.length) (left : hopLimit frame 14 isIpv6 ≠ 1)
    (env : PacketEnv) (flow : FlowMaps) :
    ∃ inner counted, processPacket cfg maps env real.isIpv6 xdp flow =
        ⟨.recirculate, inner, counted, none⟩ ∧ Alike cfg flow counted ∧
      Spent isIpv6 frame inner.data ∧ xdp.headroom.length ≤ inner.headroom.length := by
  obtain ⟨counted, parsed⟩ := parsePacket_of_tunneled tunneled ends env.cpu flow
  have does := (tunnelCall front isIpv6 real.isIpv6).run_does xdp real.isIpv6 false
  have room := headroom_run (tunnelCall front isIpv6 real.isIpv6) xdp real.isIpv6 false
  obtain ⟨place, family⟩ := tunneled.inner recognized
  generalize (tunnelCall front isIpv6 real.isIpv6).run xdp real.isIpv6 false = result
    at parsed does room
  have length := tunneled.length
  have long : 14 + netHlen real.isIpv6 + DirectHc.udpSize front.gueEncap + netHlen isIpv6 ≤
      xdp.data.length := by
    omega
  have goesOn : (decrementTtl xdp.data
      (14 + netHlen real.isIpv6 + DirectHc.udpSize front.gueEncap) isIpv6).1 = true := by
    refine (decrementTtl_goesOn_iff ..).mpr ⟨long, ?_⟩
    unfold hopLimit at left ⊢
    rwa [← Bytes.read8_drop, tunneled.payload, Bytes.read8_drop]
  have verdict := does.verdict
  rw [place, family, if_pos goesOn, if_neg Bool.false_ne_true] at verdict
  have bytes := does.bytes (by rw [verdict]; decide)
  rw [place, family, decrementTtl_drop long, tunneled.payload] at bytes
  refine ⟨result.2, counted, ?_, parsePacket_alike parsed, ?_, room⟩
  · simp only [processPacket, parsed, verdict]
  · rw [bytes]
    refine spent_of_decap ?_ type whole
    rw [List.length_take]
    omega

end End

/-! ## Chains of balancers -/

/-- A balancer when a frame gets to it. -/
structure Tier where
  cfg : BpfConfig
  maps : ConfigMaps
  env : PacketEnv
  flow : FlowMaps
  tailCalls : Nat

/-- A balancer and the frame that gets to it. -/
structure Visit where
  tier : Tier
  xdp : XdpMd

/-- What the balancer makes of the packet that it gets. -/
def Visit.outcome (visit : Visit) : Outcome :=
  balancerIngress visit.tier.cfg visit.tier.maps visit.tier.env visit.tier.tailCalls visit.xdp
    visit.tier.flow

/-- Frames that a balancer decides about. -/
def Tier.Knows (tier : Tier) (isIpv6 : Bool) (frame : List UInt8) : Prop :=
  (describe tier.cfg isIpv6 frame).isSome = true

instance (tier : Tier) (isIpv6 : Bool) (frame : List UInt8) : Decidable (tier.Knows isIpv6 frame) :=
  inferInstanceAs (Decidable (_ = true))

/-- A frame gets from one balancer to the next, which ends the tunnel that the first one has
sent it through. -/
structure Relays (isIpv6 : Bool) (frame : List UInt8) (visit : Visit) (next : Tier) (sent : Sent)
    (after : Visit) : Prop where
  tier : after.tier = next
  sends : visit.outcome.sent = some sent
  ends : EndsTunnels next.cfg next.maps visit.tier.cfg sent.dst
  recognized : Recognized visit.tier.cfg isIpv6 sent.dst.isIpv6 frame
  routed : Routed sent.dst.isIpv6 visit.outcome.xdp.data after.xdp.data
  again : 0 < next.tailCalls
  room : 48 ≤ after.xdp.headroom.length
  knows : next.Knows isIpv6 frame

/-- What a balancer decides about is a frame, but for what routers change and for hops that
have been spent. -/
structure Serves (isIpv6 : Bool) (frame : List UInt8) (spent : Nat) (visit : Visit) (inner : XdpMd)
    (counted : FlowMaps) : Prop where
  outcome : visit.outcome =
    processPacket visit.tier.cfg visit.tier.maps visit.tier.env isIpv6 inner counted
  alike : Alike visit.tier.cfg visit.tier.flow counted
  routed : Routed isIpv6 frame inner.data
  hops : (hopLimit inner.data 14 isIpv6).toNat + spent = (hopLimit frame 14 isIpv6).toNat
  room : 48 ≤ inner.headroom.length
  knows : visit.tier.Knows isIpv6 frame

section Chain

variable {isIpv6 : Bool} {frame : List UInt8} {spent : Nat} {visit after : Visit} {next : Tier}
  {sent : Sent} {inner : XdpMd} {counted : FlowMaps}

private theorem isIp_of_type {xdp : XdpMd} (long : 14 ≤ xdp.data.length)
    (type : Bytes.read16 xdp.data 12 = if isIpv6 then beEthPIpv6 else beEthPIp) :
    xdp.IsIp ∧ xdp.frameIpv6 = isIpv6 := by
  unfold XdpMd.IsIp XdpMd.frameIpv6
  rw [type]
  cases isIpv6 with
  | true => exact ⟨⟨long, .inr rfl⟩, rfl⟩
  | false => exact ⟨⟨long, .inl rfl⟩, rfl⟩

/-- A frame that a balancer decides about at once. -/
theorem balancerIngress_of_described {tier : Tier} {xdp : XdpMd}
    (type : Bytes.read16 xdp.data 12 = if isIpv6 then beEthPIpv6 else beEthPIp)
    (knows : tier.Knows isIpv6 xdp.data) (tailCalls : Nat) (flow : FlowMaps) :
    balancerIngress tier.cfg tier.maps tier.env tailCalls xdp flow =
      processPacket tier.cfg tier.maps tier.env isIpv6 xdp flow := by
  obtain ⟨⟨pckt, pktBytes⟩, described⟩ := Option.isSome_iff_exists.mp knows
  have long := whole_of_described described
  obtain ⟨ip, family⟩ := isIp_of_type (by omega) type
  rw [← family] at described ⊢
  refine balancerIngress_settled tailCalls flow ip ?_
  rw [processPacket_of_described described]
  exact balancePacket_settled pckt pktBytes xdp flow

/-- The first balancer gets the frame itself. -/
theorem Serves.first
    (type : Bytes.read16 visit.xdp.data 12 = if isIpv6 then beEthPIpv6 else beEthPIp)
    (knows : visit.tier.Knows isIpv6 visit.xdp.data) (room : 48 ≤ visit.xdp.headroom.length) :
    Serves isIpv6 visit.xdp.data 0 visit visit.xdp visit.tier.flow where
  outcome := balancerIngress_of_described type knows ..
  alike := .refl ..
  routed := .refl ..
  hops := rfl
  room := room
  knows := knows

/-- The next balancer decides about the same frame, with one more hop spent. -/
theorem Serves.relayed (serves : Serves isIpv6 frame spent visit inner counted)
    (type : Bytes.read16 frame 12 = if isIpv6 then beEthPIpv6 else beEthPIp)
    (relays : Relays isIpv6 frame visit next sent after)
    (left : spent + 1 < (hopLimit frame 14 isIpv6).toNat) :
    ∃ inner counted, Serves isIpv6 frame (spent + 1) after inner counted := by
  have same := serves.routed
  have sends := relays.sends
  have routed := relays.routed
  rw [serves.outcome] at sends routed
  have tunneled := (tunneled_of_encap (encapDst_of_sent sends).2).routed routed
  have recognized : Recognized visit.tier.cfg isIpv6 sent.dst.isIpv6 inner.data := by
    refine ⟨relays.recognized.families, ?_⟩
    rw [← same.header8 (by decide : 12 ≤ 14) (by decide)]
    exact relays.recognized.version
  have innerType := same.frameType.symm.trans type
  have whole : 14 + netHlen isIpv6 ≤ inner.data.length := by
    obtain ⟨⟨pckt, pktBytes⟩, described⟩ := Option.isSome_iff_exists.mp relays.knows
    rw [← same.length]
    exact whole_of_described described
  have hops := serves.hops
  have more : hopLimit inner.data 14 isIpv6 ≠ 1 := by
    intro last
    rw [last] at hops
    change 1 + spent = _ at hops
    omega
  obtain ⟨tier, xdp⟩ := after
  obtain rfl : tier = next := relays.tier
  obtain ⟨tailCalls, calls⟩ := Nat.exists_eq_add_of_lt relays.again
  obtain ⟨unwrapped, later, outcome, alike, innerSpent, grown⟩ :=
    processPacket_of_tunneled tunneled relays.ends recognized innerType whole more tier.env
      tier.flow
  dsimp only at grown
  have length := tunneled.length
  obtain ⟨ip, family⟩ := isIp_of_type (by omega) tunneled.type
  have routedAgain := same.trans innerSpent.routed
  have finalType := routedAgain.frameType.symm.trans type
  refine ⟨unwrapped, later, ?_, alike, routedAgain, ?_, relays.room.trans grown, relays.knows⟩
  · have knows : tier.Knows isIpv6 unwrapped.data := by
      unfold Tier.Knows
      rw [← routedAgain.describe]
      exact relays.knows
    unfold Visit.outcome
    dsimp only
    rw [calls, Nat.zero_add, balancerIngress_recirculated, family, outcome]
    · exact balancerIngress_of_described finalType knows ..
    · exact ip
    · rw [family, outcome]
  · have small : (hopLimit inner.data 14 isIpv6).toNat < 2 ^ 8 := UInt8.toNat_lt _
    rw [innerSpent.hops, UInt8.toNat_sub]
    change (2 ^ 8 - 1 + _) % 2 ^ 8 + _ = _
    omega

/-- A frame gets from one balancer to the next. -/
def Relay (isIpv6 : Bool) (frame : List UInt8) (visit : Visit) (next : Tier) (after : Visit) :
    Prop :=
  ∃ sent, Relays isIpv6 frame visit next sent after

/-- Any number of balancers later. -/
theorem Serves.run {tiers : List Tier} {last : Visit}
    (type : Bytes.read16 frame 12 = if isIpv6 then beEthPIpv6 else beEthPIp)
    (run : Run (Relay isIpv6 frame) visit tiers last)
    (serves : Serves isIpv6 frame spent visit inner counted)
    (left : spent + tiers.length < (hopLimit frame 14 isIpv6).toNat) :
    ∃ inner counted, Serves isIpv6 frame (spent + tiers.length) last inner counted := by
  induction run generalizing spent inner counted with
  | nil visit => exact ⟨inner, counted, serves⟩
  | cons relay _ ih =>
      obtain ⟨sent, relays⟩ := relay
      rw [List.length_cons] at left ⊢
      obtain ⟨inner, counted, servesNext⟩ := serves.relayed type relays (by omega)
      obtain ⟨final, counted, result⟩ := ih servesNext (by omega)
      rw [Nat.add_right_comm, Nat.add_assoc] at result
      exact ⟨final, counted, result⟩

/-- **Cascades are transparent.** The last of any number of balancers decides about a packet as
it would have without the others, and what it sends on is the packet, with a hop spent for each
tunnel. -/
theorem cascade_transparent {first last : Visit} {tiers : List Tier} {direct : XdpMd}
    (type : Bytes.read16 first.xdp.data 12 = if isIpv6 then beEthPIpv6 else beEthPIp)
    (knows : first.tier.Knows isIpv6 first.xdp.data) (room : 48 ≤ first.xdp.headroom.length)
    (run : Run (Relay isIpv6 first.xdp.data) first tiers last)
    (left : tiers.length < (hopLimit first.xdp.data 14 isIpv6).toNat)
    (routed : Routed isIpv6 first.xdp.data direct.data) (directRoom : 48 ≤ direct.headroom.length) :
    let alone := (Visit.mk last.tier direct).outcome
    last.outcome.verdict = alone.verdict ∧ last.outcome.sent = alone.sent ∧
      Alike last.tier.cfg alone.flow last.outcome.flow ∧
      ∀ sent, last.outcome.sent = some sent → ∃ delivered,
        Tunneled last.tier.cfg isIpv6 sent.dst delivered last.outcome.xdp.data ∧
        Routed isIpv6 first.xdp.data delivered ∧
        (hopLimit delivered 14 isIpv6).toNat + tiers.length =
          (hopLimit first.xdp.data 14 isIpv6).toNat := by
  obtain ⟨inner, counted, serves⟩ :=
    (Serves.first type knows room).run type run (by rw [Nat.zero_add]; exact left)
  rw [Nat.zero_add] at serves
  obtain ⟨⟨pckt, pktBytes⟩, described⟩ := Option.isSome_iff_exists.mp serves.knows
  have long := whole_of_described described
  have directKnows : last.tier.Knows isIpv6 direct.data := by
    unfold Tier.Knows
    rw [← routed.describe]
    exact serves.knows
  have alone : (Visit.mk last.tier direct).outcome =
      balancePacket last.tier.cfg last.tier.maps last.tier.env isIpv6 pckt pktBytes direct
        last.tier.flow := by
    rw [routed.describe] at described
    exact (balancerIngress_of_described (routed.frameType.symm.trans type) directKnows ..).trans
      (processPacket_of_described described last.tier.flow)
  have relayed := serves.outcome
  rw [serves.routed.describe] at described
  rw [processPacket_of_described described] at relayed
  have between := routed.symm.trans serves.routed
  have same := between.balancePacket (by rw [← routed.length]; omega) directRoom serves.room
    last.tier.cfg last.tier.maps last.tier.env pckt pktBytes last.tier.flow
  have counts := serves.alike.balancePacket last.tier.maps last.tier.env isIpv6 pckt pktBytes inner
  dsimp only
  rw [alone]
  refine ⟨?_, ?_, ?_, ?_⟩
  · rw [relayed, same.verdict, counts.verdict]
  · rw [relayed, same.sent, counts.sent]
  · rw [relayed, same.flow]
    exact counts.flow
  · intro sent sending
    rw [serves.outcome] at sending ⊢
    exact ⟨inner.data, tunneled_of_encap (encapDst_of_sent sending).2, serves.routed, serves.hops⟩

/-- A balancer in front of the one at `10.0.0.10`. -/
def frontTier : Tier where
  cfg := smallConfig
  maps := oneReal ⟨.ofV4 0x0a00000a, 0⟩
  env := sampleEnv 0
  flow := .fresh
  tailCalls := 0

/-- The balancer at `10.0.0.10`, with a real of its own. -/
def backTier : Tier where
  cfg := decapConfig
  maps := { oneReal ⟨.ofV4 0x0b00000a, 0⟩ with decapDst := fun key => key = .ofV4 0x0a00000a }
  env := sampleEnv 5
  flow := .fresh
  tailCalls := 1

/-- The visit of a packet to the first balancer. -/
def frontVisit : Visit := ⟨frontTier, statedTcp 40⟩

/-- The visit of what it sends to the second one. -/
def backVisit : Visit := ⟨backTier, ⟨List.replicate 48 0, frontVisit.outcome.xdp.data⟩⟩

/-- Behind a second balancer a packet gets where it would without the first. -/
theorem cascade_transparent_two :
    backVisit.outcome.sent = (Visit.mk backTier (statedTcp 40)).outcome.sent ∧
      backVisit.outcome.sent.map Sent.dst = some ⟨.ofV4 0x0b00000a, 0⟩ := by
  refine ⟨?_, by decide +kernel⟩
  have sends : frontVisit.outcome.sent.map Sent.dst = some ⟨.ofV4 0x0a00000a, 0⟩ := by
    decide +kernel
  obtain ⟨sent, sending, dst⟩ := Option.map_eq_some_iff.mp sends
  have relays : Relays false (statedTcp 40).data frontVisit backTier sent backVisit := by
    refine ⟨rfl, sending, ?_, ?_, .refl _ _, by decide, by decide, by decide +kernel⟩
    · rw [dst]
      exact ⟨by decide, by decide, fun _ => rfl, nofun⟩
    · exact ⟨nofun, nofun⟩
  have run : Run (Relay false (statedTcp 40).data) frontVisit [backTier] backVisit :=
    .cons ⟨sent, relays⟩ (.nil backVisit)
  exact (@cascade_transparent false frontVisit backVisit [backTier] (statedTcp 40) (by decide)
    (by decide +kernel) (by decide) run (by decide) (.refl _ _) (by decide)).2.1

end Chain

end Katran
