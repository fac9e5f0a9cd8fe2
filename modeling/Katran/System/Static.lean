import Katran.Bpf.Process
import Katran.Foundation.Run

/-! # A static configuration

As long as the control plane changes nothing, the connection tables and the rings
agree. Every entry, whichever VIP's packet left it and however the VIP's flags had
changed the flow by then, is what the ring has for its key (`AgreesWithRing`): the key
determines the VIP, and hashing the key again finds the same slot.
-/

namespace Katran

open Foundation

/-- What happens to the connection tables: a packet is processed, or an entry evicted. -/
inductive FlowEvent where
  | packet (env : PacketEnv) (xdp : XdpMd)
  | evict (lruMap : Option Nat) (key : FlowKey)

section Static

variable (cfg : BpfConfig) (maps : ConfigMaps) (isIpv6 : Bool)

/-- An event, with the control plane at rest. -/
def FlowMaps.Step (flow : FlowMaps) (event : FlowEvent) (after : FlowMaps) : Prop :=
  match event with
  | .packet env xdp => after = (processPacket cfg maps env isIpv6 xdp flow).flow
  | .evict lruMap key => after = flow.lruEvict lruMap key

/-- A real that is in the connection tables under a key is the one that the ring has
for the key, unless its VIP routes by connection id or source. -/
def AgreesWithRing (_lruMap : Option Nat) (key : FlowKey) (pos : Nat) : Prop :=
  ∀ vip info, vipOf maps isIpv6 key = some (vip, info) → info.quicVip = false →
    info.srcRouting = false → pos = maps.chRings (ringKey cfg isIpv6 info (hashedFlow info key))

end Static

/-- The flow of a packet as the flags of its VIP project it. -/
def projectFlow (vip : VipDefinition) (info : VipMeta) (flow : FlowKey) : FlowKey :=
  { flow with
    srcv6 := if info.hashDportOnly then .zero else flow.srcv6
    srcPort := if info.hashDportOnly then flow.dstPort
      else if info.hashNoSrcPort then 0 else flow.srcPort
    dstPort := if vip.port = 0 ∧ info.hashDportOnly = false then 0 else flow.dstPort }

variable {cfg : BpfConfig} {maps : ConfigMaps} {isIpv6 : Bool} {env : PacketEnv} {xdp : XdpMd}
  {flow : FlowMaps} {vip : VipDefinition} {info : VipMeta} {pckt described : PacketDescription}

/-- A connection is recorded under a key of the VIP. -/
theorem vipOf_lruPckt (found : lookupVip maps isIpv6 pckt = some (vip, info, described)) :
    vipOf maps isIpv6 (lruPckt info described).flow = some (vip, info) := by
  rw [← (lookupVip_spec found).1]
  unfold lruPckt
  split
  · exact vipOf_congr rfl rfl rfl
  · rfl

private theorem vipOf_hashedFlow (info : VipMeta) (flow : FlowKey) :
    vipOf maps isIpv6 (hashedFlow info flow) = vipOf maps isIpv6 flow := by
  unfold hashedFlow
  split
  · exact vipOf_congr rfl rfl rfl
  · rfl

/-- The flow that is hashed is the projection of the packet's flow. -/
theorem hashedFlow_lruPckt (found : lookupVip maps isIpv6 pckt = some (vip, info, described)) :
    hashedFlow info (lruPckt info described).flow = projectFlow vip info pckt.flow := by
  obtain ⟨_, _, rfl⟩ := lookupVip_spec found
  unfold hashedFlow lruPckt projectFlow
  cases info.hashDportOnly <;> cases info.hashNoSrcPort <;> simp

/-- Without routing by source, the ring picks the real. -/
theorem pickDst_of_not_srcRouting {underFlood : Bool} {key : Nat} {flow recorded : FlowKey}
    (picks : pickDst cfg maps isIpv6 underFlood info flow = some (key, recorded))
    (plain : info.srcRouting = false) :
    recorded = hashedFlow info flow ∧
      key = maps.chRings (ringKey cfg isIpv6 info (hashedFlow info flow)) := by
  have unrouted : routedReal cfg maps isIpv6 underFlood info flow = none := by
    simp only [routedReal, plain, Bool.false_eq_true, false_and, and_false, ↓reduceIte]
  rw [pickDst, unrouted] at picks
  obtain ⟨slot, looked, same⟩ := Option.map_eq_some_iff.mp picks
  obtain ⟨rfl, rfl⟩ := Prod.mk.inj same
  unfold chRingsLookup at looked
  split at looked
  · exact ⟨rfl, (Option.some.inj looked).symm⟩
  · cases looked

/-- A connection is recorded for the VIP of its packet. -/
theorem vipOf_recorded {underFlood family : Bool} {key : Nat} {flow recorded : FlowKey}
    (picks : pickDst cfg maps isIpv6 underFlood info flow = some (key, recorded)) :
    vipOf maps family recorded = vipOf maps family flow := by
  unfold pickDst at picks
  split at picks
  · obtain ⟨_, rfl⟩ := Prod.mk.inj (Option.some.inj picks)
    rfl
  · obtain ⟨slot, _, same⟩ := Option.map_eq_some_iff.mp picks
    obtain ⟨_, rfl⟩ := Prod.mk.inj same
    exact vipOf_hashedFlow info flow

/-- What holds of every connection that is recorded is kept by every event. -/
theorem FlowMaps.Step.every {holds : Option Nat → FlowKey → Nat → Prop}
    (new : ∀ {pckt vip info described underFlood lruMap key recorded},
      lookupVip maps isIpv6 pckt = some (vip, info, described) →
      pickDst cfg maps isIpv6 underFlood info (lruPckt info described).flow = some (key, recorded) →
        holds lruMap recorded key)
    {event : FlowEvent} {after : FlowMaps}
    (every : EveryEntry (fun place key entry => holds place key entry.pos) flow.lru)
    (taken : FlowMaps.Step cfg maps isIpv6 flow event after) :
    EveryEntry (fun place key entry => holds place key entry.pos) after.lru := by
  cases event with
  | evict lruMap key =>
      obtain rfl : after = flow.lruEvict lruMap key := taken
      exact every.evict lruMap key
  | packet env xdp =>
      obtain rfl : after = (processPacket cfg maps env isIpv6 xdp flow).flow := taken
      rcases processPacket_cases cfg maps env isIpv6 xdp flow with
        ⟨_, same, _⟩ | ⟨pckt, pktBytes, vip, info, described, decided, _, found, balanced⟩
      · rw [same]
        exact every
      · apply balanced.decision.every every
        intro key recorded picks _
        exact new found picks

/-- So it holds of every entry in a run from empty connection tables. -/
theorem FlowMaps.Step.every_run {holds : Option Nat → FlowKey → Nat → Prop}
    (new : ∀ {pckt vip info described underFlood lruMap key recorded},
      lookupVip maps isIpv6 pckt = some (vip, info, described) →
      pickDst cfg maps isIpv6 underFlood info (lruPckt info described).flow = some (key, recorded) →
        holds lruMap recorded key)
    {start : FlowMaps} (empty : start.lru = fun _ _ => none) {events : List FlowEvent}
    (run : Run (FlowMaps.Step cfg maps isIpv6) start events flow) :
    EveryEntry (fun place key entry => holds place key entry.pos) flow.lru := by
  apply Run.invariant (fun flow : FlowMaps => EveryEntry
    (fun place key entry => holds place key entry.pos) flow.lru) _ run
  · rw [empty]
    exact .empty
  · intro before event after earlier taken
    exact FlowMaps.Step.every new earlier taken

/-- Every run from empty connection tables keeps them in agreement with the rings. -/
theorem AgreesWithRing.run {start : FlowMaps} (empty : start.lru = fun _ _ => none)
    {events : List FlowEvent} (run : Run (FlowMaps.Step cfg maps isIpv6) start events flow) :
    EveryEntry (fun place key entry => AgreesWithRing cfg maps isIpv6 place key entry.pos)
      flow.lru := by
  refine FlowMaps.Step.every_run ?_ empty run
  intro pckt vip info described underFlood lruMap key recorded found picks other otherInfo resolved
    _ plain
  rw [vipOf_recorded picks, vipOf_lruPckt found] at resolved
  obtain ⟨rfl, rfl⟩ := Prod.mk.inj (Option.some.inj resolved)
  obtain ⟨rfl, rfl⟩ := pickDst_of_not_srcRouting picks plain
  rw [hashedFlow_idem]

/-- A forwarded packet goes where the ring says. -/
theorem AgreesWithRing.sent {sent : Sent}
    (agrees : EveryEntry (fun place key entry => AgreesWithRing cfg maps isIpv6 place key entry.pos)
      flow.lru) (forwarded : (processPacket cfg maps env isIpv6 xdp flow).sent = some sent)
    (noQuic : sent.info.quicVip = false) (plain : sent.info.srcRouting = false) :
    ∃ pckt pktBytes, describe cfg isIpv6 xdp.data = some (pckt, pktBytes) ∧
      (lookupVip maps isIpv6 pckt).map (fun found => (found.1, found.2.1)) =
        some (sent.vip, sent.info) ∧
      sent.pckt.realIndex = maps.chRings
        (ringKey cfg isIpv6 sent.info (projectFlow sent.vip sent.info pckt.flow)) := by
  rcases processPacket_cases cfg maps env isIpv6 xdp flow with
    ⟨unsent, _⟩ | ⟨pckt, pktBytes, vip, info, described, decided, parsed, found, balanced⟩
  · cases unsent.symm.trans forwarded
  · obtain ⟨chosen, rfl, rfl, _⟩ := balanced.of_sent sent forwarded
    refine ⟨pckt, pktBytes, parsed, by rw [found]; rfl, ?_⟩
    dsimp only at noQuic plain ⊢
    rw [← hashedFlow_lruPckt found]
    rcases balanced.decision.chosen_cases with
      routed | ⟨entry, hits, rfl⟩ | ⟨key, recorded, picks, _, rfl⟩
    · cases noQuic.symm.trans (quicVip_of_quicRouted routed)
    · exact agrees _ _ entry hits.found vip info (vipOf_lruPckt found) noQuic plain
    · exact (pickDst_of_not_srcRouting picks plain).2

private theorem ringKey_congr {first second : FlowKey} (src : first.srcv6 = second.srcv6)
    (ports : first.ports = second.ports) :
    ringKey cfg isIpv6 info first = ringKey cfg isIpv6 info second := by
  unfold ringKey getPacketHash
  rw [src, ports]

/-- **The connection tables agree with the rings.** In every run of packets of one
family and evictions, from empty connection tables and with the control plane at
rest, a packet that is forwarded for a VIP that routes neither by connection id nor
by source goes to the real that the VIP's ring has for the projected flow. So packets
for a VIP that hashes the destination port only share a real if they share the port. -/
theorem fast_path_agrees {start : FlowMaps} (empty : start.lru = fun _ _ => none)
    {events : List FlowEvent} (run : Run (FlowMaps.Step cfg maps isIpv6) start events flow)
    {sent : Sent} (forwarded : (processPacket cfg maps env isIpv6 xdp flow).sent = some sent)
    (noQuic : sent.info.quicVip = false) (plain : sent.info.srcRouting = false) :
    ∃ pckt pktBytes, describe cfg isIpv6 xdp.data = some (pckt, pktBytes) ∧
      (lookupVip maps isIpv6 pckt).map (fun found => (found.1, found.2.1)) =
        some (sent.vip, sent.info) ∧
      sent.pckt.realIndex = maps.chRings
        (ringKey cfg isIpv6 sent.info (projectFlow sent.vip sent.info pckt.flow)) ∧
      ∀ {later : FlowMaps} {more : List FlowEvent} {otherEnv : PacketEnv} {otherXdp : XdpMd}
        {other : Sent} {otherPckt : PacketDescription} {otherBytes : UInt16},
        Run (FlowMaps.Step cfg maps isIpv6) start more later →
        (processPacket cfg maps otherEnv isIpv6 otherXdp later).sent = some other →
        describe cfg isIpv6 otherXdp.data = some (otherPckt, otherBytes) →
        other.vip = sent.vip → other.info = sent.info → sent.info.hashDportOnly = true →
        otherPckt.flow.dstPort = pckt.flow.dstPort →
          other.pckt.realIndex = sent.pckt.realIndex := by
  obtain ⟨pckt, pktBytes, parsed, found, index⟩ :=
    AgreesWithRing.sent (.run empty run) forwarded noQuic plain
  refine ⟨pckt, pktBytes, parsed, found, index, ?_⟩
  intro later more otherEnv otherXdp other otherPckt otherBytes otherRun otherForwarded otherParsed
    vip info dportOnly port
  rw [← info] at noQuic plain
  obtain ⟨_, _, same, _, otherIndex⟩ :=
    AgreesWithRing.sent (.run empty otherRun) otherForwarded noQuic plain
  obtain ⟨rfl, rfl⟩ := Prod.mk.inj (Option.some.inj (otherParsed.symm.trans same))
  have src : (projectFlow sent.vip sent.info otherPckt.flow).srcv6 =
      (projectFlow sent.vip sent.info pckt.flow).srcv6 := by
    simp only [projectFlow, dportOnly, ↓reduceIte]
  have ports : (projectFlow sent.vip sent.info otherPckt.flow).ports =
      (projectFlow sent.vip sent.info pckt.flow).ports := by
    simp only [FlowKey.ports, projectFlow, dportOnly, port, ↓reduceIte]
  rw [otherIndex, index, vip, info, ringKey_congr src ports]

/-- One VIP, whose ring has two reals. -/
def twoReals : ConfigMaps :=
  { ConfigMaps.fresh [2, 0, 0, 0, 0, 1] (fun cpu => cpu == 0) with
    vipMap := fun vip => if vip = ⟨.ofV4 0x0101c80a, 0x5000, 6⟩ then some ⟨0, 1⟩ else none
    chRings := fun key => if key = 3 then 2 else 1
    reals := fun num => { dstv6 := .ofV4 (0x0000000a + num.toUInt32 * 0x01000000) } }

/-- The connection tables after the first packet of a connection. -/
def opened : FlowMaps :=
  (processPacket smallConfig twoReals (sampleEnv 5) false
    (sampleTcp 0x01010101 0x0101c80a 4000 80 true) .fresh).flow

private theorem opened_sends : (processPacket smallConfig twoReals (sampleEnv 6) false
    (sampleTcp 0x01010101 0x0101c80a 4000 80 false) opened).sent.isSome = true := by
  decide +kernel

/-- The next packet of the connection is found in the table, and goes where the ring has the flow
of that packet. -/
theorem fast_path_agrees_opened :
    ∃ sent pckt pktBytes, (processPacket smallConfig twoReals (sampleEnv 6) false
        (sampleTcp 0x01010101 0x0101c80a 4000 80 false) opened).sent = some sent ∧
      describe smallConfig false (sampleTcp 0x01010101 0x0101c80a 4000 80 false).data =
        some (pckt, pktBytes) ∧
      (lookupVip twoReals false pckt).map (fun found => (found.1, found.2.1)) =
        some (sent.vip, sent.info) ∧
      sent.pckt.realIndex = twoReals.chRings
        (ringKey smallConfig false sent.info (projectFlow sent.vip sent.info pckt.flow)) := by
  have forwarded := (Option.some_get opened_sends).symm
  have run : Run (FlowMaps.Step smallConfig twoReals false) .fresh
      [.packet (sampleEnv 5) (sampleTcp 0x01010101 0x0101c80a 4000 80 true)] opened :=
    .cons rfl (.nil opened)
  obtain ⟨pckt, pktBytes, described, found, index, _⟩ :=
    fast_path_agrees rfl run forwarded (by decide +kernel) (by decide +kernel)
  exact ⟨_, pckt, pktBytes, forwarded, described, found, index⟩

end Katran
