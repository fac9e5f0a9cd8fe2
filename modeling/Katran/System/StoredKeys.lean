import Katran.System.Affinity

/-! # Finding what was stored

A connection is stored under the flow that was hashed, and searched under the flow that
the flags leave when the table is asked. The two agree unless the VIP hashes the
destination port only: then the source is wiped between the search and the store, and
what is stored is not found again.
-/

namespace Katran

open Foundation

variable {cfg : BpfConfig} {maps : ConfigMaps} {isIpv6 : Bool} {env : PacketEnv} {xdp : XdpMd}
  {flow : FlowMaps} {vip : VipDefinition} {info : VipMeta} {pckt described : PacketDescription}
  {pktBytes : UInt16} {chosen : Chosen}

/-- What a packet stored is found again: it was stored under the key that was searched,
and the next packet with the same flow and without the SYN flag goes by it to the same
real, whatever has been written into the rings. -/
structure FoundAgain (cfg : BpfConfig) (maps : ConfigMaps) (isIpv6 : Bool) (env : PacketEnv)
    (xdp : XdpMd) (flow : FlowMaps) (info : VipMeta) (pckt described : PacketDescription)
    (chosen : Chosen) : Prop where
  sameKey : chosen.pckt.flow = (lruPckt info described).flow
  next : ∀ (chRings : Nat → Nat) (later : PacketEnv) (laterXdp : XdpMd)
    (laterPckt : PacketDescription) (laterBytes : UInt16),
    later.cpu = env.cpu → env.lookupTime ≤ env.floodTime → env.floodTime ≤ later.lookupTime →
    describe cfg isIpv6 laterXdp.data = some (laterPckt, laterBytes) →
    laterPckt.flow = pckt.flow → Continues cfg later env.lookupTime laterPckt →
    laterXdp.data.length ≤ cfg.maxPcktSize → (info.quicVip = true → laterXdp.data = xdp.data) →
    let outcome := processPacket cfg { maps with chRings := chRings } later isIpv6 laterXdp
      (processPacket cfg maps env isIpv6 xdp flow).flow
    (∃ entry, Hits cfg later (lruMapOf cfg maps env.cpu) info
      { laterPckt with flow := (lruPckt info described).flow }
      (processPacket cfg maps env isIpv6 xdp flow).flow.lru entry) ∧
    (48 ≤ laterXdp.headroom.length → info.vipNum < cfg.statsMapSize →
      outcome.sent.map (fun sent => (sent.pckt.realIndex, sent.dst)) =
        some (chosen.pckt.realIndex, chosen.dst))

/-- The source is wiped already. -/
def SourceWiped (flow : FlowKey) : Prop := flow.srcv6 = .zero ∧ flow.srcPort = flow.dstPort

private theorem hashedFlow_eq_self_iff (info : VipMeta) (flow : FlowKey) :
    hashedFlow info flow = flow ↔ (info.hashDportOnly = true → SourceWiped flow) := by
  unfold hashedFlow SourceWiped
  split
  next only =>
    obtain ⟨srcv6, dstv6, srcPort, dstPort, proto⟩ := flow
    simp only [FlowKey.mk.injEq, true_and, and_true, only, forall_const]
    exact ⟨fun ⟨src, port⟩ => ⟨src.symm, port.symm⟩, fun ⟨src, port⟩ => ⟨src.symm, port.symm⟩⟩
  next other => simp only [other, Bool.false_eq_true, false_implies]

/-- A connection is stored under the key that was searched unless the source is wiped in
between. -/
theorem recorded_eq_searched_iff {underFlood : Bool} {real : Nat} {searched recorded : FlowKey}
    (picks : pickDst cfg maps isIpv6 underFlood info searched = some (real, recorded)) :
    recorded = searched ↔ (info.hashDportOnly = true →
      routedReal cfg maps isIpv6 underFlood info searched = none → SourceWiped searched) := by
  unfold pickDst at picks
  split at picks
  next routed =>
    obtain ⟨_, rfl⟩ := Prod.mk.inj (Option.some.inj picks)
    simp only [routed, reduceCtorEq, false_implies, implies_true]
  next unrouted =>
    obtain ⟨slot, _, same⟩ := Option.map_eq_some_iff.mp picks
    obtain ⟨_, rfl⟩ := Prod.mk.inj same
    rw [hashedFlow_eq_self_iff]
    simp only [unrouted, forall_const]

/-- What a packet stores when `getPacketDst` records its connection. -/
theorem stored_of_misses
    (parsed : describe cfg isIpv6 xdp.data = some (pckt, pktBytes))
    (found : lookupVip maps isIpv6 pckt = some (vip, info, described))
    (fits : xdp.data.length ≤ cfg.maxPcktSize) (used : info.lruBypass = false)
    (unrouted : quicRouted cfg isIpv6 xdp.data info described = false)
    (misses : ∀ entry, ¬ Hits cfg env (lruMapOf cfg maps env.cpu) info (lruPckt info described)
      flow.lru entry)
    (calm : (isUnderFlood cfg env.cpu env.floodTime flow).1 = false)
    (chooses : (chooseDst cfg maps env isIpv6 xdp.data info described flow).1 = some chosen) :
    CountersPresent cfg maps env.cpu ∧
    pickDst cfg maps isIpv6 false info (lruPckt info described).flow =
      some (chosen.pckt.realIndex, chosen.pckt.flow) ∧
    chosen.pckt.realIndex < cfg.maxReals ∧ chosen.dst = maps.reals chosen.pckt.realIndex ∧
    (processPacket cfg maps env isIpv6 xdp flow).flow.lru (lruMapOf cfg maps env.cpu)
      chosen.pckt.flow = some ⟨chosen.pckt.realIndex,
        if chosen.pckt.flow.proto = ipprotoUdp then env.floodTime else 0⟩ := by
  have balanced := processPacket_balanced env flow parsed found fits
  have decision := balanced.decision
  rw [chooses] at decision
  obtain ⟨real, recorded, missed, picks, known, rfl, lru⟩ := decision.of_misses unrouted misses
  rw [calm] at picks lru
  refine ⟨decision.present unrouted, picks, known, rfl, ?_⟩
  rw [lru]
  simp only [recordedLru, used, Bool.false_eq_true, not_false_eq_true, and_self, ↓reduceIte,
    store_self]

/-- A packet is routed by connection id if one with the same bytes is. -/
theorem quicRouted_of_same_data {laterXdp : XdpMd} {laterPckt : PacketDescription}
    {laterBytes : UInt16}
    (parsed : describe cfg isIpv6 xdp.data = some (pckt, pktBytes))
    (found : lookupVip maps isIpv6 pckt = some (vip, info, described))
    (unrouted : quicRouted cfg isIpv6 xdp.data info described = false)
    (laterParsed : describe cfg isIpv6 laterXdp.data = some (laterPckt, laterBytes))
    (same : info.quicVip = true → laterXdp.data = xdp.data) :
    quicRouted cfg isIpv6 laterXdp.data info { laterPckt with flow := described.flow } = false := by
  cases quicVip : info.quicVip with
  | false => exact quicRouted_eq_false cfg isIpv6 _ _ quicVip
  | true =>
      rw [same quicVip] at laterParsed ⊢
      obtain ⟨rfl, rfl⟩ := Prod.mk.inj (Option.some.inj (parsed.symm.trans laterParsed))
      have again := Option.some.inj (found.symm.trans (lookupVip_congr rfl rfl found))
      have unchanged := (Prod.mk.inj (Prod.mk.inj again).2).2
      rw [← unchanged]
      exact unrouted

/-- **What is stored can be found again** exactly if the source is not wiped in between.
For a VIP that uses the connection table, and a packet whose connection `getPacketDst`
records, the key under which it is recorded is the key that was searched, and the next
packet goes by the entry, if and only if the VIP does not hash the destination port
only, or the source address chose the real, or the source was blank to begin with. -/
theorem foundAgain_iff
    (parsed : describe cfg isIpv6 xdp.data = some (pckt, pktBytes))
    (found : lookupVip maps isIpv6 pckt = some (vip, info, described))
    (fits : xdp.data.length ≤ cfg.maxPcktSize) (used : info.lruBypass = false)
    (unrouted : quicRouted cfg isIpv6 xdp.data info described = false)
    (misses : ∀ entry, ¬ Hits cfg env (lruMapOf cfg maps env.cpu) info (lruPckt info described)
      flow.lru entry)
    (calm : (isUnderFlood cfg env.cpu env.floodTime flow).1 = false)
    (chooses : (chooseDst cfg maps env isIpv6 xdp.data info described flow).1 = some chosen) :
    (processPacket cfg maps env isIpv6 xdp flow).flow.lru (lruMapOf cfg maps env.cpu)
      chosen.pckt.flow = some ⟨chosen.pckt.realIndex,
        if chosen.pckt.flow.proto = ipprotoUdp then env.floodTime else 0⟩ ∧
    (FoundAgain cfg maps isIpv6 env xdp flow info pckt described chosen ↔
      (info.hashDportOnly = true →
        routedReal cfg maps isIpv6 false info (lruPckt info described).flow = none →
          SourceWiped (lruPckt info described).flow)) := by
  obtain ⟨present, picks, known, dst, stored⟩ :=
    stored_of_misses parsed found fits used unrouted misses calm chooses
  refine ⟨stored, ?_⟩
  rw [← recorded_eq_searched_iff picks]
  refine ⟨FoundAgain.sameKey, fun sameKey => ⟨sameKey, ?_⟩⟩
  intro chRings later laterXdp laterPckt laterBytes cpu times order laterParsed same continues
    laterFits sameData
  rw [sameKey] at stored
  have proto : (lruPckt info described).flow.proto = laterPckt.flow.proto := by
    rw [lruPckt_proto, (lookupVip_spec found).2.2, same]
  have hits : Hits cfg later (lruMapOf cfg maps env.cpu) info
      { laterPckt with flow := (lruPckt info described).flow }
      (processPacket cfg maps env isIpv6 xdp flow).flow.lru ⟨chosen.pckt.realIndex,
        if (lruPckt info described).flow.proto = ipprotoUdp then env.floodTime else 0⟩ := by
    refine ⟨continues.1, used, stored, ?_, known⟩
    simp only [lruExpired, decide_eq_false_iff_not, not_and]
    intro udp
    rw [if_pos udp]
    exact UInt64.not_lt.mpr (sub_le_of_le times order (continues.2 (proto ▸ udp)))
  refine ⟨⟨_, hits⟩, ?_⟩
  intro room counted
  have resolved : lookupVip { maps with chRings := chRings } isIpv6 laterPckt =
      some (vip, info, { laterPckt with flow := described.flow }) := lookupVip_congr rfl same found
  have balanced := processPacket_balanced later (processPacket cfg maps env isIpv6 xdp flow).flow
    laterParsed resolved laterFits
  have decision := balanced.decision
  rw [lruPckt_with_flow] at decision
  obtain ⟨chose, _⟩ := decision.of_hits
    (quicRouted_of_same_data parsed found unrouted laterParsed sameData) (cpu ▸ present)
      (cpu ▸ hits)
  rw [balanced.sends _ chose room counted known]
  simp only [Option.map_some, dst]

/-- The packet of a plain VIP is found again. -/
theorem foundAgain_iff_plain :
    FoundAgain smallConfig twoReals false (sampleEnv 5) ackPacket .fresh ⟨0, 1⟩
      { flow := connection } { flow := connection }
      ⟨{ flow := connection, realIndex := 2 }, twoReals.reals 2⟩ := by
  have parsed : describe smallConfig false ackPacket.data = some ({ flow := connection }, 40) := by
    decide +kernel
  have found : lookupVip twoReals false { flow := connection } =
      some (⟨.ofV4 0x0101c80a, 0x5000, 6⟩, ⟨0, 1⟩, { flow := connection }) := by
    decide +kernel
  have misses : ∀ entry, ¬ Hits smallConfig (sampleEnv 5) (lruMapOf smallConfig twoReals 0) ⟨0, 1⟩
      (lruPckt ⟨0, 1⟩ { flow := connection }) FlowMaps.fresh.lru entry :=
    fun entry hits => nomatch hits.found
  have chooses : (chooseDst smallConfig twoReals (sampleEnv 5) false ackPacket.data ⟨0, 1⟩
      { flow := connection } .fresh).1 =
        some ⟨{ flow := connection, realIndex := 2 }, twoReals.reals 2⟩ := by
    decide +kernel
  have again := foundAgain_iff parsed found (by decide) (by decide) (by decide +kernel) misses
    (by decide +kernel) chooses
  exact again.2.mpr fun only => absurd only (by decide)

/-- The VIP hashes the destination port only. -/
def portHashed : ConfigMaps :=
  { twoReals with
    vipMap := fun vip => (twoReals.vipMap vip).map fun info => { info with flags := 8 } }

/-- What a packet of a VIP that hashes the destination port only stores is not found: the
same packet, next, goes to another real once the ring has been rewritten. -/
theorem not_foundAgain_portHashed :
    let first := processPacket smallConfig portHashed (sampleEnv 5) false ackPacket .fresh
    let stored : FlowKey := { connection with srcv6 := .zero, srcPort := connection.dstPort }
    searchedPckt smallConfig portHashed false ackPacket.data = some { flow := connection } ∧
      (isUnderFlood smallConfig 0 5 .fresh).1 = false ∧
      first.sent.map (fun sent => (sent.info.flags, sent.pckt.realIndex)) = some (8, 2) ∧
      first.flow.lru (some 0) stored = some ⟨2, 0⟩ ∧ first.flow.lru (some 0) connection = none ∧
      (processPacket smallConfig { portHashed with chRings := fun _ => 1 } (sampleEnv 6) false
        ackPacket first.flow).sent.map (·.pckt.realIndex) = some 1 := by
  decide +kernel

end Katran
