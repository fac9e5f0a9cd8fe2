import Katran.System.Quic

/-! # Connections that move

A QUIC connection keeps its id when the client changes its address. For a VIP with the QUIC
flag the id alone leads to the real, and nothing that comes later in `process_packet` runs:
neither the connection table, nor the source rules, nor the ring. So two packets with one id
go to one real, whatever else they and the tables have in them (`quic_migration_keeps_real`),
and leave no trace in the connection tables.
-/

namespace Katran

variable {cfg : BpfConfig} {maps : ConfigMaps} {env : PacketEnv} {isIpv6 : Bool} {xdp : XdpMd}
  {flow : FlowMaps} {vip : VipDefinition} {info : VipMeta} {pckt described : PacketDescription}
  {pktBytes : UInt16} {index : Nat}

/-- A packet for a VIP with the QUIC flag, and the index in its connection id. -/
structure QuicFor (cfg : BpfConfig) (maps : ConfigMaps) (isIpv6 : Bool) (data : List UInt8)
    (vip : VipDefinition) (index : Nat) : Prop where
  balanced : ∃ pckt pktBytes info described, describe cfg isIpv6 data = some (pckt, pktBytes) ∧
    lookupVip maps isIpv6 pckt = some (vip, info, described) ∧ info.quicVip = true ∧
    parseQuic cfg data isIpv6 described = some index

/-- A packet of a VIP goes to the real of an index and nowhere else, and is not recorded. It is
sent whenever it is not too big, there is room for the outer headers, and the VIP and the real
have numbers that the maps hold. -/
structure GoesTo (cfg : BpfConfig) (maps : ConfigMaps) (env : PacketEnv) (isIpv6 : Bool)
    (xdp : XdpMd) (flow : FlowMaps) (vip : VipDefinition) (real : Nat) : Prop where
  unrecorded : (processPacket cfg maps env isIpv6 xdp flow).flow.lru = flow.lru
  only : ∀ sent, (processPacket cfg maps env isIpv6 xdp flow).sent = some sent →
    sent.vip = vip ∧ sent.pckt.realIndex = real ∧ sent.dst = maps.reals real
  sends : xdp.data.length ≤ cfg.maxPcktSize → 48 ≤ xdp.headroom.length →
    (∀ info, maps.vipMap vip = some info → info.vipNum < cfg.statsMapSize) →
    real < cfg.maxReals →
      (processPacket cfg maps env isIpv6 xdp flow).sent.map (·.pckt.realIndex) = some real

/-- A packet with an id that can be routed goes to the real of the id, whatever the connection
table says. -/
theorem chooseDst_of_routable (maps : ConfigMaps) (env : PacketEnv) (flow : FlowMaps)
    {data : List UInt8} (counters : cfg.maxVips + quicRouteStats < cfg.statsMapSize)
    (quicVip : info.quicVip = true) (decodes : parseQuic cfg data isIpv6 pckt = some index)
    (routable : Routable index) :
    (chooseDst cfg maps env isIpv6 data info pckt flow).1 =
      if maps.quicMapping index < cfg.maxReals then
        some ⟨{ pckt with realIndex := maps.quicMapping index },
          maps.reals (maps.quicMapping index)⟩
      else none := by
  rw [chooseDst_of_quicVip maps env flow counters quicVip,
    quicDst_of_routable maps env.cpu _ counters decodes routable]
  by_cases known : maps.quicMapping index < cfg.maxReals
  · rw [if_pos known, if_pos known]
  · rw [if_neg known, if_neg known]

private theorem quicRouted_of_routable {data : List UInt8} (quicVip : info.quicVip = true)
    (decodes : parseQuic cfg data isIpv6 pckt = some index) (routable : Routable index) :
    quicRouted cfg isIpv6 data info pckt = true := by
  rw [quicRouted, decide_eq_true_eq]
  refine ⟨quicVip, ?_⟩
  rintro ⟨_, unroutable⟩
  exact not_routable_iff.mpr (unroutable index decodes) routable

/-- A packet with a routable id goes to the real that the array has for it. -/
theorem QuicFor.goesTo (quic : QuicFor cfg maps isIpv6 xdp.data vip index)
    (counters : cfg.maxVips + quicRouteStats < cfg.statsMapSize) (routable : Routable index)
    (env : PacketEnv) (flow : FlowMaps) :
    GoesTo cfg maps env isIpv6 xdp flow vip (maps.quicMapping index) := by
  obtain ⟨pckt, pktBytes, info, described, parsed, found, quicVip, decodes⟩ := quic.balanced
  have chooses := chooseDst_of_routable maps env flow counters quicVip decodes routable
  by_cases fits : xdp.data.length ≤ cfg.maxPcktSize
  · have balanced := processPacket_balanced env flow parsed found fits
    refine ⟨?_, ?_, ?_⟩
    · have decision := balanced.decision
      rw [quicRouted_of_routable quicVip decodes routable] at decision
      generalize (processPacket cfg maps env isIpv6 xdp flow).flow.lru = lru at decision
      generalize (chooseDst cfg maps env isIpv6 xdp.data info described flow).1 =
        decided at decision
      cases decision with
      | quic => rfl
      | uncounted => rfl
      | hit _ unrouted => cases unrouted
      | unpicked _ unrouted => cases unrouted
      | picked _ _ _ unrouted => cases unrouted
    · intro sent sending
      obtain ⟨chosen, decided, rfl, _⟩ := balanced.of_sent sent sending
      rw [chooses] at decided
      split at decided
      · obtain rfl := Option.some.inj decided
        exact ⟨rfl, rfl, rfl⟩
      · cases decided
    · intro _ room counted known
      rw [if_pos known] at chooses
      have listed := counted info (lookupVip_spec found).2.1
      rw [balanced.sends _ chooses room listed known, Option.map_some]
  · rcases processPacket_cases cfg maps env isIpv6 xdp flow with
      ⟨unsent, lru, _⟩ | ⟨_, _, _, _, _, _, _, _, balanced⟩
    · refine ⟨lru, ?_, fun small => absurd small fits⟩
      intro sent sending
      cases unsent.symm.trans sending
    · exact absurd balanced.fits fits

/-- **One id, one real.** Two packets of a VIP with one routable id go to the real that
`quic_mapping` has for it, and nothing is recorded. The maps have to agree on ids and reals
only; the packets, the tables, the clock and the core may be any. -/
theorem quic_migration_keeps_real {other : ConfigMaps} {moved : XdpMd} {otherIpv6 : Bool}
    (ids : other.quicMapping = maps.quicMapping) (reals : other.reals = maps.reals)
    (counters : cfg.maxVips + quicRouteStats < cfg.statsMapSize) (routable : Routable index)
    (before : QuicFor cfg maps isIpv6 xdp.data vip index)
    (after : QuicFor cfg other otherIpv6 moved.data vip index)
    (env otherEnv : PacketEnv) (flow otherFlow : FlowMaps) :
    GoesTo cfg maps env isIpv6 xdp flow vip (maps.quicMapping index) ∧
      GoesTo cfg other otherEnv otherIpv6 moved otherFlow vip (maps.quicMapping index) ∧
      other.reals (maps.quicMapping index) = maps.reals (maps.quicMapping index) := by
  refine ⟨before.goesTo counters routable env flow, ?_, by rw [reals]⟩
  rw [← ids]
  exact after.goesTo counters routable otherEnv otherFlow

/-- A VIP with every flag, and a real for the id 4. -/
def quicReals : ConfigMaps :=
  { twoReals with
    vipMap := fun vip => if vip = ⟨.ofV4 0x0101c80a, 0xbb01, 17⟩ then some ⟨31, 1⟩ else none
    quicMapping := fun index => if index = 4 then 2 else 0 }

/-- The same with another ring. -/
def quicRealsRehashed : ConfigMaps := { quicReals with chRings := fun _ => 1 }

/-- A packet with a long header from another address, and the id 4. -/
def movedPacket : XdpMd :=
  sampleUdp 0x02020202 0x0101c80a 4000 443 [0xa0, 0, 0, 0, 1, 8, 0x40, 1, 0, 0, 0, 0, 0, 0]

private theorem quicPacket_quicFor :
    QuicFor smallConfig quicReals false (quicPacket [0x40, 1, 0, 0, 0, 0, 0, 0]).data
        ⟨.ofV4 0x0101c80a, 0xbb01, 17⟩ 4 ∧
      QuicFor smallConfig quicRealsRehashed false movedPacket.data
        ⟨.ofV4 0x0101c80a, 0xbb01, 17⟩ 4 := by
  refine ⟨⟨quicPckt, 37, ⟨31, 1⟩, quicPckt, ?_, ?_, ?_, ?_⟩,
    ⟨{ flow := ⟨.ofV4 0x02020202, .ofV4 0x0101c80a, 40975, 0xbb01, 17⟩ }, 42, ⟨31, 1⟩,
      { flow := ⟨.ofV4 0x02020202, .ofV4 0x0101c80a, 40975, 0xbb01, 17⟩ }, ?_, ?_, ?_, ?_⟩⟩
  all_goals decide +kernel

/-- A connection that moves to another address, while the ring is rewritten. -/
theorem quic_migration_keeps_real_moved :
    let first := processPacket smallConfig quicReals (sampleEnv 5) false
      (quicPacket [0x40, 1, 0, 0, 0, 0, 0, 0]) .fresh
    let second := processPacket smallConfig quicRealsRehashed (sampleEnv 6) false movedPacket opened
    first.sent.map (·.pckt.realIndex) = some 2 ∧ second.sent.map (·.pckt.realIndex) = some 2 ∧
      first.flow.lru = FlowMaps.fresh.lru ∧ second.flow.lru = opened.lru := by
  have ids : quicRealsRehashed.quicMapping = quicReals.quicMapping := rfl
  have numbered : ∀ info, quicReals.vipMap ⟨.ofV4 0x0101c80a, 0xbb01, 17⟩ = some info →
      info.vipNum < smallConfig.statsMapSize := by
    intro info found
    obtain rfl := Option.some.inj found
    decide
  obtain ⟨before, after, _⟩ := quic_migration_keeps_real ids rfl (by decide) (by decide)
    quicPacket_quicFor.1 quicPacket_quicFor.2 (sampleEnv 5) (sampleEnv 6) .fresh opened
  refine ⟨before.sends ?_ ?_ numbered ?_, after.sends ?_ ?_ numbered ?_, before.unrecorded,
    after.unrecorded⟩
  all_goals decide +kernel

end Katran
