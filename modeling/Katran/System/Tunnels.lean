import Katran.Bpf.OuterHeaders
import Katran.Lb.Backed
import Katran.Lb.LeadsTo
import Katran.System.Quic
import Katran.System.Recycling
import Katran.System.SrcRouting

/-! # Families of packets and tunnels

No call compares the family of a real with that of the packets that it will get, so an
IPv6 packet may end up in an IPv4 tunnel (`ipv6_wrapped_in_ipv4`).

It does not, as long as the calls fit the traffic: nothing that IPv6 packets go by may lead
to an IPv4 real. IPv6 packets go by the ring of their VIP, by entries of the connection
tables for their destination, by connection ids and by source-routing rules
(`Tunneling.Reaches`), and what they go by holds numbers, which are handed out again.
-/

namespace Katran

open Foundation UnorderedMap KatranLb

/-- What is known about the traffic: the destinations of IPv6 packets, the ids in their
connection ids, and the families of the packets to these destinations that are looked up
among the source-routing rules. -/
structure Ipv6Traffic where
  dsts : Be32x4 → Prop
  ids : UInt32 → Prop
  routed : Bool → Prop

/-- The balancer, the connection tables, and the ids that have been mapped so far. -/
structure Tunneling where
  lb : KatranLb
  flow : FlowMaps
  mapped : UInt32 → Prop

/-- The ring of a VIP has been filled: the VIP has had a real of nonzero weight. -/
def KatranLb.Filled (lb : KatranLb) (info : VipMeta) : Prop :=
  ∀ current ∈ values lb.vips, current.vipNum = info.vipNum → ∀ slot ∈ current.chRing, slot ≠ -1

namespace Tunneling

variable (folly : Folly) (cfg : BpfConfig) (traffic : Ipv6Traffic)

/-- An event. All bpf calls succeed. -/
def Step (state : Tunneling) (event : ServingEvent) (after : Tunneling) : Prop :=
  match event with
  | .control op => ReliableStep folly state.lb op after.lb ∧ after.flow = state.flow ∧
      after.mapped = fun id => state.mapped id ∨ state.lb.MapsId after.lb op id
  | .packet env isIpv6 xdp => after = { state with
      flow := (processPacket cfg state.lb.kernel env isIpv6 xdp state.flow).flow }
  | .evict lruMap key => after = { state with flow := state.flow.lruEvict lruMap key }

/-- IPv6 packets may get to the real with a number, now or once it is in a connection
table. -/
inductive Reaches (state : Tunneling) (num : Nat) : Prop
  | ring {vip : VipKey} {current : Vip} {definition : VipDefinition}
      (found : state.lb.vips.lookup vip = some current) (coded : vip.encode folly = some definition)
      (expected : traffic.dsts definition.vipv6) (names : Names current num)
  | entry {lruMap : Option Nat} {key : FlowKey} {entry : RealPosLru}
      (stored : state.flow.lru lruMap key = some entry) (expected : traffic.dsts key.dstv6)
      (same : entry.pos = num)
  | id {id : UInt32} (expected : traffic.ids id) (mapped : state.mapped id)
      (same : state.lb.kernel.quicMapping id.toNat = num)
  | rule {isIpv6 : Bool} {bits : List Bool} (expected : traffic.routed isIpv6)
      (stored : state.lb.kernel.srcRoutes (!isIpv6, bits) = some num)

/-- A call fits the traffic. No number that IPv6 packets may get to is handed out to an IPv4
address, and the addresses lead to IPv6 reals that are added to a VIP with a destination of
IPv6 packets, mapped to an id in their connection ids, or the destination of rules for
packets to such VIPs. -/
structure CallFits (state : Tunneling) (op : Op) : Prop where
  numbers : ∀ num addr, (num, addr) ∈ state.lb.handsOut folly op →
    state.Reaches folly traffic num → addr.isV4 = false
  reals : ∀ reals vip definition, addsReals op = some (reals, vip) →
    state.lb.config.disableForwarding = false → vip ∈ state.lb.vips →
    vip.encode folly = some definition → traffic.dsts definition.vipv6 →
    ∀ real ∈ reals, ∀ raddr ∈ folly.parse real.address, state.lb.leadsToIpv6 raddr = true
  ids : ∀ reals, op = .modifyQuicRealsMapping .add reals →
    state.lb.config.disableForwarding = false → ∀ real ∈ reals, traffic.ids real.id →
    real.id ≤ kMaxQuicId → ∀ raddr ∈ folly.parse real.address,
      raddr.key ∉ state.lb.quicMapping → state.lb.leadsToIpv6 raddr = true
  rules : ∀ networks dst addr src, state.lb.installs folly op = some (networks, dst) →
    state.lb.srcRoutingDisabled = false → folly.parse dst = some addr → src ∈ networks →
    traffic.routed (!src.address.isV4) → state.lb.leadsToIpv6 addr = true

/-- What is expected of a packet of a VIP. An IPv6 packet has one of the destinations, and
an id that has been mapped, if its VIP goes by ids. A packet to one of the destinations,
unless it goes by an id, is of one of the families, if its VIP goes by rules, and finds the
ring of its VIP filled, if no rule routes it. -/
structure Expected (state : Tunneling) (env : PacketEnv) (isIpv6 : Bool) (data : List UInt8)
    (vip : VipDefinition) (info : VipMeta) (described : PacketDescription) : Prop where
  destination : isIpv6 = true → traffic.dsts vip.vipv6
  connId : isIpv6 = true → info.quicVip = true →
    ∀ index ∈ parseQuic cfg data isIpv6 described, Routable index →
      ∃ id : UInt32, id.toNat = index ∧ traffic.ids id ∧ state.mapped id
  source : traffic.dsts vip.vipv6 → quicRouted cfg isIpv6 data info described = false →
    cfg.lpmSrcLookup = true → info.srcRouting = true → traffic.routed isIpv6
  ring : traffic.dsts vip.vipv6 → quicRouted cfg isIpv6 data info described = false →
    routedReal cfg state.lb.kernel isIpv6
      (isUnderFlood cfg env.cpu env.floodTime state.flow).1 info (lruPckt info described).flow =
        none → state.lb.Filled info

/-- An event fits the traffic. -/
def Fits (state : Tunneling) : ServingEvent → Prop
  | .control op => state.CallFits folly traffic op
  | .packet env isIpv6 xdp => ∀ pckt pktBytes vip info described,
      describe cfg isIpv6 xdp.data = some (pckt, pktBytes) →
      lookupVip state.lb.kernel isIpv6 pckt = some (vip, info, described) →
        state.Expected cfg traffic env isIpv6 xdp.data vip info described
  | .evict _ _ => True

end Tunneling

/-! ## Where a packet goes -/

/-- A packet that goes by its connection id leaves the connection tables alone. -/
theorem Decision.lru_of_routed {cfg : BpfConfig} {maps : ConfigMaps} {env : PacketEnv}
    {isIpv6 routed : Bool} {info : VipMeta} {pckt : PacketDescription} {flow : FlowMaps}
    {chosen : Option Chosen} {lru : Option Nat → FlowKey → Option RealPosLru}
    (decision : Decision cfg maps env isIpv6 routed info pckt flow chosen lru)
    (byId : routed = true) : lru = flow.lru := by
  cases decision with
  | quic _ _ => rfl
  | uncounted _ => rfl
  | hit _ unrouted _ _ => cases unrouted.symm.trans byId
  | unpicked _ unrouted _ _ _ => cases unrouted.symm.trans byId
  | picked _ _ _ unrouted _ _ _ _ _ => cases unrouted.symm.trans byId

/-- A connection is recorded under the destination of its packet. -/
theorem dstv6_recorded {cfg : BpfConfig} {maps : ConfigMaps} {isIpv6 underFlood : Bool}
    {info : VipMeta} {flow recorded : FlowKey} {num : Nat}
    (picks : pickDst cfg maps isIpv6 underFlood info flow = some (num, recorded)) :
    recorded.dstv6 = flow.dstv6 := by
  unfold pickDst at picks
  split at picks
  · obtain ⟨_, rfl⟩ := Prod.mk.inj (Option.some.inj picks)
    rfl
  · obtain ⟨slot, _, same⟩ := Option.map_eq_some_iff.mp picks
    obtain ⟨_, rfl⟩ := Prod.mk.inj same
    unfold hashedFlow
    split <;> rfl

/-- A packet is looked up under the destination of its VIP. -/
theorem dstv6_lruPckt {cfg : BpfConfig} {maps : ConfigMaps} {isIpv6 : Bool} {data : List UInt8}
    {pckt described : PacketDescription} {pktBytes : UInt16} {vip : VipDefinition} {info : VipMeta}
    (parsed : describe cfg isIpv6 data = some (pckt, pktBytes))
    (found : lookupVip maps isIpv6 pckt = some (vip, info, described)) :
    (lruPckt info described).flow.dstv6 = vip.vipv6 := by
  obtain ⟨named, kept⟩ := lookupVip_dst found
  rw [kept, named, (destination_of_describe parsed).2]

namespace Tunneling

variable {folly : Folly} {cfg : BpfConfig} {config : KatranConfig} {traffic : Ipv6Traffic}
  {state after : Tunneling} {event : ServingEvent}

/-- Whatever IPv6 packets may get to is an IPv6 real. -/
structure Matched (folly : Folly) (config : KatranConfig) (traffic : Ipv6Traffic)
    (state : Tunneling) : Prop where
  config : state.lb.config = config
  rings : state.lb.RingsMirrored
  backed : state.lb.Backed folly
  reached : ∀ num, state.Reaches folly traffic num → (state.lb.kernel.reals num).isIpv6 = true

/-- A connection to one of the destinations has an IPv6 real. -/
def EntryMatches (traffic : Ipv6Traffic) (state : Tunneling) (_lruMap : Option Nat) (key : FlowKey)
    (pos : Nat) : Prop :=
  traffic.dsts key.dstv6 → (state.lb.kernel.reals pos).isIpv6 = true

namespace Matched

/-- A call that fits leaves an IPv6 real where IPv6 packets may get. -/
theorem stays {op : Op} (matched : Matched folly config traffic state)
    (live : config.testing = false) (taken : ReliableStep folly state.lb op after.lb)
    (fits : state.CallFits folly traffic op) {num : Nat}
    (reaches : state.Reaches folly traffic num) :
    (after.lb.kernel.reals num).isIpv6 = true := by
  have running : state.lb.config.testing = false := by
    rw [matched.config]
    exact live
  rcases taken.onlyHanded matched.rings.pools running num with same | ⟨addr, handed, written⟩
  · rw [same]
    exact matched.reached num reaches
  · rw [written, isIpv6_parseAddrToBe, fits.numbers num addr handed reaches]
    rfl

/-- A call that fits lets IPv6 packets get to IPv6 reals only. -/
theorem control {op : Op} (matched : Matched folly config traffic state)
    (live : config.testing = false)
    (ringsFit : config.maxVips.toNat * config.chRingSize.toNat < 2 ^ 32)
    (few : config.maxReals.toNat < 2 ^ 31) (taken : state.Step folly cfg (.control op) after)
    (fits : state.CallFits folly traffic op) : Matched folly config traffic after := by
  obtain ⟨called, flow, mapped⟩ := taken
  have stays : ∀ {num}, state.Reaches folly traffic num →
      (after.lb.kernel.reals num).isIpv6 = true :=
    fun reaches => matched.stays live called fits reaches
  obtain ⟨rfl, rings, backed, _⟩ := matched
  refine ⟨(rings.pools.step called.step).2, rings.step_any live ringsFit few called,
    backed.step live called, ?_⟩
  intro num reaches
  cases reaches with
  | @ring vip updated definition found coded expected names =>
      rcases called.names rings live few found names with
        ⟨current, configured, earlier⟩ | ⟨reals, adds, forwards, present, leading⟩
      · exact stays (.ring configured coded expected earlier)
      · exact leading (fits.reals reals vip definition adds forwards present coded expected)
  | entry stored expected same =>
      rw [flow] at stored
      exact stays (.entry stored expected same)
  | @id id expected known same =>
      rw [mapped] at known
      have leads : ∀ reals, op = .modifyQuicRealsMapping .add reals →
          state.lb.config.disableForwarding = false → ∀ real ∈ reals, real.id = id →
          id ≤ kMaxQuicId → ∀ raddr ∈ folly.parse real.address,
            raddr.key ∉ state.lb.quicMapping → state.lb.leadsToIpv6 raddr = true := by
        rintro reals quic forwards real member rfl
        exact fits.ids reals quic forwards real member expected
      rcases called.ids rings.pools live leads with ⟨unchanged, unmapped⟩ | leading
      · exact stays (.id expected (known.resolve_right unmapped) (unchanged.symm.trans same))
      · rw [← same]
        exact leading
  | @rule isIpv6 bits expected stored =>
      rcases called.routes live stored with
        earlier | ⟨networks, dst, addr, src, installs, enabled, parsed, member, node, leading⟩
      · exact stays (.rule expected earlier)
      · apply leading
        have family : (!src.address.isV4) = isIpv6 := by
          rw [show src.address.isV4 = _ from congrArg Prod.fst node, Bool.not_not]
        rw [← family] at expected
        exact fits.rules networks dst addr src installs enabled parsed member expected

section Packet

variable {env : PacketEnv} {isIpv6 : Bool} {data : List UInt8} {vip : VipDefinition}
  {info : VipMeta}
  {described : PacketDescription}

/-- The real that the rules or the ring have for a packet to one of the destinations. -/
theorem picked (matched : Matched folly config traffic state) (agrees : cfg.Agrees config)
    (stored : state.lb.kernel.vipMap vip = some info)
    (expects : state.Expected cfg traffic env isIpv6 data vip info described)
    (destination : traffic.dsts vip.vipv6)
    (unrouted : quicRouted cfg isIpv6 data info described = false) {num : Nat} {recorded : FlowKey}
    (picks : pickDst cfg state.lb.kernel isIpv6
      (isUnderFlood cfg env.cpu env.floodTime state.flow).1 info (lruPckt info described).flow =
        some (num, recorded)) : (state.lb.kernel.reals num).isIpv6 = true := by
  apply matched.reached
  unfold pickDst at picks
  split at picks
  next key routed =>
    obtain ⟨rfl, _⟩ := Prod.mk.inj (Option.some.inj picks)
    unfold routedReal at routed
    split at routed
    next active =>
      rw [lpmSrcLookup_eq] at routed
      obtain ⟨length, _, node, _⟩ := LpmTrie.lookup_eq_some routed
      exact .rule (expects.source destination unrouted active.1 active.2.1) node
    next => cases routed
  next unruled =>
    obtain ⟨slot, looked, same⟩ := Option.map_eq_some_iff.mp picks
    obtain ⟨rfl, _⟩ := Prod.mk.inj same
    obtain ⟨owner, current, found, coded, number⟩ := matched.backed vip info stored
    have numbered := matched.rings.numbered owner current found
    obtain ⟨rfl, rings, _, _⟩ := matched
    have below : info.vipNum < state.lb.config.maxVips.toNat := number ▸ rings.pools.vipNum_lt found
    obtain ⟨position, inside, own, present⟩ :=
      agrees.ringKey_slot below isIpv6 (hashedFlow info (lruPckt info described).flow)
    rw [chRingsLookup, if_pos present] at looked
    rw [← numbered.size] at inside own
    have within : position < current.chRing.length := by
      rw [numbered.consistent.length]
      exact inside
    have copy : current.chRing.getD position (-1) ∈ current.chRing := by
      rw [List.getD_eq_getElem _ _ within]
      exact List.getElem_mem within
    have filled := expects.ring destination unrouted unruled current
      (mem_values.mpr ⟨owner, mem_entries.mpr found⟩) number _ copy
    refine .ring found coded destination (.inr ⟨_, copy, filled, ?_⟩)
    rw [← rings.mirrored owner current found position inside filled, number, ← own]
    exact Option.some.inj looked

end Packet

/-- A packet that fits brings connections to IPv6 reals only into the tables. -/
theorem packet {env : PacketEnv} {isIpv6 : Bool} {xdp : XdpMd}
    (matched : Matched folly config traffic state) (agrees : cfg.Agrees config)
    (fits : state.Fits folly cfg traffic (.packet env isIpv6 xdp)) :
    Matched folly config traffic { state with
      flow := (processPacket cfg state.lb.kernel env isIpv6 xdp state.flow).flow } := by
  have entries : EveryEntry (fun place key entry => EntryMatches traffic state place key entry.pos)
      state.flow.lru :=
    fun _ _ _ stored expected => matched.reached _ (.entry stored expected rfl)
  have later : EveryEntry (fun place key entry => EntryMatches traffic state place key entry.pos)
      (processPacket cfg state.lb.kernel env isIpv6 xdp state.flow).flow.lru := by
    rcases processPacket_cases cfg state.lb.kernel env isIpv6 xdp state.flow with
      ⟨_, same, _⟩ | ⟨pckt, pktBytes, vip, info, described, decided, parsed, found, balanced⟩
    · rw [same]
      exact entries
    · by_cases byId : quicRouted cfg isIpv6 xdp.data info described = true
      · rw [balanced.decision.lru_of_routed byId]
        exact entries
      · apply balanced.decision.every entries
        intro num recorded picks _ expected
        rw [dstv6_recorded picks, dstv6_lruPckt parsed found] at expected
        exact matched.picked agrees (lookupVip_spec found).2.1
          (fits pckt pktBytes vip info described parsed found) expected
          (Bool.eq_false_of_not_eq_true byId) picks
  refine ⟨matched.config, matched.rings, matched.backed, ?_⟩
  intro num reaches
  cases reaches with
  | ring found coded expected names => exact matched.reached num (.ring found coded expected names)
  | entry stored expected same =>
      subst same
      exact later _ _ _ stored expected
  | id expected mapped same => exact matched.reached num (.id expected mapped same)
  | rule expected stored => exact matched.reached num (.rule expected stored)

/-- A new balancer has no tunnels to match. -/
theorem new (features : KatranFeatures) {kernel : ConfigMaps} {flow : FlowMaps}
    (noVips : kernel.vipMap = fun _ => none) (noRules : kernel.srcRoutes = fun _ => none)
    (noEntries : flow.lru = fun _ _ => none) :
    Matched folly config traffic ⟨.new config features kernel, flow, fun _ => False⟩ where
  config := rfl
  rings := .new config features kernel
  backed := .new features noVips
  reached := by
    intro num reaches
    cases reaches with
    | ring found _ _ _ => simp only [KatranLb.new, AList.lookup_empty, reduceCtorEq] at found
    | entry stored _ _ =>
        dsimp only at stored
        rw [noEntries] at stored
        cases stored
    | id _ mapped _ => exact mapped.elim
    | rule _ stored =>
        dsimp only [KatranLb.new] at stored
        rw [noRules] at stored
        cases stored

/-- Every event that fits keeps IPv6 packets away from IPv4 reals. -/
theorem step (matched : Matched folly config traffic state) (live : config.testing = false)
    (agrees : cfg.Agrees config) (few : config.maxReals.toNat < 2 ^ 31)
    (taken : state.Step folly cfg event after) (fits : state.Fits folly cfg traffic event) :
    Matched folly config traffic after := by
  cases event with
  | control op => exact matched.control live agrees.ringsFit few taken fits
  | packet env isIpv6 xdp =>
      obtain rfl : after = { state with
        flow := (processPacket cfg state.lb.kernel env isIpv6 xdp state.flow).flow } := taken
      exact matched.packet agrees fits
  | evict lruMap key =>
      obtain rfl : after = { state with flow := state.flow.lruEvict lruMap key } := taken
      have entries :
          EveryEntry (fun place key entry => EntryMatches traffic state place key entry.pos)
          state.flow.lru :=
        fun _ _ _ stored expected => matched.reached _ (.entry stored expected rfl)
      refine ⟨matched.config, matched.rings, matched.backed, ?_⟩
      intro num reaches
      cases reaches with
      | ring found coded expected names =>
          exact matched.reached num (.ring found coded expected names)
      | entry stored expected same =>
          subst same
          exact entries.evict lruMap key _ _ _ stored expected
      | id expected mapped same => exact matched.reached num (.id expected mapped same)
      | rule expected stored => exact matched.reached num (.rule expected stored)

/-- An IPv6 packet that fits is wrapped for an IPv6 real. -/
theorem encapDst_isIpv6 {env : PacketEnv} {xdp : XdpMd} {dst : RealDefinition}
    (matched : Matched folly config traffic state) (agrees : cfg.Agrees config)
    (fits : state.Fits folly cfg traffic (.packet env true xdp))
    (called : encapDst cfg state.lb.kernel env true xdp state.flow = some dst) :
    dst.isIpv6 = true := by
  obtain ⟨pckt, pktBytes, vip, info, described, chosen, parsed, found, balanced, rfl⟩ :=
    encapDst_eq_some called
  have expects := fits pckt pktBytes vip info described parsed found
  have destination := expects.destination rfl
  by_cases byId : quicRouted cfg true xdp.data info described = true
  · obtain ⟨index, decodes, routable, rfl⟩ := chosen_of_quicRouted byId balanced.chooses
    obtain ⟨id, rfl, known, mapped⟩ :=
      expects.connId rfl (quicVip_of_quicRouted byId) index decodes routable
    exact matched.reached _ (.id known mapped rfl)
  · rcases balanced.decision.chosen_cases with
      routed | ⟨entry, hits, rfl⟩ | ⟨num, recorded, picks, _, rfl⟩
    · exact (byId routed).elim
    · refine matched.reached _ (.entry hits.found ?_ rfl)
      rw [dstv6_lruPckt parsed found]
      exact destination
    · exact matched.picked agrees (lookupVip_spec found).2.1 expects destination
        (Bool.eq_false_of_not_eq_true byId) picks

end Matched

/-- **No IPv6 packet in an IPv4 tunnel.** In every run of calls, packets and evictions, from
empty maps, whose calls and packets fit the traffic, no packet that fits is handed to
`PCKT_ENCAP_V4` if it is an IPv6 packet, and the outer headers of every such packet that is
forwarded describe it. -/
theorem ipv6_in_ipv6 {features : KatranFeatures} {kernel : ConfigMaps} {flow : FlowMaps}
    {events : List ServingEvent} {env : PacketEnv} {isIpv6 : Bool} {xdp : XdpMd}
    (live : config.testing = false) (agrees : cfg.Agrees config)
    (few : config.maxReals.toNat < 2 ^ 31) (noVips : kernel.vipMap = fun _ => none)
    (noRules : kernel.srcRoutes = fun _ => none) (noEntries : flow.lru = fun _ _ => none)
    (run : Run (fun before event after => before.Step folly cfg event after ∧
        before.Fits folly cfg traffic event)
      ⟨.new config features kernel, flow, fun _ => False⟩ events state)
    (fits : state.Fits folly cfg traffic (.packet env isIpv6 xdp)) :
    (isIpv6 = true → ∀ dst, encapDst cfg state.lb.kernel env isIpv6 xdp state.flow = some dst →
      dst.isIpv6 = true) ∧
    ∀ sent, (processPacket cfg state.lb.kernel env isIpv6 xdp state.flow).sent = some sent →
      OuterDescribes cfg isIpv6 xdp.data
        (processPacket cfg state.lb.kernel env isIpv6 xdp state.flow).xdp.data := by
  have matched : Matched folly config traffic state := by
    apply Run.invariant (Matched folly config traffic) _ run
    · exact .new features noVips noRules noEntries
    · rintro before event after earlier ⟨taken, fitting⟩
      exact earlier.step live agrees few taken fitting
  have families : isIpv6 = true → ∀ dst,
      encapDst cfg state.lb.kernel env isIpv6 xdp state.flow = some dst → dst.isIpv6 = true := by
    rintro rfl dst called
    exact matched.encapDst_isIpv6 agrees fits called
  refine ⟨families, ?_⟩
  intro sent sending
  obtain ⟨called, encapsulated⟩ := encapDst_of_sent sending
  exact (outerDescribes_iff encapsulated).mpr fun ipv6 => families ipv6 sent.dst called

end Tunneling

/-! ## Runs of the small balancer -/

/-- The library restricted to a few addresses of both families. -/
def Folly.dual : Folly :=
  { Folly.small with
    parse := fun text =>
      if text = "fc00::1" then some (.v6 ⟨0x000000fc, 0, 0, 0x01000000⟩)
      else if text = "fc00:1::1" then some (.v6 ⟨0x010000fc, 0, 0, 0x01000000⟩)
      else Folly.small.parse text }

namespace Tunneling

variable {state after : Tunneling} {event : ServingEvent}

/-- IPv6 packets go to fc00:1::1 only. -/
def dualTraffic : Ipv6Traffic where
  dsts := fun dst => dst = ⟨0x010000fc, 0, 0, 0x01000000⟩
  ids := fun _ => False
  routed := fun _ => False

/-- A VIP is not on fc00:1::1. -/
def isElsewhere (vip : VipKey) : Bool :=
  (vip.encode .dual).all fun definition => definition.vipv6 ≠ ⟨0x010000fc, 0, 0, 0x01000000⟩

/-- IPv4 addresses get numbers only as long as no VIP is on fc00:1::1, and the reals that are
added to such a VIP are IPv6 ones. -/
def callChecks (lb : KatranLb) (op : Op) : Bool :=
  (((lb.handsOut .dual op).all fun handed => !handed.2.isV4) || lb.vips.keys.all isElsewhere) &&
    (addsReals op).all fun added => isElsewhere added.2 || added.1.all fun real =>
      (Folly.dual.parse real.address).all fun raddr => lb.leadsToIpv6 raddr

/-- While no connection is recorded, calls that are checked fit the traffic. -/
theorem callFits_of_checks {op : Op} (noEntries : state.flow.lru = fun _ _ => none)
    (checks : callChecks state.lb op = true) : state.CallFits .dual dualTraffic op := by
  have apart : ∀ {vip definition}, isElsewhere vip = true → vip.encode .dual = some definition →
      ¬ dualTraffic.dsts definition.vipv6 := by
    intro vip definition elsewhere coded expected
    rw [isElsewhere, coded, Option.all_some, decide_eq_true_eq] at elsewhere
    exact elsewhere expected
  rw [callChecks, Bool.and_eq_true, Bool.or_eq_true] at checks
  refine ⟨?_, ?_, ?_, ?_⟩
  · intro num addr handed reaches
    rcases checks.1 with sixes | elsewhere
    · have six := List.all_eq_true.mp sixes _ handed
      rwa [Bool.not_eq_true'] at six
    · cases reaches with
      | ring found coded expected _ =>
          exact (apart (List.all_eq_true.mp elsewhere _ (mem_of_lookup found)) coded expected).elim
      | entry stored _ _ =>
          rw [noEntries] at stored
          cases stored
      | id expected _ _ => exact expected.elim
      | rule expected _ => exact expected.elim
  · intro reals vip definition adds _ _ coded expected real member raddr parsed
    have added := checks.2
    rw [adds, Option.all_some, Bool.or_eq_true] at added
    rcases added with elsewhere | leads
    · exact (apart elsewhere coded expected).elim
    · have leading := List.all_eq_true.mp leads real member
      rw [show Folly.dual.parse real.address = some raddr from parsed, Option.all_some] at leading
      exact leading
  · intro _ _ _ _ _ expected
    exact expected.elim
  · intro _ _ _ _ _ _ _ _ expected
    exact expected.elim

/-- A call with succeeding bpf calls. -/
def callDual (state : Tunneling) : ServingEvent → Option Tunneling
  | .control op => (state.lb.perform .dual (.plain 20) op).map fun lb =>
      ⟨lb, state.flow, fun id => state.mapped id ∨ state.lb.MapsId lb op id⟩
  | _ => none

private theorem step_of_callDual (called : state.callDual event = some after) :
    state.Step .dual smallConfig event after ∧ after.flow = state.flow := by
  cases event with
  | control op =>
      obtain ⟨lb, returned, rfl⟩ := Option.map_eq_some_iff.mp called
      exact ⟨⟨⟨.plain 20, Env.plain_reliable 20, returned⟩, rfl, rfl⟩, rfl⟩
  | packet _ _ _ => cases called
  | evict _ _ => cases called

/-- The small balancer, with nothing in any map. -/
def tinyTunneling : Tunneling := ⟨.tiny, .fresh, fun _ => False⟩

/-- An IPv4 VIP gets an IPv4 real, and an IPv6 VIP an IPv6 real. -/
def matching : List ServingEvent :=
  [.control (.addVip ⟨"10.200.1.1", 80, 6⟩ 0),
    .control (.modifyRealsForVip .add [⟨"10.0.0.1", 1⟩] ⟨"10.200.1.1", 80, 6⟩),
    .control (.addVip ⟨"fc00:1::1", 80, 6⟩ 0),
    .control (.modifyRealsForVip .add [⟨"fc00::1", 1⟩] ⟨"fc00:1::1", 80, 6⟩)]

/-- An IPv6 VIP gets an IPv4 real. -/
def crossing : List ServingEvent :=
  [.control (.addVip ⟨"fc00:1::1", 80, 6⟩ 0),
    .control (.modifyRealsForVip .add [⟨"10.0.0.1", 1⟩] ⟨"fc00:1::1", 80, 6⟩)]

/-- Calls one after the other, each of them checked or not. -/
def callsDual (checked : Bool) (state : Tunneling) (events : List ServingEvent) :
    Option Tunneling :=
  Run.execAll (fun state event => match event with
    | .control op => if checked → callChecks state.lb op then state.callDual event else none
    | _ => none) state events

private theorem run_of_callsDual {checked : Bool} {events : List ServingEvent}
    (called : callsDual checked state events = some after) :
    Run (fun before event after => (before.Step .dual smallConfig event after ∧
        after.flow = before.flow) ∧
      ∃ op, event = .control op ∧ (checked = true → callChecks before.lb op = true))
      state events after := by
  apply Run.of_execAll _ called
  intro before event next computed
  cases event with
  | control op =>
      dsimp only at computed
      split at computed
      next checks => exact ⟨step_of_callDual computed, op, rfl, checks⟩
      next => cases computed
  | packet _ _ _ => cases computed
  | evict _ _ => cases computed

private theorem matching_returns : (callsDual true tinyTunneling matching).isSome =
    true := by decide +kernel

/-- The small balancer with a VIP and a real of each family. -/
def matchedTunneling : Tunneling := (callsDual true tinyTunneling matching).get matching_returns

private theorem crossing_returns : (callsDual false tinyTunneling crossing).isSome =
    true := by decide +kernel

/-- The small balancer with an IPv4 real for an IPv6 VIP. -/
def crossedTunneling : Tunneling := (callsDual false tinyTunneling crossing).get crossing_returns

private theorem matchedTunneling_run :
    Run (fun before event after => before.Step .dual smallConfig event after ∧
        before.Fits .dual smallConfig dualTraffic event) tinyTunneling matching
          matchedTunneling := by
  apply (run_of_callsDual (Option.some_get matching_returns).symm).mono_of_invariant
    (fun state => state.flow.lru = fun _ _ => none)
  · rintro before event next noEntries ⟨⟨_, same⟩, _⟩
    rw [same]
    exact noEntries
  · rintro before event next noEntries ⟨⟨taken, _⟩, op, rfl, checks⟩
    exact ⟨taken, callFits_of_checks noEntries (checks rfl)⟩
  · rfl

/-- An IPv6 packet of a connection to fc00:1::1. -/
def dualPacket : XdpMd :=
  sampleTcp6 ⟨0x020000fc, 0, 0, 0x01000000⟩ ⟨0x010000fc, 0, 0, 0x01000000⟩ 4000 80

private theorem dualPacket_fits :
    matchedTunneling.Fits .dual smallConfig dualTraffic
      (.packet (sampleEnv 6) true dualPacket) := by
  intro pckt pktBytes vip info described parsed found
  have facts : ∀ pckt ∈ describe smallConfig true dualPacket.data,
      ∀ found ∈ lookupVip matchedTunneling.lb.kernel true pckt.1,
        found.1.vipv6 = ⟨0x010000fc, 0, 0, 0x01000000⟩ ∧ found.2.1.quicVip = false ∧
          found.2.1.srcRouting = false := by
    decide +kernel
  have filled : ∀ current ∈ values matchedTunneling.lb.vips, ∀ slot ∈ current.chRing,
      slot ≠ -1 := by
    decide +kernel
  obtain ⟨named, noQuic, plain⟩ := facts _ parsed _ found
  refine ⟨fun _ => named, ?_, ?_, ?_⟩
  · intro _ quicVip
    cases noQuic.symm.trans quicVip
  · intro _ _ _ srcRouting
    cases plain.symm.trans srcRouting
  · intro _ _ _ current member _
    exact filled current member

private theorem dualPacket_sends :
    (processPacket smallConfig matchedTunneling.lb.kernel (sampleEnv 6) true
    dualPacket matchedTunneling.flow).sent.isSome = true := by
  decide +kernel

private theorem noRules_fresh (mac : List UInt8) (cores : Nat → Bool) :
    (ConfigMaps.fresh mac cores).srcRoutes = fun _ => none := by
  funext node
  unfold ConfigMaps.srcRoutes
  split <;> rfl

/-- A packet to the IPv6 VIP is forwarded to the IPv6 real, and described. -/
theorem ipv6_in_ipv6_matching :
    let outcome :=
      processPacket smallConfig matchedTunneling.lb.kernel (sampleEnv 6) true dualPacket
      matchedTunneling.flow
    (∃ dst, encapDst smallConfig matchedTunneling.lb.kernel (sampleEnv 6) true dualPacket
        matchedTunneling.flow = some dst ∧ dst.isIpv6 = true) ∧
      OuterDescribes smallConfig true dualPacket.data outcome.xdp.data := by
  have agrees : smallConfig.Agrees KatranLb.tiny.config :=
    ⟨rfl, by decide, by decide, by decide, by decide, by decide, by decide⟩
  obtain ⟨families, describes⟩ := ipv6_in_ipv6 rfl agrees (by decide) rfl (noRules_fresh _ _) rfl
    matchedTunneling_run dualPacket_fits
  have forwarded := (Option.some_get dualPacket_sends).symm
  have called := (encapDst_of_sent forwarded).1
  exact ⟨⟨_, called, families rfl _ called⟩, describes _ forwarded⟩

/-- A packet to the IPv6 VIP is wrapped for its IPv4 real: the outer header has the protocol
of IPv4 packets, and 40 bytes for a packet that has 60 itself. -/
theorem ipv6_wrapped_in_ipv4 :
    let outcome :=
      processPacket smallConfig crossedTunneling.lb.kernel (sampleEnv 6) true dualPacket
      crossedTunneling.flow
    Run (fun before event after => before.Step .dual smallConfig event after) tinyTunneling crossing
        crossedTunneling ∧
      (∃ dst, encapDst smallConfig crossedTunneling.lb.kernel (sampleEnv 6) true dualPacket
        crossedTunneling.flow = some dst ∧ dst.isIpv6 = false) ∧
      outcome.verdict = .tx ∧ Bytes.read16 outcome.xdp.data 12 = beEthPIp ∧
      outerProto false outcome.xdp.data = ipprotoIpip ∧ packetLength false outcome.xdp.data = 40 ∧
      packetLength true dualPacket.data = 60 ∧
      ¬ OuterDescribes smallConfig true dualPacket.data outcome.xdp.data := by
  have wrapped : ∃ dst ∈ encapDst smallConfig crossedTunneling.lb.kernel
      (sampleEnv 6) true dualPacket
      crossedTunneling.flow, dst.isIpv6 = false := by
    decide +kernel
  have sends : (processPacket smallConfig crossedTunneling.lb.kernel (sampleEnv 6) true dualPacket
      crossedTunneling.flow).sent.isSome = true := by
    decide +kernel
  obtain ⟨called, encapsulated⟩ := encapDst_of_sent (Option.some_get sends).symm
  obtain ⟨dst, same, four⟩ := wrapped
  refine ⟨?_, ⟨dst, same, four⟩, by decide +kernel, by decide +kernel, by decide +kernel,
    by decide +kernel, by decide +kernel, ?_⟩
  · apply (run_of_callsDual (Option.some_get crossing_returns).symm).mono
    rintro before event next ⟨⟨taken, _⟩, _⟩
    exact taken
  · intro describes
    have six := (outerDescribes_iff encapsulated).mp describes rfl
    rw [← Option.some.inj (called.symm.trans same)] at four
    cases four.symm.trans six

end Tunneling

end Katran
