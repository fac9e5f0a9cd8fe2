import Katran.Lb.Written
import Katran.System.Drained
import Katran.System.Quic

/-! # Ids that the control plane accepts

`modifyQuicRealsMapping` accepts ids up to `kMaxQuicId`, which is the size of
`quic_mapping` and so one more than its last index, and zero, which the forwarding plane
takes for the absence of an id. Packets with any other accepted id are forwarded to the
address that the id was mapped to.
-/

namespace Katran

open Foundation UnorderedMap KatranLb

variable {cfg : BpfConfig} {isIpv6 : Bool} {data : List UInt8} {pckt : PacketDescription}

/-! ## The connection id of a short header -/

/-- A packet with a short header whose connection id has the version in its first two
bits and an id of sixteen bits behind it. -/
structure ShortHeader (cfg : BpfConfig) (isIpv6 : Bool) (data : List UInt8)
    (pckt : PacketDescription) (id : Nat) : Prop where
  form : Bytes.read8 data (calcOffset isIpv6 pckt.icmp + 8) &&& quicLongHeader ≠ quicLongHeader
  length : calcOffset isIpv6 pckt.icmp + 8 + 1 + cfg.quicMinConnidLen.toNat ≤ data.length
  version : Bytes.read8 data (calcOffset isIpv6 pckt.icmp + 8 + 1) >>> 6 = cfg.quicConnidVersion
  high : (Bytes.read8 data (calcOffset isIpv6 pckt.icmp + 8 + 1) &&& 0x3f).toNat = id / 1024
  middle : (Bytes.read8 data (calcOffset isIpv6 pckt.icmp + 8 + 1 + 1)).toNat = id / 4 % 256
  low : (Bytes.read8 data (calcOffset isIpv6 pckt.icmp + 8 + 1 + 2)).toNat / 64 = id % 4

/-- The decoder puts the parts of an id together again. -/
theorem decode_id (id : Nat) : ((id / 1024) <<< 10 ||| (id / 4 % 256) <<< 2) ||| id % 4 = id := by
  have low : (id / 4 % 256) <<< 2 ||| id % 4 = (id / 4 % 256) <<< 2 + id % 4 :=
    (Nat.shiftLeft_add_eq_or_of_lt (show id % 4 < 2 ^ 2 by omega) _).symm
  rw [Nat.or_assoc, low, Nat.shiftLeft_eq (id / 4 % 256)]
  rw [← Nat.shiftLeft_add_eq_or_of_lt (show id / 4 % 256 * 2 ^ 2 + id % 4 < 2 ^ 10 by omega),
    Nat.shiftLeft_eq]
  omega

/-- The id of a short header is read. -/
theorem ShortHeader.decodes {id : Nat} (header : ShortHeader cfg isIpv6 data pckt id) :
    parseQuic cfg data isIpv6 pckt = some id := by
  have length := header.length
  have low : (Bytes.read8 data (calcOffset isIpv6 pckt.icmp + 8 + 1 + 2)).toNat >>> 6 = id % 4 := by
    rw [Nat.shiftRight_eq_div_pow]
    exact header.low
  unfold parseQuic
  dsimp only
  rw [if_neg (by omega), if_neg header.form, if_neg (by omega), Option.bind_some,
    if_pos header.version, header.high, header.middle, low, decode_id]

/-! ## Mapping an address -/

/-- An address whose mapping has been accepted has its number in `quic_mapping`. -/
theorem quicMapping_of_accepted {folly : Folly} {env : Env} {lb : KatranLb} {address : String}
    {addr : IPAddress} {id : UInt32} (pools : lb.PoolsSound) (live : lb.config.testing = false)
    (reliable : env.Reliable) (valid : folly.parse address = some addr)
    (unmapped : addr.key ∉ lb.quicMapping)
    (accepted : (lb.modifyQuicRealsMapping folly env .add [⟨address, id⟩]).quicMapping.lookup
      addr.key = some id) :
    ¬ id > kMaxQuicId ∧
    (lb.modifyQuicRealsMapping folly env .add [⟨address, id⟩]).realPool.numOf addr.key =
      some ((lb.modifyQuicRealsMapping folly env .add [⟨address, id⟩]).kernel.quicMapping
        id.toNat) := by
  obtain ⟨tables, kernel⟩ := modifyQuicRealsMapping_spec folly reliable live
    (.add, [⟨address, id⟩])
  have refused : (lb.collected folly env (.add, [⟨address, id⟩])).1.quicMapping ≠
      lb.quicMapping := by
    intro same
    rw [tables.quicMapping, same] at accepted
    exact unmapped (mem_of_lookup accepted)
  rw [kernel, tables.realPool]
  unfold collected at refused ⊢
  split at refused
  · exact (refused rfl).elim
  next forwards =>
    rw [if_neg forwards]
    simp only [List.foldl_cons, List.foldl_nil] at refused ⊢
    by_cases allowed : id > kMaxQuicId
    · exact (refused (modifyQuicReal_of_refused env lb .add ∅ (.inr allowed)).1.quicMapping).elim
    · have listed : ¬ (QuicReal.mk address id).id > kMaxQuicId := allowed
      rcases modifyQuicReal_add pools env ∅ valid listed with ⟨skipped, _⟩ | ⟨_, num, taken, added⟩
      · exact (refused (by rw [skipped])).elim
      · refine ⟨allowed, ?_⟩
        rw [added]
        change (lb.increaseRefCountForReal env addr).2.realPool.numOf addr.key = _
        rw [increaseRefCountForReal_realPool, RefPool.numOf_acquire taken, if_pos rfl, numFor,
          AList.lookup_insert, Option.getD_some]

/-! ## Routing -/

/-- Packets of VIPs with the QUIC flag that hold an id are forwarded to an address. -/
def ForwardsId (cfg : BpfConfig) (maps : ConfigMaps) (id : Nat) (addr : IPAddress) : Prop :=
  ∀ (env : PacketEnv) (isIpv6 : Bool) (xdp : XdpMd) (flow : FlowMaps)
    (pckt described : PacketDescription) (pktBytes : UInt16) (vip : VipDefinition) (info : VipMeta),
    describe cfg isIpv6 xdp.data = some (pckt, pktBytes) →
    lookupVip maps isIpv6 pckt = some (vip, info, described) → info.quicVip = true →
    ShortHeader cfg isIpv6 xdp.data described id → xdp.data.length ≤ cfg.maxPcktSize →
    48 ≤ xdp.headroom.length → ∃ sent real,
      (processPacket cfg maps env isIpv6 xdp flow).sent = some sent ∧
      sent.dst = parseAddrToBe real ∧ real.key = addr.key

/-- In every state reached by calls whose bpf calls succeed, mapping an address to the id,
if that is accepted, makes packets with the id go to the address. -/
def RoutesAccepted (id : UInt32) : Prop :=
  ∀ (folly : Folly) (config : KatranConfig) (features : KatranFeatures) (mac : List UInt8)
    (cores : Nat → Bool) (cfg : BpfConfig) (ops : List Op) (lb : KatranLb) (env : Env)
    (address : String) (addr : IPAddress), config.testing = false → cfg.Agrees config →
    Run (ReliableStep folly) (.new config features (.fresh mac cores)) ops lb →
    env.Reliable → folly.parse address = some addr → addr.key ∉ lb.quicMapping →
    (lb.modifyQuicRealsMapping folly env .add [⟨address, id⟩]).quicMapping.lookup addr.key =
      some id →
    ForwardsId cfg (lb.modifyQuicRealsMapping folly env .add [⟨address, id⟩]).kernel id.toNat addr

/-- A mapped address is written in the kernel under its number. -/
theorem forwardsId_of_written {lb : KatranLb} {addr : IPAddress} {id : Nat}
    (pools : lb.PoolsSound) (written : lb.RealsWritten) (known : lb.VipNumsKnown)
    (agrees : cfg.Agrees lb.config) (routable : Routable id)
    (numbered : lb.realPool.numOf addr.key = some (lb.kernel.quicMapping id)) :
    ForwardsId cfg lb.kernel id addr := by
  intro env isIpv6 xdp flow pckt described pktBytes vip info parsed found quicVip header fits room
  obtain ⟨slot, stored, same⟩ := RefPool.numOf_eq_some.mp numbered
  obtain ⟨owner, named, equal⟩ := pools.reals.named _ slot stored
  have bounded : lb.kernel.quicMapping id < cfg.maxReals :=
    same ▸ Nat.lt_of_lt_of_le (pools.reals.num_lt stored) agrees.reals
  rw [same] at named
  have vipNum : info.vipNum < cfg.statsMapSize := by
    have number := known vip info (lookupVip_spec found).2.1
    have vips := agrees.vips
    simp only [BpfConfig.statsMapSize]
    omega
  have counters : cfg.maxVips + quicRouteStats < cfg.statsMapSize := by
    have many := agrees.counters
    simp only [BpfConfig.statsMapSize]
    omega
  have chooses : (chooseDst cfg lb.kernel env isIpv6 xdp.data info described flow).1 =
      some ⟨{ described with realIndex := lb.kernel.quicMapping id },
        lb.kernel.reals (lb.kernel.quicMapping id)⟩ := by
    rw [chooseDst_of_quicVip lb.kernel env flow counters quicVip,
      quicDst_of_routable lb.kernel env.cpu _ counters header.decodes routable, if_pos bounded]
  have sent :=
    (processPacket_balanced env flow parsed found fits).sends _ chooses room vipNum bounded
  exact ⟨_, owner, sent, written _ owner named, equal⟩

/-! ## The ends of the range -/

/-- The kernel tells addresses apart. -/
theorem parseAddrToBe_inj {first second : IPAddress}
    (same : parseAddrToBe first = parseAddrToBe second) : first = second := by
  have addresses := congrArg RealDefinition.dstv6 same
  have families := congrArg RealDefinition.flags same
  cases first with
  | v4 first =>
      cases second with
      | v4 second => rw [show first = second from congrArg Be32x4.w0 addresses]
      | v6 second => exact absurd families (by simp only [parseAddrToBe]; decide)
  | v6 first =>
      cases second with
      | v4 second => exact absurd families (by simp only [parseAddrToBe]; decide)
      | v6 second => rw [show first = second from addresses]

/-- A VIP with the QUIC flag and a real. -/
def quicVipOps : List Op :=
  [.addVip ⟨"10.200.1.1", 443, 17⟩ 4, .addRealForVip ⟨"10.0.0.2", 1⟩ ⟨"10.200.1.1", 443, 17⟩]

private theorem quicVipOps_returns :
    (tiny.performAll .small (.plain 20) quicVipOps).isSome = true := by
  decide +kernel

/-- The balancer with the VIP, after another address has been mapped to an id. -/
def mappedTo (id : UInt32) : KatranLb :=
  ((tiny.performAll .small (.plain 20) quicVipOps).get quicVipOps_returns).modifyQuicRealsMapping
    .small (.plain 20) .add [⟨"10.0.0.1", id⟩]

/-- Packets with the ids at the ends of the range. -/
def zeroPacket : XdpMd := quicPacket [0x40, 0, 3, 4, 5, 6, 7, 0, 0x40]

/-- A packet with the largest id. -/
def lastPacket : XdpMd := quicPacket [0x7f, 0xff, 0xc0, 4, 5, 6, 7, 0, 0x40]

/-- The id that an address has been mapped to, and where a packet goes then. -/
def sentAfter (id : UInt32) (xdp : XdpMd) : Option UInt32 × Option RealDefinition :=
  ((mappedTo id).quicMapping.lookup (.v4 0x0100000a),
    (processPacket smallConfig (mappedTo id).kernel (sampleEnv 5) false xdp .fresh).sent.map
      (·.dst))

/-- If a packet with the id goes to the real of the VIP, the id is not routed. -/
theorem not_routesAccepted {id : UInt32} (xdp : XdpMd)
    (header : ShortHeader smallConfig false xdp.data quicPckt id.toNat)
    (parsed : describe smallConfig false xdp.data = some (quicPckt, 38))
    (found : lookupVip (mappedTo id).kernel false quicPckt =
      some (⟨.ofV4 0x0101c80a, 0xbb01, 17⟩, ⟨4, 0⟩, quicPckt))
    (small : xdp.data.length ≤ smallConfig.maxPcktSize) (room : 48 ≤ xdp.headroom.length)
    (sends : sentAfter id xdp = (some id, some (parseAddrToBe (.v4 0x0200000a)))) :
    ¬ RoutesAccepted id := by
  intro routes
  obtain ⟨accepted, sent⟩ := Prod.mk.inj sends
  have run : Run (ReliableStep .small) tiny quicVipOps _ :=
    Run.of_execAll (fun _ _ _ computed => ⟨.plain 20, Env.plain_reliable 20, computed⟩)
      (Option.some_get quicVipOps_returns).symm
  have unmapped : (IPAddress.v4 0x0100000a).key ∉
      ((tiny.performAll .small (.plain 20) quicVipOps).get quicVipOps_returns).quicMapping := by
    decide +kernel
  obtain ⟨other, real, forwarded, dst, same⟩ := routes .small _ _ _ _ smallConfig quicVipOps _
    (.plain 20) "10.0.0.1" (.v4 0x0100000a) rfl
    ⟨rfl, by decide, by decide, by decide, by decide, by decide, by decide⟩ run
    (Env.plain_reliable 20) rfl unmapped accepted (sampleEnv 5) false xdp .fresh quicPckt quicPckt
    38 _ _ parsed found rfl header small room
  rw [show (processPacket smallConfig (mappedTo id).kernel (sampleEnv 5) false xdp .fresh).sent = _
    from forwarded, Option.map_some, dst] at sent
  rw [parseAddrToBe_inj (Option.some.inj sent)] at same
  exact absurd same (by decide)

private theorem not_routesAccepted_zero : ¬ RoutesAccepted 0 := by
  refine not_routesAccepted zeroPacket ?_ (by decide +kernel) (by decide +kernel)
    (by decide +kernel) (by decide +kernel) (by decide +kernel)
  exact ⟨by decide +kernel, by decide +kernel, by decide +kernel, by decide +kernel,
    by decide +kernel, by decide +kernel⟩

private theorem not_routesAccepted_last : ¬ RoutesAccepted 65535 := by
  refine not_routesAccepted lastPacket ?_ (by decide +kernel) (by decide +kernel)
    (by decide +kernel) (by decide +kernel) (by decide +kernel)
  exact ⟨by decide +kernel, by decide +kernel, by decide +kernel, by decide +kernel,
    by decide +kernel, by decide +kernel⟩

/-- **Every accepted id is routed** except zero and the last one. -/
theorem accepted_id_routed_iff (id : UInt32) : RoutesAccepted id ↔ id ≠ 0 ∧ id ≠ kMaxQuicId := by
  constructor
  · intro routes
    constructor
    · rintro rfl
      exact not_routesAccepted_zero routes
    · rintro rfl
      exact not_routesAccepted_last routes
  · rintro ⟨nonzero, notLast⟩
    intro folly config features mac cores cfg ops lb env address addr live agrees run reliable valid
      unmapped accepted
    obtain ⟨pools, written, known, same⟩ := written_of_run live rfl run
    have live : lb.config.testing = false := same ▸ live
    have taken : ReliableStep folly lb (.modifyQuicRealsMapping .add [⟨address, id⟩])
        (lb.modifyQuicRealsMapping folly env .add [⟨address, id⟩]) := ⟨env, reliable, rfl⟩
    obtain ⟨later, config⟩ := pools.step taken.step
    obtain ⟨allowed, numbered⟩ :=
      quicMapping_of_accepted pools live reliable valid unmapped accepted
    have routable : Routable id.toNat := by
      refine ⟨Nat.pos_of_ne_zero fun zero => nonzero (UInt32.toNat_inj.mp zero), ?_⟩
      have bounded : id.toNat ≤ kMaxQuicId.toNat :=
        UInt32.le_iff_toNat_le.mp (UInt32.not_lt.mp allowed)
      have different : id.toNat ≠ kMaxQuicId.toNat := fun equal =>
          notLast (UInt32.toNat_inj.mp equal)
      have last : kMaxQuicId.toNat = maxQuicReals := rfl
      omega
    refine forwardsId_of_written later (written.step live taken) (known.step pools live taken.step)
      ?_ routable numbered
    rw [config, same]
    exact agrees

/-- The ids zero and 65535 are accepted, but packets with them go to the real of the VIP
and not to the address that the id was mapped to. -/
theorem accepted_ids_lost :
    ¬ RoutesAccepted 0 ∧ ¬ RoutesAccepted 65535 ∧
      sentAfter 0 zeroPacket = (some 0, some { dstv6 := .ofV4 0x0200000a }) ∧
      sentAfter 65535 lastPacket = (some 65535, some { dstv6 := .ofV4 0x0200000a }) :=
  ⟨not_routesAccepted_zero, not_routesAccepted_last, by decide +kernel, by decide +kernel⟩

end Katran
