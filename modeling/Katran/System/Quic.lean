import Katran.Lb.QuicMap
import Katran.System.Affinity

/-! # Routing by connection id

A packet of a VIP with the QUIC flag goes by `quic_mapping` if its connection id holds an
index of the array other than zero (`Routable`). An array has a value at every index, zero
until something is written, so the lookup never fails for such an id: an id that was never
mapped leads to the real with the number zero, and one that is not mapped any more leads
to where it led before.
-/

namespace Katran

open Foundation UnorderedMap KatranLb

variable {cfg : BpfConfig} {maps : ConfigMaps} {env : PacketEnv} {isIpv6 : Bool}
  {data : List UInt8} {info : VipMeta} {pckt : PacketDescription} {flow counted : FlowMaps}
  {cpu key index : Nat}

/-- Packets with the id go by `quic_mapping`. -/
def Routable (index : Nat) : Prop := 0 < index ∧ index < maxQuicReals

instance : DecidablePred Routable := fun _ => inferInstanceAs (Decidable (_ ∧ _))

/-- The ids that cannot be routed. -/
theorem not_routable_iff : ¬ Routable index ↔ index = 0 ∨ maxQuicReals ≤ index := by
  unfold Routable
  omega

/-! ## The part of the program that routes by connection id -/

/-- A packet without a routable id goes on, and is counted. -/
theorem quicDst_of_unroutable (maps : ConfigMaps) (cpu : Nat) (flow : FlowMaps)
    (counters : cfg.maxVips + quicRouteStats < cfg.statsMapSize)
    (unroutable : ∀ index ∈ parseQuic cfg data isIpv6 pckt, ¬ Routable index) :
    quicDst cfg maps cpu isIpv6 data pckt flow =
      (some none, flow.updateStats cpu (cfg.maxVips + quicRouteStats) LbStats.addV1) := by
  unfold quicDst
  simp only [counters, ↓reduceIte]
  split
  next index parsed =>
    rw [if_neg]
    exact fun small => unroutable _ parsed ⟨Nat.succ_pos index, small⟩
  next => rfl

/-- A packet with a routable id goes to the real that the array has for it. -/
theorem quicDst_of_routable (maps : ConfigMaps) (cpu : Nat) (flow : FlowMaps)
    (counters : cfg.maxVips + quicRouteStats < cfg.statsMapSize)
    (decodes : parseQuic cfg data isIpv6 pckt = some index) (routable : Routable index) :
    quicDst cfg maps cpu isIpv6 data pckt flow =
      if maps.quicMapping index < cfg.maxReals then
        (some (some ⟨{ pckt with realIndex := maps.quicMapping index },
            maps.reals (maps.quicMapping index)⟩),
          flow.updateStats cpu (cfg.maxVips + quicRouteStats) LbStats.addV2)
      else (none, flow) := by
  obtain ⟨positive, small⟩ := routable
  obtain ⟨index, rfl⟩ := Nat.exists_eq_succ_of_ne_zero (Nat.ne_of_gt positive)
  simp only [quicDst, counters, ↓reduceIte, decodes, realsLookup]
  rw [if_pos small]
  split
  next missing =>
    split at missing
    · cases missing
    next outside => rw [if_neg outside]
  next dst known =>
    split at known
    next inside =>
      obtain rfl := Option.some.inj known
      rw [if_pos inside]
    · cases known

/-! ## What the rest of the program counts -/

private theorem Counts.stats_of_ne {other : Nat} (counts : Counts cpu key flow counted)
    (different : other ≠ key) : counted.stats cpu other = flow.stats cpu other := by
  rcases counts with rfl | ⟨change, rfl⟩
  · rfl
  · exact flow.updateStats_stats_of_ne different change

private theorem isUnderFlood_counts (cfg : BpfConfig) (cpu : Nat) (curTime : UInt64)
    (flow : FlowMaps) :
    Counts cpu (cfg.maxVips + newConnRateCntr) flow (isUnderFlood cfg cpu curTime flow).2 := by
  unfold isUnderFlood
  dsimp only
  split
  · split
    · exact .inr ⟨fun _ => { v1 := 1, v2 := curTime }, rfl⟩
    · exact .inr ⟨LbStats.addV1, rfl⟩
  · exact .inl rfl

/-- The lookup of a source counts only in its counter. -/
theorem srcRoute_counts (cfg : BpfConfig) (maps : ConfigMaps) (cpu : Nat) (isIpv6 underFlood : Bool)
    (info : VipMeta) (pckt : PacketDescription) (flow : FlowMaps) :
    Counts cpu (cfg.maxVips + lpmSrcCntrs) flow
      (srcRoute cfg maps cpu isIpv6 underFlood info pckt flow).2 := by
  unfold srcRoute countStats
  split
  · dsimp only
    split
    · exact .inr ⟨_, rfl⟩
    · exact .inl rfl
  · exact .inl rfl

/-- Recording a connection counts nothing. -/
theorem recordDst_stats (cfg : BpfConfig) (maps : ConfigMaps) (lruMap : Option Nat)
    (curTime : UInt64) (underFlood : Bool) (info : VipMeta) (pckt : PacketDescription) (key : Nat)
    (flow : FlowMaps) :
    (recordDst cfg maps lruMap curTime underFlood info pckt key flow).2.stats = flow.stats := by
  unfold recordDst
  split
  · rfl
  · dsimp only
    split <;> rfl

/-- Choosing a real by source or ring leaves the counter of routes by connection id. -/
theorem getPacketDst_quicStats (cfg : BpfConfig) (maps : ConfigMaps) (env : PacketEnv)
    (isIpv6 : Bool) (lruMap : Option Nat) (info : VipMeta) (pckt : PacketDescription)
    (flow : FlowMaps) :
    (getPacketDst cfg maps env isIpv6 lruMap info pckt flow).2.stats env.cpu
        (cfg.maxVips + quicRouteStats) =
      flow.stats env.cpu (cfg.maxVips + quicRouteStats) := by
  have flooded := (isUnderFlood_counts cfg env.cpu env.floodTime flow).stats_of_ne
    (show cfg.maxVips + quicRouteStats ≠ cfg.maxVips + newConnRateCntr by
      simp only [quicRouteStats, newConnRateCntr]; omega)
  have routed := (srcRoute_counts cfg maps env.cpu isIpv6
    (isUnderFlood cfg env.cpu env.floodTime flow).1 info pckt
    (isUnderFlood cfg env.cpu env.floodTime flow).2).stats_of_ne
    (show cfg.maxVips + quicRouteStats ≠ cfg.maxVips + lpmSrcCntrs by
      simp only [quicRouteStats, lpmSrcCntrs]; omega)
  rw [← flooded, ← routed]
  unfold getPacketDst
  dsimp only
  split
  · rw [recordDst_stats]
  · split
    · rfl
    · rw [recordDst_stats]

/-- So does everything after routing by connection id. -/
theorem lruDst_quicStats (cfg : BpfConfig) (maps : ConfigMaps) (env : PacketEnv) (isIpv6 : Bool)
    (info : VipMeta) (pckt : PacketDescription) (flow : FlowMaps) :
    (lruDst cfg maps env isIpv6 info pckt flow).2.stats env.cpu (cfg.maxVips + quicRouteStats) =
      flow.stats env.cpu (cfg.maxVips + quicRouteStats) := by
  rcases countFallback_cases cfg maps env.cpu flow with
    ⟨dropped, _⟩ | ⟨counted, counting, counts, _⟩
  · simp only [lruDst, dropped]
  have fallback := counts.stats_of_ne
    (show cfg.maxVips + quicRouteStats ≠ cfg.maxVips + fallbackLruCntr by
      simp only [quicRouteStats, fallbackLruCntr]; omega)
  rw [← fallback]
  have looked := lookupDst_stats cfg maps env (lruMapOf cfg maps env.cpu) info (lruPckt info pckt)
    counted
  simp only [lruDst, counting]
  split
  next chosen later returned =>
    rw [returned] at looked
    dsimp only at looked ⊢
    rw [looked]
  next later returned =>
    rw [returned] at looked
    dsimp only at looked
    rw [← looked]
    rcases countMiss_cases cfg env.cpu (lruPckt info pckt) later with
      ⟨missing, _⟩ | ⟨missed, missing, misses⟩
    · simp only [missDst, missing]
    · have miss := misses.stats_of_ne
        (show cfg.maxVips + quicRouteStats ≠ cfg.maxVips + lruMissCntr by
          simp only [quicRouteStats, lruMissCntr]; omega)
      have picked := getPacketDst_quicStats cfg maps env isIpv6 (lruMapOf cfg maps env.cpu) info
        (lruPckt info pckt) missed
      rw [← miss, ← picked]
      simp only [missDst, missing]
      split
      next last returned => rw [returned]
      next chosen last returned =>
        rw [returned]
        exact FlowMaps.updateStats_stats_of_ne _
          (show cfg.maxVips + quicRouteStats ≠ cfg.maxVips + lruCntrs by
            simp only [quicRouteStats, lruCntrs]; omega) _

/-! ## Ids without a mapping -/

/-- A packet falls back to the connection table and the ring: its real is chosen, and its
connection recorded, as if the connection id could not be decoded, and it is counted as
such. -/
structure FallsBack (cfg : BpfConfig) (maps : ConfigMaps) (env : PacketEnv) (isIpv6 : Bool)
    (data : List UInt8) (info : VipMeta) (pckt : PacketDescription) (flow : FlowMaps) : Prop where
  sameChoice : ∀ undecodable, parseQuic cfg undecodable isIpv6 pckt = none →
    chooseDst cfg maps env isIpv6 data info pckt flow =
      chooseDst cfg maps env isIpv6 undecodable info pckt flow
  counted : (chooseDst cfg maps env isIpv6 data info pckt flow).2.stats env.cpu
      (cfg.maxVips + quicRouteStats) =
    LbStats.addV1 (flow.stats env.cpu (cfg.maxVips + quicRouteStats))

/-- A packet of a VIP for QUIC is routed by its id, or by the connection table if it has none. -/
theorem chooseDst_of_quicVip (maps : ConfigMaps) (env : PacketEnv) (flow : FlowMaps)
    (counters : cfg.maxVips + quicRouteStats < cfg.statsMapSize) (quicVip : info.quicVip = true) :
    chooseDst cfg maps env isIpv6 data info pckt flow =
      match quicDst cfg maps env.cpu isIpv6 data pckt
          (flow.updateStats env.cpu (cfg.maxVips + lruCntrs) LbStats.addV1) with
      | (none, flow) => (none, flow)
      | (some (some chosen), flow) => (some chosen, flow)
      | (some none, flow) => lruDst cfg maps env isIpv6 info pckt flow := by
  have inside : cfg.maxVips + lruCntrs < cfg.statsMapSize := by
    simp only [quicRouteStats, lruCntrs] at counters ⊢
    omega
  rw [chooseDst, countStats, if_pos inside]
  exact if_pos quicVip

/-- A packet that goes by its connection id has a routable one, goes to its real, and keeps its
description. -/
theorem chosen_of_quicRouted {chosen : Chosen}
    (byId : quicRouted cfg isIpv6 data info pckt = true)
    (chooses : (chooseDst cfg maps env isIpv6 data info pckt flow).1 = some chosen) :
    ∃ index, parseQuic cfg data isIpv6 pckt = some index ∧ Routable index ∧
      chosen = ⟨{ pckt with realIndex := maps.quicMapping index },
        maps.reals (maps.quicMapping index)⟩ := by
  have quicVip := quicVip_of_quicRouted byId
  rw [quicRouted, decide_eq_true_eq] at byId
  by_cases counters : cfg.maxVips + quicRouteStats < cfg.statsMapSize
  · obtain ⟨index, decodes, routable⟩ : ∃ index, parseQuic cfg data isIpv6 pckt = some index ∧
        Routable index := by
      by_contra none
      apply byId.2
      refine ⟨counters, fun index parsed => not_routable_iff.mp fun routable => ?_⟩
      exact none ⟨index, parsed, routable⟩
    refine ⟨index, decodes, routable, ?_⟩
    rw [chooseDst_of_quicVip maps env flow counters quicVip,
      quicDst_of_routable maps env.cpu _ counters decodes routable] at chooses
    by_cases known : maps.quicMapping index < cfg.maxReals
    · rw [if_pos known] at chooses
      exact (Option.some.inj chooses).symm
    · rw [if_neg known] at chooses
      cases chooses
  · simp only [chooseDst, countStats, quicVip, ↓reduceIte, quicDst, counters] at chooses
    split at chooses
    · cases chooses
    · cases chooses

/-- Not counting differs from counting, also when the counter wraps. -/
theorem LbStats.addV1_ne {stats other : LbStats} (same : other.v1 = stats.v1) :
    other ≠ stats.addV1 := by
  intro equal
  have more : stats.v1 = stats.v1 + 1 := same.symm.trans (congrArg LbStats.v1 equal)
  exact absurd (UInt64.left_eq_add.mp more) (by decide)

/-- A packet falls back exactly if its id is not routable. -/
theorem fallsBack_iff (maps : ConfigMaps) (env : PacketEnv) (flow : FlowMaps)
    (counters : cfg.maxVips + quicRouteStats < cfg.statsMapSize) (quicVip : info.quicVip = true)
    (decodes : parseQuic cfg data isIpv6 pckt = some index) :
    FallsBack cfg maps env isIpv6 data info pckt flow ↔ ¬ Routable index := by
  have before : (flow.updateStats env.cpu (cfg.maxVips + lruCntrs) LbStats.addV1).stats env.cpu
      (cfg.maxVips + quicRouteStats) = flow.stats env.cpu (cfg.maxVips + quicRouteStats) :=
    flow.updateStats_stats_of_ne (by simp only [quicRouteStats, lruCntrs]; omega) _
  constructor
  · intro falls routable
    have tally := falls.counted
    rw [chooseDst_of_quicVip maps env flow counters quicVip,
      quicDst_of_routable maps env.cpu _ counters decodes routable] at tally
    split at tally
    next later returned =>
      split at returned
      · cases (Prod.mk.inj returned).1
      · obtain ⟨_, rfl⟩ := Prod.mk.inj returned
        rw [before] at tally
        exact absurd tally (LbStats.addV1_ne rfl)
    next chosen later returned =>
      split at returned
      · obtain ⟨_, rfl⟩ := Prod.mk.inj returned
        simp only [FlowMaps.updateStats, Function.update_self] at tally before
        rw [before] at tally
        exact absurd tally (LbStats.addV1_ne rfl)
      · cases (Prod.mk.inj returned).1
    next later returned =>
      split at returned
      · cases Option.some.inj (Prod.mk.inj returned).1
      · cases (Prod.mk.inj returned).1
  · intro unroutable
    have goesOn (bytes : List UInt8)
        (none : ∀ index ∈ parseQuic cfg bytes isIpv6 pckt, ¬ Routable index) :
        chooseDst cfg maps env isIpv6 bytes info pckt flow =
          lruDst cfg maps env isIpv6 info pckt
            ((flow.updateStats env.cpu (cfg.maxVips + lruCntrs) LbStats.addV1).updateStats env.cpu
              (cfg.maxVips + quicRouteStats) LbStats.addV1) := by
      rw [chooseDst_of_quicVip maps env flow counters quicVip,
        quicDst_of_unroutable maps env.cpu _ counters none]
    have here : ∀ index ∈ parseQuic cfg data isIpv6 pckt, ¬ Routable index := by
      intro other parsed
      obtain rfl := Option.some.inj (decodes.symm.trans parsed)
      exact unroutable
    refine ⟨?_, ?_⟩
    · intro undecodable none
      rw [goesOn data here, goesOn undecodable]
      intro other parsed
      cases none.symm.trans parsed
    · rw [goesOn data here, lruDst_quicStats]
      simp only [FlowMaps.updateStats, Function.update_self] at before ⊢
      rw [before]

/-- In every state reached, the array has zero for an id that was never added. -/
theorem quicMapping_of_never_added {folly : Folly} {config : KatranConfig}
    {features : KatranFeatures} {kernel : ConfigMaps} {lb : KatranLb} {ops : List Op}
    (zeros : kernel.quicMapping = fun _ => 0)
    (run : Run (KatranLb.Step folly) (.new config features kernel) ops lb)
    (never : ∀ op ∈ ops, ¬ op.AddsId index) : lb.kernel.quicMapping index = 0 := by
  suffices kept : ∀ start : KatranLb, Run (KatranLb.Step folly) start ops lb →
      lb.kernel.quicMapping index = start.kernel.quicMapping index by
    rw [kept _ run]
    exact congrFun zeros index
  clear run
  induction ops with
  | nil =>
      intro start run
      cases run
      rfl
  | cons op ops ih =>
      intro start run
      cases run with
      | cons taken rest =>
          rw [ih (fun other member => never other (List.mem_cons_of_mem _ member)) _ rest]
          exact taken.quicMapping (never op List.mem_cons_self)

/-- **An id without a mapping** falls back to consistent hashing exactly if it is zero or
beyond the array. In every state reached from a zeroed array, a packet with any other id
that was never added goes to the real with the number zero. -/
theorem unmapped_falls_back_iff {folly : Folly} {config : KatranConfig}
    {features : KatranFeatures} {kernel : ConfigMaps} {lb : KatranLb} {ops : List Op}
    (zeros : kernel.quicMapping = fun _ => 0)
    (run : Run (KatranLb.Step folly) (.new config features kernel) ops lb)
    (never : ∀ op ∈ ops, ¬ op.AddsId index) (env : PacketEnv) (flow : FlowMaps)
    (counters : cfg.maxVips + quicRouteStats < cfg.statsMapSize) (quicVip : info.quicVip = true)
    (decodes : parseQuic cfg data isIpv6 pckt = some index) :
    (FallsBack cfg lb.kernel env isIpv6 data info pckt flow ↔
      index = 0 ∨ maxQuicReals ≤ index) ∧
    (¬ (index = 0 ∨ maxQuicReals ≤ index) → 0 < cfg.maxReals →
      (chooseDst cfg lb.kernel env isIpv6 data info pckt flow).1 =
        some ⟨{ pckt with realIndex := 0 }, lb.kernel.reals 0⟩) := by
  rw [← not_routable_iff, not_not]
  refine ⟨fallsBack_iff lb.kernel env flow counters quicVip decodes, fun routable someReal => ?_⟩
  rw [chooseDst_of_quicVip lb.kernel env flow counters quicVip,
    quicDst_of_routable lb.kernel env.cpu _ counters decodes routable,
    quicMapping_of_never_added zeros run never, if_pos someReal]

/-- An IPv4 packet with a UDP header and a payload. -/
def sampleUdp (src dst : UInt32) (sport dport : UInt16) (payload : List UInt8) : XdpMd where
  headroom := List.replicate 64 0
  data := [2, 0, 0, 0, 0, 2, 2, 0, 0, 0, 0, 3, 8, 0] ++
    [0x45, 0, 0, (28 + payload.length).toUInt8, 0, 0, 0x40, 0, 64, 17, 0, 0] ++
    Bytes.ofUInt32 src ++ Bytes.ofUInt32 dst ++
    Bytes.ofUInt16 (Bytes.htons sport) ++ Bytes.ofUInt16 (Bytes.htons dport) ++
    [0, (8 + payload.length).toUInt8, 0, 0] ++ payload

/-- A packet with a short header, from 192.168.1.42 to the QUIC port of 10.200.1.1. -/
def quicPacket (connId : List UInt8) : XdpMd :=
  sampleUdp 0x2a01a8c0 0x0101c80a 31337 443 (0 :: connId)

/-- Its description. -/
def quicPckt : PacketDescription :=
  { flow := ⟨.ofV4 0x2a01a8c0, .ofV4 0x0101c80a, 0x697a, 0xbb01, 17⟩ }

/-- A VIP with the QUIC flag and another one, with a real each. -/
def twoVips : List Op :=
  [.addVip ⟨"10.200.1.1", 443, 17⟩ 4, .addVip ⟨"10.200.1.2", 80, 6⟩ 0,
    .addRealForVip ⟨"10.0.0.1", 1⟩ ⟨"10.200.1.2", 80, 6⟩,
    .addRealForVip ⟨"10.0.0.2", 1⟩ ⟨"10.200.1.1", 443, 17⟩]

private theorem twoVips_returns : (tiny.performAll .small (.plain 20) twoVips).isSome = true := by
  decide +kernel

private theorem twoVips_addsNoId : ∀ index, ∀ op ∈ twoVips, ¬ op.AddsId index := by
  intro index op member
  simp only [twoVips, List.mem_cons, List.not_mem_nil, or_false] at member
  rcases member with rfl | rfl | rfl | rfl
  all_goals exact id

/-- A packet with the id zero falls back. -/
theorem unmapped_falls_back_iff_zero :
    let lb := (tiny.performAll .small (.plain 20) twoVips).get twoVips_returns
    FallsBack smallConfig lb.kernel (sampleEnv 5) false
      (quicPacket [0x40, 0, 3, 4, 5, 6, 7, 0, 0x40]).data ⟨4, 0⟩ quicPckt .fresh := by
  intro lb
  have run := run_of_performAll (Option.some_get twoVips_returns).symm
  have decodes : parseQuic smallConfig (quicPacket [0x40, 0, 3, 4, 5, 6, 7, 0, 0x40]).data false
      quicPckt = some 0 := by
    decide +kernel
  exact (unmapped_falls_back_iff rfl run (twoVips_addsNoId 0) (sampleEnv 5) .fresh (by decide)
    (by decide) decodes).1.mpr (.inl rfl)

/-- A packet with an id that nobody mapped. -/
def unmappedPacket : XdpMd := quicPacket [0x40, 1, 0, 0, 0, 0, 0, 0, 0x40]

private theorem unmappedPacket_outcome :
    let lb := (tiny.performAll .small (.plain 20) twoVips).get twoVips_returns
    let outcome := processPacket smallConfig lb.kernel (sampleEnv 5) false unmappedPacket .fresh
    outcome.sent.map (fun sent => (sent.info, sent.dst)) =
      some (⟨4, 0⟩, { dstv6 := .ofV4 0x0100000a }) ∧
    outcome.flow.stats 0 (smallConfig.maxVips + quicRouteStats) = { v1 := 0, v2 := 1 } := by
  decide +kernel

/-- A packet with an id that was never mapped does not fall back: it is sent to the real
with the number zero, which was never a real of its VIP. -/
theorem unmapped_routed_to_zero :
    let lb := (tiny.performAll .small (.plain 20) twoVips).get twoVips_returns
    let outcome := processPacket smallConfig lb.kernel (sampleEnv 5) false unmappedPacket .fresh
    parseQuic smallConfig unmappedPacket.data false quicPckt = some 4 ∧
      (∀ op ∈ twoVips, ¬ op.AddsId 4) ∧
      ¬ FallsBack smallConfig lb.kernel (sampleEnv 5) false unmappedPacket.data ⟨4, 0⟩ quicPckt
        .fresh ∧
      outcome.sent.map (fun sent => (sent.info, sent.dst)) =
        some (⟨4, 0⟩, { dstv6 := .ofV4 0x0100000a }) ∧
      outcome.flow.stats 0 (smallConfig.maxVips + quicRouteStats) = { v1 := 0, v2 := 1 } := by
  have decodes : parseQuic smallConfig unmappedPacket.data false quicPckt = some 4 := by
    decide +kernel
  refine ⟨decodes, twoVips_addsNoId 4, ?_, unmappedPacket_outcome⟩
  intro falls
  exact (fallsBack_iff _ (sampleEnv 5) .fresh (by decide) (by decide) decodes).mp falls (by decide)

/-! ## The array and the table -/

/-- `quic_mapping` agrees with `quicMapping_`: it has the number of every mapped address,
and packets do not go by an id that was written but has no address any more. -/
structure QuicMirrored (state : QuicTrace) : Prop where
  entries : ∀ key id, state.lb.quicMapping.lookup key = some id → ∃ rmeta,
    state.lb.reals.lookup key = some rmeta ∧ id.toNat < maxQuicReals ∧
      state.lb.kernel.quicMapping id.toNat = rmeta.num
  unused : ∀ id ∈ state.written, (∀ key, state.lb.quicMapping.lookup key ≠ some id) →
    ∀ (cfg : BpfConfig) (cpu : Nat) (isIpv6 : Bool) (data : List UInt8) (pckt : PacketDescription)
      (flow : FlowMaps), cfg.maxVips + quicRouteStats < cfg.statsMapSize →
      parseQuic cfg data isIpv6 pckt = some id.toNat →
        (quicDst cfg state.lb.kernel cpu isIpv6 data pckt flow).1 = some none

/-- **The array agrees with the table** in every state reached by calls that map no two
addresses to one id and remove no address whose id packets are routed by. -/
theorem quic_mapping_mirrored {folly : Folly} {config : KatranConfig} {features : KatranFeatures}
    {kernel : ConfigMaps} {batches : List (ModifyAction × List QuicReal)} {state : QuicTrace}
    (live : config.testing = false)
    (run : Run (fun before batch after => QuicTrace.Step folly before batch after ∧
      before.lb.KeepsIds folly batch) (.new config features kernel) batches state) :
    QuicMirrored state := by
  have reached : state.Agrees ∧ state.lb.config = config := by
    apply Run.invariant (fun state => state.Agrees ∧ state.lb.config = config) _ run
    · exact ⟨.new config features kernel, rfl⟩
    · rintro before batch after ⟨agrees, same⟩ ⟨taken, keeps⟩
      obtain ⟨later, unchanged⟩ := agrees.step (same ▸ live) taken keeps
      exact ⟨later, unchanged.trans same⟩
  obtain ⟨agrees, _⟩ := reached
  refine ⟨?_, ?_⟩
  · intro key id mapped
    obtain ⟨small, numbered⟩ := agrees.entries key id mapped
    obtain ⟨rmeta, found, same⟩ := RefPool.numOf_eq_some.mp numbered
    exact ⟨rmeta, found, small, same.symm⟩
  · intro id written unused cfg cpu isIpv6 data pckt flow counters decodes
    have zero : id = 0 := by
      by_contra nonzero
      obtain ⟨key, mapped⟩ := agrees.used id ⟨written, nonzero⟩
      exact unused key mapped
    rw [quicDst_of_unroutable state.lb.kernel cpu flow counters]
    intro index parsed routable
    rw [decodes, zero] at parsed
    obtain rfl := Option.some.inj parsed
    exact Nat.lt_irrefl 0 routable.1

/-- Make calls one after the other, checking each. -/
def quicAll (check : KatranLb → ModifyAction × List QuicReal → Bool) (state : QuicTrace)
    (batches : List (ModifyAction × List QuicReal)) : Option QuicTrace :=
  Run.execAll (fun state batch =>
    if check state.lb batch then
      some ⟨state.lb.modifyQuicRealsMapping .small (.plain 20) batch.1 batch.2,
        state.written ++ (state.lb.collected .small (.plain 20) batch).2.keys⟩
    else none) state batches

private theorem run_of_quicAll {check : KatranLb → ModifyAction × List QuicReal → Bool}
    {state after : QuicTrace} {batches : List (ModifyAction × List QuicReal)}
    (performed : quicAll check state batches = some after) :
    Run (fun before batch after => QuicTrace.Step .small before batch after ∧
      check before.lb batch = true) state batches after := by
  apply Run.of_execAll _ performed
  intro before batch next computed
  split at computed
  next checked =>
    obtain rfl := Option.some.inj computed
    exact ⟨⟨.plain 20, Env.plain_reliable 20, rfl, rfl⟩, checked⟩
  next => cases computed

/-- A tiny balancer without QUIC ids. -/
def tinyQuic : QuicTrace :=
  .new { maxVips := 2, maxReals := 3, chRingSize := 3 } {} (.fresh [2, 0, 0, 0, 0, 1] fun _ => true)

/-- The id zero is mapped, removed and mapped again, and a mapped address is given
another id, which has no effect. -/
def remapped : List (ModifyAction × List QuicReal) :=
  [(.add, [⟨"10.0.0.1", 4⟩, ⟨"10.0.0.2", 0⟩, ⟨"nowhere", 4⟩]), (.del, [⟨"10.0.0.2", 0⟩]),
    (.add, [⟨"10.0.0.1", 7⟩, ⟨"10.0.0.3", 0⟩, ⟨"10.0.0.4", 65536⟩])]

private theorem remapped_returns :
    (quicAll (fun lb batch => decide (lb.KeepsIds .small batch)) tinyQuic remapped).isSome =
      true := by
  decide +kernel

/-- Ids that are removed and mapped again are routed to their reals. -/
theorem quic_mapping_mirrored_remapped :
    QuicMirrored ((quicAll (fun lb batch => decide (lb.KeepsIds .small batch)) tinyQuic
      remapped).get remapped_returns) := by
  have run := run_of_quicAll (Option.some_get remapped_returns).symm
  exact quic_mapping_mirrored rfl
    (run.mono fun _ _ _ taken => ⟨taken.1, of_decide_eq_true taken.2⟩)

/-- An address is mapped and removed. -/
def removedId : List (ModifyAction × List QuicReal) :=
  [(.add, [⟨"10.0.0.1", 4⟩]), (.del, [⟨"10.0.0.1", 4⟩])]

/-- Two addresses are mapped to one id. -/
def sharedId : List (ModifyAction × List QuicReal) :=
  [(.add, [⟨"10.0.0.1", 4⟩, ⟨"10.0.0.2", 4⟩])]

private theorem removedId_returns :
    (quicAll (fun _ _ => true) tinyQuic removedId).isSome = true := by
  decide +kernel

private theorem sharedId_returns : (quicAll (fun _ _ => true) tinyQuic sharedId).isSome = true := by
  decide +kernel

/-- What the table, the record of written ids and the forwarding plane say of the id
four. -/
def idFour (state : QuicTrace) : List UInt32 × List UInt32 × Option (Option Nat) :=
  (values state.lb.quicMapping, state.written,
    (quicDst smallConfig state.lb.kernel 0 false unmappedPacket.data quicPckt .fresh).1.map
      fun chosen => chosen.map fun chosen => chosen.pckt.realIndex)

/-- The array does not agree with the table: after an address has been removed, packets
still go by its id, and if two addresses have one id, it leads to one of them only. -/
theorem quic_mapping_not_mirrored :
    (∃ state, Run (QuicTrace.Step .small) tinyQuic removedId state ∧ ¬ QuicMirrored state ∧
      idFour state = ([], [4], some (some 0))) ∧
    ∃ state, Run (QuicTrace.Step .small) tinyQuic sharedId state ∧ ¬ QuicMirrored state ∧
      idFour state = ([4, 4], [4], some (some 1)) := by
  constructor
  · refine ⟨_, (run_of_quicAll (Option.some_get removedId_returns).symm).mono
      fun _ _ _ taken => taken.1, ?_, by decide +kernel⟩
    intro mirrored
    have gone := mirrored.unused 4 (by decide +kernel) (fun key => ?_) smallConfig 0 false
      unmappedPacket.data quicPckt .fresh (by decide) (by decide +kernel)
    · exact absurd (congrArg (Option.map Option.isSome) gone) (by decide +kernel)
    · have empty : ((quicAll (fun _ _ => true) tinyQuic removedId).get
          removedId_returns).lb.quicMapping.entries = [] := by
        decide +kernel
      intro mapped
      have member := mem_entries.mpr mapped
      rw [empty] at member
      cases member
  · refine ⟨_, (run_of_quicAll (Option.some_get sharedId_returns).symm).mono
      fun _ _ _ taken => taken.1, ?_, by decide +kernel⟩
    intro mirrored
    obtain ⟨rmeta, found, _, same⟩ := mirrored.entries (.v4 0x0100000a) 4 (by decide +kernel)
    have read : ((quicAll (fun _ _ => true) tinyQuic sharedId).get
        sharedId_returns).lb.reals.lookup (.v4 0x0100000a) = some ⟨0, 1⟩ := by
      decide +kernel
    obtain rfl := Option.some.inj (read.symm.trans found)
    exact absurd same (by decide +kernel)

end Katran
