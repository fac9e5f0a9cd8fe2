import Katran.System.Alike
import Katran.System.Counters

/-! # Packets that leave no trace

A packet leaves a trace in the state that decides about packets, except where it is not
balanced, or goes by its connection id, or finds its connection in the table as it is
afterwards. Everything else counts as a new connection.
-/

namespace Katran

open Foundation

/-- What holds of the constants with which the program is compiled: the table of counters has
all of them, and neither the rate of connections nor the time a connection is kept is
unbounded. -/
structure BpfConfig.Sane (cfg : BpfConfig) : Prop where
  counters : 8 ≤ cfg.maxVips
  slots : 0 < cfg.ringSize
  reals : 2 ≤ cfg.maxReals
  size : 512 ≤ cfg.maxPcktSize
  rate : cfg.maxConnRate.toNat < 2 ^ 64 - 1
  timeout : cfg.lruUdpTimeout.toNat < 2 ^ 64 - 1

variable {cfg : BpfConfig} {maps : ConfigMaps} {env : PacketEnv} {isIpv6 : Bool} {info : VipMeta}
  {pckt described : PacketDescription} {flow : FlowMaps} {xdp : XdpMd}

/-- A sane program has the counters behind the VIPs. -/
theorem BpfConfig.Sane.counter (sane : cfg.Sane) {offset : Nat} (one : offset < 8) :
    cfg.maxVips + offset < cfg.statsMapSize := by
  have counters := sane.counters
  unfold BpfConfig.statsMapSize
  omega

/-- A sane program has the counters of the connection tables. -/
theorem BpfConfig.Sane.present (sane : cfg.Sane) (maps : ConfigMaps) (cpu : Nat) :
    CountersPresent cfg maps cpu :=
  ⟨sane.counter (by decide), fun _ => sane.counter (by decide)⟩

/-! ## The rate of connections -/

/-- The counter of new connections after another one. -/
def countConn (curTime : UInt64) (stats : LbStats) : LbStats :=
  if curTime - stats.v2 > oneSec then { v1 := 1, v2 := curTime } else stats.addV1

private theorem countConn_ne (curTime : UInt64) (stats : LbStats) :
    countConn curTime stats ≠ stats := by
  unfold countConn
  split
  next late =>
    intro same
    have now : curTime = stats.v2 := congrArg LbStats.v2 same
    rw [now, UInt64.sub_self] at late
    exact absurd late (by decide)
  next =>
    intro same
    have one : stats.v1 + 1 = stats.v1 := congrArg LbStats.v1 same
    exact absurd (add_eq_left.mp one) (by decide)

/-- The check for floods counts the connection on its core. -/
theorem rate_isUnderFlood_of_lt (inside : cfg.maxVips + newConnRateCntr < cfg.statsMapSize)
    (cpu : Nat) (curTime : UInt64) (flow : FlowMaps) (other : Nat) :
    rate cfg (isUnderFlood cfg cpu curTime flow).2 other =
      if other = cpu then countConn curTime (rate cfg flow other) else rate cfg flow other := by
  by_cases here : other = cpu
  · subst here
    rw [if_pos rfl]
    unfold isUnderFlood countConn
    dsimp only
    rw [if_pos inside]
    split
    next late =>
      rw [rate_updateStats, if_pos ⟨rfl, rfl⟩]
      exact (if_pos late).symm
    next soon =>
      rw [rate_updateStats, if_pos ⟨rfl, rfl⟩]
      exact (if_neg soon).symm
  · rw [if_neg here]
    unfold isUnderFlood
    dsimp only
    rw [if_pos inside]
    split
    · rw [rate_updateStats, if_neg fun both => here both.1]
    · rw [rate_updateStats, if_neg fun both => here both.1]

/-- The check for floods counts the connection on its core, in a sane program. -/
theorem rate_isUnderFlood (sane : cfg.Sane) (cpu : Nat) (curTime : UInt64) (flow : FlowMaps)
    (other : Nat) :
    rate cfg (isUnderFlood cfg cpu curTime flow).2 other =
      if other = cpu then countConn curTime (rate cfg flow other) else rate cfg flow other :=
  rate_isUnderFlood_of_lt (sane.counter (by decide)) cpu curTime flow other

private theorem rate_of_stats {first second : FlowMaps} (same : first.stats = second.stats)
    (cpu : Nat) :
    rate cfg first cpu = rate cfg second cpu := by
  rw [rate, same, rate]

/-- Nothing but the check of the rate counts new connections. -/
theorem getPacketDst_rate (cfg : BpfConfig) (maps : ConfigMaps) (env : PacketEnv)
    (isIpv6 : Bool) (lruMap : Option Nat) (info : VipMeta) (pckt : PacketDescription)
    (flow : FlowMaps)
    (cpu : Nat) :
    rate cfg (getPacketDst cfg maps env isIpv6 lruMap info pckt flow).2 cpu =
      rate cfg (isUnderFlood cfg env.cpu env.floodTime flow).2 cpu := by
  have elsewhere : cfg.maxVips + newConnRateCntr ≠ cfg.maxVips + lpmSrcCntrs := by
    simp only [newConnRateCntr, lpmSrcCntrs]
    omega
  have routed : Alike cfg _ _ := .of_counts (srcRoute_counts cfg maps env.cpu isIpv6
    (isUnderFlood cfg env.cpu env.floodTime flow).1 info pckt
    (isUnderFlood cfg env.cpu env.floodTime flow).2) elsewhere
  rw [routed.rate cpu]
  unfold getPacketDst
  dsimp only
  split
  · exact rate_of_stats (recordDst_stats ..) cpu
  · split
    · rfl
    · exact rate_of_stats (recordDst_stats ..) cpu

/-- A packet without an entry counts as a new connection. -/
theorem missDst_rate (sane : cfg.Sane) (maps : ConfigMaps) (env : PacketEnv) (isIpv6 : Bool)
    (lruMap : Option Nat) (info : VipMeta) (pckt : PacketDescription) (flow : FlowMaps)
    (cpu : Nat) :
    rate cfg (missDst cfg maps env isIpv6 lruMap info pckt flow).2 cpu =
      rate cfg (isUnderFlood cfg env.cpu env.floodTime flow).2 cpu := by
  have missElsewhere : cfg.maxVips + newConnRateCntr ≠ cfg.maxVips + lruMissCntr := by
    simp only [newConnRateCntr, lruMissCntr]
    omega
  have lruElsewhere : cfg.maxVips + newConnRateCntr ≠ cfg.maxVips + lruCntrs := by
    simp only [newConnRateCntr, lruCntrs]
    omega
  rcases countMiss_cases cfg env.cpu pckt flow with ⟨_, small⟩ | ⟨counted, counting, counts⟩
  · exact absurd (sane.counter (by decide)) (Nat.not_lt.mpr small)
  · have alike : Alike cfg flow counted := .of_counts counts missElsewhere
    have flooded : rate cfg (isUnderFlood cfg env.cpu env.floodTime counted).2 cpu =
        rate cfg (isUnderFlood cfg env.cpu env.floodTime flow).2 cpu := by
      rw [rate_isUnderFlood sane, rate_isUnderFlood sane, alike.rate cpu]
    have picked := getPacketDst_rate cfg maps env isIpv6 lruMap info pckt counted cpu
    unfold missDst
    rw [counting]
    dsimp only
    split
    next later returned =>
      rw [returned] at picked
      exact picked.trans flooded
    next chosen later returned =>
      rw [returned] at picked
      refine Eq.trans ?_ (picked.trans flooded)
      exact ((alike_updateStats cfg later env.cpu LbStats.addV2 lruElsewhere).rate cpu).symm

/-- A packet that the connection table decides about counts for nothing. -/
theorem lruDst_rate (sane : cfg.Sane) (maps : ConfigMaps) (env : PacketEnv) (isIpv6 : Bool)
    (info : VipMeta) (pckt : PacketDescription) (flow : FlowMaps) (cpu : Nat) :
    ((∃ entry, Hits cfg env (lruMapOf cfg maps env.cpu) info (lruPckt info pckt) flow.lru entry) →
      rate cfg (lruDst cfg maps env isIpv6 info pckt flow).2 cpu = rate cfg flow cpu) ∧
    ((∀ entry, ¬ Hits cfg env (lruMapOf cfg maps env.cpu) info (lruPckt info pckt) flow.lru entry) →
      rate cfg (lruDst cfg maps env isIpv6 info pckt flow).2 cpu =
        rate cfg (isUnderFlood cfg env.cpu env.floodTime flow).2 cpu) := by
  have elsewhere : cfg.maxVips + newConnRateCntr ≠ cfg.maxVips + fallbackLruCntr := by
    simp only [newConnRateCntr, fallbackLruCntr]
    omega
  rcases countFallback_cases cfg maps env.cpu flow with
    ⟨_, missing⟩ | ⟨counted, counting, counts, _⟩
  · exact absurd (sane.present maps env.cpu) missing
  · have alike : Alike cfg flow counted := .of_counts counts elsewhere
    have looked := lookupDst_spec cfg maps env (lruMapOf cfg maps env.cpu) info (lruPckt info pckt)
      counted
    have stats := lookupDst_stats cfg maps env (lruMapOf cfg maps env.cpu) info (lruPckt info pckt)
      counted
    dsimp only at looked
    rw [← alike.lru] at looked
    unfold lruDst
    dsimp only
    rw [counting]
    dsimp only
    cases returned : lookupDst cfg maps env (lruMapOf cfg maps env.cpu) info (lruPckt info pckt)
      counted with
    | mk chosen later =>
        rw [returned] at looked stats
        have same : rate cfg later cpu = rate cfg flow cpu :=
          (rate_of_stats stats cpu).trans (alike.rate cpu).symm
        rcases looked with ⟨entry, hits, rfl, _⟩ | ⟨misses, rfl, _⟩
        · exact ⟨fun _ => same, fun misses => (misses entry hits).elim⟩
        · constructor
          · rintro ⟨entry, hits⟩
            exact (misses entry hits).elim
          · intro _
            rw [missDst_rate sane, rate_isUnderFlood sane, rate_isUnderFlood sane, same]

/-- A packet is balanced without a trace in the rate of connections if its connection id or
the connection table decides, and else counts as a new connection. -/
theorem chooseDst_rate (sane : cfg.Sane) (maps : ConfigMaps) (env : PacketEnv) (isIpv6 : Bool)
    (data : List UInt8) (info : VipMeta) (pckt : PacketDescription) (flow : FlowMaps) (cpu : Nat) :
    (quicRouted cfg isIpv6 data info pckt = true ∨
        (∃ entry,
          Hits cfg env (lruMapOf cfg maps env.cpu) info (lruPckt info pckt) flow.lru entry) →
      rate cfg (chooseDst cfg maps env isIpv6 data info pckt flow).2 cpu = rate cfg flow cpu) ∧
    (quicRouted cfg isIpv6 data info pckt = false →
      (∀ entry,
        ¬ Hits cfg env (lruMapOf cfg maps env.cpu) info (lruPckt info pckt) flow.lru entry) →
      rate cfg (chooseDst cfg maps env isIpv6 data info pckt flow).2 cpu =
        rate cfg (isUnderFlood cfg env.cpu env.floodTime flow).2 cpu) := by
  have lruElsewhere : cfg.maxVips + newConnRateCntr ≠ cfg.maxVips + lruCntrs := by
    simp only [newConnRateCntr, lruCntrs]
    omega
  have quicElsewhere : cfg.maxVips + newConnRateCntr ≠ cfg.maxVips + quicRouteStats := by
    simp only [newConnRateCntr, quicRouteStats]
    omega
  have counting : countStats cfg env.cpu (cfg.maxVips + lruCntrs) LbStats.addV1 flow =
      some (flow.updateStats env.cpu (cfg.maxVips + lruCntrs) LbStats.addV1) :=
    countStats_eq_some.mpr ⟨sane.counter (by decide), rfl⟩
  have alike := alike_updateStats cfg flow env.cpu LbStats.addV1 lruElsewhere
  generalize flow.updateStats env.cpu (cfg.maxVips + lruCntrs) LbStats.addV1 = counted
    at counting alike
  -- what the connection table does from any state that is alike
  have table : ∀ {later}, Alike cfg flow later →
      ((∃ entry, Hits cfg env (lruMapOf cfg maps env.cpu) info (lruPckt info pckt) flow.lru entry) →
        rate cfg (lruDst cfg maps env isIpv6 info pckt later).2 cpu = rate cfg flow cpu) ∧
      ((∀ entry, ¬ Hits cfg env (lruMapOf cfg maps env.cpu) info (lruPckt info pckt) flow.lru
          entry) →
        rate cfg (lruDst cfg maps env isIpv6 info pckt later).2 cpu =
          rate cfg (isUnderFlood cfg env.cpu env.floodTime flow).2 cpu) := by
    intro later same
    have rates := lruDst_rate sane maps env isIpv6 info pckt later cpu
    rw [← same.lru, ← same.rate cpu] at rates
    rw [rate_isUnderFlood sane, ← same.rate cpu] at rates
    rw [rate_isUnderFlood sane]
    exact rates
  unfold chooseDst
  rw [counting]
  dsimp only
  cases quicVip : info.quicVip with
  | false =>
      have unrouted := quicRouted_eq_false cfg isIpv6 data pckt quicVip
      rw [unrouted]
      simp only [Bool.false_eq_true, false_or, ↓reduceIte, forall_const]
      exact table alike
  | true =>
      rw [if_pos rfl]
      have byId : Alike cfg _ _ := .of_counts
        (quicDst_counts cfg maps env.cpu isIpv6 data pckt counted) quicElsewhere
      have goesOn := quicDst_of_quicVip cfg maps env.cpu isIpv6 data pckt counted quicVip
      cases returned : quicDst cfg maps env.cpu isIpv6 data pckt counted with
      | mk result later =>
          rw [returned] at byId goesOn
          dsimp only at byId goesOn
          have same := alike.trans byId
          have decided : ¬ result = some none →
              (quicRouted cfg isIpv6 data info pckt = true ∨
                  (∃ entry, Hits cfg env (lruMapOf cfg maps env.cpu) info (lruPckt info pckt)
                    flow.lru entry) → rate cfg later cpu = rate cfg flow cpu) ∧
                (quicRouted cfg isIpv6 data info pckt = false →
                  (∀ entry, ¬ Hits cfg env (lruMapOf cfg maps env.cpu) info (lruPckt info pckt)
                    flow.lru entry) →
                  rate cfg later cpu =
                    rate cfg (isUnderFlood cfg env.cpu env.floodTime flow).2 cpu) := by
            intro byConnId
            refine ⟨fun _ => (same.rate cpu).symm, ?_⟩
            intro unrouted
            exact (byConnId (goesOn.mpr unrouted)).elim
          rcases result with _ | _ | chosen
          · exact decided (by simp only [reduceCtorEq, not_false_eq_true])
          · have unrouted := goesOn.mp rfl
            rw [unrouted]
            simp only [Bool.false_eq_true, false_or, forall_const]
            exact table same
          · exact decided (by simp only [Option.some.injEq, reduceCtorEq, not_false_eq_true])

/-! ## Processing a packet -/

private theorem processTunnel_alike {cpu : Nat} {decap : Bool → Verdict × XdpMd} {verdict : Verdict}
    {after : XdpMd} {later : FlowMaps}
    (ends : processTunnel cfg maps cpu isIpv6 pckt decap xdp flow = .final verdict after later) :
    Alike cfg flow later := by
  have elsewhere : cfg.maxVips + newConnRateCntr ≠ cfg.maxVips + remoteEncapCntrs := by
    simp only [newConnRateCntr, remoteEncapCntrs]
    omega
  have checked : Alike cfg flow (checkDecapDst cfg maps cpu isIpv6 pckt flow).2 := by
    unfold checkDecapDst countStats
    split
    · split
      next => exact .refl cfg flow
      next counted counting =>
        split at counting
        next =>
          obtain rfl := Option.some.inj counting
          exact alike_updateStats cfg flow cpu LbStats.addV1 elsewhere
        next => cases counting
    · exact .refl cfg flow
  unfold processTunnel at ends
  split at ends
  next returned =>
    rw [returned] at checked
    obtain ⟨_, _, rfl⟩ := Parsed.final.inj ends
    exact checked
  next returned =>
    rw [returned] at checked
    obtain ⟨_, _, rfl⟩ := Parsed.final.inj ends
    exact checked

/-- A packet that is not described leaves no trace. -/
theorem parsePacket_alike {cpu : Nat} {verdict : Verdict} {after : XdpMd} {later : FlowMaps}
    (final : parsePacket cfg maps cpu isIpv6 xdp flow = .final verdict after later) :
    Alike cfg flow later := by
  have settled : ∀ {other frame}, Parsed.final other frame flow = .final verdict after later →
      Alike cfg flow later := by
    intro other frame same
    obtain ⟨_, _, rfl⟩ := Parsed.final.inj same
    exact .refl cfg flow
  unfold parsePacket at final
  split at final
  · exact settled final
  · dsimp only at final
    split at final
    · exact processTunnel_alike final
    · split at final
      · split at final
        · exact settled final
        · cases final
      · split at final
        · split at final
          · exact settled final
          · split at final
            · exact processTunnel_alike final
            · cases final
        · exact settled final

/-- Sending a packet counts for its VIP. -/
theorem sendToReal_alike (below : info.vipNum < cfg.maxVips) (maps : ConfigMaps) (cpu : Nat)
    (isIpv6 : Bool) (vip : VipDefinition) (pktBytes : UInt16) (chosen : Chosen) (xdp : XdpMd)
    (flow : FlowMaps) :
    Alike cfg flow (sendToReal cfg maps cpu isIpv6 vip info pktBytes chosen xdp flow).flow ∧
      (sendToReal cfg maps cpu isIpv6 vip info pktBytes chosen xdp flow).verdict ≠
        .recirculate := by
  have elsewhere : cfg.maxVips + newConnRateCntr ≠ info.vipNum := by omega
  unfold sendToReal countStats
  split
  · exact ⟨.refl cfg flow, nofun⟩
  · split
    next => exact ⟨.refl cfg flow, nofun⟩
    next counted counting =>
      split at counting
      next =>
        obtain rfl := Option.some.inj counting
        have alike := alike_updateStats cfg flow cpu (LbStats.addPacket pktBytes) elsewhere
        split
        · exact ⟨⟨alike.lru, alike.rate⟩, nofun⟩
        · exact ⟨alike, nofun⟩
      next => cases counting

/-- What a packet leaves behind: nothing, or what choosing a real leaves behind. -/
theorem processPacket_trace (below : VipNumsBelow cfg maps) (env : PacketEnv) (isIpv6 : Bool)
    (xdp : XdpMd) (flow : FlowMaps) :
    let outcome := processPacket cfg maps env isIpv6 xdp flow
    (Alike cfg flow outcome.flow ∧ ∀ pckt pktBytes found,
      describe cfg isIpv6 xdp.data = some (pckt, pktBytes) →
        lookupVip maps isIpv6 pckt = some found → cfg.maxPcktSize < xdp.data.length) ∨
    ∃ pckt pktBytes vip info described,
      describe cfg isIpv6 xdp.data = some (pckt, pktBytes) ∧
      lookupVip maps isIpv6 pckt = some (vip, info, described) ∧
      xdp.data.length ≤ cfg.maxPcktSize ∧ outcome.verdict ≠ .recirculate ∧
      Alike cfg (chooseDst cfg maps env isIpv6 xdp.data info described flow).2 outcome.flow := by
  have elsewhere : cfg.maxVips + newConnRateCntr ≠ cfg.maxVips + icmpToobigCntrs := by
    simp only [newConnRateCntr, icmpToobigCntrs]
    omega
  dsimp only
  rcases parsePacket_spec cfg maps env.cpu isIpv6 xdp flow with
    ⟨pckt, pktBytes, found, parsed⟩ | ⟨undescribed, verdict, after, later, parsed, _⟩
  · simp only [processPacket, parsed]
    cases resolved : lookupVip maps isIpv6 pckt with
    | none =>
        refine .inl ?_
        simp only [balancePacket, resolved]
        refine ⟨.refl cfg flow, ?_⟩
        intro other bytes vip same looked
        obtain ⟨rfl, rfl⟩ := Prod.mk.inj (Option.some.inj (found.symm.trans same))
        cases resolved.symm.trans looked
    | some known =>
        obtain ⟨vip, info, described⟩ := known
        by_cases big : xdp.data.length > cfg.maxPcktSize
        · refine .inl ⟨?_, fun _ _ _ _ _ => big⟩
          simp only [balancePacket, resolved, big, ↓reduceIte, processTooBig, countStats]
          split
          · split
            next => exact .refl cfg flow
            next counted counting =>
              split at counting
              next =>
                obtain rfl := Option.some.inj counting
                exact alike_updateStats cfg flow env.cpu _ elsewhere
              next => cases counting
          · exact .refl cfg flow
        · refine .inr ⟨pckt, pktBytes, vip, info, described, found, resolved,
            Nat.le_of_not_lt big, ?_⟩
          have number : info.vipNum < cfg.maxVips := below vip info (lookupVip_spec resolved).2.1
          simp only [balancePacket, resolved, big, ↓reduceIte]
          split
          next returned =>
            rw [returned]
            refine ⟨?_, .refl cfg _⟩
            intro wrong
            cases wrong
          next chosen later returned =>
            rw [returned]
            obtain ⟨alike, settled⟩ := sendToReal_alike number maps env.cpu isIpv6 vip pktBytes
              chosen xdp later
            exact ⟨settled, alike⟩
  · simp only [processPacket, parsed]
    refine .inl ⟨parsePacket_alike parsed, ?_⟩
    intro pckt bytes vip described
    cases undescribed.symm.trans described

/-- An entry that is refreshed is as before exactly if it was refreshed at the same time. -/
theorem refreshedLru_eq_iff {lruMap : Option Nat} {key : FlowKey} {entry : RealPosLru}
    {lru : Option Nat → FlowKey → Option RealPosLru} (found : lru lruMap key = some entry) :
    refreshedLru env lruMap key entry lru = lru ↔
      (key.proto = ipprotoUdp → entry.atime = env.lookupTime) := by
  unfold refreshedLru
  split
  next udp =>
    constructor
    · intro same _
      have stored := congrFun (congrFun same lruMap) key
      rw [store_self, found] at stored
      exact (congrArg RealPosLru.atime (Option.some.inj stored)).symm
    · intro now
      funext place other
      rw [store_apply, ← now udp]
      split
      next here =>
        rw [here.1, here.2]
        exact found.symm
      next => rfl
  next tcp => exact ⟨fun _ udp => (tcp udp).elim, fun _ => rfl⟩

/-- Choosing a real leaves no trace exactly if the connection id decides, or the connection
table does and is the same afterwards. -/
theorem chooseDst_traceless_iff (sane : cfg.Sane) (maps : ConfigMaps) (env : PacketEnv)
    (isIpv6 : Bool) (data : List UInt8) (info : VipMeta) (pckt : PacketDescription)
    (flow : FlowMaps) :
    Alike cfg flow (chooseDst cfg maps env isIpv6 data info pckt flow).2 ↔
      quicRouted cfg isIpv6 data info pckt = true ∨
        ∃ entry, Hits cfg env (lruMapOf cfg maps env.cpu) info (lruPckt info pckt) flow.lru entry ∧
          (pckt.flow.proto = ipprotoUdp → entry.atime = env.lookupTime) := by
  have decision := chooseDst_decision cfg maps env isIpv6 data info pckt flow
  have rates := chooseDst_rate sane maps env isIpv6 data info pckt flow
  have present := sane.present maps env.cpu
  dsimp only at decision
  rw [← lruPckt_proto info pckt]
  cases routed : quicRouted cfg isIpv6 data info pckt with
  | true =>
      refine ⟨fun _ => .inl rfl, fun _ => ⟨?_, fun cpu => ((rates cpu).1 (.inl routed)).symm⟩⟩
      rw [routed] at decision
      generalize (chooseDst cfg maps env isIpv6 data info pckt flow).2.lru = lru at decision ⊢
      generalize (chooseDst cfg maps env isIpv6 data info pckt flow).1 = decided at decision
      cases decision with
      | quic => rfl
      | uncounted missing => exact (missing present).elim
      | hit _ unrouted => cases unrouted
      | unpicked _ unrouted => cases unrouted
      | picked _ _ _ unrouted => cases unrouted
  | false =>
      constructor
      · intro alike
        by_cases hit : ∃ entry,
            Hits cfg env (lruMapOf cfg maps env.cpu) info (lruPckt info pckt) flow.lru entry
        · obtain ⟨entry, hits⟩ := hit
          obtain ⟨_, lru⟩ := decision.of_hits routed present hits
          exact .inr ⟨entry, hits,
            (refreshedLru_eq_iff hits.found).mp (lru.symm.trans alike.lru.symm)⟩
        · have counted := (rates env.cpu).2 routed fun entry hits => hit ⟨entry, hits⟩
          rw [← alike.rate env.cpu, rate_isUnderFlood sane, if_pos rfl] at counted
          exact (countConn_ne _ _ counted.symm).elim
      · intro quiet
        obtain ⟨entry, hits, now⟩ := quiet.resolve_left nofun
        obtain ⟨_, lru⟩ := decision.of_hits routed present hits
        refine ⟨?_, fun cpu => ((rates cpu).1 (.inr ⟨entry, hits⟩)).symm⟩
        exact ((refreshedLru_eq_iff hits.found).mpr now).symm.trans lru.symm

/-- A frame that leaves no trace: it is not balanced, or its connection id decides, or the
connection table does and is the same afterwards. -/
def Traceless (cfg : BpfConfig) (maps : ConfigMaps) (env : PacketEnv) (xdp : XdpMd)
    (flow : FlowMaps) : Prop :=
  ∀ pckt pktBytes vip info described, xdp.IsIp →
    describe cfg xdp.frameIpv6 xdp.data = some (pckt, pktBytes) →
    lookupVip maps xdp.frameIpv6 pckt = some (vip, info, described) →
    xdp.data.length ≤ cfg.maxPcktSize →
      quicRouted cfg xdp.frameIpv6 xdp.data info described = true ∨
        ∃ entry, Hits cfg env (lruMapOf cfg maps env.cpu) info (lruPckt info described) flow.lru
          entry ∧ (described.flow.proto = ipprotoUdp → entry.atime = env.lookupTime)

private theorem processPacket_traceless_iff (sane : cfg.Sane) (below : VipNumsBelow cfg maps)
    (env : PacketEnv) (ip : xdp.IsIp) (flow : FlowMaps) :
    Alike cfg flow (processPacket cfg maps env xdp.frameIpv6 xdp flow).flow ↔
      Traceless cfg maps env xdp flow := by
  rcases processPacket_trace below env xdp.frameIpv6 xdp flow with
    ⟨alike, big⟩ | ⟨pckt, pktBytes, vip, info, described, parsed, found, fits, _, alike⟩
  · refine ⟨fun _ => ?_, fun _ => alike⟩
    intro pckt pktBytes vip info described _ parsed found fits
    exact absurd (big pckt pktBytes _ parsed found) (Nat.not_lt.mpr fits)
  · have choice := chooseDst_traceless_iff sane maps env xdp.frameIpv6 xdp.data info described flow
    constructor
    · intro same other bytes otherVip otherInfo otherDescribed _ alsoParsed alsoFound _
      obtain ⟨rfl, rfl⟩ := Prod.mk.inj (Option.some.inj (parsed.symm.trans alsoParsed))
      obtain ⟨rfl, rfl, rfl⟩ := Option.some.inj (found.symm.trans alsoFound)
      exact choice.mp (same.trans alike.symm)
    · intro traceless
      exact (choice.mpr (traceless _ _ _ _ _ ip parsed found fits)).trans alike

/-! ## Tunnels -/

/-- The frame that is processed last: what is left of a frame after the headers of tunnels
that end here have been removed. -/
def innermost (cfg : BpfConfig) (maps : ConfigMaps) (cpu : Nat) :
    (tailCalls : Nat) → XdpMd → FlowMaps → XdpMd
  | 0, xdp, _ => xdp
  | tailCalls + 1, xdp, flow =>
      if xdp.IsIp then
        match parsePacket cfg maps cpu xdp.frameIpv6 xdp flow with
        | .final .recirculate inner counted => innermost cfg maps cpu tailCalls inner counted
        | _ => xdp
      else xdp

/-- An answer to a packet that is too big is not processed again. -/
theorem sendIcmpTooBig_verdict (cfg : BpfConfig) (csumDiff : CsumDiff) (isIpv6 : Bool)
    (xdp : XdpMd) : (sendIcmpTooBig cfg csumDiff isIpv6 xdp).1 ≠ .recirculate := by
  unfold sendIcmpTooBig
  dsimp only
  split
  · nofun
  · split
    · unfold sendIcmp6TooBig
      split
      · nofun
      · split
        · nofun
        · nofun
    · unfold sendIcmp4TooBig
      split
      · nofun
      · split
        · nofun
        · nofun

private theorem balancePacket_verdict (below : VipNumsBelow cfg maps) (env : PacketEnv)
    (isIpv6 : Bool) (pckt : PacketDescription) (pktBytes : UInt16) (xdp : XdpMd) (flow : FlowMaps) :
    (balancePacket cfg maps env isIpv6 pckt pktBytes xdp flow).verdict ≠ .recirculate := by
  unfold balancePacket
  split
  · nofun
  next vip info described found =>
    split
    · unfold processTooBig
      split
      · split
        · nofun
        · exact sendIcmpTooBig_verdict cfg env.csumDiff isIpv6 xdp
      · nofun
    · split
      · nofun
      next chosen later _ =>
        exact (sendToReal_alike (below vip info (lookupVip_spec found).2.1) maps env.cpu isIpv6 vip
          pktBytes chosen xdp later).2

/-- A packet that is described is not processed again. -/
theorem processPacket_recirculated (below : VipNumsBelow cfg maps)
    (again : (processPacket cfg maps env isIpv6 xdp flow).verdict = .recirculate) :
    ∃ inner counted, parsePacket cfg maps env.cpu isIpv6 xdp flow =
        .final .recirculate inner counted ∧
      processPacket cfg maps env isIpv6 xdp flow = ⟨.recirculate, inner, counted, none⟩ := by
  cases parsed : parsePacket cfg maps env.cpu isIpv6 xdp flow with
  | final verdict inner counted =>
      simp only [processPacket, parsed] at again ⊢
      exact ⟨inner, counted, by rw [again], by rw [again]⟩
  | described pckt pktBytes =>
      simp only [processPacket, parsed] at again
      exact (balancePacket_verdict below env isIpv6 pckt pktBytes xdp flow again).elim

/-- Processing a frame is processing what is left of it in the end. -/
theorem balancerIngress_innermost (below : VipNumsBelow cfg maps) (env : PacketEnv)
    (tailCalls : Nat) (xdp : XdpMd) (flow : FlowMaps) :
    ∃ counted, Alike cfg flow counted ∧
      balancerIngress cfg maps env tailCalls xdp flow =
        balancerIngress cfg maps env 0 (innermost cfg maps env.cpu tailCalls xdp flow) counted := by
  induction tailCalls generalizing xdp flow with
  | zero => exact ⟨flow, .refl cfg flow, rfl⟩
  | succ tailCalls ih =>
      by_cases ip : xdp.IsIp
      · by_cases again : (processPacket cfg maps env xdp.frameIpv6 xdp flow).verdict = .recirculate
        · obtain ⟨inner, counted, parsed, outcome⟩ := processPacket_recirculated below again
          obtain ⟨last, alike, same⟩ := ih inner counted
          refine ⟨last, (parsePacket_alike parsed).trans alike, ?_⟩
          rw [balancerIngress_recirculated tailCalls flow ip again, outcome]
          simp only [innermost, ip, ↓reduceIte, parsed]
          exact same
        · refine ⟨flow, .refl cfg flow, ?_⟩
          have stays : innermost cfg maps env.cpu (tailCalls + 1) xdp flow = xdp := by
            simp only [innermost, ip, ↓reduceIte]
            split
            next inner counted parsed =>
              simp only [processPacket, parsed, not_true_eq_false] at again
            next => rfl
          rw [stays, balancerIngress_settled _ flow ip again,
            balancerIngress_settled _ flow ip again]
      · refine ⟨flow, .refl cfg flow, ?_⟩
        have stays : innermost cfg maps env.cpu (tailCalls + 1) xdp flow = xdp := by
          simp only [innermost, ip, ↓reduceIte]
        rw [stays, balancerIngress_other _ flow ip, balancerIngress_other _ flow ip]

/-- A frame leaves no trace exactly if what is left of it in the end leaves none. -/
theorem balancerIngress_traceless_iff (sane : cfg.Sane) (below : VipNumsBelow cfg maps)
    (env : PacketEnv) (tailCalls : Nat) (xdp : XdpMd) (flow : FlowMaps) :
    Alike cfg flow (balancerIngress cfg maps env tailCalls xdp flow).flow ↔
      Traceless cfg maps env (innermost cfg maps env.cpu tailCalls xdp flow) flow := by
  obtain ⟨counted, alike, same⟩ := balancerIngress_innermost below env tailCalls xdp flow
  rw [same]
  generalize innermost cfg maps env.cpu tailCalls xdp flow = last
  have sameLru : Traceless cfg maps env last flow ↔ Traceless cfg maps env last counted := by
    unfold Traceless
    rw [alike.lru]
  have shifted : Alike cfg flow (balancerIngress cfg maps env 0 last counted).flow ↔
      Alike cfg counted (balancerIngress cfg maps env 0 last counted).flow :=
    ⟨alike.symm.trans, alike.trans⟩
  rw [sameLru, shifted]
  by_cases ip : last.IsIp
  · rw [← processPacket_traceless_iff sane below env ip]
    by_cases again : (processPacket cfg maps env last.frameIpv6 last counted).verdict = .recirculate
    · rw [balancerIngress_exhausted counted ip again]
    · rw [balancerIngress_settled 0 counted ip again]
  · rw [balancerIngress_other 0 counted ip]
    exact ⟨fun _ _ _ _ _ _ isIp => (ip isIp).elim, fun _ => .refl cfg counted⟩

/-- A frame of a VIP is balanced, and what it leaves behind is what choosing a real does. -/
theorem balancerIngress_balanced {vip : VipDefinition} {pktBytes : UInt16}
    (below : VipNumsBelow cfg maps) (env : PacketEnv) (tailCalls : Nat) (flow : FlowMaps)
    (ip : xdp.IsIp) (parsed : describe cfg xdp.frameIpv6 xdp.data = some (pckt, pktBytes))
    (found : lookupVip maps xdp.frameIpv6 pckt = some (vip, info, described))
    (fits : xdp.data.length ≤ cfg.maxPcktSize) :
    Balanced cfg maps env xdp.frameIpv6 xdp flow vip info described
        (chooseDst cfg maps env xdp.frameIpv6 xdp.data info described flow).1
        (balancerIngress cfg maps env tailCalls xdp flow) ∧
      Alike cfg (chooseDst cfg maps env xdp.frameIpv6 xdp.data info described flow).2
        (balancerIngress cfg maps env tailCalls xdp flow).flow := by
  rcases processPacket_trace below env xdp.frameIpv6 xdp flow with
    ⟨_, big⟩ | ⟨_, _, _, _, _, alsoParsed, alsoFound, _, settled, alike⟩
  · exact absurd (big pckt pktBytes _ parsed found) (Nat.not_lt.mpr fits)
  · obtain ⟨rfl, rfl⟩ := Prod.mk.inj (Option.some.inj (parsed.symm.trans alsoParsed))
    obtain ⟨rfl, rfl, rfl⟩ := Option.some.inj (found.symm.trans alsoFound)
    rw [balancerIngress_settled tailCalls flow ip settled]
    exact ⟨processPacket_balanced env flow parsed found fits, alike⟩

end Katran
