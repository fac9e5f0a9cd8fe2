import Katran.System.Traceless

/-! # Telling forwarding states apart

A state in which one more connection has been counted is told apart by connections that
are opened until one of the two states, but not the other, is over the limit and does not
record the connection. A state in which an entry has been refreshed is told apart by a
packet that finds the entry expired in the other.
-/

namespace Katran

open Foundation

variable {cfg : BpfConfig} {first second flow : FlowMaps} {cpu : Nat} {now : UInt64}

/-- The connection tables are the same up to the times of entries for UDP. -/
def SameConnections (first second : FlowMaps) : Prop :=
  ∀ place key, (first.lru place key).map (·.pos) = (second.lru place key).map (·.pos) ∧
    (key.proto ≠ ipprotoUdp → first.lru place key = second.lru place key)

/-! ## Probes -/

/-- Every packet is for a VIP, and every slot has the same real. One real has an address of
its own. -/
def probeMaps (flags : UInt32) (slot marked : Nat) : ConfigMaps :=
  { ConfigMaps.fresh [] (fun _ => true) with
    vipMap := fun _ => some { flags := flags, vipNum := 0 }
    chRings := fun _ => slot
    reals := fun num => { dstv6 := .ofV4 (if num = marked then 1 else 2) } }

/-- A core at some time, with checksums that are not computed. -/
def probeEnv (cpu : Nat) (now : UInt64) : PacketEnv where
  cpu := cpu
  lookupTime := now
  floodTime := now
  csumDiff := fun _ seed => seed

/-- A packet of a connection that is opened or open. -/
def probeXdp (syn : Bool) : XdpMd := if syn then synPacket else ackPacket

/-- The probe as a packet that arrives later. -/
def probe (flags : UInt32) (slot marked cpu : Nat) (now : UInt64) (syn : Bool) : Later where
  maps := probeMaps flags slot marked
  env := probeEnv cpu now
  tailCalls := 0
  xdp := probeXdp syn

private theorem probeXdp_frame (syn : Bool) :
    (probeXdp syn).IsIp ∧ (probeXdp syn).frameIpv6 = false ∧ (probeXdp syn).data.length = 54 ∧
      48 ≤ (probeXdp syn).headroom.length := by
  cases syn with
  | false => decide
  | true => decide

private theorem describe_probe (cfg : BpfConfig) (syn : Bool) :
    describe cfg false (probeXdp syn).data =
      some ({ flow := connection, synSet := syn }, 40) := by
  have network : processL3Headers cfg (probeXdp syn).data 14 false =
      .further ({ flow := { connection with srcPort := 0, dstPort := 0 } }, 40) := by
    cases syn with
    | false => rfl
    | true => rfl
  have untunnelled : ¬ (cfg.inlineDecapIpip = true ∧
      (connection.proto = ipprotoIpip ∨ connection.proto = ipprotoIpv6)) := by
    intro tunnel
    exact absurd tunnel.2 (by decide)
  unfold describe
  rw [network]
  dsimp only
  rw [if_neg untunnelled, if_pos (by decide)]
  cases syn with
  | false => rfl
  | true => rfl

/-- A slot of the first ring is in the table of rings. -/
theorem chRingsLookup_first (sane : cfg.Sane) (maps : ConfigMaps) (isIpv6 : Bool) {info : VipMeta}
    (below : info.vipNum < cfg.maxVips) (key : FlowKey) :
    chRingsLookup cfg maps (ringKey cfg isIpv6 info key) =
      some (maps.chRings (ringKey cfg isIpv6 info key)) := by
  have slot := Nat.mod_lt (getPacketHash cfg key isIpv6).toNat sane.slots
  have ring : cfg.ringSize * info.vipNum + cfg.ringSize ≤ cfg.maxVips * cfg.ringSize := by
    rw [← Nat.mul_succ, Nat.mul_comm]
    exact Nat.mul_le_mul_right cfg.ringSize below
  have wraps := Nat.mod_le (cfg.ringSize * info.vipNum +
    (getPacketHash cfg key isIpv6).toNat % cfg.ringSize) (2 ^ 32)
  rw [chRingsLookup, if_pos]
  unfold ringKey BpfConfig.chRingsSize
  omega

/-- Where no source is routed, the ring picks the real. -/
theorem pickDst_ring (sane : cfg.Sane) {maps : ConfigMaps} {isIpv6 underFlood : Bool}
    {info : VipMeta} (below : info.vipNum < cfg.maxVips) {key : FlowKey}
    (unrouted : routedReal cfg maps isIpv6 underFlood info key = none) :
    pickDst cfg maps isIpv6 underFlood info key =
      some (maps.chRings (ringKey cfg isIpv6 info (hashedFlow info key)), hashedFlow info key) := by
  rw [pickDst, unrouted, chRingsLookup_first sane maps isIpv6 below]
  rfl

/-- A packet over TCP that the table does not decide about leaves the entry that it
looked at. -/
theorem MissedLru.of_tcp {env : PacketEnv} {lruMap : Option Nat} {key : FlowKey}
    {before after : Option Nat → FlowKey → Option RealPosLru}
    (missed : MissedLru cfg env lruMap key before after) (tcp : key.proto ≠ ipprotoUdp) :
    after = before := by
  rcases missed with rfl | ⟨entry, _, _, rfl⟩
  · rfl
  · rw [refreshedLru, if_neg tcp]

/-- Flags with which a VIP hashes the whole flow and routes by neither id nor source. -/
structure VipMeta.Plain (info : VipMeta) : Prop where
  noQuic : info.quicVip = false
  noRouting : info.srcRouting = false
  wholePort : info.hashNoSrcPort = false
  wholeFlow : info.hashDportOnly = false

/-- The VIP of a probe. -/
def probeInfo (flags : UInt32) : VipMeta := { flags := flags, vipNum := 0 }

private theorem probe_balanced (sane : cfg.Sane) (flags : UInt32) (slot marked cpu : Nat)
    (now : UInt64) (syn : Bool) (flow : FlowMaps) :
    let later := probe flags slot marked cpu now syn
    let pckt : PacketDescription := { flow := connection, synSet := syn }
    ∃ vip, Balanced cfg later.maps later.env false later.xdp flow vip (probeInfo flags) pckt
        (chooseDst cfg later.maps later.env false later.xdp.data (probeInfo flags) pckt flow).1
        (later.outcome cfg flow) ∧
      Alike cfg
        (chooseDst cfg later.maps later.env false later.xdp.data (probeInfo flags) pckt flow).2
        (later.outcome cfg flow).flow := by
  obtain ⟨ip, family, length, _⟩ := probeXdp_frame syn
  have below : VipNumsBelow cfg (probeMaps flags slot marked) := by
    intro vip info found
    obtain rfl := Option.some.inj found
    exact Nat.lt_of_lt_of_le (Nat.zero_lt_succ 7) sane.counters
  have fits : (probeXdp syn).data.length ≤ cfg.maxPcktSize := by
    have size := sane.size
    omega
  have parsed := describe_probe cfg syn
  rw [← family] at parsed
  have balanced := balancerIngress_balanced below (probeEnv cpu now) 0 flow ip parsed
    (by rw [family]; rfl) fits
  rw [family] at balanced
  exact ⟨_, balanced⟩

variable {flags : UInt32} {slot marked : Nat}

/-- A connection over TCP that is opened is recorded, unless there are too many. -/
theorem Decision.opens {maps : ConfigMaps} {env : PacketEnv} {isIpv6 routed : Bool} {info : VipMeta}
    {pckt : PacketDescription} {decided : Option Chosen} {key : Nat} {recorded : FlowKey}
    {lru : Option Nat → FlowKey → Option RealPosLru}
    (decision : Decision cfg maps env isIpv6 routed info pckt flow decided lru)
    (sane : cfg.Sane) (unrouted : routed = false)
    (misses : ∀ entry, ¬ Hits cfg env (lruMapOf cfg maps env.cpu) info pckt flow.lru entry)
    (picks : pickDst cfg maps isIpv6 (isUnderFlood cfg env.cpu env.floodTime flow).1 info
      pckt.flow =
      some (key, recorded)) (known : key < cfg.maxReals) (tcp : pckt.flow.proto ≠ ipprotoUdp) :
    lru = recordedLru env (lruMapOf cfg maps env.cpu) info
      (isUnderFlood cfg env.cpu env.floodTime flow).1 recorded key flow.lru := by
  cases decision with
  | quic byId _ => cases unrouted.symm.trans byId
  | uncounted missing => exact (missing (sane.present maps env.cpu)).elim
  | hit entry _ _ hits => exact (misses entry hits).elim
  | unpicked _ _ _ _ reason =>
      rcases reason with small | unknown
      · exact absurd (sane.counter (by decide)) (Nat.not_lt.mpr small)
      · exact absurd known (Nat.not_lt.mpr (unknown key recorded picks))
  | picked missedLru other stored _ _ _ missed again _ =>
      obtain ⟨rfl, rfl⟩ := Prod.mk.inj (Option.some.inj (picks.symm.trans again))
      rw [missed.of_tcp tcp]

private theorem lruPckt_of_wholePort {info : VipMeta} (whole : info.hashNoSrcPort = false)
    (pckt : PacketDescription) : lruPckt info pckt = pckt := by
  rw [lruPckt, whole]
  rfl

private theorem hashedFlow_of_wholeFlow {info : VipMeta} (whole : info.hashDportOnly = false)
    (key : FlowKey) : hashedFlow info key = key := by
  rw [hashedFlow, whole]
  rfl

/-- The ring picks the real of a probe. -/
theorem pickDst_probe (sane : cfg.Sane) (plain : (probeInfo flags).Plain) (slot marked : Nat)
    (underFlood : Bool) :
    pickDst cfg (probeMaps flags slot marked) false underFlood (probeInfo flags) connection =
      some (slot, connection) := by
  have below : (probeInfo flags).vipNum < cfg.maxVips :=
    Nat.lt_of_lt_of_le (Nat.zero_lt_succ 7) sane.counters
  have unrouted : routedReal cfg (probeMaps flags slot marked) false underFlood (probeInfo flags)
      connection = none := by
    rw [routedReal, if_neg]
    rw [plain.noRouting]
    intro route
    cases route.2.1
  rw [pickDst_ring sane below unrouted, hashedFlow_of_wholeFlow plain.wholeFlow]
  rfl

/-- A connection that is opened is recorded, unless there are too many, and counted. -/
theorem probe_opens (sane : cfg.Sane) (plain : (probeInfo flags).Plain)
    (known : slot < cfg.maxReals)
    (marked cpu : Nat) (now : UInt64) (flow : FlowMaps) :
    let later := (probe flags slot marked cpu now true).outcome cfg flow
    later.flow.lru = recordedLru (probeEnv cpu now)
        (lruMapOf cfg (probeMaps flags slot marked) cpu) (probeInfo flags)
        (isUnderFlood cfg cpu now flow).1 connection slot flow.lru ∧
      rate cfg later.flow cpu = countConn now (rate cfg flow cpu) := by
  obtain ⟨vip, balanced, alike⟩ := probe_balanced sane flags slot marked cpu now true flow
  have unrouted := quicRouted_eq_false cfg false (probe flags slot marked cpu now true).xdp.data
    { flow := connection, synSet := true } plain.noQuic
  have decision := balanced.decision
  have misses : ∀ entry, ¬ Hits cfg (probeEnv cpu now)
      (lruMapOf cfg (probeMaps flags slot marked) cpu) (probeInfo flags)
      { flow := connection, synSet := true } flow.lru entry :=
    fun entry hits => nomatch hits.established
  rw [lruPckt_of_wholePort plain.wholePort] at decision
  refine ⟨decision.opens sane unrouted misses (pickDst_probe sane plain slot marked _) known
    (by decide), ?_⟩
  rw [← alike.rate cpu]
  have counted := (chooseDst_rate sane (probeMaps flags slot marked) (probeEnv cpu now) false
    (probeXdp true).data (probeInfo flags) { flow := connection, synSet := true } flow cpu).2
      unrouted
  rw [lruPckt_of_wholePort plain.wholePort] at counted
  have counted := counted misses
  rw [rate_isUnderFlood sane] at counted
  exact counted.trans (if_pos rfl)

/-- The real of an entry, or another one if there is none. -/
def entryPos (cfg : BpfConfig) (found : Option RealPosLru) (slot : Nat) : Nat :=
  match found with
  | some entry => if entry.pos < cfg.maxReals then entry.pos else slot
  | none => slot

/-- A packet of an open connection goes to the real of its entry, or else to that of the
ring. -/
theorem probe_continues (sane : cfg.Sane) (plain : (probeInfo flags).Plain)
    (used : (probeInfo flags).lruBypass = false) (known : slot < cfg.maxReals)
    (marked cpu : Nat) (now : UInt64) (flow : FlowMaps) :
    let later := (probe flags slot marked cpu now false).outcome cfg flow
    let found := flow.lru (lruMapOf cfg (probeMaps flags slot marked) cpu) connection
    later.sent.map (·.dst) =
      some ((probeMaps flags slot marked).reals (entryPos cfg found slot)) := by
  obtain ⟨vip, balanced, _⟩ := probe_balanced sane flags slot marked cpu now false flow
  have unrouted := quicRouted_eq_false cfg false (probe flags slot marked cpu now false).xdp.data
    { flow := connection, synSet := false } plain.noQuic
  have decision := balanced.decision
  have present := sane.present (probeMaps flags slot marked) cpu
  have counted : (probeInfo flags).vipNum < cfg.statsMapSize := by
    have counters := sane.counters
    change 0 < cfg.maxVips * 2
    omega
  have room := (probeXdp_frame false).2.2.2
  rw [lruPckt_of_wholePort plain.wholePort] at decision
  dsimp only
  by_cases hit : ∃ entry, flow.lru (lruMapOf cfg (probeMaps flags slot marked) cpu) connection =
      some entry ∧ entry.pos < cfg.maxReals
  · obtain ⟨entry, found, inside⟩ := hit
    have hits : Hits cfg (probeEnv cpu now) (lruMapOf cfg (probeMaps flags slot marked) cpu)
        (probeInfo flags) { flow := connection, synSet := false } flow.lru entry :=
      ⟨rfl, used, found, rfl, inside⟩
    have sent := balanced.sends _ (decision.of_hits unrouted present hits).1 room counted inside
    rw [sent, found, entryPos, if_pos inside]
    rfl
  · have misses : ∀ entry, ¬ Hits cfg (probeEnv cpu now)
        (lruMapOf cfg (probeMaps flags slot marked) cpu) (probeInfo flags)
        { flow := connection, synSet := false } flow.lru entry :=
      fun entry hits => hit ⟨entry, hits.found, hits.known⟩
    have sent := balanced.sends _ (decision.of_picks unrouted present (sane.counter (by decide))
      misses (pickDst_probe sane plain slot marked _) known) room counted known
    have unfound : entryPos cfg
        (flow.lru (lruMapOf cfg (probeMaps flags slot marked) cpu) connection) slot = slot := by
      unfold entryPos
      split
      next entry found => exact if_neg fun inside => hit ⟨entry, found, inside⟩
      next => rfl
    rw [sent, unfound]
    rfl

/-! ## The rate of connections -/

private theorem probeInfo_plain : (probeInfo 0).Plain ∧ (probeInfo 0).lruBypass = false ∧
    (probeInfo 2).Plain ∧ (probeInfo 2).lruBypass = true :=
  ⟨⟨rfl, rfl, rfl, rfl⟩, rfl, ⟨rfl, rfl, rfl, rfl⟩, rfl⟩

/-- The table in which a probe looks. -/
def probeTable (cfg : BpfConfig) (cpu : Nat) : Option Nat :=
  if cpu < cfg.maxSupportedCpus then some cpu else none

private theorem lruMapOf_probe (cfg : BpfConfig) (flags : UInt32) (slot marked cpu : Nat) :
    lruMapOf cfg (probeMaps flags slot marked) cpu = probeTable cfg cpu := by
  unfold lruMapOf probeTable
  congr 1
  simp only [probeMaps, ConfigMaps.fresh, and_true]

/-- A state in which there are too many connections is told apart from one in which there
are not: a connection that is opened is recorded only in the second. -/
theorem flood_distinguished (sane : cfg.Sane) (calm : (isUnderFlood cfg cpu now first).1 = false)
    (flooded : (isUnderFlood cfg cpu now second).1 = true) :
    ∃ packets, forwarded cfg first packets ≠ forwarded cfg second packets := by
  obtain ⟨plain, used, _⟩ := probeInfo_plain
  have enough := sane.reals
  -- the real that is recorded is not that of the old entry
  obtain ⟨slot, known, different⟩ : ∃ slot < 2,
      ∀ entry, second.lru (probeTable cfg cpu) connection = some entry → entry.pos ≠ slot := by
    cases old : second.lru (probeTable cfg cpu) connection with
    | none => exact ⟨0, by decide, nofun⟩
    | some entry =>
        by_cases zero : entry.pos = 0
        · refine ⟨1, by decide, ?_⟩
          intro other found
          obtain rfl := Option.some.inj found
          omega
        · refine ⟨0, by decide, ?_⟩
          intro other found
          obtain rfl := Option.some.inj found
          exact zero
  have inside : slot < cfg.maxReals := by omega
  have otherInside : 1 - slot < cfg.maxReals := by omega
  have opened := (probe_opens sane plain inside slot cpu now first).1
  have ignored := (probe_opens sane plain inside slot cpu now second).1
  rw [calm, lruMapOf_probe] at opened
  rw [flooded, lruMapOf_probe] at ignored
  have recorded : ((probe 0 slot slot cpu now true).outcome cfg first).flow.lru
      (probeTable cfg cpu) connection = some ⟨slot, 0⟩ := by
    rw [opened]
    exact store_self
  have kept : ((probe 0 slot slot cpu now true).outcome cfg second).flow.lru = second.lru := ignored
  have left := probe_continues sane plain used otherInside slot cpu now
    ((probe 0 slot slot cpu now true).outcome cfg first).flow
  have right := probe_continues sane plain used otherInside slot cpu now
    ((probe 0 slot slot cpu now true).outcome cfg second).flow
  dsimp only at left right
  rw [lruMapOf_probe, recorded, entryPos, if_pos inside] at left
  rw [lruMapOf_probe, kept] at right
  have elsewhere : entryPos cfg (second.lru (probeTable cfg cpu) connection) (1 - slot) ≠ slot := by
    unfold entryPos
    split
    next entry found =>
      split
      · exact different entry found
      · omega
    next => omega
  refine ⟨[probe 0 slot slot cpu now true, probe 0 (1 - slot) slot cpu now false], ?_⟩
  intro equal
  have last := (List.cons.inj (List.cons.inj equal).2).1
  rw [left, right] at last
  have marks := congrArg RealDefinition.dstv6 (Option.some.inj last)
  simp only [probeMaps, ↓reduceIte, elsewhere] at marks
  exact absurd marks (by decide)

/-- What a VIP that does not use the connection table leaves behind is only counted. -/
theorem probes_count (sane : cfg.Sane) (cpu : Nat) (now : UInt64) (flow : FlowMaps) (amount : Nat) :
    let last := afterAll cfg flow (List.replicate amount (probe 2 0 0 cpu now true))
    rate cfg last cpu = (countConn now)^[amount] (rate cfg flow cpu) := by
  have counted : ∀ before : FlowMaps,
      rate cfg ((probe 2 0 0 cpu now true).outcome cfg before).flow cpu =
        countConn now (rate cfg before cpu) := fun before =>
    (probe_opens sane probeInfo_plain.2.2.1
      (Nat.lt_of_lt_of_le Nat.zero_lt_two sane.reals) 0 cpu now before).2
  dsimp only
  induction amount generalizing flow with
  | zero => rfl
  | succ amount ih =>
      rw [List.replicate_succ, Function.iterate_succ_apply, ← counted]
      exact ih _

/-- While the second lasts, connections are added up. -/
theorem countConn_iterate {stats : LbStats} (soon : ¬ now - stats.v2 > oneSec) (amount : Nat) :
    (countConn now)^[amount] stats = { stats with v1 := stats.v1 + amount.toUInt64 } := by
  induction amount with
  | zero => simp
  | succ amount ih =>
      rw [Function.iterate_succ_apply', ih, countConn, if_neg soon, LbStats.addV1]
      simp [UInt64.add_assoc]

/-- Two numbers of connections next to each other are, after some more connections, on the
two sides of the limit. -/
theorem exists_crossing (limit start : UInt64) (bounded : limit.toNat < 2 ^ 64 - 1) :
    ∃ amount : Nat, decide (start + amount.toUInt64 + 1 > limit) ≠
      decide (start + 1 + amount.toUInt64 + 1 > limit) := by
  by_contra none
  have equal : ∀ amount : Nat, decide (start + amount.toUInt64 + 1 > limit) =
      decide (start + 1 + amount.toUInt64 + 1 > limit) := by
    intro amount
    by_contra different
    exact none ⟨amount, different⟩
  have constant : ∀ amount : Nat,
      decide (start + amount.toUInt64 + 1 > limit) = decide (start + 1 > limit) := by
    intro amount
    induction amount with
    | zero => simp
    | succ amount ih =>
        rw [← ih, equal amount]
        simp [UInt64.add_assoc, UInt64.add_comm]
  have low := constant (0 - 1 - start).toNat
  have high := constant (limit - start).toNat
  have zero : start + (0 - 1 - start) + 1 = 0 := by
    rw [add_sub_cancel, sub_add_cancel]
  have next : start + (limit - start) + 1 = limit + 1 := by
    rw [add_sub_cancel]
  rw [Nat.toUInt64_eq, UInt64.ofNat_toNat] at low high
  rw [zero] at low
  rw [next] at high
  rw [← low] at high
  have above : limit + 1 > limit := by
    rw [gt_iff_lt, UInt64.lt_iff_toNat_lt, UInt64.toNat_add]
    change limit.toNat < (limit.toNat + 1) % 2 ^ 64
    omega
  have below : ¬ (0 : UInt64) > limit := by
    rw [gt_iff_lt, UInt64.lt_iff_toNat_lt]
    exact Nat.not_lt_zero _
  rw [decide_eq_true above, decide_eq_false below] at high
  cases high

private theorem isUnderFlood_of_soon (sane : cfg.Sane)
    (soon : ¬ now - (rate cfg flow cpu).v2 > oneSec) :
    (isUnderFlood cfg cpu now flow).1 = decide ((rate cfg flow cpu).v1 + 1 > cfg.maxConnRate) := by
  have inside : cfg.maxVips + newConnRateCntr < cfg.statsMapSize := sane.counter (by decide)
  unfold isUnderFlood
  dsimp only
  rw [if_pos inside]
  exact congrArg Prod.fst (if_neg soon)

private theorem length_forwarded (cfg : BpfConfig) (flow : FlowMaps) (packets : List Later) :
    (forwarded cfg flow packets).length = packets.length := by
  induction packets generalizing flow with
  | nil => rfl
  | cons later packets ih => rw [forwarded, List.length_cons, ih, List.length_cons]

/-- States are told apart by packets before those that tell apart what is left. -/
theorem distinguished_after (probes : List Later)
    (after : ∃ packets, forwarded cfg (afterAll cfg first probes) packets ≠
      forwarded cfg (afterAll cfg second probes) packets) :
    ∃ packets, forwarded cfg first packets ≠ forwarded cfg second packets := by
  obtain ⟨packets, different⟩ := after
  refine ⟨probes ++ packets, ?_⟩
  intro equal
  rw [forwarded_append, forwarded_append] at equal
  refine different (List.append_inj_right equal ?_)
  rw [length_forwarded, length_forwarded]

/-- A state with one connection more, while the second lasts. -/
theorem one_more_distinguished (sane : cfg.Sane) (soon : ¬ now - (rate cfg first cpu).v2 > oneSec)
    (more : rate cfg second cpu = (rate cfg first cpu).addV1) :
    ∃ packets, forwarded cfg first packets ≠ forwarded cfg second packets := by
  obtain ⟨amount, crossing⟩ := exists_crossing cfg.maxConnRate (rate cfg first cpu).v1 sane.rate
  have left := probes_count sane cpu now first amount
  have right := probes_count sane cpu now second amount
  dsimp only at left right
  rw [countConn_iterate soon] at left
  have stillSoon : ¬ now - (rate cfg first cpu).addV1.v2 > oneSec := soon
  rw [more, countConn_iterate stillSoon] at right
  apply distinguished_after (List.replicate amount (probe 2 0 0 cpu now true))
  generalize afterAll cfg first (List.replicate amount (probe 2 0 0 cpu now true)) = one at left ⊢
  generalize afterAll cfg second (List.replicate amount (probe 2 0 0 cpu now true)) = other
    at right ⊢
  have leftSoon : ¬ now - (rate cfg one cpu).v2 > oneSec := by
    rw [left]
    exact soon
  have rightSoon : ¬ now - (rate cfg other cpu).v2 > oneSec := by
    rw [right]
    exact soon
  have leftFlood := isUnderFlood_of_soon sane leftSoon
  have rightFlood := isUnderFlood_of_soon sane rightSoon
  rw [left] at leftFlood
  rw [right] at rightFlood
  have different : (isUnderFlood cfg cpu now one).1 ≠ (isUnderFlood cfg cpu now other).1 := by
    rw [leftFlood, rightFlood]
    exact crossing
  cases calm : (isUnderFlood cfg cpu now one).1 with
  | false =>
      rw [calm] at different
      exact flood_distinguished sane calm
        (Bool.eq_true_of_not_eq_false fun same => different same.symm)
  | true =>
      rw [calm] at different
      have otherCalm : (isUnderFlood cfg cpu now other).1 = false :=
        Bool.eq_false_of_not_eq_true fun same => different same.symm
      obtain ⟨packets, unequal⟩ := flood_distinguished sane otherCalm calm
      exact ⟨packets, unequal.symm⟩

/-- A state in which one more connection has been counted is told apart. -/
theorem counted_distinguished (sane : cfg.Sane)
    (counted : rate cfg second cpu = countConn now (rate cfg first cpu)) :
    ∃ packets, forwarded cfg first packets ≠ forwarded cfg second packets := by
  by_cases late : now - (rate cfg first cpu).v2 > oneSec
  · -- another connection at the same time starts the second anew in both states
    rw [countConn, if_pos late] at counted
    have left := probes_count sane cpu now first 1
    have right := probes_count sane cpu now second 1
    dsimp only at left right
    rw [Function.iterate_one, countConn, if_pos late] at left
    have fresh : ¬ now - (rate cfg second cpu).v2 > oneSec := by
      rw [counted, UInt64.sub_self]
      decide
    rw [Function.iterate_one, countConn, if_neg fresh, counted] at right
    apply distinguished_after (List.replicate 1 (probe 2 0 0 cpu now true))
    generalize afterAll cfg first (List.replicate 1 (probe 2 0 0 cpu now true)) = one at left ⊢
    generalize afterAll cfg second (List.replicate 1 (probe 2 0 0 cpu now true)) = other at right ⊢
    have soon : ¬ now - (rate cfg one cpu).v2 > oneSec := by
      rw [left, UInt64.sub_self]
      decide
    refine one_more_distinguished sane soon ?_
    rw [left, right]
  · rw [countConn, if_neg late] at counted
    exact one_more_distinguished sane late counted

/-! ## The time of an entry -/

/-- A time at which an entry has expired that, refreshed, has not. -/
theorem expired_unless_refreshed {entry : RealPosLru} {proto : UInt8} (sane : cfg.Sane)
    (udp : proto = ipprotoUdp) (fresh : lruExpired cfg now proto entry = false)
    (stale : entry.atime ≠ now) :
    lruExpired cfg (entry.atime + cfg.lruUdpTimeout + 1) proto entry = true ∧
      lruExpired cfg (entry.atime + cfg.lruUdpTimeout + 1) proto { entry with atime := now } =
        false := by
  have bounded := sane.timeout
  have passed : entry.atime + cfg.lruUdpTimeout + 1 - entry.atime = cfg.lruUdpTimeout + 1 := by
    rw [UInt64.add_assoc, add_sub_cancel_left]
  have left : entry.atime + cfg.lruUdpTimeout + 1 - now =
      cfg.lruUdpTimeout + 1 - (now - entry.atime) := by
    rw [UInt64.add_assoc, sub_sub_eq_add_sub, add_comm]
  have age : (now - entry.atime).toNat ≤ cfg.lruUdpTimeout.toNat := by
    rw [lruExpired, decide_eq_false_iff_not] at fresh
    by_contra older
    refine fresh ⟨udp, ?_⟩
    rw [gt_iff_lt, UInt64.lt_iff_toNat_lt]
    omega
  have aged : (now - entry.atime).toNat ≠ 0 := by
    intro zero
    apply stale
    have same : now - entry.atime = 0 := UInt64.toNat_inj.mp zero
    exact (sub_eq_zero.mp same).symm
  have limit : (cfg.lruUdpTimeout + 1).toNat = cfg.lruUdpTimeout.toNat + 1 := by
    rw [UInt64.toNat_add]
    change (cfg.lruUdpTimeout.toNat + 1) % 2 ^ 64 = _
    omega
  constructor
  · rw [lruExpired, decide_eq_true_eq]
    refine ⟨udp, ?_⟩
    rw [passed, gt_iff_lt, UInt64.lt_iff_toNat_lt, limit]
    omega
  · rw [lruExpired, decide_eq_false_iff_not]
    rintro ⟨_, older⟩
    rw [left, gt_iff_lt, UInt64.lt_iff_toNat_lt, UInt64.toNat_sub_of_le, limit] at older
    · omega
    · rw [UInt64.le_iff_toNat_le, limit]
      omega

/-- The rings of all VIPs have the same real, which has an address of its own, and no source
is routed. -/
def ConfigMaps.pointedAt (maps : ConfigMaps) (slot : Nat) : ConfigMaps :=
  { maps with
    chRings := fun _ => slot
    reals := fun num => { dstv6 := .ofV4 (if num = slot then 1 else 2) }
    lpmSrcV4 := fun _ => none
    lpmSrcV6 := fun _ => none }

section Refreshed

variable {maps : ConfigMaps} {env : PacketEnv} {xdp : XdpMd} {pckt described : PacketDescription}
  {pktBytes : UInt16} {vip : VipDefinition} {info : VipMeta} {entry : RealPosLru}

private theorem routedReal_pointedAt (maps : ConfigMaps) (slot : Nat) (isIpv6 underFlood : Bool)
    (info : VipMeta) (key : FlowKey) :
    routedReal cfg (maps.pointedAt slot) isIpv6 underFlood info key = none := by
  have empty : ∀ bits, LpmTrie.lookup (fun _ => none) bits = none := by
    intro bits
    rw [LpmTrie.lookup, List.findSome?_eq_none_iff]
    exact fun _ _ => rfl
  unfold routedReal lpmSrcLookup
  split
  · split
    · exact empty _
    · exact empty _
  · rfl

/-- The packet again, when an entry has expired. -/
def lateAgain (cfg : BpfConfig) (maps : ConfigMaps) (env : PacketEnv) (xdp : XdpMd)
    (entry : RealPosLru) (slot : Nat) : Later where
  maps := maps.pointedAt slot
  env := { env with lookupTime := entry.atime + cfg.lruUdpTimeout + 1 }
  tailCalls := 0
  xdp := { headroom := List.replicate 48 0, data := xdp.data }

/-- A state in which the entry of a flow has been refreshed is told apart by the flow's next
packet, if this comes so late that the entry would have expired. -/
theorem refreshed_distinguished (sane : cfg.Sane) (below : VipNumsBelow cfg maps)
    (ip : xdp.IsIp) (parsed : describe cfg xdp.frameIpv6 xdp.data = some (pckt, pktBytes))
    (found : lookupVip maps xdp.frameIpv6 pckt = some (vip, info, described))
    (fits : xdp.data.length ≤ cfg.maxPcktSize)
    (unrouted : quicRouted cfg xdp.frameIpv6 xdp.data info described = false)
    (hits : Hits cfg env (lruMapOf cfg maps env.cpu) info (lruPckt info described) first.lru entry)
    (udp : described.flow.proto = ipprotoUdp) (stale : entry.atime ≠ env.lookupTime)
    (refreshed : second.lru (lruMapOf cfg maps env.cpu) (lruPckt info described).flow =
      some { entry with atime := env.lookupTime }) :
    ∃ packets, forwarded cfg first packets ≠ forwarded cfg second packets := by
  have enough := sane.reals
  obtain ⟨slot, known, different⟩ : ∃ slot < 2, entry.pos ≠ slot := by
    by_cases zero : entry.pos = 0
    · exact ⟨1, by decide, by omega⟩
    · exact ⟨0, by decide, zero⟩
  have inside : slot < cfg.maxReals := by omega
  have number : info.vipNum < cfg.maxVips := below vip info (lookupVip_spec found).2.1
  have counted : info.vipNum < cfg.statsMapSize := by
    unfold BpfConfig.statsMapSize
    omega
  obtain ⟨expired, fresh⟩ :=
    expired_unless_refreshed sane ((lruPckt_proto info described).trans udp)
    hits.fresh stale
  let later := lateAgain cfg maps env xdp entry slot
  have present := sane.present later.maps later.env.cpu
  have room : 48 ≤ later.xdp.headroom.length := Nat.le_of_eq List.length_replicate.symm
  have laterBelow : VipNumsBelow cfg later.maps := below
  have laterIp : later.xdp.IsIp := ip
  have balanced := fun flow => (balancerIngress_balanced laterBelow later.env 0 flow laterIp parsed
    found fits).1
  have misses : ∀ other, ¬ Hits cfg later.env (lruMapOf cfg later.maps later.env.cpu) info
      (lruPckt info described) first.lru other := by
    intro other live
    obtain rfl := Option.some.inj (hits.found.symm.trans live.found)
    cases expired.symm.trans live.fresh
  have live : Hits cfg later.env (lruMapOf cfg later.maps later.env.cpu) info
      (lruPckt info described) second.lru { entry with atime := env.lookupTime } :=
    ⟨hits.established, hits.used, refreshed, fresh, hits.known⟩
  have left := (balanced first).sends _ ((balanced first).decision.of_picks unrouted present
    (sane.counter (by decide)) misses
    (pickDst_ring sane number (routedReal_pointedAt maps slot _ _ info _)) inside)
    room counted inside
  have right := (balanced second).sends _ ((balanced second).decision.of_hits unrouted present
    live).1 room counted hits.known
  refine ⟨[later], ?_⟩
  intro equal
  have last : (balancerIngress cfg later.maps later.env 0 later.xdp first).sent.map (·.dst) =
      (balancerIngress cfg later.maps later.env 0 later.xdp second).sent.map (·.dst) :=
    (List.cons.inj equal).1
  rw [left, right] at last
  have marks := congrArg RealDefinition.dstv6 (Option.some.inj last)
  simp only [later, lateAgain, ConfigMaps.pointedAt, ↓reduceIte, different] at marks
  exact absurd marks (by decide)

end Refreshed

/-! ## Full abstraction -/

/-- Maps that are alike have the same connections. -/
theorem Alike.sameConnections (alike : Alike cfg first second) : SameConnections first second := by
  intro place key
  rw [alike.lru]
  exact ⟨rfl, fun _ => rfl⟩

/-- A frame that is balanced and leaves a trace is told apart from none. -/
theorem balanced_distinguished {maps : ConfigMaps} {env : PacketEnv} {xdp : XdpMd}
    {pckt described : PacketDescription} {pktBytes : UInt16} {vip : VipDefinition} {info : VipMeta}
    (sane : cfg.Sane) (below : VipNumsBelow cfg maps) (ip : xdp.IsIp)
    (parsed : describe cfg xdp.frameIpv6 xdp.data = some (pckt, pktBytes))
    (found : lookupVip maps xdp.frameIpv6 pckt = some (vip, info, described))
    (fits : xdp.data.length ≤ cfg.maxPcktSize)
    (unrouted : quicRouted cfg xdp.frameIpv6 xdp.data info described = false)
    (stale : ∀ entry,
      Hits cfg env (lruMapOf cfg maps env.cpu) info (lruPckt info described) flow.lru
      entry → described.flow.proto = ipprotoUdp ∧ entry.atime ≠ env.lookupTime) :
    ∃ packets, forwarded cfg flow packets ≠
      forwarded cfg (balancerIngress cfg maps env 0 xdp flow).flow packets := by
  obtain ⟨balanced, alike⟩ := balancerIngress_balanced below env 0 flow ip parsed found fits
  by_cases hit : ∃ entry,
      Hits cfg env (lruMapOf cfg maps env.cpu) info (lruPckt info described) flow.lru entry
  · obtain ⟨entry, hits⟩ := hit
    obtain ⟨udp, older⟩ := stale entry hits
    obtain ⟨_, lru⟩ := balanced.decision.of_hits unrouted (sane.present maps env.cpu) hits
    refine refreshed_distinguished sane below ip parsed found fits unrouted hits udp older ?_
    rw [lru, refreshedLru, if_pos ((lruPckt_proto info described).trans udp)]
    exact store_self
  · have counted := (chooseDst_rate sane maps env xdp.frameIpv6 xdp.data info described flow
      env.cpu).2 unrouted fun entry hits => hit ⟨entry, hits⟩
    rw [rate_isUnderFlood sane, if_pos rfl, alike.rate env.cpu] at counted
    exact counted_distinguished sane counted

/-- Later packets are forwarded as if a frame had not been there exactly if the frame leaves
no trace. -/
theorem forwarded_eq_iff_traceless {maps : ConfigMaps} (sane : cfg.Sane)
    (below : VipNumsBelow cfg maps) (env : PacketEnv) (tailCalls : Nat) (xdp : XdpMd)
    (flow : FlowMaps) :
    (∀ packets, forwarded cfg flow packets =
        forwarded cfg (balancerIngress cfg maps env tailCalls xdp flow).flow packets) ↔
      Traceless cfg maps env (innermost cfg maps env.cpu tailCalls xdp flow) flow := by
  constructor
  · intro indistinct
    obtain ⟨counted, alike, same⟩ := balancerIngress_innermost below env tailCalls xdp flow
    rw [same] at indistinct
    generalize innermost cfg maps env.cpu tailCalls xdp flow = last at indistinct ⊢
    intro pckt pktBytes vip info described ip parsed found fits
    by_contra trace
    rw [not_or, Bool.not_eq_true] at trace
    have stale : ∀ entry, Hits cfg env (lruMapOf cfg maps env.cpu) info (lruPckt info described)
        counted.lru entry → described.flow.proto = ipprotoUdp ∧ entry.atime ≠ env.lookupTime := by
      intro entry hits
      rw [← alike.lru] at hits
      by_contra fresh
      refine trace.2 ⟨entry, hits, fun udp => ?_⟩
      by_contra older
      exact fresh ⟨udp, older⟩
    obtain ⟨packets, different⟩ :=
      balanced_distinguished sane below ip parsed found fits trace.1 stale
    exact different ((forwarded_alike alike packets).symm.trans (indistinct packets))
  · intro traceless packets
    exact forwarded_alike ((balancerIngress_traceless_iff sane below env tailCalls xdp flow).mpr
      traceless) packets

end Katran
