import Katran.System.Static
import Mathlib.Algebra.BigOperators.Pi
import Mathlib.Data.UInt

/-! # Counters of VIPs and reals

A packet that is sent is counted at the end of `processPacket`, once for its VIP and
once for its real. Nothing before that touches these counters (`Uncharged`), and every
way of choosing a real looks the real up before it hands its index on, so the second
count cannot fail after the first has been made.
-/

namespace Katran

open Foundation

/-- No counter of a VIP or a real differs. The other counters of `stats` are behind
those of the VIPs. -/
structure Uncharged (cfg : BpfConfig) (cpu : Nat) (before after : FlowMaps) : Prop where
  vips : ∀ vip < cfg.maxVips, after.stats cpu vip = before.stats cpu vip
  reals : after.realsStats = before.realsStats

namespace Uncharged

variable {cfg : BpfConfig} {cpu : Nat} {first middle last : FlowMaps}

theorem refl (cfg : BpfConfig) (cpu : Nat) (flow : FlowMaps) : Uncharged cfg cpu flow flow :=
  ⟨fun _ _ => rfl, rfl⟩

private theorem trans (left : Uncharged cfg cpu first middle)
    (right : Uncharged cfg cpu middle last) :
    Uncharged cfg cpu first last where
  vips := fun vip below => (right.vips vip below).trans (left.vips vip below)
  reals := right.reals.trans left.reals

/-- A counter behind those of the VIPs. -/
theorem updateStats (flow : FlowMaps) (offset : Nat) (change : LbStats → LbStats) :
    Uncharged cfg cpu flow (flow.updateStats cpu (cfg.maxVips + offset) change) where
  vips := by
    intro vip below
    apply FlowMaps.updateStats_stats_of_ne
    omega
  reals := rfl

private theorem countStats {flow counted : FlowMaps} {offset : Nat} {change : LbStats → LbStats}
    (counting : Katran.countStats cfg cpu (cfg.maxVips + offset) change flow = some counted) :
    Uncharged cfg cpu flow counted := by
  obtain ⟨_, rfl⟩ := countStats_eq_some.mp counting
  exact updateStats flow offset change

end Uncharged

/-- What a way of choosing a real does: it charges nothing, and the index it hands on is
that of a real. -/
structure Chooses (cfg : BpfConfig) (cpu : Nat) (flow : FlowMaps)
    (result : Option Chosen × FlowMaps) : Prop where
  uncharged : Uncharged cfg cpu flow result.2
  known : ∀ chosen, result.1 = some chosen → chosen.pckt.realIndex < cfg.maxReals

namespace Chooses

variable {cfg : BpfConfig} {cpu : Nat} {flow later : FlowMaps} {result : Option Chosen × FlowMaps}

/-- No real is chosen. -/
theorem none (uncharged : Uncharged cfg cpu flow later) :
    Chooses cfg cpu flow (Option.none, later) where
  uncharged := uncharged
  known := by
    intro chosen wrong
    cases wrong

private theorem after (uncharged : Uncharged cfg cpu flow later)
    (chooses : Chooses cfg cpu later result) :
    Chooses cfg cpu flow result where
  uncharged := uncharged.trans chooses.uncharged
  known := chooses.known

private theorem recordDst (cfg : BpfConfig) (maps : ConfigMaps) (cpu : Nat) (lruMap : Option Nat)
    (curTime : UInt64) (underFlood : Bool) (info : VipMeta) (pckt : PacketDescription) (key : Nat)
    (flow : FlowMaps) :
    Chooses cfg cpu flow
      (Katran.recordDst cfg maps lruMap curTime underFlood info pckt key flow) := by
  unfold Katran.recordDst realsLookup
  by_cases inside : key < cfg.maxReals
  · rw [if_pos inside]
    refine ⟨?_, ?_⟩
    · dsimp only
      split
      · exact ⟨fun _ _ => rfl, rfl⟩
      · exact .refl cfg cpu flow
    · intro chosen same
      obtain rfl := Option.some.inj same
      exact inside
  · rw [if_neg inside]
    exact .none (.refl cfg cpu flow)

private theorem getPacketDst (cfg : BpfConfig) (maps : ConfigMaps) (env : PacketEnv) (isIpv6 : Bool)
    (lruMap : Option Nat) (info : VipMeta) (pckt : PacketDescription) (flow : FlowMaps) :
    Chooses cfg env.cpu flow
      (Katran.getPacketDst cfg maps env isIpv6 lruMap info pckt flow) := by
  have flood : Uncharged cfg env.cpu flow (isUnderFlood cfg env.cpu env.floodTime flow).2 := by
    unfold isUnderFlood
    dsimp only
    split
    · split
      · dsimp only
        exact .updateStats flow newConnRateCntr _
      · dsimp only
        exact .updateStats flow newConnRateCntr _
    · exact .refl cfg env.cpu flow
  have route : ∀ underFlood before, Uncharged cfg env.cpu before
      (srcRoute cfg maps env.cpu isIpv6 underFlood info pckt before).2 := by
    intro underFlood before
    unfold srcRoute countStats
    split
    · dsimp only
      split
      · exact .updateStats before lpmSrcCntrs _
      · exact .refl cfg env.cpu before
    · exact .refl cfg env.cpu before
  apply Chooses.after (flood.trans (route (isUnderFlood cfg env.cpu env.floodTime flow).1 _))
  unfold Katran.getPacketDst
  dsimp only
  split
  · exact .recordDst ..
  · split
    · exact .none (.refl ..)
    · exact .recordDst ..

private theorem lookupDst (cfg : BpfConfig) (maps : ConfigMaps) (env : PacketEnv)
    (lruMap : Option Nat) (info : VipMeta) (pckt : PacketDescription) (flow : FlowMaps) :
    Chooses cfg env.cpu flow (Katran.lookupDst cfg maps env lruMap info pckt flow) := by
  unfold Katran.lookupDst connectionTableLookup realsLookup
  split
  · split
    · exact .none (.refl cfg env.cpu flow)
    next entry _ =>
      split
      · exact .none (.refl cfg env.cpu flow)
      · refine ⟨?_, ?_⟩
        · dsimp only
          split
          · exact ⟨fun _ _ => rfl, rfl⟩
          · exact .refl cfg env.cpu flow
        · intro chosen same
          dsimp only at same
          split at same
          next inside =>
            obtain rfl := Option.some.inj same
            exact inside
          next => cases same
  · exact .none (.refl cfg env.cpu flow)

private theorem missDst (cfg : BpfConfig) (maps : ConfigMaps) (env : PacketEnv) (isIpv6 : Bool)
    (lruMap : Option Nat) (info : VipMeta) (pckt : PacketDescription) (flow : FlowMaps) :
    Chooses cfg env.cpu flow (Katran.missDst cfg maps env isIpv6 lruMap info pckt flow) := by
  unfold Katran.missDst
  split
  · exact .none (.refl cfg env.cpu flow)
  next counted counting =>
    have uncharged : Uncharged cfg env.cpu flow counted := by
      unfold countMiss at counting
      split at counting
      · exact .countStats counting
      · obtain rfl := Option.some.inj counting
        exact .refl cfg env.cpu flow
    have picks := getPacketDst cfg maps env isIpv6 lruMap info pckt counted
    split
    next later returned =>
      rw [returned] at picks
      exact .none (uncharged.trans picks.uncharged)
    next chosen later returned =>
      rw [returned] at picks
      refine ⟨(uncharged.trans picks.uncharged).trans (.updateStats later lruCntrs _), ?_⟩
      intro other same
      exact picks.known other same

private theorem lruDst (cfg : BpfConfig) (maps : ConfigMaps) (env : PacketEnv) (isIpv6 : Bool)
    (info : VipMeta) (pckt : PacketDescription) (flow : FlowMaps) :
    Chooses cfg env.cpu flow (Katran.lruDst cfg maps env isIpv6 info pckt flow) := by
  unfold Katran.lruDst
  dsimp only
  split
  · exact .none (.refl cfg env.cpu flow)
  next counted counting =>
    have uncharged : Uncharged cfg env.cpu flow counted := by
      unfold countFallback at counting
      split at counting
      · exact .countStats counting
      · obtain rfl := Option.some.inj counting
        exact .refl cfg env.cpu flow
    have looks :=
      lookupDst cfg maps env (lruMapOf cfg maps env.cpu) info (lruPckt info pckt) counted
    apply Chooses.after uncharged
    split
    next chosen later returned =>
      rw [returned] at looks
      exact looks
    next later returned =>
      rw [returned] at looks
      exact .after looks.uncharged (.missDst ..)

/-- The choice of a real charges nobody. -/
theorem chooseDst (cfg : BpfConfig) (maps : ConfigMaps) (env : PacketEnv) (isIpv6 : Bool)
    (data : List UInt8) (info : VipMeta) (pckt : PacketDescription) (flow : FlowMaps) :
    Chooses cfg env.cpu flow (Katran.chooseDst cfg maps env isIpv6 data info pckt flow) := by
  unfold Katran.chooseDst
  split
  · exact .none (.refl cfg env.cpu flow)
  next counted counting =>
    apply Chooses.after (.countStats counting)
    split
    · have byId : Uncharged cfg env.cpu counted
          (quicDst cfg maps env.cpu isIpv6 data pckt counted).2 := by
        rcases quicDst_counts cfg maps env.cpu isIpv6 data pckt counted with same | ⟨change, same⟩
        · rw [same]
          exact .refl cfg env.cpu counted
        · rw [same]
          exact .updateStats counted quicRouteStats change
      have known : ∀ chosen,
          (quicDst cfg maps env.cpu isIpv6 data pckt counted).1 = some (some chosen) →
            chosen.pckt.realIndex < cfg.maxReals := by
        intro chosen same
        unfold quicDst realsLookup at same
        dsimp only at same
        split at same
        · split at same
          · split at same
            · split at same
              next => cases same
              next dst looked =>
                cases same
                split at looked
                next inside => exact inside
                next => cases looked
            · cases same
          · cases same
        · cases same
      split
      next later returned =>
        rw [returned] at byId
        exact .none byId
      next chosen later returned =>
        rw [returned] at byId known
        refine ⟨byId, ?_⟩
        intro other same
        obtain rfl := Option.some.inj same
        exact known chosen rfl
      next later returned =>
        rw [returned] at byId
        exact .after byId (.lruDst ..)
    · exact .lruDst ..

end Chooses

/-! ## What a packet is charged to -/

/-- One packet of some bytes is charged to a VIP and to a real, or none is. -/
def Charged (cfg : BpfConfig) (cpu : Nat) (before after : FlowMaps) :
    (charge : Option (Nat × Nat)) → (pktBytes : UInt16) → Prop
  | none, _ => Uncharged cfg cpu before after
  | some (vip, real), pktBytes => vip < cfg.maxVips ∧ real < cfg.maxReals ∧
      ∃ middle, Uncharged cfg cpu before middle ∧
        after = (middle.updateStats cpu vip (LbStats.addPacket pktBytes)).updateRealsStats cpu real
          (LbStats.addPacket pktBytes)

/-- The VIP and the real to which a packet is sent. -/
def Outcome.charge (outcome : Outcome) : Option (Nat × Nat) :=
  outcome.sent.map fun sent => (sent.info.vipNum, sent.pckt.realIndex)

/-- The numbers of VIPs in `vip_map` are in range. -/
def VipNumsBelow (cfg : BpfConfig) (maps : ConfigMaps) : Prop :=
  ∀ vip info, maps.vipMap vip = some info → info.vipNum < cfg.maxVips

variable {cfg : BpfConfig} {maps : ConfigMaps} {env : PacketEnv} {cpu : Nat} {flow : FlowMaps}

/-- What charges nobody before a packet is charged makes no difference. -/
theorem Charged.after {before middle after : FlowMaps} {charge : Option (Nat × Nat)}
    {pktBytes : UInt16} (uncharged : Uncharged cfg cpu before middle)
    (charged : Charged cfg cpu middle after charge pktBytes) :
    Charged cfg cpu before after charge pktBytes := by
  cases charge with
  | none => exact uncharged.trans charged
  | some charge =>
      obtain ⟨vip, real, later, rest, same⟩ := charged
      exact ⟨vip, real, later, uncharged.trans rest, same⟩

/-- A packet for a real is wrapped and charged, or it is dropped. -/
theorem sendToReal_charged (isIpv6 : Bool) (vip : VipDefinition) {info : VipMeta}
    (pktBytes : UInt16) {chosen : Chosen} (xdp : XdpMd) (flow : FlowMaps)
    (number : info.vipNum < cfg.maxVips) (known : chosen.pckt.realIndex < cfg.maxReals) :
    let outcome := sendToReal cfg maps cpu isIpv6 vip info pktBytes chosen xdp flow
    Charged cfg cpu flow outcome.flow outcome.charge pktBytes ∧
      (outcome.sent.isSome ↔
        (pcktEncap cfg maps isIpv6 chosen.pckt chosen.dst pktBytes xdp).isSome) := by
  have inside : info.vipNum < cfg.statsMapSize := by
    unfold BpfConfig.statsMapSize
    omega
  unfold sendToReal countStats
  dsimp only
  cases pcktEncap cfg maps isIpv6 chosen.pckt chosen.dst pktBytes xdp with
  | none => exact ⟨.refl cfg cpu flow, Iff.rfl⟩
  | some wrapped =>
      simp only [inside, known, ↓reduceIte, Option.isSome_some, iff_self, and_true]
      exact ⟨number, known, flow, .refl cfg cpu flow, rfl⟩

/-- A packet that is too big charges nobody, and is not sent. -/
theorem processTooBig_uncharged (isIpv6 : Bool) (xdp : XdpMd) (flow : FlowMaps) :
    Uncharged cfg env.cpu flow (processTooBig cfg env isIpv6 xdp flow).flow ∧
      (processTooBig cfg env isIpv6 xdp flow).sent = none := by
  unfold processTooBig
  split
  · split
    next => exact ⟨.refl cfg env.cpu flow, rfl⟩
    next counted counting => exact ⟨.countStats counting, rfl⟩
  · exact ⟨.refl cfg env.cpu flow, rfl⟩

/-- A packet that is decided about before its VIP is known charges nobody. -/
theorem parsePacket_uncharged {isIpv6 : Bool} {xdp final : XdpMd} {later : FlowMaps}
    {verdict : Verdict}
    (parsed : parsePacket cfg maps cpu isIpv6 xdp flow = .final verdict final later) :
    Uncharged cfg cpu flow later := by
  have tunnel : ∀ pckt decap, processTunnel cfg maps cpu isIpv6 pckt decap xdp flow =
      .final verdict final later → Uncharged cfg cpu flow later := by
    intro pckt decap ended
    have counts : Uncharged cfg cpu flow (checkDecapDst cfg maps cpu isIpv6 pckt flow).2 := by
      unfold checkDecapDst
      split
      · split
        next => exact .refl cfg cpu flow
        next counted counting => exact .countStats counting
      · exact .refl cfg cpu flow
    unfold processTunnel at ended
    split at ended
    next returned =>
      rw [returned] at counts
      cases ended
      exact counts
    next returned =>
      rw [returned] at counts
      cases ended
      exact counts
  unfold parsePacket at parsed
  split at parsed
  next =>
    cases parsed
    exact .refl cfg cpu flow
  next =>
    dsimp only at parsed
    split at parsed
    · exact tunnel _ _ parsed
    · split at parsed
      · split at parsed
        next =>
          cases parsed
          exact .refl cfg cpu flow
        next => cases parsed
      · split at parsed
        · split at parsed
          next =>
            cases parsed
            exact .refl cfg cpu flow
          next =>
            split at parsed
            · exact tunnel _ _ parsed
            · cases parsed
        · cases parsed
          exact .refl cfg cpu flow

/-- The packet is wrapped for a real. -/
def Wraps (cfg : BpfConfig) (maps : ConfigMaps) (env : PacketEnv) (isIpv6 : Bool) (xdp : XdpMd)
    (flow : FlowMaps) : Prop :=
  ∃ pckt pktBytes vip info described chosen wrapped,
    describe cfg isIpv6 xdp.data = some (pckt, pktBytes) ∧
    lookupVip maps isIpv6 pckt = some (vip, info, described) ∧
    xdp.data.length ≤ cfg.maxPcktSize ∧
    (chooseDst cfg maps env isIpv6 xdp.data info described flow).1 = some chosen ∧
    pcktEncap cfg maps isIpv6 chosen.pckt chosen.dst pktBytes xdp = some wrapped

private theorem balancePacket_charged (below : VipNumsBelow cfg maps) {isIpv6 : Bool} {xdp : XdpMd}
    {pckt : PacketDescription} {pktBytes : UInt16}
    (parsed : describe cfg isIpv6 xdp.data = some (pckt, pktBytes)) (flow : FlowMaps) :
    let outcome := balancePacket cfg maps env isIpv6 pckt pktBytes xdp flow
    Charged cfg env.cpu flow outcome.flow outcome.charge pktBytes ∧
      (outcome.sent.isSome ↔ Wraps cfg maps env isIpv6 xdp flow) := by
  have unwrapped : ∀ {outcome : Outcome}, outcome.sent = none →
      (∀ vip info described chosen, lookupVip maps isIpv6 pckt = some (vip, info, described) →
        xdp.data.length ≤ cfg.maxPcktSize →
        (chooseDst cfg maps env isIpv6 xdp.data info described flow).1 = some chosen → False) →
      (outcome.sent.isSome ↔ Wraps cfg maps env isIpv6 xdp flow) := by
    intro outcome unsent never
    rw [unsent]
    refine ⟨nofun, ?_⟩
    rintro ⟨other, bytes, vip, info, described, chosen, _, same, found, fits, chooses, _⟩
    obtain ⟨rfl, rfl⟩ := Prod.mk.inj (Option.some.inj (parsed.symm.trans same))
    exact (never vip info described chosen found fits chooses).elim
  unfold balancePacket
  dsimp only
  cases found : lookupVip maps isIpv6 pckt with
  | none =>
      refine ⟨.refl cfg env.cpu flow, unwrapped rfl ?_⟩
      intro _ _ _ _ wrong
      cases found.symm.trans wrong
  | some resolved =>
      obtain ⟨vip, info, described⟩ := resolved
      dsimp only
      by_cases big : xdp.data.length > cfg.maxPcktSize
      · rw [if_pos big]
        obtain ⟨uncharged, unsent⟩ := processTooBig_uncharged isIpv6 xdp flow
        refine ⟨?_, unwrapped unsent ?_⟩
        · rw [Outcome.charge, unsent]
          exact uncharged
        · intro _ _ _ _ _ fits
          exact absurd big (Nat.not_lt.mpr fits)
      · rw [if_neg big]
        have chooses := Chooses.chooseDst cfg maps env isIpv6 xdp.data info described flow
        cases returned : chooseDst cfg maps env isIpv6 xdp.data info described flow with
        | mk decided later =>
            rw [returned] at chooses
            cases decided with
            | none =>
                refine ⟨chooses.uncharged, unwrapped rfl ?_⟩
                intro _ _ _ _ same _ wrong
                obtain ⟨rfl, rfl, rfl⟩ := Option.some.inj (found.symm.trans same)
                rw [returned] at wrong
                cases wrong
            | some chosen =>
                obtain ⟨charged, wraps⟩ := sendToReal_charged isIpv6 vip pktBytes xdp later
                  (below vip info (lookupVip_spec found).2.1) (chooses.known chosen rfl)
                refine ⟨charged.after chooses.uncharged, wraps.trans ?_⟩
                rw [Option.isSome_iff_exists]
                constructor
                · rintro ⟨wrapped, encapsulated⟩
                  exact ⟨pckt, pktBytes, vip, info, described, chosen, wrapped, parsed, found,
                    Nat.le_of_not_lt big, by rw [returned], encapsulated⟩
                · rintro ⟨_, _, _, _, _, _, wrapped, same, sameVip, _, chose, encapsulated⟩
                  obtain ⟨rfl, rfl⟩ := Prod.mk.inj (Option.some.inj (parsed.symm.trans same))
                  obtain ⟨rfl, rfl, rfl⟩ := Option.some.inj (found.symm.trans sameVip)
                  rw [returned] at chose
                  obtain rfl := Option.some.inj chose
                  exact ⟨wrapped, encapsulated⟩

/-- A packet is charged to the VIP and the real to which it is sent, and it is sent if it
is wrapped. -/
theorem processPacket_charged (below : VipNumsBelow cfg maps) (env : PacketEnv) (isIpv6 : Bool)
    (xdp : XdpMd) (flow : FlowMaps) :
    let outcome := processPacket cfg maps env isIpv6 xdp flow
    (∃ pktBytes, Charged cfg env.cpu flow outcome.flow outcome.charge pktBytes) ∧
      (outcome.sent.isSome ↔ Wraps cfg maps env isIpv6 xdp flow) := by
  unfold processPacket
  dsimp only
  rcases parsePacket_spec cfg maps env.cpu isIpv6 xdp flow with
    ⟨pckt, pktBytes, described, parsed⟩ | ⟨undescribed, verdict, final, later, parsed, _⟩
  · obtain ⟨charged, wraps⟩ := balancePacket_charged below described flow
    rw [parsed]
    exact ⟨⟨pktBytes, charged⟩, wraps⟩
  · rw [parsed]
    refine ⟨⟨0, parsePacket_uncharged parsed⟩, nofun, ?_⟩
    rintro ⟨_, _, _, _, _, _, _, described, _⟩
    cases undescribed.symm.trans described

/-- A packet that is sent leaves. -/
theorem processPacket_verdict (cfg : BpfConfig) (maps : ConfigMaps) (env : PacketEnv)
    (isIpv6 : Bool) (xdp : XdpMd) (flow : FlowMaps) :
    let outcome := processPacket cfg maps env isIpv6 xdp flow
    outcome.sent = none ∨ outcome.verdict = .tx := by
  unfold processPacket
  dsimp only
  split
  · exact .inl rfl
  · unfold balancePacket
    split
    · exact .inl rfl
    · split
      · exact .inl (processTooBig_uncharged isIpv6 xdp flow).2
      · split
        · exact .inl rfl
        · unfold sendToReal
          split
          · exact .inl rfl
          · split
            · exact .inl rfl
            · split
              · exact .inr rfl
              · exact .inl rfl

/-- The same with recirculation: only the last time that the packet is processed it may
be charged. -/
theorem balancerIngress_charged (below : VipNumsBelow cfg maps) (env : PacketEnv) (tailCalls : Nat)
    (xdp : XdpMd) (flow : FlowMaps) :
    let outcome := balancerIngress cfg maps env tailCalls xdp flow
    ∃ pktBytes, Charged cfg env.cpu flow outcome.flow outcome.charge pktBytes := by
  dsimp only
  induction tailCalls generalizing xdp flow with
  | zero =>
      unfold balancerIngress
      split
      · exact ⟨0, .refl cfg env.cpu flow⟩
      · dsimp only
        split
        · have once := (processPacket_charged below env
            (Bytes.read16 xdp.data 12 = beEthPIpv6) xdp flow).1
          split
          next _ calls => cases calls
          next => exact once
          next => exact once
        · exact ⟨0, .refl cfg env.cpu flow⟩
  | succ tailCalls ih =>
      unfold balancerIngress
      split
      · exact ⟨0, .refl cfg env.cpu flow⟩
      · dsimp only
        split
        · have once := (processPacket_charged below env
            (Bytes.read16 xdp.data 12 = beEthPIpv6) xdp flow).1
          have leaves := processPacket_verdict cfg maps env
            (Bytes.read16 xdp.data 12 = beEthPIpv6) xdp flow
          dsimp only at leaves
          split
          next again calls =>
            obtain ⟨bytes, first⟩ := once
            have unsent := leaves.resolve_right (by rw [again]; nofun)
            rw [Outcome.charge, unsent] at first
            cases calls
            obtain ⟨pktBytes, rest⟩ := ih _ _
            exact ⟨pktBytes, rest.after first⟩
          · exact once
          · exact once
        · exact ⟨0, .refl cfg env.cpu flow⟩

/-! ## Totals -/

/-- Adding to one counter adds to the total. -/
theorem sum_update_add {Count : Type} [AddCommMonoid Count] (counters : Nat → Count)
    {key size : Nat} (inside : key < size) (more : Count) :
    ∑ index ∈ Finset.range size, Function.update counters key (counters key + more) index =
      (∑ index ∈ Finset.range size, counters index) + more := by
  have member : key ∈ Finset.range size := Finset.mem_range.mpr inside
  rw [Finset.sum_update_of_mem member, Finset.sum_eq_add_sum_sdiff_singleton_of_mem member counters]
  exact add_right_comm ..

namespace FlowMaps

/-- A counter of all VIPs on a core. -/
def vipTotal (cfg : BpfConfig) (cpu : Nat) (counter : LbStats → UInt64)
    (flow : FlowMaps) : UInt64 :=
  ∑ vip ∈ Finset.range cfg.maxVips, counter (flow.stats cpu vip)

/-- A counter of all reals on a core. -/
def realTotal (cfg : BpfConfig) (cpu : Nat) (counter : LbStats → UInt64)
    (flow : FlowMaps) : UInt64 :=
  ∑ real ∈ Finset.range cfg.maxReals, counter (flow.realsStats cpu real)

end FlowMaps

/-- A counter of an entry that is updated. -/
theorem sum_counter_update {counter : LbStats → UInt64} {change : LbStats → LbStats} {more : UInt64}
    (adds : ∀ stats, counter (change stats) = counter stats + more) (entries : Nat → LbStats)
    {key size : Nat} (inside : key < size) :
    ∑ index ∈ Finset.range size,
        counter (Function.update entries key (change (entries key)) index) =
      (∑ index ∈ Finset.range size, counter (entries index)) + more := by
  rw [← sum_update_add (fun index => counter (entries index)) inside more]
  apply Finset.sum_congr rfl
  intro index _
  rw [Function.apply_update (fun _ => counter) entries key (change (entries key)) index, adds]

/-- A packet adds the same to both totals. -/
theorem Charged.totals {before after : FlowMaps} {charge : Option (Nat × Nat)} {pktBytes : UInt16}
    {counter : LbStats → UInt64} {more : UInt64}
    (charged : Charged cfg cpu before after charge pktBytes)
    (adds : ∀ stats, counter (LbStats.addPacket pktBytes stats) = counter stats + more)
    (agree : before.vipTotal cfg cpu counter = before.realTotal cfg cpu counter) :
    after.vipTotal cfg cpu counter = after.realTotal cfg cpu counter := by
  have unchanged : ∀ {later}, Uncharged cfg cpu before later →
      later.vipTotal cfg cpu counter = later.realTotal cfg cpu counter := by
    intro later uncharged
    have vips : later.vipTotal cfg cpu counter = before.vipTotal cfg cpu counter := by
      apply Finset.sum_congr rfl
      intro vip member
      rw [uncharged.vips vip (Finset.mem_range.mp member)]
    rw [vips, agree, FlowMaps.realTotal, FlowMaps.realTotal, uncharged.reals]
  cases charge with
  | none => exact unchanged charged
  | some charge =>
      obtain ⟨number, known, middle, uncharged, rfl⟩ := charged
      have vips : ((middle.updateStats cpu charge.1 (LbStats.addPacket pktBytes)).updateRealsStats
          cpu charge.2 (LbStats.addPacket pktBytes)).vipTotal cfg cpu counter =
            middle.vipTotal cfg cpu counter + more := by
        rw [FlowMaps.vipTotal, FlowMaps.vipTotal, ← sum_counter_update adds _ number]
        simp only [FlowMaps.updateRealsStats, FlowMaps.updateStats, Function.update_self]
      have reals : ((middle.updateStats cpu charge.1 (LbStats.addPacket pktBytes)).updateRealsStats
          cpu charge.2 (LbStats.addPacket pktBytes)).realTotal cfg cpu counter =
            middle.realTotal cfg cpu counter + more := by
        rw [FlowMaps.realTotal, FlowMaps.realTotal, ← sum_counter_update adds _ known]
        simp only [FlowMaps.updateRealsStats, FlowMaps.updateStats, Function.update_self]
      rw [vips, reals, unchanged uncharged]

/-- Both counters of the VIPs on a core agree with those of the reals. -/
def Accounted (cfg : BpfConfig) (cpu : Nat) (flow : FlowMaps) : Prop :=
  flow.vipTotal cfg cpu (·.v1) = flow.realTotal cfg cpu (·.v1) ∧
    flow.vipTotal cfg cpu (·.v2) = flow.realTotal cfg cpu (·.v2)

private theorem Charged.accounted {before after : FlowMaps} {charge : Option (Nat × Nat)}
    {pktBytes : UInt16} (charged : Charged cfg cpu before after charge pktBytes)
    (accounted : Accounted cfg cpu before) : Accounted cfg cpu after where
  left := charged.totals (fun _ => rfl) accounted.1
  right := charged.totals (fun _ => rfl) accounted.2

/-- The counters of a core are all zero. -/
def FlowMaps.Zeroed (cpu : Nat) (flow : FlowMaps) : Prop :=
  (∀ key, flow.stats cpu key = {}) ∧ ∀ key, flow.realsStats cpu key = {}

private theorem FlowMaps.Zeroed.accounted (zeroed : flow.Zeroed cpu) : Accounted cfg cpu flow := by
  obtain ⟨vips, reals⟩ := zeroed
  simp only [Accounted, FlowMaps.vipTotal, FlowMaps.realTotal, vips, reals, Finset.sum_const_zero,
    and_self]

/-- A frame arrives, with whatever the control plane has written before it, or the
connection tables are changed by someone else. -/
inductive CoreEvent where
  | frame (maps : ConfigMaps) (env : PacketEnv) (tailCalls : Nat) (xdp : XdpMd)
  | lru (tables : Option Nat → FlowKey → Option RealPosLru)

/-- What an event does to the maps of a core. -/
def CoreEvent.Step (cfg : BpfConfig) (cpu : Nat) (flow : FlowMaps) (event : CoreEvent)
    (after : FlowMaps) : Prop :=
  match event with
  | .frame maps env tailCalls xdp =>
      env.cpu = cpu ∧ VipNumsBelow cfg maps ∧
        after = (balancerIngress cfg maps env tailCalls xdp flow).flow
  | .lru tables => after = { flow with lru := tables }

private theorem CoreEvent.step_accounted {before after : FlowMaps} {event : CoreEvent}
    (accounted : Accounted cfg cpu before) (step : event.Step cfg cpu before after) :
    Accounted cfg cpu after := by
  cases event with
  | frame maps env tailCalls xdp =>
      obtain ⟨rfl, below, rfl⟩ := step
      obtain ⟨pktBytes, charged⟩ := balancerIngress_charged below env tailCalls xdp before
      exact charged.accounted accounted
  | lru tables =>
      obtain rfl := step
      exact accounted

/-- **The counters add up.** In every run the VIPs are charged for the packets for which the
reals are charged: each packet that is wrapped, once, to one VIP and one real and with the same
bytes. A packet is wrapped exactly if it is sent, and other packets charge nobody. -/
theorem counters_account {first last : FlowMaps} {events : List CoreEvent}
    (zeroed : first.Zeroed cpu)
    (run : Run (fun before event => CoreEvent.Step cfg cpu before event) first events last) :
    Accounted cfg cpu last ∧
      ∀ maps env, env.cpu = cpu → VipNumsBelow cfg maps →
        (∀ tailCalls xdp,
          let outcome := balancerIngress cfg maps env tailCalls xdp last
          ∃ pktBytes, Charged cfg cpu last outcome.flow outcome.charge pktBytes) ∧
        ∀ isIpv6 xdp,
          (processPacket cfg maps env isIpv6 xdp last).sent.isSome ↔
            Wraps cfg maps env isIpv6 xdp last := by
  refine ⟨?_, ?_⟩
  · exact run.invariant (Accounted cfg cpu) (fun _ _ _ => CoreEvent.step_accounted) zeroed.accounted
  · rintro maps env rfl below
    refine ⟨?_, ?_⟩
    · intro tailCalls xdp
      exact balancerIngress_charged below env tailCalls xdp last
    · intro isIpv6 xdp
      exact (processPacket_charged below env isIpv6 xdp last).2

private theorem twoReals_vipNumsBelow : VipNumsBelow smallConfig twoReals := by
  intro vip info found
  simp only [twoReals] at found
  split at found
  · obtain rfl := Option.some.inj found
    decide
  · cases found

/-- The maps of a core after the first packet of a connection. -/
def countedOnce : FlowMaps :=
  (balancerIngress smallConfig twoReals (sampleEnv 5) 0
    (sampleTcp 0x01010101 0x0101c80a 4000 80 true) .fresh).flow

/-- One packet is counted for its VIP and for its real. -/
theorem counters_account_once :
    Accounted smallConfig 0 countedOnce ∧ countedOnce.vipTotal smallConfig 0 (·.v1) = 1 ∧
      countedOnce.realTotal smallConfig 0 (·.v2) = 40 := by
  have zeroed : FlowMaps.fresh.Zeroed 0 := ⟨fun _ => rfl, fun _ => rfl⟩
  have run : Run (fun before event => CoreEvent.Step smallConfig 0 before event) .fresh
      [.frame twoReals (sampleEnv 5) 0 (sampleTcp 0x01010101 0x0101c80a 4000 80 true)]
      countedOnce :=
    .cons ⟨rfl, twoReals_vipNumsBelow, rfl⟩ (.nil countedOnce)
  exact ⟨(counters_account zeroed run).1, by decide +kernel, by decide +kernel⟩

end Katran
