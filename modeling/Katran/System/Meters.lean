import Katran.Bpf.OuterHeaders
import Katran.System.Counters
import Katran.System.Traceless

/-! # What one frame counts

A frame is counted on the core that it is processed on, and nowhere else (`CoreLocal`). A packet
that is sent is counted with the length that its own header states, once for the VIP that the
maps have for it and once for the real of its index (`Meters`). Headers of tunnels that end here
are gone by then.
-/

namespace Katran

open Foundation

/-! ## Other cores -/

/-- The counters of other cores stay. -/
structure CoreLocal (cpu : Nat) (before after : FlowMaps) : Prop where
  stats : ∀ other, other ≠ cpu → after.stats other = before.stats other

namespace CoreLocal

variable {cfg : BpfConfig} {cpu : Nat} {flow counted first middle last : FlowMaps}

private theorem refl (cpu : Nat) (flow : FlowMaps) : CoreLocal cpu flow flow := ⟨fun _ _ => rfl⟩

private theorem trans (left : CoreLocal cpu first middle) (right : CoreLocal cpu middle last) :
    CoreLocal cpu first last :=
  ⟨fun other different => (right.stats other different).trans (left.stats other different)⟩

private theorem updateStats (flow : FlowMaps) (cpu key : Nat) (change : LbStats → LbStats) :
    CoreLocal cpu flow (flow.updateStats cpu key change) :=
  ⟨fun _ different => Function.update_of_ne different _ _⟩

private theorem countStats {key : Nat} {change : LbStats → LbStats}
    (counting : Katran.countStats cfg cpu key change flow = some counted) :
    CoreLocal cpu flow counted := by
  obtain ⟨_, rfl⟩ := countStats_eq_some.mp counting
  exact updateStats flow cpu key change

private theorem isUnderFlood (cfg : BpfConfig) (cpu : Nat) (curTime : UInt64) (flow : FlowMaps) :
    CoreLocal cpu flow (Katran.isUnderFlood cfg cpu curTime flow).2 := by
  unfold Katran.isUnderFlood
  dsimp only
  split
  · split
    · dsimp only
      exact updateStats flow cpu _ _
    · exact updateStats flow cpu _ _
  · exact refl cpu flow

private theorem srcRoute (cfg : BpfConfig) (maps : ConfigMaps) (cpu : Nat)
    (isIpv6 underFlood : Bool) (info : VipMeta) (pckt : PacketDescription) (flow : FlowMaps) :
    CoreLocal cpu flow (Katran.srcRoute cfg maps cpu isIpv6 underFlood info pckt flow).2 := by
  unfold Katran.srcRoute Katran.countStats
  split
  · dsimp only
    split
    · exact updateStats ..
    · exact refl cpu flow
  · exact refl cpu flow

end CoreLocal

/-- What a way of choosing a real does: it counts on its own core, and hands on the real of the
index. -/
structure Picks (maps : ConfigMaps) (cpu : Nat) (flow : FlowMaps)
    (result : Option Chosen × FlowMaps) : Prop where
  elsewhere : CoreLocal cpu flow result.2
  dst : ∀ chosen, result.1 = some chosen → chosen.dst = maps.reals chosen.pckt.realIndex

namespace Picks

variable {maps : ConfigMaps} {cpu : Nat} {flow later : FlowMaps}
  {result : Option Chosen × FlowMaps}

private theorem none (elsewhere : CoreLocal cpu flow later) :
    Picks maps cpu flow (Option.none, later) := ⟨elsewhere, nofun⟩

private theorem after (elsewhere : CoreLocal cpu flow later) (picks : Picks maps cpu later result) :
    Picks maps cpu flow result := ⟨elsewhere.trans picks.elsewhere, picks.dst⟩

private theorem reals_of_lookup {cfg : BpfConfig} {key : Nat} {dst : RealDefinition}
    (looked : realsLookup cfg maps key = some dst) : dst = maps.reals key := by
  unfold realsLookup at looked
  split at looked
  · exact (Option.some.inj looked).symm
  · cases looked

private theorem recordDst (cfg : BpfConfig) (maps : ConfigMaps) (cpu : Nat) (lruMap : Option Nat)
    (curTime : UInt64) (underFlood : Bool) (info : VipMeta) (pckt : PacketDescription) (key : Nat)
    (flow : FlowMaps) :
    Picks maps cpu flow
      (Katran.recordDst cfg maps lruMap curTime underFlood info pckt key flow) := by
  unfold Katran.recordDst
  split
  · exact .none (.refl cpu flow)
  next dst looked =>
    refine ⟨?_, ?_⟩
    · dsimp only
      split
      · exact ⟨fun _ _ => rfl⟩
      · exact .refl cpu flow
    · intro chosen same
      obtain rfl := Option.some.inj same
      exact reals_of_lookup looked

private theorem getPacketDst (cfg : BpfConfig) (maps : ConfigMaps) (env : PacketEnv) (isIpv6 : Bool)
    (lruMap : Option Nat) (info : VipMeta) (pckt : PacketDescription) (flow : FlowMaps) :
    Picks maps env.cpu flow
      (Katran.getPacketDst cfg maps env isIpv6 lruMap info pckt flow) := by
  apply Picks.after (CoreLocal.trans (.isUnderFlood cfg env.cpu env.floodTime flow)
    (.srcRoute cfg maps env.cpu isIpv6 (isUnderFlood cfg env.cpu env.floodTime flow).1 info pckt _))
  unfold Katran.getPacketDst
  dsimp only
  split
  · exact .recordDst ..
  · split
    · exact .none (.refl ..)
    · exact .recordDst ..

private theorem lookupDst (cfg : BpfConfig) (maps : ConfigMaps) (env : PacketEnv)
    (lruMap : Option Nat) (info : VipMeta) (pckt : PacketDescription) (flow : FlowMaps) :
    Picks maps env.cpu flow (Katran.lookupDst cfg maps env lruMap info pckt flow) := by
  unfold Katran.lookupDst connectionTableLookup
  split
  · split
    · exact .none (.refl env.cpu flow)
    next entry _ =>
      split
      · exact .none (.refl env.cpu flow)
      · refine ⟨?_, ?_⟩
        · dsimp only
          split
          · exact ⟨fun _ _ => rfl⟩
          · exact .refl env.cpu flow
        · intro chosen same
          obtain ⟨dst, looked, rfl⟩ := Option.map_eq_some_iff.mp same
          exact reals_of_lookup looked
  · exact .none (.refl env.cpu flow)

private theorem missDst (cfg : BpfConfig) (maps : ConfigMaps) (env : PacketEnv) (isIpv6 : Bool)
    (lruMap : Option Nat) (info : VipMeta) (pckt : PacketDescription) (flow : FlowMaps) :
    Picks maps env.cpu flow (Katran.missDst cfg maps env isIpv6 lruMap info pckt flow) := by
  unfold Katran.missDst
  split
  · exact .none (.refl env.cpu flow)
  next counted counting =>
    have counts : CoreLocal env.cpu flow counted := by
      unfold countMiss at counting
      split at counting
      · exact .countStats counting
      · obtain rfl := Option.some.inj counting
        exact .refl env.cpu flow
    have picks := getPacketDst cfg maps env isIpv6 lruMap info pckt counted
    split
    next later returned =>
      rw [returned] at picks
      exact .none (counts.trans picks.elsewhere)
    next chosen later returned =>
      rw [returned] at picks
      refine ⟨(counts.trans picks.elsewhere).trans (.updateStats later env.cpu _ _), ?_⟩
      intro other same
      exact picks.dst other same

private theorem lruDst (cfg : BpfConfig) (maps : ConfigMaps) (env : PacketEnv) (isIpv6 : Bool)
    (info : VipMeta) (pckt : PacketDescription) (flow : FlowMaps) :
    Picks maps env.cpu flow (Katran.lruDst cfg maps env isIpv6 info pckt flow) := by
  unfold Katran.lruDst
  dsimp only
  split
  · exact .none (.refl env.cpu flow)
  next counted counting =>
    have counts : CoreLocal env.cpu flow counted := by
      unfold countFallback at counting
      split at counting
      · exact .countStats counting
      · obtain rfl := Option.some.inj counting
        exact .refl env.cpu flow
    have looks := lookupDst cfg maps env (lruMapOf cfg maps env.cpu) info (lruPckt info pckt)
      counted
    apply Picks.after counts
    split
    next chosen later returned =>
      rw [returned] at looks
      exact looks
    next later returned =>
      rw [returned] at looks
      exact .after looks.elsewhere (.missDst ..)

/-- A real that is chosen by a connection id. -/
theorem quicDst (cfg : BpfConfig) (maps : ConfigMaps) (cpu : Nat) (isIpv6 : Bool)
    (data : List UInt8) (pckt : PacketDescription) (flow : FlowMaps) :
    CoreLocal cpu flow (Katran.quicDst cfg maps cpu isIpv6 data pckt flow).2 ∧
      ∀ chosen, (Katran.quicDst cfg maps cpu isIpv6 data pckt flow).1 = some (some chosen) →
        chosen.dst = maps.reals chosen.pckt.realIndex := by
  unfold Katran.quicDst
  dsimp only
  split
  · split
    · split
      · split
        · exact ⟨.refl cpu flow, nofun⟩
        next dst looked =>
          refine ⟨.updateStats flow cpu _ _, ?_⟩
          intro chosen same
          obtain rfl := Option.some.inj (Option.some.inj same)
          exact reals_of_lookup looked
      · exact ⟨.updateStats flow cpu _ _, nofun⟩
    · exact ⟨.updateStats flow cpu _ _, nofun⟩
  · exact ⟨.refl cpu flow, nofun⟩

private theorem chooseDst (cfg : BpfConfig) (maps : ConfigMaps) (env : PacketEnv) (isIpv6 : Bool)
    (data : List UInt8) (info : VipMeta) (pckt : PacketDescription) (flow : FlowMaps) :
    Picks maps env.cpu flow (Katran.chooseDst cfg maps env isIpv6 data info pckt flow) := by
  unfold Katran.chooseDst
  split
  · exact .none (.refl env.cpu flow)
  next counted counting =>
    apply Picks.after (.countStats counting)
    split
    · obtain ⟨byId, real⟩ := quicDst cfg maps env.cpu isIpv6 data pckt counted
      split
      next later returned =>
        rw [returned] at byId
        exact .none byId
      next chosen later returned =>
        rw [returned] at byId real
        refine ⟨byId, ?_⟩
        intro other same
        obtain rfl := Option.some.inj same
        exact real chosen rfl
      next later returned =>
        rw [returned] at byId
        exact .after byId (.lruDst ..)
    · exact .lruDst ..

end Picks

private theorem CoreLocal.parsePacket {cfg : BpfConfig} {maps : ConfigMaps} {cpu : Nat}
    {isIpv6 : Bool} {xdp final : XdpMd} {flow later : FlowMaps} {verdict : Verdict}
    (parsed : Katran.parsePacket cfg maps cpu isIpv6 xdp flow = .final verdict final later) :
    CoreLocal cpu flow later := by
  have tunnel : ∀ pckt decap, processTunnel cfg maps cpu isIpv6 pckt decap xdp flow =
      .final verdict final later → CoreLocal cpu flow later := by
    intro pckt decap ended
    have counts : CoreLocal cpu flow (checkDecapDst cfg maps cpu isIpv6 pckt flow).2 := by
      unfold checkDecapDst
      split
      · split
        next => exact .refl cpu flow
        next counted counting => exact .countStats counting
      · exact .refl cpu flow
    unfold processTunnel at ended
    split at ended
    next returned =>
      rw [returned] at counts
      cases ended
      exact counts
    next returned =>
      rw [returned] at counts
      cases ended
      exact counts
  unfold Katran.parsePacket at parsed
  split at parsed
  next =>
    cases parsed
    exact .refl cpu flow
  next =>
    dsimp only at parsed
    split at parsed
    · exact tunnel _ _ parsed
    · split at parsed
      · split at parsed
        next =>
          cases parsed
          exact .refl cpu flow
        next => cases parsed
      · split at parsed
        · split at parsed
          next =>
            cases parsed
            exact .refl cpu flow
          next =>
            split at parsed
            · exact tunnel _ _ parsed
            · cases parsed
        · cases parsed
          exact .refl cpu flow

/-! ## One frame -/

/-- A packet that is sent is counted with its bytes, on its core only. Its VIP and its real are
those of the maps. -/
structure Meters (cfg : BpfConfig) (maps : ConfigMaps) (cpu : Nat) (flow : FlowMaps)
    (outcome : Outcome) (pktBytes : UInt16) : Prop where
  charged : Charged cfg cpu flow outcome.flow outcome.charge pktBytes
  elsewhere : CoreLocal cpu flow outcome.flow
  vip : ∀ sent, outcome.sent = some sent → maps.vipMap sent.vip = some sent.info
  dst : ∀ sent, outcome.sent = some sent → sent.dst = maps.reals sent.pckt.realIndex

namespace Meters

variable {cfg : BpfConfig} {maps : ConfigMaps} {env : PacketEnv} {cpu : Nat}
  {flow later : FlowMaps} {pktBytes : UInt16} {outcome : Outcome}

/-- Nothing is sent. -/
theorem unsent (uncharged : Uncharged cfg cpu flow outcome.flow)
    (elsewhere : CoreLocal cpu flow outcome.flow) (none : outcome.sent = none) :
    Meters cfg maps cpu flow outcome pktBytes where
  charged := by
    rw [Outcome.charge, none]
    exact uncharged
  elsewhere := elsewhere
  vip := by
    intro sent wrong
    cases none.symm.trans wrong
  dst := by
    intro sent wrong
    cases none.symm.trans wrong

private theorem after (uncharged : Uncharged cfg cpu flow later)
    (elsewhere : CoreLocal cpu flow later) (meters : Meters cfg maps cpu later outcome pktBytes) :
    Meters cfg maps cpu flow outcome pktBytes :=
  ⟨meters.charged.after uncharged, elsewhere.trans meters.elsewhere, meters.vip, meters.dst⟩

private theorem sendToReal {isIpv6 : Bool} {vip : VipDefinition} {info : VipMeta} {chosen : Chosen}
    (xdp : XdpMd) (flow : FlowMaps) (number : info.vipNum < cfg.maxVips)
    (known : chosen.pckt.realIndex < cfg.maxReals) (stored : maps.vipMap vip = some info)
    (dst : chosen.dst = maps.reals chosen.pckt.realIndex) :
    Meters cfg maps cpu flow
      (Katran.sendToReal cfg maps cpu isIpv6 vip info pktBytes chosen xdp flow) pktBytes := by
  obtain ⟨charged, _⟩ :=
    @sendToReal_charged cfg maps cpu isIpv6 vip info pktBytes chosen xdp flow number known
  have ofChosen : ∀ sent, (Katran.sendToReal cfg maps cpu isIpv6 vip info pktBytes chosen xdp
      flow).sent = some sent → sent = ⟨vip, info, chosen.pckt, chosen.dst⟩ := by
    intro sent same
    unfold Katran.sendToReal at same
    split at same
    · cases same
    · split at same
      · cases same
      · rw [if_pos known] at same
        exact (Option.some.inj same).symm
  refine ⟨charged, ?_, ?_, ?_⟩
  · unfold Katran.sendToReal
    split
    · exact .refl cpu flow
    · split
      · exact .refl cpu flow
      next counted counting =>
        rw [if_pos known]
        have mine : CoreLocal cpu flow counted := .countStats counting
        exact ⟨mine.stats⟩
  · intro sent same
    rw [ofChosen sent same]
    exact stored
  · intro sent same
    rw [ofChosen sent same]
    exact dst

private theorem balancePacket (below : VipNumsBelow cfg maps) {isIpv6 : Bool} {xdp : XdpMd}
    {pckt : PacketDescription} (flow : FlowMaps) :
    Meters cfg maps env.cpu flow
      (Katran.balancePacket cfg maps env isIpv6 pckt pktBytes xdp flow) pktBytes := by
  unfold Katran.balancePacket
  split
  · exact .unsent (.refl cfg env.cpu flow) (.refl env.cpu flow) rfl
  next vip info described found =>
    have stored := (lookupVip_spec found).2.1
    split
    · obtain ⟨uncharged, unsent⟩ := @processTooBig_uncharged cfg env isIpv6 xdp flow
      refine .unsent uncharged ?_ unsent
      unfold processTooBig
      split
      · split
        · exact .refl env.cpu flow
        next counted counting => exact .countStats counting
      · exact .refl env.cpu flow
    · have chooses := Chooses.chooseDst cfg maps env isIpv6 xdp.data info described flow
      have picks := Picks.chooseDst cfg maps env isIpv6 xdp.data info described flow
      split
      next later returned =>
        rw [returned] at chooses picks
        exact .unsent chooses.uncharged picks.elsewhere rfl
      next chosen later returned =>
        rw [returned] at chooses picks
        exact .after chooses.uncharged picks.elsewhere (.sendToReal xdp later
          (below vip info stored) (chooses.known chosen rfl) stored (picks.dst chosen rfl))

private theorem processPacket (below : VipNumsBelow cfg maps) (env : PacketEnv) (isIpv6 : Bool)
    (xdp : XdpMd) (flow : FlowMaps) :
    Meters cfg maps env.cpu flow (Katran.processPacket cfg maps env isIpv6 xdp flow)
      (netBytes isIpv6 xdp.data) := by
  unfold Katran.processPacket
  rcases parsePacket_spec cfg maps env.cpu isIpv6 xdp flow with
    ⟨pckt, pktBytes, described, parsed⟩ | ⟨_, verdict, final, later, parsed, _⟩
  · rw [parsed, ← netBytes_of_describe described]
    exact balancePacket below flow
  · rw [parsed]
    exact .unsent (parsePacket_uncharged parsed) (.parsePacket parsed) rfl

/-- The same with recirculation, with the bytes of what is left of the frame. -/
theorem balancerIngress (below : VipNumsBelow cfg maps) (env : PacketEnv) (tailCalls : Nat)
    (xdp : XdpMd) (flow : FlowMaps) :
    let inner := innermost cfg maps env.cpu tailCalls xdp flow
    Meters cfg maps env.cpu flow (Katran.balancerIngress cfg maps env tailCalls xdp flow)
      (netBytes inner.frameIpv6 inner.data) := by
  dsimp only
  induction tailCalls generalizing xdp flow with
  | zero =>
      by_cases ip : xdp.IsIp
      · have once := processPacket below env xdp.frameIpv6 xdp flow
        by_cases again :
            (Katran.processPacket cfg maps env xdp.frameIpv6 xdp flow).verdict = .recirculate
        · rw [balancerIngress_exhausted flow ip again]
          exact ⟨once.charged, once.elsewhere, once.vip, once.dst⟩
        · rw [balancerIngress_settled 0 flow ip again]
          exact once
      · rw [balancerIngress_other 0 flow ip]
        exact .unsent (.refl cfg env.cpu flow) (.refl env.cpu flow) rfl
  | succ tailCalls ih =>
      by_cases ip : xdp.IsIp
      · by_cases again :
            (Katran.processPacket cfg maps env xdp.frameIpv6 xdp flow).verdict = .recirculate
        · obtain ⟨inner, counted, parsed, outcome⟩ := processPacket_recirculated below again
          rw [balancerIngress_recirculated tailCalls flow ip again, outcome]
          simp only [innermost, ip, ↓reduceIte, parsed]
          exact .after (parsePacket_uncharged parsed) (.parsePacket parsed) (ih inner counted)
        · have stays : innermost cfg maps env.cpu (tailCalls + 1) xdp flow = xdp := by
            simp only [innermost, ip, ↓reduceIte]
            split
            next inner counted parsed =>
              simp only [Katran.processPacket, parsed, not_true_eq_false] at again
            next => rfl
          rw [stays, balancerIngress_settled _ flow ip again]
          exact processPacket below env xdp.frameIpv6 xdp flow
      · rw [balancerIngress_other _ flow ip]
        exact .unsent (.refl cfg env.cpu flow) (.refl env.cpu flow) rfl

/-- What a core has counted for a VIP. -/
theorem stats (meters : Meters cfg maps cpu flow outcome pktBytes) {number : Nat}
    (below : number < cfg.maxVips) :
    (fun core => outcome.flow.stats core number) =
      if ∃ sent ∈ outcome.sent, sent.info.vipNum = number then
        Function.update (fun core => flow.stats core number) cpu
          (LbStats.addPacket pktBytes (flow.stats cpu number))
      else fun core => flow.stats core number := by
  obtain ⟨charged, ⟨elsewhere⟩, _, _⟩ := meters
  have here : outcome.flow.stats cpu number =
      if ∃ sent ∈ outcome.sent, sent.info.vipNum = number then
        LbStats.addPacket pktBytes (flow.stats cpu number) else flow.stats cpu number := by
    rw [Outcome.charge] at charged
    cases sends : outcome.sent with
    | none =>
        rw [sends] at charged
        simp only [Option.mem_def, reduceCtorEq, false_and, exists_false, ↓reduceIte]
        exact charged.vips number below
    | some sent =>
        rw [sends] at charged
        obtain ⟨_, _, middle, uncharged, same⟩ := charged
        simp only [Option.mem_def, Option.some.injEq, exists_eq_left']
        rw [same, ← uncharged.vips number below]
        simp only [FlowMaps.updateRealsStats, FlowMaps.updateStats, Function.update_self]
        split
        next own => rw [← own, Function.update_self]
        next other => rw [Function.update_of_ne (Ne.symm other)]
  funext core
  by_cases own : core = cpu
  · rw [own, here]
    split
    · rw [Function.update_self]
    · rfl
  · rw [elsewhere core own]
    split
    · rw [Function.update_of_ne own]
    · rfl

/-- What a core has counted for a real. -/
theorem realsStats (meters : Meters cfg maps cpu flow outcome pktBytes) (index : Nat) :
    (fun core => outcome.flow.realsStats core index) =
      if ∃ sent ∈ outcome.sent, sent.pckt.realIndex = index then
        Function.update (fun core => flow.realsStats core index) cpu
          (LbStats.addPacket pktBytes (flow.realsStats cpu index))
      else fun core => flow.realsStats core index := by
  have charged := meters.charged
  rw [Outcome.charge] at charged
  cases sends : outcome.sent with
  | none =>
      rw [sends] at charged
      simp only [Option.mem_def, reduceCtorEq, false_and, exists_false, ↓reduceIte]
      rw [charged.reals]
  | some sent =>
      rw [sends] at charged
      obtain ⟨_, _, middle, uncharged, same⟩ := charged
      simp only [Option.mem_def, Option.some.injEq, exists_eq_left']
      rw [same, ← uncharged.reals]
      funext core
      simp only [FlowMaps.updateRealsStats, FlowMaps.updateStats]
      by_cases own : core = cpu
      · rw [own, Function.update_self]
        split
        next counted => rw [← counted, Function.update_self, Function.update_self]
        next other => rw [Function.update_of_ne (Ne.symm other)]
      · rw [Function.update_of_ne own]
        split
        · rw [Function.update_of_ne own]
        · rfl

end Meters

end Katran
