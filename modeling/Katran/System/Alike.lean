import Katran.System.Quic

/-! # Forwarding states that no packet tells apart

Where packets go depends on the connection tables and on the counters of new connections,
but on no other counter. States that agree on these (`Alike`) forward every later sequence
of packets alike, whatever the control plane does in between (`forwarded_alike`).
-/

namespace Katran

open Foundation

/-- A packet to come, with the configuration and the circumstances that it meets. -/
structure Later where
  maps : ConfigMaps
  env : PacketEnv
  tailCalls : Nat
  xdp : XdpMd

/-- What becomes of a packet to come. -/
def Later.outcome (cfg : BpfConfig) (later : Later) (flow : FlowMaps) : Outcome :=
  balancerIngress cfg later.maps later.env later.tailCalls later.xdp flow

/-- The state after a sequence of packets. -/
def afterAll (cfg : BpfConfig) (flow : FlowMaps) (packets : List Later) : FlowMaps :=
  packets.foldl (fun flow later => (later.outcome cfg flow).flow) flow

/-- The reals to which a sequence of packets is sent. -/
def forwarded (cfg : BpfConfig) : FlowMaps → List Later → List (Option RealDefinition)
  | _, [] => []
  | flow, later :: packets =>
      (later.outcome cfg flow).sent.map (·.dst) ::
        forwarded cfg (later.outcome cfg flow).flow packets

/-- The counter of the new connections of a core. -/
def rate (cfg : BpfConfig) (flow : FlowMaps) (cpu : Nat) : LbStats :=
  flow.stats cpu (cfg.maxVips + newConnRateCntr)

/-- The states agree on all that decides about packets. -/
structure Alike (cfg : BpfConfig) (first second : FlowMaps) : Prop where
  lru : first.lru = second.lru
  rate : ∀ cpu, rate cfg first cpu = rate cfg second cpu

/-- The same result, and states that are alike. -/
def AlikeResult {α : Type} (cfg : BpfConfig) (first second : α × FlowMaps) : Prop :=
  ∃ result left right, first = (result, left) ∧ second = (result, right) ∧ Alike cfg left right

/-- States that are alike, or none. -/
def AlikeOption (cfg : BpfConfig) (first second : Option FlowMaps) : Prop :=
  first = none ∧ second = none ∨
    ∃ left right, first = some left ∧ second = some right ∧ Alike cfg left right

variable {cfg : BpfConfig} {first second : FlowMaps}

/-- Maps are like themselves. -/
theorem Alike.refl (cfg : BpfConfig) (flow : FlowMaps) : Alike cfg flow flow := ⟨rfl, fun _ => rfl⟩

/-- Maps are alike in both directions. -/
theorem Alike.symm (alike : Alike cfg first second) : Alike cfg second first :=
  ⟨alike.lru.symm, fun cpu => (alike.rate cpu).symm⟩

/-- Maps that are like the same ones are alike. -/
theorem Alike.trans {third : FlowMaps} (left : Alike cfg first second)
    (right : Alike cfg second third) : Alike cfg first third :=
  ⟨left.lru.trans right.lru, fun cpu => (left.rate cpu).trans (right.rate cpu)⟩

/-! ## Counting -/

/-- The rate of a core after a counter is changed. -/
theorem rate_updateStats (cfg : BpfConfig) (flow : FlowMaps) (cpu key : Nat)
    (change : LbStats → LbStats) (other : Nat) :
    rate cfg (flow.updateStats cpu key change) other =
      if other = cpu ∧ cfg.maxVips + newConnRateCntr = key then change (rate cfg flow other)
      else rate cfg flow other := by
  unfold rate FlowMaps.updateStats
  by_cases core : other = cpu
  · subst core
    by_cases counter : cfg.maxVips + newConnRateCntr = key
    · subst counter
      simp only [Function.update_self, and_self, ↓reduceIte]
    · simp only [Function.update_self, counter, and_false, ↓reduceIte,
        Function.update_of_ne counter]
  · simp only [Function.update_of_ne core, core, false_and, ↓reduceIte]

private theorem Alike.updateStats (alike : Alike cfg first second) (cpu key : Nat)
    (change : LbStats → LbStats) :
    Alike cfg (first.updateStats cpu key change) (second.updateStats cpu key change) where
  lru := alike.lru
  rate := by
    intro other
    rw [rate_updateStats, rate_updateStats, alike.rate other]

/-- A state before and after counting elsewhere. -/
theorem alike_updateStats (cfg : BpfConfig) (flow : FlowMaps) (cpu : Nat) {key : Nat}
    (change : LbStats → LbStats) (elsewhere : cfg.maxVips + newConnRateCntr ≠ key) :
    Alike cfg flow (flow.updateStats cpu key change) where
  lru := rfl
  rate := by
    intro other
    rw [rate_updateStats, if_neg fun both => elsewhere both.2]

/-- What counts something else than the rate makes no difference. -/
theorem Alike.of_counts {cpu key : Nat} {flow counted : FlowMaps}
    (counts : Counts cpu key flow counted) (elsewhere : cfg.maxVips + newConnRateCntr ≠ key) :
    Alike cfg flow counted := by
  rcases counts with rfl | ⟨change, rfl⟩
  · exact .refl cfg _
  · exact alike_updateStats cfg _ cpu change elsewhere

private theorem Alike.lruUpdate (alike : Alike cfg first second) (lruMap : Option Nat)
    (key : FlowKey) (entry : RealPosLru) :
    Alike cfg (first.lruUpdate lruMap key entry) (second.lruUpdate lruMap key entry) where
  lru := by
    rw [FlowMaps.lruUpdate_lru, FlowMaps.lruUpdate_lru, alike.lru]
  rate := alike.rate

private theorem Alike.countStats (alike : Alike cfg first second) (cpu key : Nat)
    (change : LbStats → LbStats) :
    AlikeOption cfg (countStats cfg cpu key change first)
      (countStats cfg cpu key change second) := by
  unfold Katran.countStats
  split
  · exact .inr ⟨_, _, rfl, rfl, alike.updateStats cpu key change⟩
  · exact .inl ⟨rfl, rfl⟩

private theorem Alike.getD {left right : Option FlowMaps} (alike : Alike cfg first second)
    (options : AlikeOption cfg left right) : Alike cfg (left.getD first) (right.getD second) := by
  rcases options with ⟨rfl, rfl⟩ | ⟨_, _, rfl, rfl, counted⟩
  · exact alike
  · exact counted

private theorem Alike.countFallback (alike : Alike cfg first second) (maps : ConfigMaps)
    (cpu : Nat) :
    AlikeOption cfg (countFallback cfg maps cpu first) (countFallback cfg maps cpu second) := by
  unfold Katran.countFallback
  split
  · exact alike.countStats ..
  · exact .inr ⟨_, _, rfl, rfl, alike⟩

private theorem Alike.countMiss (alike : Alike cfg first second) (cpu : Nat)
    (pckt : PacketDescription) :
    AlikeOption cfg (countMiss cfg cpu pckt first) (countMiss cfg cpu pckt second) := by
  unfold Katran.countMiss
  split
  · exact alike.countStats ..
  · exact .inr ⟨_, _, rfl, rfl, alike⟩

/-! ## Choosing a real -/

private theorem Alike.isUnderFlood (alike : Alike cfg first second) (cpu : Nat) (curTime : UInt64) :
    AlikeResult cfg (isUnderFlood cfg cpu curTime first) (isUnderFlood cfg cpu curTime second) := by
  have same : first.stats cpu (cfg.maxVips + newConnRateCntr) =
      second.stats cpu (cfg.maxVips + newConnRateCntr) := alike.rate cpu
  unfold Katran.isUnderFlood
  dsimp only
  rw [same]
  split
  · split
    · exact ⟨_, _, _, rfl, rfl, alike.updateStats ..⟩
    · exact ⟨_, _, _, rfl, rfl, alike.updateStats ..⟩
  · exact ⟨_, _, _, rfl, rfl, alike⟩

private theorem Alike.srcRoute (alike : Alike cfg first second) (maps : ConfigMaps) (cpu : Nat)
    (isIpv6 underFlood : Bool) (info : VipMeta) (pckt : PacketDescription) :
    AlikeResult cfg (srcRoute cfg maps cpu isIpv6 underFlood info pckt first)
      (srcRoute cfg maps cpu isIpv6 underFlood info pckt second) := by
  unfold Katran.srcRoute
  split
  · exact ⟨_, _, _, rfl, rfl, alike.getD (alike.countStats ..)⟩
  · exact ⟨_, _, _, rfl, rfl, alike⟩

private theorem Alike.recordDst (alike : Alike cfg first second) (maps : ConfigMaps)
    (lruMap : Option Nat)
    (curTime : UInt64) (underFlood : Bool) (info : VipMeta) (pckt : PacketDescription)
    (key : Nat) :
    AlikeResult cfg (recordDst cfg maps lruMap curTime underFlood info pckt key first)
      (recordDst cfg maps lruMap curTime underFlood info pckt key second) := by
  unfold Katran.recordDst
  split
  · exact ⟨_, _, _, rfl, rfl, alike⟩
  · refine ⟨_, _, _, rfl, rfl, ?_⟩
    split
    · exact alike.lruUpdate ..
    · exact alike

private theorem Alike.getPacketDst (alike : Alike cfg first second) (maps : ConfigMaps)
    (env : PacketEnv)
    (isIpv6 : Bool) (lruMap : Option Nat) (info : VipMeta) (pckt : PacketDescription) :
    AlikeResult cfg (getPacketDst cfg maps env isIpv6 lruMap info pckt first)
      (getPacketDst cfg maps env isIpv6 lruMap info pckt second) := by
  obtain ⟨underFlood, left, right, flooded, alsoFlooded, alike⟩ :=
    alike.isUnderFlood env.cpu env.floodTime
  unfold Katran.getPacketDst
  rw [flooded, alsoFlooded]
  dsimp only
  obtain ⟨srcFound, left, right, routed, alsoRouted, alike⟩ :=
    alike.srcRoute maps env.cpu isIpv6 underFlood info pckt
  rw [routed, alsoRouted]
  cases srcFound with
  | some key => exact alike.recordDst ..
  | none =>
      dsimp only
      split
      · exact ⟨_, _, _, rfl, rfl, alike⟩
      · exact alike.recordDst ..

private theorem Alike.lookupDst (alike : Alike cfg first second) (maps : ConfigMaps)
    (env : PacketEnv) (lruMap : Option Nat) (info : VipMeta) (pckt : PacketDescription) :
    AlikeResult cfg (lookupDst cfg maps env lruMap info pckt first)
      (lookupDst cfg maps env lruMap info pckt second) := by
  unfold Katran.lookupDst connectionTableLookup
  split
  · rw [alike.lru]
    split
    · exact ⟨_, _, _, rfl, rfl, alike⟩
    · split
      · exact ⟨_, _, _, rfl, rfl, alike⟩
      · refine ⟨_, _, _, rfl, rfl, ?_⟩
        split
        · exact alike.lruUpdate ..
        · exact alike
  · exact ⟨_, _, _, rfl, rfl, alike⟩

private theorem Alike.missDst (alike : Alike cfg first second) (maps : ConfigMaps) (env : PacketEnv)
    (isIpv6 : Bool) (lruMap : Option Nat) (info : VipMeta) (pckt : PacketDescription) :
    AlikeResult cfg (missDst cfg maps env isIpv6 lruMap info pckt first)
      (missDst cfg maps env isIpv6 lruMap info pckt second) := by
  unfold Katran.missDst
  rcases alike.countMiss env.cpu pckt with
    ⟨missing, alsoMissing⟩ | ⟨_, _, counted, alsoCounted, alike⟩
  · rw [missing, alsoMissing]
    exact ⟨_, _, _, rfl, rfl, alike⟩
  · rw [counted, alsoCounted]
    obtain ⟨chosen, _, _, picks, alsoPicks, alike⟩ :=
      alike.getPacketDst maps env isIpv6 lruMap info pckt
    dsimp only
    rw [picks, alsoPicks]
    cases chosen with
    | none => exact ⟨_, _, _, rfl, rfl, alike⟩
    | some chosen => exact ⟨_, _, _, rfl, rfl, alike.updateStats ..⟩

private theorem Alike.lruDst (alike : Alike cfg first second) (maps : ConfigMaps) (env : PacketEnv)
    (isIpv6 : Bool) (info : VipMeta) (pckt : PacketDescription) :
    AlikeResult cfg (lruDst cfg maps env isIpv6 info pckt first)
      (lruDst cfg maps env isIpv6 info pckt second) := by
  unfold Katran.lruDst
  dsimp only
  rcases alike.countFallback maps env.cpu with
    ⟨missing, alsoMissing⟩ | ⟨_, _, counted, alsoCounted, alike⟩
  · rw [missing, alsoMissing]
    exact ⟨_, _, _, rfl, rfl, alike⟩
  · rw [counted, alsoCounted]
    obtain ⟨chosen, _, _, looks, alsoLooks, alike⟩ :=
      alike.lookupDst maps env (lruMapOf cfg maps env.cpu) info (lruPckt info pckt)
    dsimp only
    rw [looks, alsoLooks]
    cases chosen with
    | none => exact alike.missDst ..
    | some chosen => exact ⟨_, _, _, rfl, rfl, alike⟩

private theorem Alike.quicDst (alike : Alike cfg first second) (maps : ConfigMaps) (cpu : Nat)
    (isIpv6 : Bool) (data : List UInt8) (pckt : PacketDescription) :
    AlikeResult cfg (quicDst cfg maps cpu isIpv6 data pckt first)
      (quicDst cfg maps cpu isIpv6 data pckt second) := by
  unfold Katran.quicDst
  dsimp only
  split
  · split
    · split
      · split
        · exact ⟨_, _, _, rfl, rfl, alike⟩
        · exact ⟨_, _, _, rfl, rfl, alike.updateStats ..⟩
      · exact ⟨_, _, _, rfl, rfl, alike.updateStats ..⟩
    · exact ⟨_, _, _, rfl, rfl, alike.updateStats ..⟩
  · exact ⟨_, _, _, rfl, rfl, alike⟩

private theorem Alike.chooseDst (alike : Alike cfg first second) (maps : ConfigMaps)
    (env : PacketEnv)
    (isIpv6 : Bool) (data : List UInt8) (info : VipMeta) (pckt : PacketDescription) :
    AlikeResult cfg (chooseDst cfg maps env isIpv6 data info pckt first)
      (chooseDst cfg maps env isIpv6 data info pckt second) := by
  unfold Katran.chooseDst
  rcases alike.countStats env.cpu (cfg.maxVips + lruCntrs) LbStats.addV1 with
    ⟨missing, alsoMissing⟩ | ⟨_, _, counted, alsoCounted, alike⟩
  · rw [missing, alsoMissing]
    exact ⟨_, _, _, rfl, rfl, alike⟩
  · rw [counted, alsoCounted]
    dsimp only
    split
    · obtain ⟨byId, _, _, routes, alsoRoutes, alike⟩ :=
        alike.quicDst maps env.cpu isIpv6 data pckt
      rw [routes, alsoRoutes]
      rcases byId with _ | _ | chosen
      · exact ⟨_, _, _, rfl, rfl, alike⟩
      · exact alike.lruDst ..
      · exact ⟨_, _, _, rfl, rfl, alike⟩
    · exact alike.lruDst ..

/-! ## Processing a packet -/

/-- The same but for the state, and states that are alike. -/
structure AlikeOutcome (cfg : BpfConfig) (left right : Outcome) : Prop where
  verdict : left.verdict = right.verdict
  xdp : left.xdp = right.xdp
  sent : left.sent = right.sent
  flow : Alike cfg left.flow right.flow

private theorem Alike.outcome (alike : Alike cfg first second) (verdict : Verdict) (xdp : XdpMd)
    (sent : Option Sent) :
    AlikeOutcome cfg ⟨verdict, xdp, first, sent⟩ ⟨verdict, xdp, second, sent⟩ :=
  ⟨rfl, rfl, rfl, alike⟩

private theorem Alike.processTooBig (alike : Alike cfg first second) (env : PacketEnv)
    (isIpv6 : Bool) (xdp : XdpMd) :
    AlikeOutcome cfg (processTooBig cfg env isIpv6 xdp first)
      (processTooBig cfg env isIpv6 xdp second) := by
  unfold Katran.processTooBig
  split
  · rcases alike.countStats env.cpu (cfg.maxVips + icmpToobigCntrs)
        (if isIpv6 then LbStats.addV2 else LbStats.addV1) with
      ⟨missing, alsoMissing⟩ | ⟨_, _, counted, alsoCounted, alike⟩
    · rw [missing, alsoMissing]
      exact alike.outcome ..
    · rw [counted, alsoCounted]
      exact alike.outcome ..
  · exact alike.outcome ..

private theorem Alike.sendToReal (alike : Alike cfg first second) (maps : ConfigMaps) (cpu : Nat)
    (isIpv6 : Bool) (vip : VipDefinition) (info : VipMeta) (pktBytes : UInt16) (chosen : Chosen)
    (xdp : XdpMd) :
    AlikeOutcome cfg (sendToReal cfg maps cpu isIpv6 vip info pktBytes chosen xdp first)
      (sendToReal cfg maps cpu isIpv6 vip info pktBytes chosen xdp second) := by
  unfold Katran.sendToReal
  split
  · exact alike.outcome ..
  · rcases alike.countStats cpu info.vipNum (LbStats.addPacket pktBytes) with
      ⟨missing, alsoMissing⟩ | ⟨_, _, counted, alsoCounted, alike⟩
    · rw [missing, alsoMissing]
      exact alike.outcome ..
    · rw [counted, alsoCounted]
      dsimp only
      split
      · exact ⟨rfl, rfl, rfl, alike.lru, alike.rate⟩
      · exact alike.outcome ..

/-- A packet is balanced alike. -/
theorem Alike.balancePacket (alike : Alike cfg first second) (maps : ConfigMaps) (env : PacketEnv)
    (isIpv6 : Bool) (pckt : PacketDescription) (pktBytes : UInt16) (xdp : XdpMd) :
    AlikeOutcome cfg (balancePacket cfg maps env isIpv6 pckt pktBytes xdp first)
      (balancePacket cfg maps env isIpv6 pckt pktBytes xdp second) := by
  unfold Katran.balancePacket
  split
  · exact alike.outcome ..
  next info described _ =>
    split
    · exact alike.processTooBig ..
    · obtain ⟨chosen, _, _, chooses, alsoChooses, alike⟩ :=
        alike.chooseDst maps env isIpv6 xdp.data info described
      rw [chooses, alsoChooses]
      cases chosen with
      | none => exact alike.outcome ..
      | some chosen => exact alike.sendToReal ..

private theorem Alike.processTunnel (alike : Alike cfg first second) (maps : ConfigMaps) (cpu : Nat)
    (isIpv6 : Bool) (pckt : PacketDescription) (decap : Bool → Verdict × XdpMd) (xdp : XdpMd) :
    ∃ verdict after left right,
      processTunnel cfg maps cpu isIpv6 pckt decap xdp first = .final verdict after left ∧
      processTunnel cfg maps cpu isIpv6 pckt decap xdp second = .final verdict after right ∧
      Alike cfg left right := by
  have checked : AlikeResult cfg (checkDecapDst cfg maps cpu isIpv6 pckt first)
      (checkDecapDst cfg maps cpu isIpv6 pckt second) := by
    unfold checkDecapDst
    split
    · rcases alike.countStats cpu (cfg.maxVips + remoteEncapCntrs) LbStats.addV1 with
        ⟨missing, alsoMissing⟩ | ⟨_, _, counted, alsoCounted, alike⟩
      · rw [missing, alsoMissing]
        exact ⟨_, _, _, rfl, rfl, alike⟩
      · rw [counted, alsoCounted]
        exact ⟨_, _, _, rfl, rfl, alike⟩
    · exact ⟨_, _, _, rfl, rfl, alike⟩
  obtain ⟨pass, _, _, checks, alsoChecks, alike⟩ := checked
  unfold Katran.processTunnel
  rw [checks, alsoChecks]
  cases pass with
  | none => exact ⟨_, _, _, _, rfl, rfl, alike⟩
  | some pass => exact ⟨_, _, _, _, rfl, rfl, alike⟩

/-- Parsing depends on no counter, and counts the same. -/
theorem Alike.parsePacket (alike : Alike cfg first second) (maps : ConfigMaps) (cpu : Nat)
    (isIpv6 : Bool) (xdp : XdpMd) :
    (∃ pckt pktBytes, parsePacket cfg maps cpu isIpv6 xdp first = .described pckt pktBytes ∧
      parsePacket cfg maps cpu isIpv6 xdp second = .described pckt pktBytes) ∨
    ∃ verdict after left right,
      parsePacket cfg maps cpu isIpv6 xdp first = .final verdict after left ∧
      parsePacket cfg maps cpu isIpv6 xdp second = .final verdict after right ∧
      Alike cfg left right := by
  unfold Katran.parsePacket
  split
  · exact .inr ⟨_, _, _, _, rfl, rfl, alike⟩
  · dsimp only
    split
    · exact .inr (alike.processTunnel ..)
    · split
      · split
        · exact .inr ⟨_, _, _, _, rfl, rfl, alike⟩
        · exact .inl ⟨_, _, rfl, rfl⟩
      · split
        · split
          · exact .inr ⟨_, _, _, _, rfl, rfl, alike⟩
          · split
            · exact .inr (alike.processTunnel ..)
            · exact .inl ⟨_, _, rfl, rfl⟩
        · exact .inr ⟨_, _, _, _, rfl, rfl, alike⟩

private theorem Alike.processPacket (alike : Alike cfg first second) (maps : ConfigMaps)
    (env : PacketEnv) (isIpv6 : Bool) (xdp : XdpMd) :
    AlikeOutcome cfg (processPacket cfg maps env isIpv6 xdp first)
      (processPacket cfg maps env isIpv6 xdp second) := by
  unfold Katran.processPacket
  rcases alike.parsePacket maps env.cpu isIpv6 xdp with
    ⟨pckt, pktBytes, parsed, alsoParsed⟩ | ⟨_, _, _, _, parsed, alsoParsed, alike⟩
  · rw [parsed, alsoParsed]
    exact alike.balancePacket ..
  · rw [parsed, alsoParsed]
    exact alike.outcome ..

/-! ## Processing a frame -/

/-- Frames that `process_packet` gets to see. -/
def XdpMd.IsIp (xdp : XdpMd) : Prop :=
  14 ≤ xdp.data.length ∧
    (Bytes.read16 xdp.data 12 = beEthPIp ∨ Bytes.read16 xdp.data 12 = beEthPIpv6)

instance (xdp : XdpMd) : Decidable xdp.IsIp := inferInstanceAs (Decidable (_ ∧ _))

/-- The family that a frame's type gives. -/
def XdpMd.frameIpv6 (xdp : XdpMd) : Bool := Bytes.read16 xdp.data 12 = beEthPIpv6

section Ingress

variable {maps : ConfigMaps} {env : PacketEnv} {xdp : XdpMd}

/-- What is not a packet of IP is passed on, or dropped if it is too short. -/
theorem balancerIngress_other (tailCalls : Nat) (flow : FlowMaps) (other : ¬ xdp.IsIp) :
    balancerIngress cfg maps env tailCalls xdp flow =
      ⟨if 14 > xdp.data.length then .drop else .pass, xdp, flow, none⟩ := by
  unfold balancerIngress
  split
  · rfl
  next long =>
    dsimp only
    rw [if_neg fun type => other ⟨by omega, type⟩]

/-- A packet that is not processed again is settled. -/
theorem balancerIngress_settled (tailCalls : Nat) (flow : FlowMaps) (ip : xdp.IsIp)
    (settled : (processPacket cfg maps env xdp.frameIpv6 xdp flow).verdict ≠ .recirculate) :
    balancerIngress cfg maps env tailCalls xdp flow =
      processPacket cfg maps env xdp.frameIpv6 xdp flow := by
  have long : ¬ 14 > xdp.data.length := Nat.not_lt.mpr ip.1
  unfold balancerIngress
  rw [if_neg long]
  dsimp only
  rw [if_pos ip.2]
  split
  next again => exact (settled again).elim
  next again => exact (settled again).elim
  next => rfl

/-- A packet is passed on if it cannot be processed once more. -/
theorem balancerIngress_exhausted (flow : FlowMaps) (ip : xdp.IsIp)
    (again : (processPacket cfg maps env xdp.frameIpv6 xdp flow).verdict = .recirculate) :
    balancerIngress cfg maps env 0 xdp flow =
      { processPacket cfg maps env xdp.frameIpv6 xdp flow with verdict := .pass } := by
  have long : ¬ 14 > xdp.data.length := Nat.not_lt.mpr ip.1
  unfold XdpMd.frameIpv6 at again ⊢
  unfold balancerIngress
  rw [if_neg long]
  dsimp only
  rw [if_pos ip.2, again]

/-- A packet is processed once more. -/
theorem balancerIngress_recirculated (tailCalls : Nat) (flow : FlowMaps) (ip : xdp.IsIp)
    (again : (processPacket cfg maps env xdp.frameIpv6 xdp flow).verdict = .recirculate) :
    balancerIngress cfg maps env (tailCalls + 1) xdp flow =
      balancerIngress cfg maps env tailCalls
        (processPacket cfg maps env xdp.frameIpv6 xdp flow).xdp
        (processPacket cfg maps env xdp.frameIpv6 xdp flow).flow := by
  have long : ¬ 14 > xdp.data.length := Nat.not_lt.mpr ip.1
  unfold XdpMd.frameIpv6 at again ⊢
  conv_lhs => unfold balancerIngress
  rw [if_neg long]
  dsimp only
  rw [if_pos ip.2, again]

end Ingress

private theorem Alike.balancerIngress (alike : Alike cfg first second) (maps : ConfigMaps)
    (env : PacketEnv) (tailCalls : Nat) (xdp : XdpMd) :
    AlikeOutcome cfg (balancerIngress cfg maps env tailCalls xdp first)
      (balancerIngress cfg maps env tailCalls xdp second) := by
  induction tailCalls generalizing xdp first second with
  | zero =>
      by_cases ip : xdp.IsIp
      · have same := alike.processPacket maps env xdp.frameIpv6 xdp
        by_cases again : (Katran.processPacket cfg maps env xdp.frameIpv6 xdp first).verdict =
            .recirculate
        · rw [balancerIngress_exhausted first ip again,
            balancerIngress_exhausted second ip (same.verdict.symm.trans again)]
          exact ⟨rfl, same.xdp, same.sent, same.flow⟩
        · rw [balancerIngress_settled 0 first ip again,
            balancerIngress_settled 0 second ip fun other => again (same.verdict.trans other)]
          exact same
      · rw [balancerIngress_other 0 first ip, balancerIngress_other 0 second ip]
        exact alike.outcome ..
  | succ tailCalls ih =>
      by_cases ip : xdp.IsIp
      · have same := alike.processPacket maps env xdp.frameIpv6 xdp
        by_cases again : (Katran.processPacket cfg maps env xdp.frameIpv6 xdp first).verdict =
            .recirculate
        · rw [balancerIngress_recirculated tailCalls first ip again,
            balancerIngress_recirculated tailCalls second ip (same.verdict.symm.trans again),
            same.xdp]
          exact ih same.flow _
        · rw [balancerIngress_settled _ first ip again,
            balancerIngress_settled _ second ip fun other => again (same.verdict.trans other)]
          exact same
      · rw [balancerIngress_other _ first ip, balancerIngress_other _ second ip]
        exact alike.outcome ..

/-- States that are alike forward every sequence of packets alike. -/
theorem forwarded_alike (alike : Alike cfg first second) (packets : List Later) :
    forwarded cfg first packets = forwarded cfg second packets := by
  induction packets generalizing first second with
  | nil => rfl
  | cons later packets ih =>
      have same : AlikeOutcome cfg (later.outcome cfg first) (later.outcome cfg second) :=
        alike.balancerIngress later.maps later.env later.tailCalls later.xdp
      rw [forwarded, forwarded, same.sent, ih same.flow]

/-- What is forwarded of packets, and then of more. -/
theorem forwarded_append (cfg : BpfConfig) (flow : FlowMaps) (packets more : List Later) :
    forwarded cfg flow (packets ++ more) =
      forwarded cfg flow packets ++ forwarded cfg (afterAll cfg flow packets) more := by
  induction packets generalizing flow with
  | nil => rfl
  | cons later packets ih =>
      rw [List.cons_append, forwarded, forwarded, ih]
      rfl

end Katran
