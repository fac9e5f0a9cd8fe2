import Katran.Bpf.Choice

/-! # What a packet can do

A packet that is given a description and belongs to a VIP is decided upon
(`processPacket_cases`); no other packet touches a connection table or reaches a
real. A packet that is decided upon reaches its real unless it is too big or there
is no room for the outer headers (`processPacket_sent`).
-/

namespace Katran

open Foundation

variable {cfg : BpfConfig} {maps : ConfigMaps} {env : PacketEnv} {isIpv6 : Bool}
  {info : VipMeta} {pckt described : PacketDescription} {pktBytes : UInt16} {vip : VipDefinition}
  {xdp : XdpMd} {flow : FlowMaps}

/-! ## Parsing -/

/-- The description of a packet, if it gets as far as the lookup of its VIP. -/
def describe (cfg : BpfConfig) (isIpv6 : Bool) (data : List UInt8) :
    Option (PacketDescription × UInt16) :=
  match processL3Headers cfg data 14 isIpv6 with
  | .done _ _ => none
  | .further (pckt, pktBytes) =>
      let protocol := pckt.flow.proto
      if cfg.inlineDecapIpip ∧ (protocol = ipprotoIpip ∨ protocol = ipprotoIpv6) then none
      else if protocol = ipprotoTcp then
        (parseTcp data isIpv6 pckt).map fun pckt => (pckt, pktBytes)
      else if protocol = ipprotoUdp then
        ((parseUdp data isIpv6 pckt).filter fun pckt =>
          ¬ (cfg.inlineDecapGue ∧ pckt.flow.dstPort = Bytes.htons cfg.gueDport)).map
            fun pckt => (pckt, pktBytes)
      else none

private theorem processTunnel_final (cpu : Nat) (decap : Bool → Verdict × XdpMd) :
    ∃ verdict after later, processTunnel cfg maps cpu isIpv6 pckt decap xdp flow =
      .final verdict after later ∧ later.lru = flow.lru := by
  unfold processTunnel checkDecapDst countStats
  split
  next later returned =>
    refine ⟨_, _, _, rfl, ?_⟩
    split at returned
    · split at returned
      next missing =>
        obtain ⟨_, rfl⟩ := Prod.mk.inj returned
        rfl
      next => cases (Prod.mk.inj returned).1
    · cases (Prod.mk.inj returned).1
  next pass later returned =>
    refine ⟨_, _, _, rfl, ?_⟩
    split at returned
    · split at returned
      next => cases (Prod.mk.inj returned).1
      next counted counting =>
        obtain ⟨_, rfl⟩ := Prod.mk.inj returned
        split at counting
        · obtain rfl := Option.some.inj counting
          rfl
        · cases counting
    · obtain ⟨_, rfl⟩ := Prod.mk.inj returned
      rfl

/-- Parsing describes a packet or decides about it, and leaves the connection tables
alone. -/
theorem parsePacket_spec (cfg : BpfConfig) (maps : ConfigMaps) (cpu : Nat) (isIpv6 : Bool)
    (xdp : XdpMd) (flow : FlowMaps) :
    (∃ pckt pktBytes, describe cfg isIpv6 xdp.data = some (pckt, pktBytes) ∧
      parsePacket cfg maps cpu isIpv6 xdp flow = .described pckt pktBytes) ∨
    (describe cfg isIpv6 xdp.data = none ∧ ∃ verdict after later,
      parsePacket cfg maps cpu isIpv6 xdp flow = .final verdict after later ∧
        later.lru = flow.lru) := by
  unfold parsePacket describe
  cases processL3Headers cfg xdp.data 14 isIpv6 with
  | done verdict data => exact .inr ⟨rfl, _, _, _, rfl, rfl⟩
  | further value =>
      obtain ⟨pckt, pktBytes⟩ := value
      dsimp only
      by_cases ipip : cfg.inlineDecapIpip = true ∧
          (pckt.flow.proto = ipprotoIpip ∨ pckt.flow.proto = ipprotoIpv6)
      · rw [if_pos ipip, if_pos ipip]
        exact .inr ⟨rfl, processTunnel_final cpu _⟩
      rw [if_neg ipip, if_neg ipip]
      by_cases tcp : pckt.flow.proto = ipprotoTcp
      · rw [if_pos tcp, if_pos tcp]
        cases parseTcp xdp.data isIpv6 pckt with
        | none => exact .inr ⟨rfl, _, _, _, rfl, rfl⟩
        | some pckt => exact .inl ⟨pckt, pktBytes, rfl, rfl⟩
      rw [if_neg tcp, if_neg tcp]
      by_cases udp : pckt.flow.proto = ipprotoUdp
      · rw [if_pos udp, if_pos udp]
        cases parseUdp xdp.data isIpv6 pckt with
        | none => exact .inr ⟨rfl, _, _, _, rfl, rfl⟩
        | some pckt =>
            dsimp only
            by_cases tunnel : cfg.inlineDecapGue = true ∧
                pckt.flow.dstPort = Bytes.htons cfg.gueDport
            · rw [if_pos tunnel]
              refine .inr ⟨?_, processTunnel_final cpu _⟩
              simp only [Option.filter_some, tunnel, and_self, not_true_eq_false, decide_false,
                Bool.false_eq_true, ↓reduceIte, Option.map_none]
            · rw [if_neg tunnel]
              refine .inl ⟨pckt, pktBytes, ?_, rfl⟩
              simp only [Option.filter_some, tunnel, not_false_eq_true, decide_true, ↓reduceIte,
                Option.map_some]
      · rw [if_neg udp, if_neg udp]
        exact .inr ⟨rfl, _, _, _, rfl, rfl⟩

/-- A packet with a description has an Ethernet and a network header. -/
theorem length_of_describe (found : describe cfg isIpv6 xdp.data = some (pckt, pktBytes)) :
    14 + 20 ≤ xdp.data.length := by
  by_contra short
  have dropped : processL3Headers cfg xdp.data 14 isIpv6 = .done .drop xdp.data := by
    unfold processL3Headers
    split
    · rw [if_pos (by omega)]
    · rw [if_pos (by omega)]
  rw [describe, dropped] at found
  cases found

/-! ## Sending -/

private theorem makeRoom_isSome {size : Nat} (room : size ≤ xdp.headroom.length)
    (long : 14 ≤ xdp.data.length) : (makeRoom xdp size).isSome = true := by
  simp only [makeRoom, XdpMd.growHead, room, ↓reduceIte, Option.bind_some]
  rw [if_neg]
  · rfl
  · simp only [List.length_append, List.length_drop]
    omega

/-- There is room for the outer headers if the headroom has 48 bytes. -/
theorem pcktEncap_isSome (cfg : BpfConfig) (maps : ConfigMaps) (isIpv6 : Bool)
    (pckt : PacketDescription) (dst : RealDefinition) (pktBytes : UInt16)
    (room : 48 ≤ xdp.headroom.length) (long : 14 ≤ xdp.data.length) :
    (pcktEncap cfg maps isIpv6 pckt dst pktBytes xdp).isSome = true := by
  unfold pcktEncap
  split
  · split
    · simp only [gueEncapV6, Option.isSome_map]
      exact makeRoom_isSome (by omega) long
    · simp only [encapV6, Option.isSome_map]
      exact makeRoom_isSome (by omega) long
  · split
    · simp only [gueEncapV4, Option.isSome_map]
      exact makeRoom_isSome (by omega) long
    · simp only [encapV4, Option.isSome_map]
      exact makeRoom_isSome (by omega) long

private theorem sendToReal_lru (cpu : Nat) (chosen : Chosen) :
    (sendToReal cfg maps cpu isIpv6 vip info pktBytes chosen xdp flow).flow.lru = flow.lru := by
  unfold sendToReal countStats
  split
  · rfl
  · split
    next => rfl
    next counted counting =>
      split at counting
      · obtain rfl := Option.some.inj counting
        split <;> rfl
      · cases counting

/-- A packet that has been sent was counted for its VIP. -/
theorem sendToReal_of_sent {cpu : Nat} {chosen : Chosen} {sent : Sent}
    (sending : (sendToReal cfg maps cpu isIpv6 vip info pktBytes chosen xdp flow).sent =
      some sent) :
    sent = ⟨vip, info, chosen.pckt, chosen.dst⟩ ∧ info.vipNum < cfg.statsMapSize := by
  unfold sendToReal countStats at sending
  split at sending
  · cases sending
  · split at sending
    next => cases sending
    next counted counting =>
      split at counting
      next inside =>
        split at sending
        · exact ⟨(Option.some.inj sending).symm, inside⟩
        · cases sending
      next => cases counting

private theorem sendToReal_sent {cpu : Nat} {chosen : Chosen} (room : 48 ≤ xdp.headroom.length)
    (long : 14 ≤ xdp.data.length) (counted : info.vipNum < cfg.statsMapSize)
    (known : chosen.pckt.realIndex < cfg.maxReals) :
    (sendToReal cfg maps cpu isIpv6 vip info pktBytes chosen xdp flow).sent =
      some ⟨vip, info, chosen.pckt, chosen.dst⟩ := by
  obtain ⟨wrapped, encapsulated⟩ := Option.isSome_iff_exists.mp
    (pcktEncap_isSome cfg maps isIpv6 chosen.pckt chosen.dst pktBytes room long)
  simp only [sendToReal, countStats, encapsulated, counted, known, ↓reduceIte]

/-! ## The outcome -/

/-- What becomes of a packet of a VIP that is not too big: a decision is made, and
the packet is sent to the real that was chosen, if there is room for the outer
headers. -/
structure Balanced (cfg : BpfConfig) (maps : ConfigMaps) (env : PacketEnv) (isIpv6 : Bool)
    (xdp : XdpMd) (flow : FlowMaps) (vip : VipDefinition) (info : VipMeta)
    (described : PacketDescription) (decided : Option Chosen) (outcome : Outcome) : Prop where
  fits : xdp.data.length ≤ cfg.maxPcktSize
  chooses : (chooseDst cfg maps env isIpv6 xdp.data info described flow).1 = decided
  decision : Decision cfg maps env isIpv6 (quicRouted cfg isIpv6 xdp.data info described) info
    (lruPckt info described) flow decided outcome.flow.lru
  of_sent : ∀ sent, outcome.sent = some sent → ∃ chosen, decided = some chosen ∧
    sent = ⟨vip, info, chosen.pckt, chosen.dst⟩ ∧ info.vipNum < cfg.statsMapSize
  sends : ∀ chosen, decided = some chosen → 48 ≤ xdp.headroom.length →
    info.vipNum < cfg.statsMapSize → chosen.pckt.realIndex < cfg.maxReals →
      outcome.sent = some ⟨vip, info, chosen.pckt, chosen.dst⟩

private theorem balancePacket_balanced (env : PacketEnv) (pktBytes : UInt16) (flow : FlowMaps)
    (found : lookupVip maps isIpv6 pckt = some (vip, info, described))
    (fits : xdp.data.length ≤ cfg.maxPcktSize) (long : 14 ≤ xdp.data.length) :
    ∃ decided, Balanced cfg maps env isIpv6 xdp flow vip info described decided
      (balancePacket cfg maps env isIpv6 pckt pktBytes xdp flow) := by
  have decision := chooseDst_decision cfg maps env isIpv6 xdp.data info described flow
  have small : ¬ xdp.data.length > cfg.maxPcktSize := by omega
  simp only [balancePacket, found, small, ↓reduceIte]
  cases returned : chooseDst cfg maps env isIpv6 xdp.data info described flow with
  | mk decided later =>
      rw [returned] at decision
      refine ⟨decided, fits, by rw [returned], ?_, ?_, ?_⟩
      · cases decided with
        | none => exact decision
        | some chosen =>
            dsimp only
            rw [sendToReal_lru]
            exact decision
      · intro sent sending
        cases decided with
        | none => cases sending
        | some chosen => exact ⟨chosen, rfl, sendToReal_of_sent sending⟩
      · rintro chosen rfl room counted known
        exact sendToReal_sent room long counted known

/-- A packet without a VIP, or one that is too big, goes nowhere and leaves the
connection tables alone; every other one is balanced. -/
theorem processPacket_cases (cfg : BpfConfig) (maps : ConfigMaps) (env : PacketEnv) (isIpv6 : Bool)
    (xdp : XdpMd) (flow : FlowMaps) :
    let outcome := processPacket cfg maps env isIpv6 xdp flow
    (outcome.sent = none ∧ outcome.flow.lru = flow.lru ∧ ∀ pckt pktBytes found,
      describe cfg isIpv6 xdp.data = some (pckt, pktBytes) →
        lookupVip maps isIpv6 pckt = some found → cfg.maxPcktSize < xdp.data.length) ∨
    ∃ pckt pktBytes vip info described decided,
      describe cfg isIpv6 xdp.data = some (pckt, pktBytes) ∧
      lookupVip maps isIpv6 pckt = some (vip, info, described) ∧
      Balanced cfg maps env isIpv6 xdp flow vip info described decided outcome := by
  dsimp only
  rcases parsePacket_spec cfg maps env.cpu isIpv6 xdp flow with
    ⟨pckt, pktBytes, found, parsed⟩ | ⟨undescribed, verdict, after, later, parsed, lru⟩
  · simp only [processPacket, parsed]
    cases resolved : lookupVip maps isIpv6 pckt with
    | none =>
        refine .inl ?_
        simp only [balancePacket, resolved, true_and]
        intro other bytes vip same looked
        obtain ⟨rfl, rfl⟩ := Prod.mk.inj (Option.some.inj (found.symm.trans same))
        cases resolved.symm.trans looked
    | some known =>
        obtain ⟨vip, info, described⟩ := known
        have long := length_of_describe found
        by_cases big : xdp.data.length > cfg.maxPcktSize
        · refine .inl ?_
          simp only [balancePacket, resolved, big, ↓reduceIte]
          refine ⟨?_, ?_, fun _ _ _ _ _ => trivial⟩
          · unfold processTooBig countStats
            split
            · split <;> rfl
            · rfl
          · unfold processTooBig countStats
            split
            · split
              next => rfl
              next counted counting =>
                split at counting
                · obtain rfl := Option.some.inj counting
                  rfl
                · cases counting
            · rfl
        · obtain ⟨decided, balanced⟩ := balancePacket_balanced env pktBytes flow resolved
            (Nat.le_of_not_lt big) (by omega)
          exact .inr ⟨pckt, pktBytes, vip, info, described, decided, found, resolved, balanced⟩
  · simp only [processPacket, parsed]
    refine .inl ⟨trivial, lru, ?_⟩
    intro pckt bytes vip described
    cases undescribed.symm.trans described

/-- A packet of a VIP that is not too big is balanced. -/
theorem processPacket_balanced (env : PacketEnv) (flow : FlowMaps)
    (parsed : describe cfg isIpv6 xdp.data = some (pckt, pktBytes))
    (found : lookupVip maps isIpv6 pckt = some (vip, info, described))
    (fits : xdp.data.length ≤ cfg.maxPcktSize) :
    Balanced cfg maps env isIpv6 xdp flow vip info described
      (chooseDst cfg maps env isIpv6 xdp.data info described flow).1
      (processPacket cfg maps env isIpv6 xdp flow) := by
  rcases processPacket_cases cfg maps env isIpv6 xdp flow with
    ⟨_, _, big⟩ | ⟨_, _, _, _, _, decided, same, sameVip, balanced⟩
  · exact absurd (big _ _ _ parsed found) (Nat.not_lt.mpr fits)
  · obtain ⟨rfl, rfl⟩ := Prod.mk.inj (Option.some.inj (parsed.symm.trans same))
    obtain ⟨rfl, rfl, rfl⟩ := Option.some.inj (found.symm.trans sameVip)
    rw [balanced.chooses]
    exact balanced

/-! ## Sample packets -/

/-- An IPv4 packet with a TCP header and no payload, behind 64 bytes of headroom. -/
def sampleTcp (src dst : UInt32) (sport dport : UInt16) (syn : Bool) : XdpMd where
  headroom := List.replicate 64 0
  data := [2, 0, 0, 0, 0, 2, 2, 0, 0, 0, 0, 3, 8, 0] ++
    [0x45, 0, 0, 40, 0, 0, 0x40, 0, 64, 6, 0, 0] ++ Bytes.ofUInt32 src ++ Bytes.ofUInt32 dst ++
    Bytes.ofUInt16 (Bytes.htons sport) ++ Bytes.ofUInt16 (Bytes.htons dport) ++
    [0, 0, 0, 1, 0, 0, 0, 1, 0x50, if syn then 0x02 else 0x10, 0, 0, 0, 0, 0, 0]

/-- The program with small maps, and the first core with a connection table. -/
def smallConfig : BpfConfig := { ringSize := 3, maxVips := 8, maxReals := 3 }

/-- The first core at some time, with checksums that are not computed. -/
def sampleEnv (now : UInt64) : PacketEnv where
  cpu := 0
  lookupTime := now
  floodTime := now
  csumDiff := fun _ seed => seed

end Katran
