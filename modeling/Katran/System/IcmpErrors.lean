import Katran.Bpf.Icmp
import Katran.System.Affinity

/-! # ICMP errors and the connection table

An ICMP error is looked up in the connection table under the flow of its connection. If
the header it quotes has the SYN flag, the table is not asked and the connection is
recorded again with whatever the ring has now, so that the error moves the connection
(`syn_error_moves_connection`). In all other cases it follows the connection
(`icmp_error_follows_iff`).
-/

namespace Katran

open Foundation

variable {cfg : BpfConfig} {maps : ConfigMaps} {env : PacketEnv} {isIpv6 : Bool} {xdp : XdpMd}
  {flow : FlowMaps} {pckt described : PacketDescription} {pktBytes : UInt16} {vip : VipDefinition}
  {info : VipMeta} {entry : RealPosLru}

/-- The SYN flag of a description is that of a TCP header. -/
theorem synSet_iff (parsed : describe cfg isIpv6 xdp.data = some (pckt, pktBytes)) :
    pckt.synSet = true ↔ pckt.flow.proto = ipprotoTcp ∧
      Bytes.read8 xdp.data (calcOffset isIpv6 pckt.icmp + 13) &&& 0x02 ≠ 0 := by
  unfold describe at parsed
  cases headers : processL3Headers cfg xdp.data 14 isIpv6 with
  | done verdict data =>
      rw [headers] at parsed
      cases parsed
  | further value =>
      rw [headers] at parsed
      dsimp only at parsed
      have unset : value.1.synSet = false := by
        obtain ⟨_, _, ⟨_, same⟩ | ⟨_, _, same⟩⟩ := (processL3Headers_iff ..).mp headers
        · rw [same]
          rfl
        · rw [same]
          rfl
      split at parsed
      · cases parsed
      · split at parsed
        next tcp =>
          obtain ⟨final, transport, same⟩ := Option.map_eq_some_iff.mp parsed
          cases same
          unfold parseTcp at transport
          dsimp only at transport
          split at transport
          · cases transport
          · obtain rfl := Option.some.inj transport
            simp only [PacketDescription.setPorts, unset, Bool.false_or, bne_iff_ne, tcp, true_and]
        next notTcp =>
          split at parsed
          next udp =>
            obtain ⟨final, transport, same⟩ := Option.map_eq_some_iff.mp parsed
            cases same
            obtain ⟨transport, _⟩ := Option.filter_eq_some_iff.mp transport
            unfold parseUdp at transport
            dsimp only at transport
            split at transport
            · cases transport
            · obtain rfl := Option.some.inj transport
              simp only [PacketDescription.setPorts, unset, Bool.false_eq_true, notTcp, false_and]
          next => cases parsed

private theorem lruPckt_synSet (info : VipMeta) (pckt : PacketDescription) :
    (lruPckt info pckt).synSet = pckt.synSet := by
  unfold lruPckt
  split <;> rfl

/-- A packet that opens a connection gets a real only if that can be counted. -/
theorem miss_counted_of_syn {data : List UInt8} {chosen : Chosen} (noQuic : info.quicVip = false)
    (opens : (lruPckt info described).synSet = true)
    (proto : (lruPckt info described).flow.proto = ipprotoTcp)
    (chooses : (chooseDst cfg maps env isIpv6 data info described flow).1 = some chosen) :
    cfg.maxVips + lruMissCntr < cfg.statsMapSize := by
  by_contra outside
  have dropped : ∀ later, (lruDst cfg maps env isIpv6 info described later).1 = none := by
    intro later
    unfold lruDst
    dsimp only
    split
    · rfl
    · simp only [lookupDst, opens, not_true_eq_false, false_and, ↓reduceIte, missDst, countMiss,
        proto, countStats, outside]
  unfold chooseDst at chooses
  split at chooses
  · cases chooses
  · rw [noQuic, if_neg Bool.false_ne_true, dropped] at chooses
    cases chooses

/-- The error goes to the real of the connection's entry, and the entry keeps it. -/
structure Follows (cfg : BpfConfig) (maps : ConfigMaps) (env : PacketEnv) (key : FlowKey)
    (entry : RealPosLru) (outcome : Outcome) : Prop where
  sent : ∃ sent, outcome.sent = some sent ∧ sent.pckt.realIndex = entry.pos ∧
    sent.dst = maps.reals entry.pos
  kept : (outcome.flow.lru (lruMapOf cfg maps env.cpu) key).map (·.pos) = some entry.pos

/-- The error quotes a TCP header with the SYN flag. -/
def QuotesSyn (isIpv6 : Bool) (data : List UInt8) (proto : UInt8) : Prop :=
  proto = ipprotoTcp ∧ Bytes.read8 data (calcOffset isIpv6 true + 13) &&& 0x02 ≠ 0

/-- When an error follows the connection of which it has an entry: it is not too big, the
numbers of its VIP and of the real are in range, and it does not quote a SYN, unless the
source address or the ring gives the same real now. -/
structure MayFollow (cfg : BpfConfig) (maps : ConfigMaps) (env : PacketEnv) (isIpv6 : Bool)
    (data : List UInt8) (flow : FlowMaps) (info : VipMeta) (key : FlowKey) (entry : RealPosLru) :
    Prop where
  fits : data.length ≤ cfg.maxPcktSize
  present : CountersPresent cfg maps env.cpu
  counted : info.vipNum < cfg.statsMapSize
  known : entry.pos < cfg.maxReals
  same_pick : QuotesSyn isIpv6 data key.proto → cfg.maxVips + lruMissCntr < cfg.statsMapSize ∧
    (pickDst cfg maps isIpv6 (isUnderFlood cfg env.cpu env.floodTime flow).1 info key).map (·.1) =
      some entry.pos

private theorem refreshedLru_pos {place : Option Nat} {key : FlowKey}
    {lru : Option Nat → FlowKey → Option RealPosLru} (live : lru place key = some entry) :
    (refreshedLru env place key entry lru place key).map (·.pos) = some entry.pos := by
  unfold refreshedLru
  split
  · rw [store_apply, if_pos ⟨rfl, rfl⟩]
    rfl
  · rw [live]
    rfl

/-- A connection that is recorded again with its real keeps it. -/
theorem Decision.pos_of_picks {chosen : Chosen} {routed : Bool}
    {lru : Option Nat → FlowKey → Option RealPosLru}
    (decision : Decision cfg maps env isIpv6 routed info pckt flow (some chosen) lru)
    (unrouted : routed = false) (allHashed : info.hashDportOnly = false)
    (live : flow.lru (lruMapOf cfg maps env.cpu) pckt.flow = some entry)
    (same : chosen.pckt.realIndex = entry.pos) :
    (lru (lruMapOf cfg maps env.cpu) pckt.flow).map (·.pos) = some entry.pos := by
  cases decision with
  | quic byId _ => cases unrouted.symm.trans byId
  | hit other _ _ hits =>
      obtain rfl := Option.some.inj (live.symm.trans hits.found)
      exact refreshedLru_pos live
  | picked missed key recorded _ _ _ misses picks _ =>
      have stored : recorded = pckt.flow := by
        unfold pickDst hashedFlow at picks
        rw [allHashed] at picks
        split at picks
        · exact (Prod.mk.inj (Option.some.inj picks)).2.symm
        · obtain ⟨_, _, pair⟩ := Option.map_eq_some_iff.mp picks
          exact (Prod.mk.inj pair).2.symm
      subst stored
      unfold recordedLru
      split
      · rw [store_apply, if_pos ⟨rfl, rfl⟩]
        exact congrArg some same
      · rcases misses with rfl | ⟨other, found, _, rfl⟩
        · rw [live]
          rfl
        · obtain rfl := Option.some.inj (live.symm.trans found)
          exact refreshedLru_pos live

/-- **Errors follow the connection they are about.** An ICMP error about a connection with an
entry is sent to the real of the entry, which stays in the table, exactly under conditions on
the packet and the state before it: the error is not too big, the real and the counters exist,
and if it quotes a SYN then the connection is given the same real anew. -/
theorem icmp_error_follows_iff (room : 48 ≤ xdp.headroom.length)
    (parsed : describe cfg isIpv6 xdp.data = some (pckt, pktBytes)) (error : pckt.icmp = true)
    (found : lookupVip maps isIpv6 pckt = some (vip, info, described))
    (used : info.lruBypass = false) (noQuic : info.quicVip = false)
    (allHashed : info.hashDportOnly = false)
    (live : flow.lru (lruMapOf cfg maps env.cpu) (lruPckt info described).flow = some entry)
    (fresh : lruExpired cfg env.lookupTime (lruPckt info described).flow.proto entry = false) :
    Follows cfg maps env (lruPckt info described).flow entry
        (processPacket cfg maps env isIpv6 xdp flow) ↔
      MayFollow cfg maps env isIpv6 xdp.data flow info (lruPckt info described).flow entry := by
  have unrouted := quicRouted_eq_false cfg isIpv6 xdp.data described noQuic
  have protoOf : (lruPckt info described).flow.proto = pckt.flow.proto := by
    rw [lruPckt_proto, (lookupVip_spec found).2.2]
  have synOf : (lruPckt info described).synSet = pckt.synSet := by
    rw [lruPckt_synSet, (lookupVip_spec found).2.2]
  have syn : (lruPckt info described).synSet = true ↔
      QuotesSyn isIpv6 xdp.data (lruPckt info described).flow.proto := by
    rw [synOf, protoOf, synSet_iff parsed, error]
    rfl
  constructor
  · intro follows
    obtain ⟨sent, sending, index, _⟩ := follows.sent
    rcases processPacket_cases cfg maps env isIpv6 xdp flow with
      ⟨unsent, _, _⟩ | ⟨_, _, _, _, _, decided, again, sameVip, balanced⟩
    · cases unsent.symm.trans sending
    · obtain ⟨rfl, rfl⟩ := Prod.mk.inj (Option.some.inj (parsed.symm.trans again))
      obtain ⟨rfl, rfl, rfl⟩ := Option.some.inj (found.symm.trans sameVip)
      obtain ⟨chosen, rfl, rfl, counted⟩ := balanced.of_sent sent sending
      have present := balanced.decision.present unrouted
      rcases balanced.decision.chosen_cases with byId | ⟨other, hits, rfl⟩ |
        ⟨key, recorded, picks, known, rfl⟩
      · cases unrouted.symm.trans byId
      · obtain rfl := Option.some.inj (live.symm.trans hits.found)
        refine ⟨balanced.fits, present, counted, hits.known, ?_⟩
        intro quotes
        cases hits.established.symm.trans (syn.mpr quotes)
      · obtain rfl : key = entry.pos := index
        refine ⟨balanced.fits, present, counted, known, ?_⟩
        intro quotes
        refine ⟨miss_counted_of_syn noQuic (syn.mpr quotes) quotes.1 balanced.chooses, ?_⟩
        rw [picks]
        rfl
  · intro may
    have balanced := processPacket_balanced env flow parsed found may.fits
    have sends : ∀ chosen,
        (chooseDst cfg maps env isIpv6 xdp.data info described flow).1 = some chosen →
        chosen.pckt.realIndex = entry.pos → chosen.dst = maps.reals entry.pos →
          Follows cfg maps env (lruPckt info described).flow entry
            (processPacket cfg maps env isIpv6 xdp flow) := by
      intro chosen chooses index real
      have decision := balanced.decision
      rw [chooses] at decision
      refine ⟨⟨_, balanced.sends chosen chooses room may.counted (index ▸ may.known), index,
        real⟩, ?_⟩
      exact decision.pos_of_picks unrouted allHashed live index
    by_cases quotes : QuotesSyn isIpv6 xdp.data (lruPckt info described).flow.proto
    · obtain ⟨counted, pick⟩ := may.same_pick quotes
      obtain ⟨⟨key, recorded⟩, picks, rfl⟩ := Option.map_eq_some_iff.mp pick
      have misses : ∀ other, ¬ Hits cfg env (lruMapOf cfg maps env.cpu) info
          (lruPckt info described) flow.lru other := by
        intro other hits
        cases hits.established.symm.trans (syn.mpr quotes)
      have chooses := balanced.decision.of_picks unrouted may.present counted misses picks may.known
      exact sends _ chooses rfl rfl
    · have established : (lruPckt info described).synSet = false := by
        rw [Bool.eq_false_iff]
        exact fun opens => quotes (syn.mp opens)
      have hits : Hits cfg env (lruMapOf cfg maps env.cpu) info (lruPckt info described) flow.lru
          entry := ⟨established, used, live, fresh, may.known⟩
      have chooses := (balanced.decision.of_hits unrouted may.present hits).1
      exact sends _ chooses rfl rfl

/-- An error about a packet from the server, with or without the SYN flag. -/
def errorAbout (syn : Bool) : XdpMd :=
  sampleIcmp 0x0101c80a ((sampleTcp 0x0101c80a 0x01010101 80 4000 syn).data.drop 14)

/-- The ring has been rewritten since the connection was opened. -/
theorem icmp_error_follows_rewritten :
    Follows smallConfig rewritten (sampleEnv 6) connection ⟨2, 0⟩
      (processPacket smallConfig rewritten (sampleEnv 6) false (errorAbout false) established) := by
  have parsed : describe smallConfig false (errorAbout false).data =
      some ({ flow := connection, icmp := true }, 68) := by decide +kernel
  have found : lookupVip rewritten false { flow := connection, icmp := true } =
      some (⟨.ofV4 0x0101c80a, 0x5000, 6⟩, ⟨0, 1⟩, { flow := connection, icmp := true }) := by
    decide +kernel
  have live : established.lru (lruMapOf smallConfig rewritten 0) connection = some ⟨2, 0⟩ := by
    decide +kernel
  refine (icmp_error_follows_iff (by decide) parsed rfl found (by decide) (by decide) (by decide)
    live (by decide)).mpr ?_
  refine ⟨by decide, ⟨by decide, by decide⟩, by decide, by decide, ?_⟩
  rintro ⟨_, syn⟩
  exact absurd syn (by decide +kernel)

/-- The error about a SYN goes to another real, and takes the connection with it. -/
theorem syn_error_moves_connection :
    established.lru (some 0) connection = some ⟨2, 0⟩ ∧
      let outcome := processPacket smallConfig rewritten (sampleEnv 6) false (errorAbout true)
        established
      outcome.sent.map (·.pckt.realIndex) = some 1 ∧
        outcome.flow.lru (some 0) connection = some ⟨1, 0⟩ ∧
        ¬ Follows smallConfig rewritten (sampleEnv 6) connection ⟨2, 0⟩ outcome := by
  have moved : (processPacket smallConfig rewritten (sampleEnv 6) false (errorAbout true)
      established).flow.lru (some 0) connection = some ⟨1, 0⟩ := by decide +kernel
  refine ⟨by decide +kernel, by decide +kernel, moved, ?_⟩
  intro follows
  have kept := follows.kept
  rw [show lruMapOf smallConfig rewritten (sampleEnv 6).cpu = some 0 by decide, moved] at kept
  exact absurd kept (by decide)

end Katran
