import Katran.System.Static

/-! # Connections keep their real

The control plane may rewrite the rings, the reals and the source routes while
connections are open. A connection stays with its real all the same, because its entry
in the connection table is found before the ring is asked (`Recorded`): no other packet
stores under its key, and its own packets keep it from timing out. This needs the key
that is searched to be the key that is stored, which a VIP that hashes the destination
port only does not ensure.
-/

namespace Katran

open Foundation

/-- The description with which the connection table is searched, of a packet that
belongs to a VIP and is not too big. -/
def searchedPckt (cfg : BpfConfig) (maps : ConfigMaps) (isIpv6 : Bool) (data : List UInt8) :
    Option PacketDescription :=
  if data.length ≤ cfg.maxPcktSize then
    (describe cfg isIpv6 data).bind fun parsed =>
      (lookupVip maps isIpv6 parsed.1).map fun found => lruPckt found.2.1 found.2.2
  else none

/-- A core and the maps, with the clock and the time of the last packet of a
connection. -/
structure Traffic where
  maps : ConfigMaps
  flow : FlowMaps
  clock : UInt64
  seen : UInt64

/-- A packet is processed, the control plane writes, or an entry is evicted. -/
inductive TrafficEvent where
  | packet (env : PacketEnv) (xdp : XdpMd)
  | rewrite (chRings : Nat → Nat) (reals : Nat → RealDefinition) (lpmSrcV4 lpmSrcV6 : LpmTrie)
  | evict (lruMap : Option Nat) (key : FlowKey)

/-- The packet continues a connection: it does not open it, and it is not too late. -/
def Continues (cfg : BpfConfig) (env : PacketEnv) (seen : UInt64) (pckt : PacketDescription) :
    Prop :=
  pckt.synSet = false ∧
    (pckt.flow.proto = ipprotoUdp → env.lookupTime - seen ≤ cfg.lruUdpTimeout)

/-- An event at a core that does not end a connection. -/
def Traffic.Step (cfg : BpfConfig) (isIpv6 : Bool) (cpu : Nat) (key : FlowKey) (traffic : Traffic)
    (event : TrafficEvent) (after : Traffic) : Prop :=
  match event with
  | .packet env xdp =>
      env.cpu = cpu ∧ traffic.clock ≤ env.lookupTime ∧ env.lookupTime ≤ env.floodTime ∧
      (∀ pckt, searchedPckt cfg traffic.maps isIpv6 xdp.data = some pckt → pckt.flow = key →
        Continues cfg env traffic.seen pckt) ∧
      after = { traffic with
        flow := (processPacket cfg traffic.maps env isIpv6 xdp traffic.flow).flow
        clock := env.floodTime
        seen := if (searchedPckt cfg traffic.maps isIpv6 xdp.data).map (·.flow) = some key
          then env.lookupTime else traffic.seen }
  | .rewrite chRings reals lpmSrcV4 lpmSrcV6 =>
      after = { traffic with
        maps := { traffic.maps with
          chRings := chRings, reals := reals, lpmSrcV4 := lpmSrcV4, lpmSrcV6 := lpmSrcV6 } }
  | .evict lruMap other =>
      ¬ (lruMap = lruMapOf cfg traffic.maps cpu ∧ other = key) ∧
      after = { traffic with flow := traffic.flow.lruEvict lruMap other }

/-- A VIP whose connections are recorded under the key with which they are searched. -/
structure VipMeta.Sticky (info : VipMeta) : Prop where
  used : info.lruBypass = false
  noQuic : info.quicVip = false
  wholeKey : info.hashDportOnly = false

/-- A connection is in the table of a core, and has not timed out. -/
structure Recorded (cfg : BpfConfig) (isIpv6 : Bool) (cpu : Nat) (key : FlowKey) (info : VipMeta)
    (real : Nat) (traffic : Traffic) : Prop where
  resolved : (vipOf traffic.maps isIpv6 key).map Prod.snd = some info
  present : CountersPresent cfg traffic.maps cpu
  recorded : ∃ entry, traffic.flow.lru (lruMapOf cfg traffic.maps cpu) key = some entry ∧
    entry.pos = real ∧
    (key.proto = ipprotoUdp → traffic.seen ≤ entry.atime ∧ entry.atime ≤ traffic.clock)

variable {cfg : BpfConfig} {maps : ConfigMaps} {isIpv6 : Bool} {env : PacketEnv} {xdp : XdpMd}
  {flow : FlowMaps} {vip : VipDefinition} {info : VipMeta} {pckt described : PacketDescription}
  {pktBytes : UInt16} {key : FlowKey} {real : Nat} {traffic after : Traffic}

private theorem searchedPckt_of_lookupVip
    (parsed : describe cfg isIpv6 xdp.data = some (pckt, pktBytes))
    (found : lookupVip maps isIpv6 pckt = some (vip, info, described))
    (fits : xdp.data.length ≤ cfg.maxPcktSize) :
    searchedPckt cfg maps isIpv6 xdp.data = some (lruPckt info described) := by
  simp only [searchedPckt, fits, ↓reduceIte, parsed, Option.bind_some, found, Option.map_some]

/-- A packet that goes nowhere without having been looked at was not searched for. -/
theorem searchedPckt_eq_none
    (big : ∀ pckt pktBytes found, describe cfg isIpv6 xdp.data = some (pckt, pktBytes) →
      lookupVip maps isIpv6 pckt = some found → cfg.maxPcktSize < xdp.data.length) :
    searchedPckt cfg maps isIpv6 xdp.data = none := by
  unfold searchedPckt
  split
  next fits =>
    cases parsed : describe cfg isIpv6 xdp.data with
    | none => rfl
    | some described =>
        cases found : lookupVip maps isIpv6 described.1 with
        | none => simp only [Option.bind_some, found, Option.map_none]
        | some known => exact absurd (big _ _ _ parsed found) (Nat.not_lt.mpr fits)
  next => rfl

/-- Waiting from a later time is waiting less. -/
theorem sub_le_of_le {first second now limit : UInt64} (order : first ≤ second)
    (past : second ≤ now) (soon : now - first ≤ limit) : now - second ≤ limit := by
  have earlier := UInt64.toNat_sub_of_le _ _ (UInt64.le_trans order past)
  have later := UInt64.toNat_sub_of_le _ _ past
  rw [UInt64.le_iff_toNat_le] at *
  omega

/-- A connection of a VIP that does not hash the destination port only is recorded
under the key with which it is searched. -/
theorem recorded_of_wholeKey {underFlood : Bool} {recorded : FlowKey}
    (picks : pickDst cfg maps isIpv6 underFlood info key = some (real, recorded))
    (wholeKey : info.hashDportOnly = false) : recorded = key := by
  unfold pickDst at picks
  split at picks
  · exact (Prod.mk.inj (Option.some.inj picks)).2.symm
  · obtain ⟨slot, _, same⟩ := Option.map_eq_some_iff.mp picks
    obtain ⟨_, rfl⟩ := Prod.mk.inj same
    simp only [hashedFlow, wholeKey, Bool.false_eq_true, ↓reduceIte]

/-- The entry of a connection decides about a packet that continues it. -/
theorem Recorded.hits (recorded : Recorded cfg isIpv6 env.cpu key info real traffic)
    (sticky : info.Sticky) (known : real < cfg.maxReals) (searched : pckt.flow = key)
    (clock : traffic.clock ≤ env.lookupTime) (continues : Continues cfg env traffic.seen pckt) :
    ∃ entry, entry.pos = real ∧
      Hits cfg env (lruMapOf cfg traffic.maps env.cpu) info pckt traffic.flow.lru entry := by
  obtain ⟨entry, found, rfl, fresh⟩ := recorded.recorded
  subst searched
  refine ⟨entry, rfl, continues.1, sticky.used, found, ?_, known⟩
  simp only [lruExpired, decide_eq_false_iff_not, not_and]
  intro udp
  obtain ⟨seen, past⟩ := fresh udp
  exact UInt64.not_lt.mpr (sub_le_of_le seen (UInt64.le_trans past clock) (continues.2 udp))

/-- A packet keeps a connection recorded. -/
theorem Recorded.packet {cpu : Nat} (recorded : Recorded cfg isIpv6 cpu key info real traffic)
    (sticky : info.Sticky) (known : real < cfg.maxReals)
    (taken : Traffic.Step cfg isIpv6 cpu key traffic (.packet env xdp) after) :
    Recorded cfg isIpv6 cpu key info real after := by
  obtain ⟨rfl, clock, times, continues, rfl⟩ := taken
  refine ⟨recorded.resolved, recorded.present, ?_⟩
  dsimp only
  have later := UInt64.le_trans clock times
  rcases processPacket_cases cfg traffic.maps env isIpv6 xdp traffic.flow with
    ⟨_, same, big⟩ | ⟨pckt, bytes, vip, other, described, decided, parsed, found, balanced⟩
  · rw [same, searchedPckt_eq_none big]
    obtain ⟨entry, stored, pos, fresh⟩ := recorded.recorded
    refine ⟨entry, stored, pos, ?_⟩
    intro udp
    exact ⟨(fresh udp).1, UInt64.le_trans (fresh udp).2 later⟩
  rw [searchedPckt_of_lookupVip parsed found balanced.fits]
  have resolved := vipOf_lruPckt found
  by_cases searched : (lruPckt other described).flow = key
  · have sameInfo : other = info := by
      have owner := recorded.resolved
      rw [← searched, resolved] at owner
      exact Option.some.inj owner
    subst sameInfo
    have follows := continues _ (searchedPckt_of_lookupVip parsed found balanced.fits) searched
    obtain ⟨entry, pos, hits⟩ := recorded.hits sticky known searched clock follows
    have unrouted := quicRouted_eq_false cfg isIpv6 xdp.data described sticky.noQuic
    have refreshed := (balanced.decision.of_hits unrouted recorded.present hits).2
    rw [refreshed, Option.map_some, searched, if_pos rfl]
    unfold refreshedLru
    split
    · exact ⟨_, store_self, pos, fun _ => ⟨UInt64.le_refl _, times⟩⟩
    next tcp =>
      refine ⟨entry, searched ▸ hits.found, pos, fun udp => (tcp udp).elim⟩
  · have unrecorded : ∀ slot stored, pickDst cfg traffic.maps isIpv6
        (isUnderFlood cfg env.cpu env.floodTime traffic.flow).1 other
        (lruPckt other described).flow = some (slot, stored) → key ≠ stored := by
      rintro slot stored picks rfl
      -- The VIP of the key is that of the packet, so it stores under the key searched.
      have owner := recorded.resolved
      rw [vipOf_recorded picks, resolved] at owner
      obtain rfl := Option.some.inj owner
      exact searched (recorded_of_wholeKey picks sticky.wholeKey).symm
    have different : ¬ (some (lruPckt other described)).map (·.flow) = some key :=
      fun same => searched (Option.some.inj same)
    rw [if_neg different, balanced.decision.lru_of_ne (Ne.symm searched) unrecorded]
    obtain ⟨entry, stored, pos, fresh⟩ := recorded.recorded
    refine ⟨entry, stored, pos, ?_⟩
    intro udp
    exact ⟨(fresh udp).1, UInt64.le_trans (fresh udp).2 later⟩

/-- Every event keeps a connection recorded. -/
theorem Recorded.step {cpu : Nat} {event : TrafficEvent}
    (recorded : Recorded cfg isIpv6 cpu key info real traffic) (sticky : info.Sticky)
    (known : real < cfg.maxReals) (taken : Traffic.Step cfg isIpv6 cpu key traffic event after) :
    Recorded cfg isIpv6 cpu key info real after := by
  cases event with
  | packet env xdp => exact recorded.packet sticky known taken
  | rewrite chRings reals lpmSrcV4 lpmSrcV6 =>
      obtain rfl : after = { traffic with maps := { traffic.maps with
        chRings := chRings, reals := reals, lpmSrcV4 := lpmSrcV4, lpmSrcV6 := lpmSrcV6 } } := taken
      exact ⟨recorded.resolved, recorded.present, recorded.recorded⟩
  | evict lruMap other =>
      obtain ⟨different, rfl⟩ := taken
      obtain ⟨entry, stored, fresh⟩ := recorded.recorded
      refine ⟨recorded.resolved, recorded.present, entry, ?_, fresh⟩
      rw [FlowMaps.lruEvict_lru, evict_apply, if_neg]
      · exact stored
      · rintro ⟨place, same⟩
        exact different ⟨place.symm, same.symm⟩

/-- A packet that is forwarded through the connection table, or while there are not too
many new connections, leaves its connection recorded. -/
theorem Recorded.of_sent {sent : Sent} {first : PacketDescription}
    (times : env.lookupTime ≤ env.floodTime)
    (forwarded : (processPacket cfg maps env isIpv6 xdp flow).sent = some sent)
    (sticky : sent.info.Sticky) (searched : searchedPckt cfg maps isIpv6 xdp.data = some first)
    (calm : (∃ entry, Hits cfg env (lruMapOf cfg maps env.cpu) sent.info first flow.lru entry) ∨
      (isUnderFlood cfg env.cpu env.floodTime flow).1 = false) :
    sent.pckt.realIndex < cfg.maxReals ∧ sent.info.vipNum < cfg.statsMapSize ∧
      Recorded cfg isIpv6 env.cpu first.flow sent.info sent.pckt.realIndex
        ⟨maps, (processPacket cfg maps env isIpv6 xdp flow).flow, env.floodTime,
          env.lookupTime⟩ := by
  rcases processPacket_cases cfg maps env isIpv6 xdp flow with
    ⟨unsent, _⟩ | ⟨pckt, bytes, vip, info, described, decided, parsed, found, balanced⟩
  · cases unsent.symm.trans forwarded
  obtain ⟨chosen, rfl, rfl, counted⟩ := balanced.of_sent sent forwarded
  rw [searchedPckt_of_lookupVip parsed found balanced.fits] at searched
  obtain rfl := Option.some.inj searched
  have resolved : (vipOf maps isIpv6 (lruPckt info described).flow).map Prod.snd = some info := by
    rw [vipOf_lruPckt found]
    rfl
  have unrouted := quicRouted_eq_false cfg isIpv6 xdp.data described sticky.noQuic
  have present := balanced.decision.present unrouted
  dsimp only at sticky calm ⊢
  by_cases hit : ∃ entry, Hits cfg env (lruMapOf cfg maps env.cpu) info (lruPckt info described)
      flow.lru entry
  · obtain ⟨entry, hits⟩ := hit
    obtain ⟨same, refreshed⟩ := balanced.decision.of_hits unrouted present hits
    obtain rfl := Option.some.inj same
    refine ⟨hits.known, counted, resolved, present, ?_⟩
    dsimp only
    rw [refreshed]
    unfold refreshedLru
    split
    · exact ⟨_, store_self, rfl, fun _ => ⟨UInt64.le_refl _, times⟩⟩
    next tcp => exact ⟨entry, hits.found, rfl, fun udp => (tcp udp).elim⟩
  · obtain ⟨slot, stored, missed, picks, known, rfl, lru⟩ :=
      balanced.decision.of_misses unrouted fun entry hits => hit ⟨entry, hits⟩
    have calm : (isUnderFlood cfg env.cpu env.floodTime flow).1 = false := calm.resolve_left hit
    obtain rfl := recorded_of_wholeKey picks sticky.wholeKey
    refine ⟨known, counted, resolved, present, ?_⟩
    dsimp only
    rw [lru]
    simp only [recordedLru, sticky.used, calm, Bool.false_eq_true, not_false_eq_true, and_self,
      ↓reduceIte]
    refine ⟨_, store_self, rfl, ?_⟩
    intro udp
    rw [if_pos udp]
    exact ⟨times, UInt64.le_refl _⟩

private theorem lookupVip_of_searchedPckt {first : PacketDescription}
    (parsed : describe cfg isIpv6 xdp.data = some (pckt, pktBytes))
    (searched : searchedPckt cfg maps isIpv6 xdp.data = some first) :
    ∃ vip info described, lookupVip maps isIpv6 pckt = some (vip, info, described) ∧
      first = lruPckt info described := by
  unfold searchedPckt at searched
  split at searched
  next =>
    rw [parsed, Option.bind_some] at searched
    obtain ⟨⟨vip, info, described⟩, found, rfl⟩ := Option.map_eq_some_iff.mp searched
    exact ⟨vip, info, described, found, rfl⟩
  next => cases searched

/-- A lookup keeps the protocol. -/
theorem lruPckt_proto (info : VipMeta) (pckt : PacketDescription) :
    (lruPckt info pckt).flow.proto = pckt.flow.proto := by
  unfold lruPckt
  split <;> rfl

theorem lruPckt_with_flow (info : VipMeta) (pckt described : PacketDescription) :
    lruPckt info { pckt with flow := described.flow } =
      { pckt with flow := (lruPckt info described).flow } := by
  unfold lruPckt
  split <;> rfl

private theorem searchedPckt_proto {first : PacketDescription}
    (parsed : describe cfg isIpv6 xdp.data = some (pckt, pktBytes))
    (searched : searchedPckt cfg maps isIpv6 xdp.data = some first) :
    first.flow.proto = pckt.flow.proto := by
  obtain ⟨vip, info, described, found, rfl⟩ := lookupVip_of_searchedPckt parsed searched
  rw [lruPckt_proto, (lookupVip_spec found).2.2]

/-- The key of a packet depends on its flow and the VIPs that there are. -/
theorem searchedPckt_congr {other : ConfigMaps} {otherXdp : XdpMd}
    {otherPckt first : PacketDescription} {otherBytes : UInt16}
    (vips : other.vipMap = maps.vipMap)
    (parsed : describe cfg isIpv6 xdp.data = some (pckt, pktBytes))
    (searched : searchedPckt cfg maps isIpv6 xdp.data = some first)
    (otherParsed : describe cfg isIpv6 otherXdp.data = some (otherPckt, otherBytes))
    (same : otherPckt.flow = pckt.flow) (fits : otherXdp.data.length ≤ cfg.maxPcktSize) :
    searchedPckt cfg other isIpv6 otherXdp.data = some { otherPckt with flow := first.flow } := by
  obtain ⟨vip, info, described, found, rfl⟩ := lookupVip_of_searchedPckt parsed searched
  rw [searchedPckt_of_lookupVip otherParsed (lookupVip_congr vips same found) fits,
    lruPckt_with_flow]

/-- A packet that continues a recorded connection goes to its real. -/
theorem Recorded.sends (recorded : Recorded cfg isIpv6 env.cpu key info real traffic)
    (sticky : info.Sticky) (known : real < cfg.maxReals) (counted : info.vipNum < cfg.statsMapSize)
    (clock : traffic.clock ≤ env.lookupTime)
    (searched : searchedPckt cfg traffic.maps isIpv6 xdp.data = some pckt)
    (same : pckt.flow = key) (continues : Continues cfg env traffic.seen pckt)
    (room : 48 ≤ xdp.headroom.length) :
    ∃ sent, (processPacket cfg traffic.maps env isIpv6 xdp traffic.flow).sent = some sent ∧
      sent.pckt.realIndex = real := by
  rcases processPacket_cases cfg traffic.maps env isIpv6 xdp traffic.flow with
    ⟨_, _, big⟩ | ⟨_, bytes, vip, other, described, decided, parsed, found, balanced⟩
  · rw [searchedPckt_eq_none big] at searched
    cases searched
  rw [searchedPckt_of_lookupVip parsed found balanced.fits] at searched
  obtain rfl := Option.some.inj searched
  have owner := recorded.resolved
  rw [← same, vipOf_lruPckt found] at owner
  obtain rfl := Option.some.inj owner
  obtain ⟨entry, rfl, hits⟩ := recorded.hits sticky known same clock continues
  obtain ⟨chosen, _⟩ := balanced.decision.of_hits
    (quicRouted_eq_false cfg isIpv6 xdp.data described sticky.noQuic) recorded.present hits
  exact ⟨_, balanced.sends _ chosen room counted known, rfl⟩

/-- No event changes the VIPs. -/
theorem Traffic.Step.vipMap {cpu : Nat} {event : TrafficEvent}
    (taken : Traffic.Step cfg isIpv6 cpu key traffic event after) :
    after.maps.vipMap = traffic.maps.vipMap := by
  cases event with
  | packet env xdp =>
      obtain ⟨_, _, _, _, rfl⟩ := taken
      rfl
  | rewrite chRings reals lpmSrcV4 lpmSrcV6 =>
      obtain rfl : after = { traffic with maps := { traffic.maps with
        chRings := chRings, reals := reals, lpmSrcV4 := lpmSrcV4, lpmSrcV6 := lpmSrcV6 } } := taken
      rfl
  | evict lruMap other =>
      obtain ⟨_, rfl⟩ := taken
      rfl

/-- **Connection affinity.** A packet of a VIP that uses the connection table, does
not route by connection id and does not hash the destination port only, is forwarded to
a real, through the connection table or while there are not too many new connections.
Whatever the core then processes and the control plane writes into the rings, the reals
and the source routes, a later packet with the same addresses, ports and protocol goes
to the same real, if it fits and no packet of the connection, itself included, has the
SYN flag or comes after the timeout, and the entry is not evicted. -/
theorem connection_affinity {sent : Sent} {first laterPckt : PacketDescription} {later : Traffic}
    {events : List TrafficEvent} {laterEnv : PacketEnv} {laterXdp : XdpMd} {laterBytes : UInt16}
    (times : env.lookupTime ≤ env.floodTime)
    (forwarded : (processPacket cfg maps env isIpv6 xdp flow).sent = some sent)
    (sticky : sent.info.Sticky)
    (parsed : describe cfg isIpv6 xdp.data = some (pckt, pktBytes))
    (searched : searchedPckt cfg maps isIpv6 xdp.data = some first)
    (calm : (∃ entry, Hits cfg env (lruMapOf cfg maps env.cpu) sent.info first flow.lru entry) ∨
      (isUnderFlood cfg env.cpu env.floodTime flow).1 = false)
    (run : Run (Traffic.Step cfg isIpv6 env.cpu first.flow)
      ⟨maps, (processPacket cfg maps env isIpv6 xdp flow).flow, env.floodTime, env.lookupTime⟩
      events later)
    (cpu : laterEnv.cpu = env.cpu) (clock : later.clock ≤ laterEnv.lookupTime)
    (laterParsed : describe cfg isIpv6 laterXdp.data = some (laterPckt, laterBytes))
    (same : laterPckt.flow = pckt.flow) (continues : Continues cfg laterEnv later.seen laterPckt)
    (fits : laterXdp.data.length ≤ cfg.maxPcktSize) (room : 48 ≤ laterXdp.headroom.length) :
    ∃ laterSent, (processPacket cfg later.maps laterEnv isIpv6 laterXdp later.flow).sent =
      some laterSent ∧ laterSent.pckt.realIndex = sent.pckt.realIndex := by
  obtain ⟨known, counted, initial⟩ := Recorded.of_sent times forwarded sticky searched calm
  obtain ⟨recorded, vips⟩ : Recorded cfg isIpv6 env.cpu first.flow sent.info sent.pckt.realIndex
      later ∧ later.maps.vipMap = maps.vipMap := by
    apply Run.invariant (fun traffic : Traffic => Recorded cfg isIpv6 env.cpu first.flow sent.info
      sent.pckt.realIndex traffic ∧ traffic.maps.vipMap = maps.vipMap) _ run ⟨initial, rfl⟩
    rintro before event after ⟨earlier, vips⟩ taken
    exact ⟨earlier.step sticky known taken, (Traffic.Step.vipMap taken).trans vips⟩
  have laterSearched := searchedPckt_congr vips parsed searched laterParsed same fits
  refine Recorded.sends (cpu ▸ recorded) sticky known counted clock laterSearched rfl ⟨?_, ?_⟩ room
  · exact continues.1
  · intro udp
    apply continues.2
    rw [same, ← searchedPckt_proto parsed searched]
    exact udp

/-- The key of a connection. -/
def connection : FlowKey := ⟨.ofV4 0x01010101, .ofV4 0x0101c80a, 40975, 20480, 6⟩

/-- Its packets, one without and one with the SYN flag. -/
def ackPacket : XdpMd := sampleTcp 0x01010101 0x0101c80a 4000 80 false

/-- The first packet of a connection. -/
def synPacket : XdpMd := sampleTcp 0x01010101 0x0101c80a 4000 80 true

/-- Every slot of every ring has the first real. -/
def rewritten : ConfigMaps := { twoReals with chRings := fun _ => 1 }

/-- The connection tables after a packet of the connection, which went to the second
real. -/
def established : FlowMaps :=
  (processPacket smallConfig twoReals (sampleEnv 5) false ackPacket .fresh).flow

private theorem established_sends :
    (processPacket smallConfig twoReals (sampleEnv 5) false ackPacket
    .fresh).sent.isSome = true := by
  decide +kernel

/-- Another connection is opened after the rings have been rewritten. -/
def opensOther : Traffic :=
  ⟨rewritten, (processPacket smallConfig rewritten (sampleEnv 6) false
    (sampleTcp 0x02020202 0x0101c80a 5000 80 true) established).flow, 6, 5⟩

private theorem opensOther_step :
    Traffic.Step smallConfig false 0 connection ⟨rewritten, established, 5, 5⟩
    (.packet (sampleEnv 6) (sampleTcp 0x02020202 0x0101c80a 5000 80 true)) opensOther := by
  have other : ¬ (searchedPckt smallConfig rewritten false
      (sampleTcp 0x02020202 0x0101c80a 5000 80 true).data).map (·.flow) = some connection := by
    decide +kernel
  refine ⟨rfl, by decide, by decide, ?_, ?_⟩
  · intro pckt searched same
    dsimp only at searched
    rw [searched, Option.map_some, same] at other
    exact (other rfl).elim
  · dsimp only
    rw [if_neg other]
    rfl

/-- Between two packets of a connection, its ring is rewritten and another connection
opened. -/
theorem connection_affinity_rewritten :
    ∃ first later, (processPacket smallConfig twoReals (sampleEnv 5) false ackPacket .fresh).sent =
        some first ∧
      (processPacket smallConfig rewritten (sampleEnv 7) false ackPacket opensOther.flow).sent =
        some later ∧ later.pckt.realIndex = first.pckt.realIndex := by
  have forwarded := (Option.some_get established_sends).symm
  have parsed : describe smallConfig false ackPacket.data = some ({ flow := connection }, 40) := by
    decide +kernel
  have searched : searchedPckt smallConfig twoReals false ackPacket.data =
      some { flow := connection } := by
    decide +kernel
  have rewriting : Traffic.Step smallConfig false 0 connection ⟨twoReals, established, 5, 5⟩
      (.rewrite rewritten.chRings rewritten.reals rewritten.lpmSrcV4 rewritten.lpmSrcV6)
      ⟨rewritten, established, 5, 5⟩ := rfl
  obtain ⟨later, sent, index⟩ := connection_affinity (by decide) forwarded
    ⟨by decide +kernel, by decide +kernel, by decide +kernel⟩ parsed searched
    (.inr (by decide +kernel)) (.cons rewriting (.cons opensOther_step (.nil _)))
    (rfl : (sampleEnv 7).cpu = 0) (by decide) parsed rfl ⟨rfl, nofun⟩ (by decide) (by decide)
  exact ⟨_, later, forwarded, sent, index⟩

/-- A packet with the SYN flag is not looked up, so it moves an open connection to the
real that its ring has now. One that is too big, or behind too little headroom, is not
forwarded at all. -/
theorem affinity_lost :
    let first := processPacket smallConfig twoReals (sampleEnv 5) false ackPacket .fresh
    let next := fun xdp =>
      (processPacket smallConfig rewritten (sampleEnv 6) false xdp first.flow).sent.map
        (·.pckt.realIndex)
    let big : XdpMd := { ackPacket with data := ackPacket.data ++ List.replicate 1500 0 }
    (isUnderFlood smallConfig 0 5 .fresh).1 = false ∧
      first.sent.map (fun sent => (sent.info.flags, sent.pckt.realIndex)) = some (0, 2) ∧
      Run (Traffic.Step smallConfig false 0 connection) ⟨twoReals, first.flow, 5, 5⟩
        [.rewrite rewritten.chRings rewritten.reals rewritten.lpmSrcV4 rewritten.lpmSrcV6]
        ⟨rewritten, first.flow, 5, 5⟩ ∧
      (∀ xdp ∈ [ackPacket, synPacket, big],
        (describe smallConfig false xdp.data).map (·.1.flow) = some connection) ∧
      next synPacket = some 1 ∧ next big = none ∧
        next { ackPacket with headroom := [] } = none := by
  refine ⟨by decide +kernel, by decide +kernel, .cons rfl (.nil _), by decide +kernel,
    by decide +kernel, by decide +kernel, by decide +kernel⟩

end Katran
