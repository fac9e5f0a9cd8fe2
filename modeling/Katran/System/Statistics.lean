import Katran.Lb.Backed
import Katran.Lb.Written
import Katran.System.Drained
import Katran.System.Meters

/-! # Statistics as they are reported

The counters of VIPs and reals are kept for each core, and the library adds them up
(`getLbStats`). A counter belongs to a number, and numbers are handed out again.

From one report for a VIP that stays configured to the next, whatever calls and packets there
are in between and on whatever cores, exactly the packets that have been sent for the VIP are
added, with the lengths that their headers state (`vip_statistics_exact`). For a real it is
the packets that have been sent to its number (`real_statistics_exact`). What the program
counts behind the VIPs is reported as it is (`getOffsetStats_of_reliable`).
-/

namespace Katran

open Foundation UnorderedMap

/-! ## The library -/

/-- The maps with a value for each core. -/
inductive StatsMap where
  | stats
  | realsStats
deriving DecidableEq, Repr

/-- The number of entries. -/
def StatsMap.size (cfg : BpfConfig) : StatsMap → Nat
  | .stats => cfg.statsMapSize
  | .realsStats => cfg.maxReals

/-- The entry for a core and a position. -/
def StatsMap.entry (flow : FlowMaps) : StatsMap → Nat → Nat → LbStats
  | .stats => flow.stats
  | .realsStats => flow.realsStats

/-- The sum that `getLbStats` computes over the cores. -/
def sumStats (nrCpus : Nat) (stats : Nat → LbStats) : LbStats :=
  (List.range nrCpus).foldl (fun sum cpu =>
    { v1 := sum.v1 + (stats cpu).v1, v2 := sum.v2 + (stats cpu).v2 }) {}

/-- Packets that looked up the connection table. -/
def kLruCntrOffset : UInt32 := 0
/-- Packets that found no connection. -/
def kLruMissOffset : UInt32 := 1
/-- Packets that looked up the table of the cores without one. -/
def kLruFallbackOffset : UInt32 := 3
/-- Answers to packets that are too big. -/
def kIcmpTooBigOffset : UInt32 := 4
/-- Packets for whose source a rule was looked up, with and without success. -/
def kLpmSrcOffset : UInt32 := 5
/-- Packets that were unwrapped. -/
def kInlineDecapOffset : UInt32 := 6
/-- Packets with and without a connection id. -/
def kQuicRoutingOffset : UInt32 := 7

/-- What is counted behind the VIPs: where the library looks it up, and where the program
counts it. -/
def offsetCounters : List (UInt32 × Nat) :=
  [(kLruCntrOffset, lruCntrs), (kLruMissOffset, lruMissCntr),
    (kLruFallbackOffset, fallbackLruCntr), (kIcmpTooBigOffset, icmpToobigCntrs),
    (kLpmSrcOffset, lpmSrcCntrs), (kInlineDecapOffset, remoteEncapCntrs),
    (kQuicRoutingOffset, quicRouteStats)]

/-- Both mean the same, and the counters are those of the program. -/
theorem offsetCounters_same {offset : UInt32} {counter : Nat}
    (paired : (offset, counter) ∈ offsetCounters) :
    offset.toNat = counter ∧ counter ≤ quicRouteStats := by
  have checked : ∀ pair ∈ offsetCounters, pair.1.toNat = pair.2 ∧ pair.2 ≤ quicRouteStats := by
    decide
  exact checked _ paired

namespace KatranLb

section Reports

variable (cfg : BpfConfig) (nrCpus : Nat) (env : Env) (lb : KatranLb) (flow : FlowMaps)

/-- `getLbStats`. A position behind the end of the map makes the lookup fail. -/
def getLbStats (position : Nat) (map : StatsMap) : LbStats × KatranLb :=
  if lb.config.disableForwarding then ({}, lb)
  else if lb.config.testing then ({}, lb)
  else if env.succeeds lb.bpfCalls ∧ position < map.size cfg then
    (sumStats nrCpus fun cpu => map.entry flow cpu position,
      { lb with bpfCalls := lb.bpfCalls + 1 })
  else ({}, { lb with
    bpfCalls := lb.bpfCalls + 1
    lbStats := { lb.lbStats with bpfFailedCalls := lb.lbStats.bpfFailedCalls + 1 } })

/-- The report for a VIP. One that is not configured has none. -/
def getStatsForVip (vip : VipKey) : LbStats × KatranLb :=
  match lb.vips.lookup vip with
  | none => ({}, lb)
  | some current => lb.getLbStats cfg nrCpus env flow current.vipNum .stats

/-- The number of a real, or -1. -/
def getIndexForReal (folly : Folly) (lb : KatranLb) (real : String) : Int × KatranLb :=
  if lb.config.disableForwarding then (-1, lb)
  else
    let (type, lb) := lb.validateAddress folly real false
    if type ≠ .invalid then
      (((folly.parse real).bind fun raddr => lb.reals.lookup raddr.key).elim (-1)
        fun entry => entry.num, lb)
    else (-1, lb)

/-- The report for the number of a real. -/
def getRealStats (index : Nat) : LbStats × KatranLb :=
  lb.getLbStats cfg nrCpus env flow index .realsStats

/-- The counters behind those of the VIPs, by the number of VIPs in the configuration. -/
def getOffsetStats (offset : UInt32) : LbStats × KatranLb :=
  lb.getLbStats cfg nrCpus env flow (lb.config.maxVips + offset).toNat .stats

/-- The report for packets that looked up the connection table. -/
def getLruStats := lb.getOffsetStats cfg nrCpus env flow kLruCntrOffset

/-- The report for packets that found no connection. -/
def getLruMissStats := lb.getOffsetStats cfg nrCpus env flow kLruMissOffset

/-- The report for packets that looked up the table of the cores without one. -/
def getLruFallbackStats := lb.getOffsetStats cfg nrCpus env flow kLruFallbackOffset

/-- The report for answers to packets that are too big. -/
def getIcmpTooBigStats := lb.getOffsetStats cfg nrCpus env flow kIcmpTooBigOffset

/-- The report for packets with and without a connection id. -/
def getQuicRoutingStats := lb.getOffsetStats cfg nrCpus env flow kQuicRoutingOffset

/-- The report for packets for whose source a rule was looked up. -/
def getSrcRoutingStats := lb.getOffsetStats cfg nrCpus env flow kLpmSrcOffset

/-- The report for packets that were unwrapped. -/
def getInlineDecapStats := lb.getOffsetStats cfg nrCpus env flow kInlineDecapOffset

end Reports

section Reading

variable {cfg : BpfConfig} {nrCpus : Nat} {env : Env} {lb : KatranLb} {flow : FlowMaps}

private theorem getLbStats_of_reliable (reliable : env.Reliable)
    (forwards : lb.config.disableForwarding = false) (live : lb.config.testing = false)
    {position : Nat} {map : StatsMap} (inside : position < map.size cfg) :
    (lb.getLbStats cfg nrCpus env flow position map).1 =
      sumStats nrCpus fun cpu => map.entry flow cpu position := by
  simp only [getLbStats, forwards, live, reliable lb.bpfCalls, inside, Bool.false_eq_true,
    and_self, ↓reduceIte]

/-- A report behind the VIPs adds up what the program counts there, if both are for the same
number of VIPs, and it is the report of no VIP. -/
theorem getOffsetStats_of_reliable (reliable : env.Reliable)
    (forwards : lb.config.disableForwarding = false) (live : lb.config.testing = false)
    (pools : lb.PoolsSound) (vips : cfg.maxVips = lb.config.maxVips.toNat)
    (counters : quicRouteStats < cfg.maxVips) (fits : cfg.statsMapSize ≤ 2 ^ 32)
    {offset : UInt32} {counter : Nat} (paired : (offset, counter) ∈ offsetCounters) :
    (lb.getOffsetStats cfg nrCpus env flow offset).1 =
        (sumStats nrCpus fun cpu => flow.stats cpu (cfg.maxVips + counter)) ∧
      ∀ vip current, lb.vips.lookup vip = some current →
        current.vipNum ≠ cfg.maxVips + counter := by
  obtain ⟨same, known⟩ := offsetCounters_same paired
  have inside : cfg.maxVips + counter < cfg.statsMapSize := by
    unfold BpfConfig.statsMapSize
    omega
  have position : (lb.config.maxVips + offset).toNat = cfg.maxVips + counter := by
    rw [UInt32.toNat_add, ← vips, same]
    exact Nat.mod_eq_of_lt (Nat.lt_of_lt_of_le inside fits)
  refine ⟨?_, ?_⟩
  · unfold getOffsetStats
    rw [position]
    exact getLbStats_of_reliable reliable forwards live inside
  · intro vip current found
    have below := pools.vipNum_lt found
    omega

/-- A real with a number is in use under it. -/
theorem getIndexForReal_eq {folly : Folly} {real : String} {index : Nat}
    (reported : (lb.getIndexForReal folly real).1 = index) :
    ∃ raddr entry, folly.parse real = some raddr ∧ lb.reals.lookup raddr.key = some entry ∧
      entry.num = index := by
  have unreported : ¬ (-1 : Int) = index := by omega
  unfold getIndexForReal validateAddress at reported
  split at reported
  · exact (unreported reported).elim
  · cases parsed : folly.parse real with
    | none =>
        simp only [parsed, Bool.false_eq_true, false_and, ↓reduceIte, ne_eq,
          not_true_eq_false] at reported
        exact (unreported reported).elim
    | some raddr =>
        simp only [parsed, ne_eq, reduceCtorEq, not_false_eq_true, ↓reduceIte,
          Option.bind_some] at reported
        cases found : lb.reals.lookup raddr.key with
        | none =>
            rw [found] at reported
            exact (unreported reported).elim
        | some entry =>
            rw [found] at reported
            exact ⟨raddr, entry, rfl, found, Int.ofNat.inj reported⟩

end Reading

end KatranLb

/-! ## Sums over the cores -/

section Sums

variable {nrCpus : Nat} {stats : Nat → LbStats}

private theorem sumStats_succ (nrCpus : Nat) (stats : Nat → LbStats) :
    sumStats (nrCpus + 1) stats =
      { v1 := (sumStats nrCpus stats).v1 + (stats nrCpus).v1
        v2 := (sumStats nrCpus stats).v2 + (stats nrCpus).v2 } := by
  rw [sumStats, List.range_succ, List.foldl_append]
  rfl

private theorem sumStats_v1 (nrCpus : Nat) (stats : Nat → LbStats) :
    (sumStats nrCpus stats).v1 = ∑ cpu ∈ Finset.range nrCpus, (stats cpu).v1 := by
  induction nrCpus with
  | zero => rfl
  | succ nrCpus ih => rw [sumStats_succ, Finset.sum_range_succ, ← ih]

private theorem sumStats_v2 (nrCpus : Nat) (stats : Nat → LbStats) :
    (sumStats nrCpus stats).v2 = ∑ cpu ∈ Finset.range nrCpus, (stats cpu).v2 := by
  induction nrCpus with
  | zero => rfl
  | succ nrCpus ih => rw [sumStats_succ, Finset.sum_range_succ, ← ih]

/-- A packet that is counted on one core is counted in the sum. -/
theorem sumStats_addPacket {cpu : Nat} (core : cpu < nrCpus) (pktBytes : UInt16) :
    sumStats nrCpus (Function.update stats cpu (LbStats.addPacket pktBytes (stats cpu))) =
      LbStats.addPacket pktBytes (sumStats nrCpus stats) := by
  have packets : ∀ entry : LbStats, (LbStats.addPacket pktBytes entry).v1 = entry.v1 + 1 :=
    fun _ => rfl
  have bytes : ∀ entry : LbStats,
      (LbStats.addPacket pktBytes entry).v2 = entry.v2 + pktBytes.toUInt64 := fun _ => rfl
  have same : ∀ left right : LbStats, left.v1 = right.v1 → left.v2 = right.v2 → left = right := by
    rintro ⟨_, _⟩ ⟨_, _⟩ rfl rfl
    rfl
  apply same
  · rw [packets, sumStats_v1, sumStats_v1, sum_counter_update packets stats core]
  · rw [bytes, sumStats_v2, sumStats_v2, sum_counter_update bytes stats core]

end Sums

/-! ## The packets that are sent -/

/-- The packets among those that have been sent, by their lengths. -/
def lengthsOf (counts : Sent → Bool) (packets : List (Sent × UInt16)) : List UInt16 :=
  (packets.filter fun packet => counts packet.1).map Prod.snd

/-- Packets that are counted one after the other. -/
def LbStats.addPackets (stats : LbStats) (lengths : List UInt16) : LbStats :=
  lengths.foldl (fun stats pktBytes => LbStats.addPacket pktBytes stats) stats

private theorem lengthsOf_append (counts : Sent → Bool) (left right : List (Sent × UInt16)) :
    lengthsOf counts (left ++ right) = lengthsOf counts left ++ lengthsOf counts right := by
  rw [lengthsOf, List.filter_append, List.map_append]
  rfl

private theorem LbStats.addPackets_append (stats : LbStats) (left right : List UInt16) :
    stats.addPackets (left ++ right) = (stats.addPackets left).addPackets right :=
  List.foldl_append

/-- A packet that is sent adds to a sum over the cores. -/
theorem sumStats_sent {nrCpus cpu : Nat} (core : cpu < nrCpus) {before after : Nat → LbStats}
    {pktBytes : UInt16} (sent : Option Sent) (counts : Sent → Bool)
    (column : after = if ∃ packet ∈ sent, counts packet = true then
      Function.update before cpu (LbStats.addPacket pktBytes (before cpu)) else before) :
    sumStats nrCpus after = (sumStats nrCpus before).addPackets
      (lengthsOf counts (sent.toList.map fun packet => (packet, pktBytes))) := by
  rw [column]
  cases sent with
  | none =>
      simp only [Option.mem_def, reduceCtorEq, false_and, exists_false, ↓reduceIte]
      rfl
  | some packet =>
      simp only [Option.mem_def, Option.some.injEq, exists_eq_left', Option.toList_some,
        List.map_cons, List.map_nil, lengthsOf, List.filter_cons, List.filter_nil]
      split
      · rw [sumStats_addPacket core]
        rfl
      · rfl

/-- A balancer, the maps of its program, and the packets that have been sent, with the lengths
that their headers state. -/
structure Metered where
  lb : KatranLb
  flow : FlowMaps
  sent : List (Sent × UInt16)

/-- A call, a frame that arrives, or connections that the kernel drops. -/
inductive MeteredEvent where
  | control (op : Op)
  | frame (env : PacketEnv) (tailCalls : Nat) (xdp : XdpMd)
  | lru (tables : Option Nat → FlowKey → Option RealPosLru)

namespace Metered

variable {folly : Folly} {cfg : BpfConfig} {nrCpus : Nat}

/-- Calls of the library succeed in the kernel, frames arrive on one of the cores, and the
kernel may drop connections. -/
def Step (folly : Folly) (cfg : BpfConfig) (nrCpus : Nat) (state : Metered) (event : MeteredEvent)
    (after : Metered) : Prop :=
  match event with
  | .control op => KatranLb.ReliableStep folly state.lb op after.lb ∧ after.flow = state.flow ∧
      after.sent = state.sent
  | .frame env tailCalls xdp =>
      let outcome := balancerIngress cfg state.lb.kernel env tailCalls xdp state.flow
      let inner := innermost cfg state.lb.kernel env.cpu tailCalls xdp state.flow
      env.cpu < nrCpus ∧ after.lb = state.lb ∧ after.flow = outcome.flow ∧
        after.sent = state.sent ++
          outcome.sent.toList.map fun sent => (sent, netBytes inner.frameIpv6 inner.data)
  | .lru tables => after = { state with flow := { state.flow with lru := tables } }

/-- What calls and packets keep. -/
structure Sound (folly : Folly) (config : KatranConfig) (state : Metered) : Prop where
  config : state.lb.config = config
  pools : state.lb.PoolsSound
  backed : state.lb.Backed folly
  written : state.lb.RealsWritten

namespace Sound

variable {config : KatranConfig} {state after : Metered} {event : MeteredEvent}

private theorem below (sound : Sound folly config state) (agrees : cfg.Agrees config) :
    VipNumsBelow cfg state.lb.kernel := by
  intro definition info stored
  obtain ⟨vip, current, found, _, number⟩ := sound.backed definition info stored
  have inside := sound.pools.vipNum_lt found
  rw [sound.config] at inside
  rw [← number]
  exact Nat.lt_of_lt_of_le inside agrees.vips

/-- A call or a packet keeps what is kept. -/
theorem step (sound : Sound folly config state) (live : config.testing = false)
    (taken : Step folly cfg nrCpus state event after) : Sound folly config after := by
  cases event with
  | control op =>
      obtain ⟨called, _, _⟩ := taken
      obtain ⟨pools, same⟩ := sound.pools.step called.step
      have running : state.lb.config.testing = false := by
        rw [sound.config]
        exact live
      exact ⟨same.trans sound.config, pools, sound.backed.step running called,
        sound.written.step running called⟩
  | frame env tailCalls xdp =>
      obtain ⟨_, same, _⟩ := taken
      exact ⟨same ▸ sound.config, same ▸ sound.pools, same ▸ sound.backed, same ▸ sound.written⟩
  | lru tables =>
      obtain rfl := taken
      exact ⟨sound.config, sound.pools, sound.backed, sound.written⟩

end Sound

/-- What a reading of the counters has gained: the packets that have been sent since and that
count for it, each of which is as it should be. -/
def Gains (read : FlowMaps → LbStats) (counts : Sent → Bool) (good : Sent → Prop)
    (before after : Metered) : Prop :=
  ∃ more, after.sent = before.sent ++ more ∧
    read after.flow = (read before.flow).addPackets (lengthsOf counts more) ∧
    ∀ packet ∈ more, good packet.1

namespace Gains

variable {read : FlowMaps → LbStats} {counts : Sent → Bool} {good : Sent → Prop}
  {first middle last state after : Metered}

private theorem of_unsent (same : after.sent = state.sent)
    (kept : read after.flow = read state.flow) :
    Gains read counts good state after := by
  refine ⟨[], ?_, kept, ?_⟩
  · rw [same, List.append_nil]
  · intro packet wrong
    cases wrong

private theorem trans (left : Gains read counts good first middle)
    (right : Gains read counts good middle last) : Gains read counts good first last := by
  obtain ⟨some, sent, counted, fine⟩ := left
  obtain ⟨more, sentMore, countedMore, fineMore⟩ := right
  refine ⟨some ++ more, ?_, ?_, ?_⟩
  · rw [sentMore, sent, List.append_assoc]
  · rw [countedMore, counted, lengthsOf_append, LbStats.addPackets_append]
  · intro packet member
    rcases List.mem_append.mp member with earlier | later
    · exact fine packet earlier
    · exact fineMore packet later

/-- Over a run, if every step gains. -/
theorem run (Kept : Metered → Prop) {Taken : Metered → MeteredEvent → Metered → Prop}
    {events : List MeteredEvent}
    (gains : ∀ before event after, Kept before → Taken before event after →
      Kept after ∧ Gains read counts good before after)
    (kept : Kept first) (taken : Run Taken first events last) :
    Kept last ∧ Gains read counts good first last := by
  induction taken with
  | nil state => exact ⟨kept, of_unsent rfl rfl⟩
  | cons step _ ih =>
      obtain ⟨later, gained⟩ := gains _ _ _ kept step
      obtain ⟨final, more⟩ := ih later
      exact ⟨final, gained.trans more⟩

/-- A step gains if a packet that is sent does. -/
theorem step {event : MeteredEvent} {config : KatranConfig} (sound : Sound folly config state)
    (agrees : cfg.Agrees config) (taken : Step folly cfg nrCpus state event after)
    (tables : ∀ flow : FlowMaps, ∀ lru, read { flow with lru := lru } = read flow)
    (frame : ∀ cpu < nrCpus, ∀ outcome pktBytes,
      Meters cfg state.lb.kernel cpu state.flow outcome pktBytes →
        read outcome.flow = (read state.flow).addPackets
          (lengthsOf counts (outcome.sent.toList.map fun sent => (sent, pktBytes))))
    (fine : ∀ sent, state.lb.kernel.vipMap sent.vip = some sent.info →
      sent.dst = state.lb.kernel.reals sent.pckt.realIndex → good sent) :
    Gains read counts good state after := by
  cases event with
  | control op =>
      obtain ⟨_, flow, sent⟩ := taken
      exact of_unsent sent (by rw [flow])
  | frame env tailCalls xdp =>
      obtain ⟨core, _, flow, sent⟩ := taken
      have meters := Meters.balancerIngress (sound.below agrees) env tailCalls xdp state.flow
      refine ⟨_, sent, ?_, ?_⟩
      · rw [flow]
        exact frame env.cpu core _ _ meters
      · intro packet member
        obtain ⟨sent, sends, rfl⟩ := List.mem_map.mp member
        rw [Option.mem_toList] at sends
        exact fine sent (meters.vip sent sends) (meters.dst sent sends)
  | lru changed =>
      obtain rfl := taken
      exact of_unsent rfl (tables state.flow changed)

end Gains

/-! ## VIPs -/

/-- A VIP is configured, and in one spelling. -/
def Serves (folly : Folly) (vip : VipKey) (lb : KatranLb) : Prop :=
  vip ∈ lb.vips ∧ ∀ other ∈ lb.vips, other.encode folly = vip.encode folly → other = vip

instance (folly : Folly) (vip : VipKey) (lb : KatranLb) : Decidable (Serves folly vip lb) :=
  inferInstanceAs (Decidable (vip ∈ lb.vips.keys ∧
    ∀ other ∈ lb.vips.keys, other.encode folly = vip.encode folly → other = vip))

/-- The packets that are counted under the number of a VIP are those for the VIP. -/
theorem Sound.numbered {config : KatranConfig} {state : Metered}
    (sound : Sound folly config state) {vip : VipKey} {current : Vip} {definition : VipDefinition}
    (serves : Serves folly vip state.lb) (found : state.lb.vips.lookup vip = some current)
    (coded : vip.encode folly = some definition) (sent : Sent)
    (stored : state.lb.kernel.vipMap sent.vip = some sent.info) :
    sent.info.vipNum = current.vipNum ↔ sent.vip = definition := by
  obtain ⟨owner, owned, read, ownerCoded, number⟩ := sound.backed sent.vip sent.info stored
  constructor
  · intro same
    have equal : owner = vip := by
      by_contra different
      exact sound.pools.vipNum_ne found read different (number.trans same)
    subst equal
    exact Option.some.inj (ownerCoded.symm.trans coded)
  · intro same
    have equal : owner = vip := by
      apply serves.2 owner (mem_of_lookup read)
      rw [ownerCoded, coded, same]
    subst equal
    obtain rfl := Option.some.inj (found.symm.trans read)
    exact number.symm

/-- A VIP that is configured after a call, too, has kept its number. -/
theorem numbered_of_called {lb after : KatranLb} {op : Op} {vip : VipKey} {current : Vip}
    (taken : KatranLb.ReliableStep folly lb op after) (found : lb.vips.lookup vip = some current)
    (kept : vip ∈ after.vips) :
    ∃ later, after.vips.lookup vip = some later ∧ later.vipNum = current.vipNum := by
  have step := taken.step
  have reals : ∀ {env action reals own done}, KatranLb.modifyRealsForVip folly env lb action reals
      own = some (done, after) → KatranLb.StillNumbered lb after vip := by
    intro env action reals own done returned
    rcases KatranLb.modifyRealsForVip_cases returned with
      ⟨_, rfl, _⟩ | ⟨_, _, changed, chPositions, updated, read, ring, same⟩
    · exact KatranLb.stillNumbered_of_vips rfl vip
    · have rest := KatranLb.modifyRealsBatch_sameRest folly env lb action reals changed
      apply KatranLb.stillNumbered_of_insert (same.vips.trans (by rw [rest.vips]))
      intro other configured
      obtain rfl := Option.some.inj (read.symm.trans configured)
      exact (Vip.reals_of_batchRealsUpdate ring).2.1
  obtain ⟨env, _, performed⟩ := taken
  cases op with
  | addVip added flags =>
      obtain ⟨⟨done, later⟩, returned, rfl⟩ := Option.map_eq_some_iff.mp performed
      rcases KatranLb.addVip_cases returned with
        ⟨_, same⟩ | ⟨_, _, absent, addr, vipNum, vipNums, parsed, free, same⟩
      · exact KatranLb.stillNumbered_of_vips same.vips vip current found
      · apply KatranLb.stillNumbered_of_insert same.vips _ vip current found
        intro other configured
        exact (absent (mem_of_lookup configured)).elim
  | delVip removed =>
      obtain ⟨⟨done, later⟩, returned, rfl⟩ := Option.map_eq_some_iff.mp performed
      rcases KatranLb.delVip_cases returned with ⟨_, rfl, _⟩ | ⟨_, _, gone, read, same⟩
      · exact ⟨current, found, rfl⟩
      · have different : vip ≠ removed := by
          rintro rfl
          rw [same.vips, AList.mem_erase] at kept
          exact kept.1 rfl
        refine ⟨current, ?_, rfl⟩
        rw [same.vips, AList.lookup_erase_ne different]
        exact found
  | modifyVip changed flag set =>
      obtain ⟨⟨done, later⟩, returned, rfl⟩ := Option.map_eq_some_iff.mp performed
      rcases KatranLb.modifyVip_cases returned with ⟨_, rfl⟩ | ⟨earlier, vipFlags, read, same⟩
      · exact ⟨current, found, rfl⟩
      · apply KatranLb.stillNumbered_of_insert same.vips _ vip current found
        intro other configured
        obtain rfl := Option.some.inj (read.symm.trans configured)
        rfl
  | addRealForVip real own =>
      obtain ⟨⟨done, later⟩, returned, rfl⟩ := Option.map_eq_some_iff.mp performed
      rw [KatranLb.addRealForVip_eq] at returned
      exact reals returned current found
  | delRealForVip real own =>
      obtain ⟨⟨done, later⟩, returned, rfl⟩ := Option.map_eq_some_iff.mp performed
      rw [KatranLb.delRealForVip_eq] at returned
      exact reals returned current found
  | modifyRealsForVip action changed own =>
      obtain ⟨⟨done, later⟩, returned, rfl⟩ := Option.map_eq_some_iff.mp performed
      exact reals returned current found
  | _ => exact KatranLb.stillNumbered_of_vips (step.frame_of_other not_false).vips vip current found

/-- A VIP that stays configured keeps its number. -/
theorem Step.numbered {state after : Metered} {event : MeteredEvent}
    (taken : Step folly cfg nrCpus state event after) {vip : VipKey} {current : Vip}
    (found : state.lb.vips.lookup vip = some current)
    (kept : vip ∈ after.lb.vips) :
    ∃ later, after.lb.vips.lookup vip = some later ∧ later.vipNum = current.vipNum := by
  cases event with
  | control op => exact numbered_of_called taken.1 found kept
  | frame env tailCalls xdp =>
      obtain ⟨_, same, _⟩ := taken
      exact ⟨current, same ▸ found, rfl⟩
  | lru changed =>
      obtain rfl := taken
      exact ⟨current, found, rfl⟩

/-- A run in which a VIP stays configured gains exactly the packets for it. -/
theorem gains_of_serving {config : KatranConfig} {first last : Metered}
    {events : List MeteredEvent} {vip : VipKey} {current : Vip} {definition : VipDefinition}
    (agrees : cfg.Agrees config) (live : config.testing = false)
    (coded : vip.encode folly = some definition) (sound : Sound folly config first)
    (serves : Serves folly vip first.lb) (found : first.lb.vips.lookup vip = some current)
    (run : Run (fun before event after => Step folly cfg nrCpus before event after ∧
      Serves folly vip after.lb) first events last) :
    (Sound folly config last ∧ Serves folly vip last.lb ∧
      ∃ later, last.lb.vips.lookup vip = some later ∧ later.vipNum = current.vipNum) ∧
    Gains (fun flow => sumStats nrCpus fun core => flow.stats core current.vipNum)
      (fun sent => sent.info.vipNum = current.vipNum)
      (fun sent => sent.info.vipNum = current.vipNum ↔ sent.vip = definition) first last := by
  refine Gains.run (fun state => Sound folly config state ∧ Serves folly vip state.lb ∧
    ∃ later, state.lb.vips.lookup vip = some later ∧ later.vipNum = current.vipNum) ?_
    ⟨sound, serves, current, found, rfl⟩ run
  rintro before event after ⟨sound, serves, now, found, number⟩ ⟨taken, still⟩
  obtain ⟨later, read, same⟩ := taken.numbered found still.1
  refine ⟨⟨sound.step live taken, still, later, read, same.trans number⟩, ?_⟩
  have below : current.vipNum < cfg.maxVips := by
    have inside := sound.pools.vipNum_lt found
    rw [sound.config, number] at inside
    exact Nat.lt_of_lt_of_le inside agrees.vips
  refine Gains.step sound agrees taken ?_ ?_ ?_
  · intro _ _
    rfl
  · intro cpu core outcome pktBytes meters
    apply sumStats_sent core
    rw [meters.stats below]
    simp only [decide_eq_true_eq]
  · intro sent stored _
    rw [← number]
    exact sound.numbered serves found coded sent stored

/-- Where the runs start. -/
def fresh (config : KatranConfig) (features : KatranFeatures) (kernel : ConfigMaps)
    (flow : FlowMaps) : Metered :=
  ⟨.new config features kernel, flow, []⟩

/-- A run keeps what is kept. -/
theorem Sound.ofRun {config : KatranConfig} {features : KatranFeatures} {kernel : ConfigMaps}
    {flow : FlowMaps} {events : List MeteredEvent} {state : Metered}
    (live : config.testing = false) (empty : kernel.vipMap = fun _ => none)
    (run : Run (Step folly cfg nrCpus) (fresh config features kernel flow) events state) :
    Sound folly config state := by
  apply run.invariant (Sound folly config)
  · exact fun _ _ _ sound taken => sound.step live taken
  · exact ⟨rfl, .new config features kernel, .new features empty, .new config features kernel⟩

/-- **The statistics of a VIP are exact.** From one report for a VIP to a later one, exactly the
packets that have been sent for it in the meantime are added, on whatever cores and with
whatever calls in between, if their bpf calls succeed and as long as the VIP is configured. -/
theorem vip_statistics_exact {config : KatranConfig} {features : KatranFeatures}
    {kernel : ConfigMaps} {flow : FlowMaps} {earlier events : List MeteredEvent}
    {first last : Metered} {vip : VipKey} {definition : VipDefinition} {env : Env}
    (live : config.testing = false) (forwards : config.disableForwarding = false)
    (agrees : cfg.Agrees config) (empty : kernel.vipMap = fun _ => none)
    (coded : vip.encode folly = some definition)
    (started : Run (Step folly cfg nrCpus) (fresh config features kernel flow) earlier first)
    (serves : Serves folly vip first.lb)
    (run : Run (fun before event after => Step folly cfg nrCpus before event after ∧
      Serves folly vip after.lb) first events last)
    (reliable : env.Reliable) :
    ∃ more, last.sent = first.sent ++ more ∧
      (last.lb.getStatsForVip cfg nrCpus env last.flow vip).1 =
        (first.lb.getStatsForVip cfg nrCpus env first.flow vip).1.addPackets
          (lengthsOf (fun sent => sent.vip = definition) more) := by
  have sound := Sound.ofRun live empty started
  obtain ⟨current, found⟩ := Option.isSome_iff_exists.mp (AList.lookup_isSome.mpr serves.1)
  obtain ⟨⟨final, _, later, read, number⟩, more, sent, counted, mine⟩ :=
    gains_of_serving agrees live coded sound serves found run
  have report : ∀ {state : Metered} {now : Vip}, Sound folly config state →
      state.lb.vips.lookup vip = some now → now.vipNum = current.vipNum →
      (state.lb.getStatsForVip cfg nrCpus env state.flow vip).1 =
        sumStats nrCpus fun core => state.flow.stats core current.vipNum := by
    intro state now sound configured same
    have inside := sound.pools.vipNum_lt configured
    rw [sound.config] at inside
    unfold KatranLb.getStatsForVip
    rw [configured, ← same]
    apply KatranLb.getLbStats_of_reliable reliable
    · rw [sound.config]
      exact forwards
    · rw [sound.config]
      exact live
    · exact Nat.lt_of_lt_of_le inside (agrees.vips.trans (Nat.le_mul_of_pos_right _ Nat.two_pos))
  dsimp only at counted
  refine ⟨more, sent, ?_⟩
  rw [report final read number, report sound found rfl, counted]
  have same : lengthsOf (fun sent => sent.info.vipNum = current.vipNum) more =
      lengthsOf (fun sent => sent.vip = definition) more := by
    unfold lengthsOf
    congr 1
    apply List.filter_congr
    intro packet member
    rw [decide_eq_decide]
    exact mine packet member
  rw [same]

/-- Two cores, and bpf calls that succeed. -/
def exec (state : Metered) : MeteredEvent → Option Metered
  | .control op => (state.lb.perform .small (.plain 20) op).map fun lb => { state with lb := lb }
  | .frame env tailCalls xdp =>
      let outcome := balancerIngress smallConfig state.lb.kernel env tailCalls xdp state.flow
      let inner := innermost smallConfig state.lb.kernel env.cpu tailCalls xdp state.flow
      if env.cpu < 2 then
        some ⟨state.lb, outcome.flow, state.sent ++
          outcome.sent.toList.map fun sent => (sent, netBytes inner.frameIpv6 inner.data)⟩
      else none
  | .lru tables => some { state with flow := { state.flow with lru := tables } }

private theorem step_of_exec {state after : Metered} {event : MeteredEvent}
    (computed : state.exec event = some after) : Step .small smallConfig 2 state event after := by
  cases event with
  | control op =>
      obtain ⟨lb, performed, rfl⟩ := Option.map_eq_some_iff.mp computed
      exact ⟨⟨.plain 20, Env.plain_reliable 20, performed⟩, rfl, rfl⟩
  | frame env tailCalls xdp =>
      simp only [exec] at computed
      split at computed
      next core =>
        obtain rfl := Option.some.inj computed
        exact ⟨core, rfl, rfl, rfl⟩
      next => cases computed
  | lru tables => exact (Option.some.inj computed).symm

/-- The same as long as something holds. -/
theorem run_of_exec {first last : Metered} {events : List MeteredEvent} (kept : Metered → Prop)
    [DecidablePred kept]
    (computed : Run.execAll (fun state event => (state.exec event).filter fun after => kept after)
      first events = some last) :
    Run (fun before event after => Step .small smallConfig 2 before event after ∧ kept after)
      first events last := by
  apply Run.of_execAll _ computed
  intro before event after taken
  obtain ⟨performed, holds⟩ := Option.filter_eq_some_iff.mp taken
  exact ⟨step_of_exec performed, of_decide_eq_true holds⟩

/-- Two VIPs with a real each, and a packet for the first of them. -/
def busy : List MeteredEvent :=
  [.control (.addVip ⟨"10.200.1.1", 80, 6⟩ 0), .control (.addVip ⟨"10.200.1.2", 80, 6⟩ 0),
    .control (.addRealForVip ⟨"10.0.0.1", 1⟩ ⟨"10.200.1.1", 80, 6⟩),
    .control (.addRealForVip ⟨"10.0.0.2", 1⟩ ⟨"10.200.1.2", 80, 6⟩),
    .frame (sampleEnv 5) 0 (sampleTcp 0x01010101 0x0101c80a 4000 80 true)]

/-- Another one on the other core, then one for the second VIP, which is removed afterwards. -/
def busier : List MeteredEvent :=
  [.frame { sampleEnv 6 with cpu := 1 } 0 (sampleTcp 0x01010101 0x0101c80a 4001 80 true),
    .frame (sampleEnv 7) 0 (sampleTcp 0x01010101 0x0201c80a 4000 80 true),
    .control (.delVip ⟨"10.200.1.2", 80, 6⟩)]

/-- A balancer for two VIPs and three reals. -/
def idle : Metered := ⟨KatranLb.tiny, .fresh, []⟩

private theorem busy_returns : (Run.execAll exec idle busy).isSome = true := by decide +kernel

/-- The balancer after the first packet. -/
def atWork : Metered := (Run.execAll exec idle busy).get busy_returns

private theorem atWork_reached : Run (Step .small smallConfig 2) (fresh KatranLb.tiny.config
    KatranLb.tiny.features KatranLb.tiny.kernel .fresh) busy atWork :=
  Run.of_execAll (fun _ _ _ => step_of_exec) (Option.some_get busy_returns).symm

private theorem busier_returns :
    (Run.execAll (fun state event => (state.exec event).filter fun after =>
    Serves .small ⟨"10.200.1.1", 80, 6⟩ after.lb) atWork busier).isSome = true := by
  decide +kernel

/-- The balancer at the end. -/
def workedOn : Metered := (Run.execAll (fun state event => (state.exec event).filter fun after =>
  Serves .small ⟨"10.200.1.1", 80, 6⟩ after.lb) atWork busier).get busier_returns

private theorem tiny_agrees : smallConfig.Agrees KatranLb.tiny.config :=
  ⟨rfl, by decide, by decide, by decide, by decide, by decide, by decide⟩

/-- Of the two packets that have been sent in the meantime one was for the VIP. -/
theorem vip_statistics_exact_busier :
    (∃ more, workedOn.sent = atWork.sent ++ more ∧
      (workedOn.lb.getStatsForVip smallConfig 2 (.plain 20) workedOn.flow
        ⟨"10.200.1.1", 80, 6⟩).1 =
        (atWork.lb.getStatsForVip smallConfig 2 (.plain 20) atWork.flow
          ⟨"10.200.1.1", 80, 6⟩).1.addPackets
            (lengthsOf (fun sent => sent.vip = ⟨.ofV4 0x0101c80a, 0x5000, 6⟩) more)) ∧
      atWork.sent.length = 1 ∧ workedOn.sent.length = 3 ∧
      (workedOn.lb.getStatsForVip smallConfig 2 (.plain 20) workedOn.flow
        ⟨"10.200.1.1", 80, 6⟩).1 = { v1 := 2, v2 := 80 } := by
  have run := run_of_exec _ (Option.some_get busier_returns).symm
  have coded : VipKey.encode .small ⟨"10.200.1.1", 80, 6⟩ =
      some ⟨.ofV4 0x0101c80a, 0x5000, 6⟩ := by
    decide +kernel
  exact ⟨vip_statistics_exact rfl rfl tiny_agrees rfl coded atWork_reached (by decide +kernel) run
    (Env.plain_reliable 20), by decide +kernel, by decide +kernel, by decide +kernel⟩

/-! ## Reals -/

/-- The packets that are counted under the number of a real are sent to its address. -/
def ToReal (folly : Folly) (real : String) (index : Nat) (sent : Sent) : Prop :=
  sent.pckt.realIndex = index → ∃ raddr addr : IPAddress, folly.parse real = some raddr ∧
    addr.key = raddr.key ∧ sent.dst = parseAddrToBe addr

private theorem Sound.toReal {config : KatranConfig} {state : Metered} {real : String} {index : Nat}
    (sound : Sound folly config state)
    (numbered : (state.lb.getIndexForReal folly real).1 = index) {sent : Sent}
    (dst : sent.dst = state.lb.kernel.reals sent.pckt.realIndex) :
    ToReal folly real index sent := by
  intro same
  obtain ⟨raddr, entry, parsed, found, number⟩ := KatranLb.getIndexForReal_eq numbered
  obtain ⟨addr, named, equal⟩ := sound.pools.reals.named raddr.key entry found
  refine ⟨raddr, addr, parsed, equal, ?_⟩
  rw [dst, same, ← number]
  exact sound.written entry.num addr named

/-- A run in which a real keeps its number gains exactly the packets that are sent to it. -/
theorem gains_of_numbered {config : KatranConfig} {first last : Metered}
    {events : List MeteredEvent} {real : String} {index : Nat} (agrees : cfg.Agrees config)
    (live : config.testing = false) (sound : Sound folly config first)
    (numbered : (first.lb.getIndexForReal folly real).1 = index)
    (run : Run (fun before event after => Step folly cfg nrCpus before event after ∧
      (after.lb.getIndexForReal folly real).1 = index) first events last) :
    (Sound folly config last ∧ (last.lb.getIndexForReal folly real).1 = index) ∧
    Gains (fun flow => sumStats nrCpus fun core => flow.realsStats core index)
      (fun sent => sent.pckt.realIndex = index) (ToReal folly real index) first last := by
  refine Gains.run
    (fun state => Sound folly config state ∧ (state.lb.getIndexForReal folly real).1 = index) ?_
    ⟨sound, numbered⟩ run
  rintro before event after ⟨sound, numbered⟩ ⟨taken, still⟩
  refine ⟨⟨sound.step live taken, still⟩, Gains.step sound agrees taken ?_ ?_ ?_⟩
  · intro _ _
    rfl
  · intro cpu core outcome pktBytes meters
    apply sumStats_sent core
    rw [meters.realsStats index]
    simp only [decide_eq_true_eq]
  · intro sent _ dst
    exact sound.toReal numbered dst

/-- **The statistics of a real are exact.** From one report for a real to a later one, exactly
the packets that have been sent to its number in the meantime are added, if the bpf calls
succeed and as long as it has that number, and all of them have been sent to its address. -/
theorem real_statistics_exact {config : KatranConfig} {features : KatranFeatures}
    {kernel : ConfigMaps} {flow : FlowMaps} {earlier events : List MeteredEvent}
    {first last : Metered} {real : String} {index : Nat} {env : Env}
    (live : config.testing = false) (forwards : config.disableForwarding = false)
    (agrees : cfg.Agrees config) (empty : kernel.vipMap = fun _ => none)
    (started : Run (Step folly cfg nrCpus) (fresh config features kernel flow) earlier first)
    (numbered : (first.lb.getIndexForReal folly real).1 = index)
    (run : Run (fun before event after => Step folly cfg nrCpus before event after ∧
      (after.lb.getIndexForReal folly real).1 = index) first events last)
    (reliable : env.Reliable) :
    ∃ more, last.sent = first.sent ++ more ∧
      (last.lb.getRealStats cfg nrCpus env last.flow index).1 =
        (first.lb.getRealStats cfg nrCpus env first.flow index).1.addPackets
          (lengthsOf (fun sent => sent.pckt.realIndex = index) more) ∧
      ∀ packet ∈ more, packet.1.pckt.realIndex = index → ∃ raddr addr : IPAddress,
        folly.parse real = some raddr ∧ addr.key = raddr.key ∧
          packet.1.dst = parseAddrToBe addr := by
  have sound := Sound.ofRun live empty started
  obtain ⟨⟨final, stays⟩, more, sent, counted, theirs⟩ :=
    gains_of_numbered agrees live sound numbered run
  have report : ∀ {state : Metered}, Sound folly config state →
      (state.lb.getIndexForReal folly real).1 = index →
      (state.lb.getRealStats cfg nrCpus env state.flow index).1 =
        sumStats nrCpus fun core => state.flow.realsStats core index := by
    intro state sound reported
    obtain ⟨raddr, entry, _, found, number⟩ := KatranLb.getIndexForReal_eq reported
    have inside := sound.pools.reals.num_lt found
    rw [number, sound.config] at inside
    exact KatranLb.getLbStats_of_reliable reliable (by rw [sound.config]; exact forwards)
      (by rw [sound.config]; exact live) (Nat.lt_of_lt_of_le inside agrees.reals)
  dsimp only at counted
  refine ⟨more, sent, ?_, theirs⟩
  rw [report final stays, report sound numbered, counted]

private theorem busier_keeps_real :
    (Run.execAll (fun state event => (state.exec event).filter fun after =>
    (after.lb.getIndexForReal .small "10.0.0.1").1 = (0 : Nat)) atWork busier).isSome = true := by
  decide +kernel

/-- One of the packets was sent to the real with the first number. -/
theorem real_statistics_exact_busier :
    let last := (Run.execAll (fun state event => (state.exec event).filter fun after =>
      (after.lb.getIndexForReal .small "10.0.0.1").1 = (0 : Nat)) atWork busier).get
        busier_keeps_real
    (∃ more, last.sent = atWork.sent ++ more ∧
      (last.lb.getRealStats smallConfig 2 (.plain 20) last.flow 0).1 =
        (atWork.lb.getRealStats smallConfig 2 (.plain 20) atWork.flow 0).1.addPackets
          (lengthsOf (fun sent => sent.pckt.realIndex = 0) more)) ∧
      (last.lb.getRealStats smallConfig 2 (.plain 20) last.flow 0).1 = { v1 := 2, v2 := 80 } := by
  intro last
  have run := run_of_exec _ (Option.some_get busier_keeps_real).symm
  obtain ⟨more, sent, exactly, _⟩ := real_statistics_exact rfl rfl tiny_agrees rfl atWork_reached
    (by decide +kernel) run (Env.plain_reliable 20)
  exact ⟨⟨more, sent, exactly⟩, by decide +kernel⟩

end Metered

end Katran
