import Katran.Bpf.Process
import Katran.Lb.Rings

/-! # VIPs with nothing to send to

No ring is generated for a VIP without a real of nonzero weight, so its slice of the
array keeps whatever it has: the ring of the reals that were drained, the ring of the
VIP that had the number before, or the zeros it began with. All of these are indices of
reals (`SlotsKnown`), and the forwarding plane cannot tell them from a ring. A packet
for such a VIP is forwarded like any other.
-/

namespace Katran

open Foundation UnorderedMap

/-- The program was compiled for the control plane's configuration. -/
structure BpfConfig.Agrees (cfg : BpfConfig) (config : KatranConfig) : Prop where
  ringSize : cfg.ringSize = config.chRingSize.toNat
  positive : 0 < config.chRingSize.toNat
  vips : config.maxVips.toNat ≤ cfg.maxVips
  counters : quicRouteStats < cfg.maxVips
  reals : config.maxReals.toNat ≤ cfg.maxReals
  someReal : 0 < config.maxReals.toNat
  ringsFit : config.maxVips.toNat * config.chRingSize.toNat < 2 ^ 32

namespace BpfConfig.Agrees

variable {cfg : BpfConfig} {config : KatranConfig}

private theorem countersPresent (agrees : cfg.Agrees config) (maps : ConfigMaps) (cpu : Nat) :
    CountersPresent cfg maps cpu := by
  have counters := agrees.counters
  simp only [quicRouteStats] at counters
  refine ⟨?_, fun _ => ?_⟩
  · simp only [lruCntrs, statsMapSize]
    omega
  · simp only [fallbackLruCntr, statsMapSize]
    omega

private theorem missCounted (agrees : cfg.Agrees config) :
    cfg.maxVips + lruMissCntr < cfg.statsMapSize := by
  have counters := agrees.counters
  simp only [quicRouteStats] at counters
  simp only [lruMissCntr, statsMapSize]
  omega

/-- The slot of a packet is in the slice of its VIP, and in the array. -/
theorem ringKey_slot (agrees : cfg.Agrees config) {info : VipMeta}
    (known : info.vipNum < config.maxVips.toNat) (isIpv6 : Bool) (flow : FlowKey) :
    ∃ position < config.chRingSize.toNat,
      ringKey cfg isIpv6 info flow = info.vipNum * config.chRingSize.toNat + position ∧
      ringKey cfg isIpv6 info flow < cfg.chRingsSize := by
  have positive := agrees.positive
  refine ⟨(getPacketHash cfg flow isIpv6).toNat % config.chRingSize.toNat,
    Nat.mod_lt _ positive, ?_⟩
  have inside := Nat.mod_lt (getPacketHash cfg flow isIpv6).toNat positive
  have key : ringKey cfg isIpv6 info flow = info.vipNum * config.chRingSize.toNat +
      (getPacketHash cfg flow isIpv6).toNat % config.chRingSize.toNat := by
    unfold ringKey
    rw [agrees.ringSize, Nat.mul_comm, KatranLb.slot_fits known inside agrees.ringsFit]
  refine ⟨key, ?_⟩
  rw [key]
  calc info.vipNum * config.chRingSize.toNat +
        (getPacketHash cfg flow isIpv6).toNat % config.chRingSize.toNat
      < info.vipNum * config.chRingSize.toNat + config.chRingSize.toNat := by omega
    _ = (info.vipNum + 1) * config.chRingSize.toNat := by rw [Nat.add_mul, Nat.one_mul]
    _ ≤ cfg.maxVips * config.chRingSize.toNat :=
        Nat.mul_le_mul_right _ (Nat.le_trans known agrees.vips)
    _ = cfg.chRingsSize := by rw [chRingsSize, agrees.ringSize]

end BpfConfig.Agrees

namespace KatranLb

variable {folly : Folly} {env : Env} {lb after : KatranLb} {vip : VipKey} {done : Bool}

/-- Every real of a VIP and every slot of a ring, written or not, is the index of a
real. -/
structure SlotsKnown (lb : KatranLb) : Prop where
  nums : ∀ vip current, lb.vips.lookup vip = some current →
    ∀ num ∈ current.reals, num < lb.config.maxReals.toNat
  slots : ∀ key, lb.kernel.chRings key < lb.config.maxReals.toNat

namespace SlotsKnown

/-- All slots of a new balancer are zero. -/
theorem new {config : KatranConfig} {kernel : ConfigMaps} (features : KatranFeatures)
    (zeros : kernel.chRings = fun _ => 0) (someReal : 0 < config.maxReals.toNat) :
    (KatranLb.new config features kernel).SlotsKnown where
  nums := by
    intro vip current found
    simp only [KatranLb.new, AList.lookup_empty, reduceCtorEq] at found
  slots := by
    intro key
    change kernel.chRings key < config.maxReals.toNat
    rw [zeros]
    exact someReal

private theorem keepsRings (known : lb.SlotsKnown) (kept : KeepsRings lb after) :
    after.SlotsKnown where
  nums := by
    intro vip current found num member
    rw [kept.config]
    rcases kept.vips vip current found with ⟨vipNum, flags, rfl⟩ | ⟨earlier, flags, read, rfl⟩
    · exact (AList.notMem_empty num member).elim
    · exact known.nums vip earlier read num member
  slots := by
    intro key
    rw [kept.chRings, kept.config]
    exact known.slots key

/-- A batch only writes numbers of reals into the rings. -/
theorem modifyRealsForVip {action : ModifyAction} {reals : List NewReal} (known : lb.SlotsKnown)
    (pools : lb.PoolsSound) (reliable : env.Reliable) (live : lb.config.testing = false)
    (few : lb.config.maxReals.toNat < 2 ^ 31)
    (numbered : ∀ current, lb.vips.lookup vip = some current → current.Consistent)
    (returned : lb.modifyRealsForVip folly env action reals vip = some (done, after)) :
    after.SlotsKnown := by
  rcases modifyRealsForVip_cases returned with
    ⟨_, rfl, _⟩ | ⟨_, forwards, current, chPositions, updated, found, ring, same⟩
  · exact known
  have rest := modifyRealsBatch_sameRest folly env lb action reals current
  have config : after.config = lb.config := same.config.trans rest.config
  have below : ∀ num ∈ updated.reals, num < lb.config.maxReals.toNat := by
    intro num member
    rw [(Vip.reals_of_batchRealsUpdate ring).1] at member
    rcases Vip.mem_foldl_applyUpdate member with earlier | ⟨ureal, inside, _, rfl⟩
    · exact known.nums vip current found num earlier
    · exact modifyRealsBatch_small pools folly env action reals current ureal inside
  refine ⟨?_, ?_⟩
  · intro other another read num member
    rw [same.vips, rest.vips, lookup_insert_eq_ite] at read
    rw [config]
    split at read
    next =>
      obtain rfl := Option.some.inj read
      exact below num member
    next => exact known.nums other another read num member
  · intro key
    rw [modifyRealsForVip_kernel reliable live forwards found ring returned, config]
    apply writeAll_forall (· < lb.config.maxReals.toNat) known.slots
    intro write member
    obtain ⟨pos, listed, rfl⟩ := List.mem_map.mp member
    rcases Vip.batchRealsUpdate_cases ring with
      ⟨rfl, _⟩ | ⟨endpoints, slots, nonempty, lists, generated, rfl, rfl⟩
    · cases listed
    · obtain ⟨⟨position, value⟩, changed, rfl⟩ := List.mem_map.mp listed
      have owned := generated.slot_owned nonempty (lists.small fun num member =>
        (below num member).trans few)
      have fits : slots.length = current.chRing.length :=
        owned.1.trans (numbered current found).length.symm
      obtain ⟨inside, rfl, _⟩ := (mem_sync_delta fits position value).mp changed
      dsimp only
      rw [List.getD_eq_getElem _ _ inside]
      obtain ⟨endpoint, listed, slot⟩ := owned.2 _ (List.getElem_mem inside)
      have small := lists.small below endpoint listed
      rw [slot, toUInt32_natCast (by omega)]
      exact small

/-- The slots are numbers of reals after a call. -/
theorem step {op : Op} (known : lb.SlotsKnown) (rings : lb.RingsMirrored)
    (live : lb.config.testing = false) (few : lb.config.maxReals.toNat < 2 ^ 31)
    (ofVips : op.OfVips) (taken : ReliableStep folly lb op after) : after.SlotsKnown := by
  rcases taken.keepsRings_or live ofVips with
    kept | ⟨env, action, reals, vip, done, reliable, returned⟩
  · exact known.keepsRings kept
  · exact known.modifyRealsForVip rings.pools reliable live few
      (fun current found => (rings.numbered vip current found).consistent) returned

end SlotsKnown

/-- What a run of operations on VIPs keeps, from zeroed arrays. -/
theorem slots_of_run {config : KatranConfig} {features : KatranFeatures} {kernel : ConfigMaps}
    {ops : List Op} (live : config.testing = false)
    (fits : config.maxVips.toNat * config.chRingSize.toNat < 2 ^ 32)
    (few : config.maxReals.toNat < 2 ^ 31) (someReal : 0 < config.maxReals.toNat)
    (zeros : kernel.chRings = fun _ => 0)
    (run : Run (fun before op after => ReliableStep folly before op after ∧ op.OfVips)
      (KatranLb.new config features kernel) ops lb) :
    lb.RingsMirrored ∧ lb.SlotsKnown ∧ lb.config = config := by
  apply Run.invariant (fun lb => lb.RingsMirrored ∧ lb.SlotsKnown ∧ lb.config = config) _ run
  · exact ⟨.new config features kernel, .new features zeros someReal, rfl⟩
  · rintro before op after ⟨rings, known, rfl⟩ ⟨taken, ofVips⟩
    exact ⟨rings.step live fits few ofVips taken, known.step rings live few ofVips taken,
      (rings.pools.step taken.step).2⟩

/-- The ring's slot picks a real for a packet of a configured VIP, whether or not the VIP
has a real of nonzero weight. -/
theorem SlotsKnown.picks {cfg : BpfConfig} {info : VipMeta} (known : lb.SlotsKnown)
    (pools : lb.PoolsSound) (agrees : cfg.Agrees lb.config) {current : Vip}
    (found : lb.vips.lookup vip = some current) (same : info.vipNum = current.vipNum)
    (plain : info.srcRouting = false) (isIpv6 underFlood : Bool) (flow : FlowKey) :
    ∃ key recorded, pickDst cfg lb.kernel isIpv6 underFlood info flow = some (key, recorded) ∧
      key < cfg.maxReals := by
  have below : info.vipNum < lb.config.maxVips.toNat := same ▸ pools.vipNum_lt found
  obtain ⟨_, _, _, inside⟩ := agrees.ringKey_slot below isIpv6 (hashedFlow info flow)
  have unrouted : routedReal cfg lb.kernel isIpv6 underFlood info flow = none := by
    simp only [routedReal, plain, Bool.false_eq_true, false_and, and_false, ↓reduceIte]
  refine ⟨_, hashedFlow info flow, ?_, Nat.lt_of_lt_of_le
    (known.slots (ringKey cfg isIpv6 info (hashedFlow info flow))) agrees.reals⟩
  simp only [pickDst, unrouted, chRingsLookup, inside, ↓reduceIte, Option.map_some]

/-- **A VIP with nothing to send to forwards all the same.** In every state reached by
operations on VIPs whose bpf calls succeed, from zeroed arrays, a packet for a configured
VIP that does not route by connection id or source and that misses the connection table
is kept from being sent, if the VIP has no real of nonzero weight, exactly if the VIP
does have one or the packet is too big. -/
theorem drained_forwards {cfg : BpfConfig} {config : KatranConfig} {features : KatranFeatures}
    {kernel : ConfigMaps} {ops : List Op} (live : config.testing = false)
    (agrees : cfg.Agrees config) (few : config.maxReals.toNat < 2 ^ 31)
    (zeros : kernel.chRings = fun _ => 0)
    (run : Run (fun before op after => ReliableStep folly before op after ∧ op.OfVips)
      (KatranLb.new config features kernel) ops lb)
    {current : Vip} (configured : lb.vips.lookup vip = some current)
    {packetEnv : PacketEnv} {isIpv6 : Bool} {xdp : XdpMd} {flow : FlowMaps}
    {pckt described : PacketDescription} {pktBytes : UInt16} {vipDef : VipDefinition}
    {info : VipMeta} (parsed : describe cfg isIpv6 xdp.data = some (pckt, pktBytes))
    (found : lookupVip lb.kernel isIpv6 pckt = some (vipDef, info, described))
    (same : info.vipNum = current.vipNum) (noQuic : info.quicVip = false)
    (plain : info.srcRouting = false)
    (misses : ∀ entry, ¬ Hits cfg packetEnv (lruMapOf cfg lb.kernel packetEnv.cpu) info
      (lruPckt info described) flow.lru entry) (room : 48 ≤ xdp.headroom.length) :
    (¬ Vip.HasActive current.reals →
      (processPacket cfg lb.kernel packetEnv isIpv6 xdp flow).sent = none) ↔
    (Vip.HasActive current.reals ∨ cfg.maxPcktSize < xdp.data.length) := by
  obtain ⟨rings, known, rfl⟩ := slots_of_run live agrees.ringsFit few agrees.someReal zeros run
  constructor
  · intro silent
    by_contra neither
    rw [not_or, Nat.not_lt] at neither
    obtain ⟨idle, fits⟩ := neither
    have balanced := processPacket_balanced packetEnv flow parsed found fits
    obtain ⟨key, recorded, picks, below⟩ := known.picks rings.pools agrees configured same plain
      isIpv6 (isUnderFlood cfg packetEnv.cpu packetEnv.floodTime flow).1
        (lruPckt info described).flow
    have decided := balanced.decision.of_picks
      (quicRouted_eq_false cfg isIpv6 xdp.data described noQuic)
      (agrees.countersPresent lb.kernel packetEnv.cpu) agrees.missCounted misses picks below
    have counted : info.vipNum < cfg.statsMapSize := by
      have number := rings.pools.vipNum_lt configured
      have vips := agrees.vips
      simp only [BpfConfig.statsMapSize]
      omega
    have sent := balanced.sends _ decided room counted below
    cases (silent idle).symm.trans sent
  · rintro (active | big) idle
    · exact (idle active).elim
    · rcases processPacket_cases cfg lb.kernel packetEnv isIpv6 xdp flow with
        ⟨unsent, _⟩ | ⟨_, _, _, _, _, _, _, _, balanced⟩
      · exact unsent
      · exact absurd balanced.fits (Nat.not_le.mpr big)

/-- The only real of a VIP is drained. -/
def drained : List Op :=
  [.addVip ⟨"10.200.1.1", 80, 6⟩ 0, .addRealForVip ⟨"10.0.0.1", 1⟩ ⟨"10.200.1.1", 80, 6⟩,
    .addRealForVip ⟨"10.0.0.1", 0⟩ ⟨"10.200.1.1", 80, 6⟩]

private theorem drained_returns : (tiny.vipOpsAll drained).isSome = true := by decide +kernel

/-- A packet that is too big is not forwarded to the drained real. -/
theorem drained_forwards_tooBig :
    let lb := (tiny.vipOpsAll drained).get drained_returns
    let xdp : XdpMd := { sampleTcp 0x01010101 0x0101c80a 4000 80 true with
      data := (sampleTcp 0x01010101 0x0101c80a 4000 80 true).data ++ List.replicate 1500 0 }
    (processPacket smallConfig lb.kernel (sampleEnv 5) false xdp .fresh).sent = none := by
  intro lb xdp
  have idle : ∀ current ∈ lb.vips.lookup ⟨"10.200.1.1", 80, 6⟩,
      current.vipNum = 0 ∧ current.reals.entries = [⟨0, ⟨0, 0x0100000a⟩⟩] := by
    decide +kernel
  have configured : lb.vips.lookup ⟨"10.200.1.1", 80, 6⟩ ≠ none := by decide +kernel
  obtain ⟨current, read⟩ := Option.ne_none_iff_exists'.mp configured
  obtain ⟨number, entries⟩ := idle current read
  have parsed : (describe smallConfig false xdp.data).map Prod.fst =
      some { flow := ⟨.ofV4 0x01010101, .ofV4 0x0101c80a, 40975, 20480, 6⟩, synSet := true } := by
    decide +kernel
  obtain ⟨⟨pckt, pktBytes⟩, described, rfl⟩ := Option.map_eq_some_iff.mp parsed
  have found : lookupVip lb.kernel false
      { flow := ⟨.ofV4 0x01010101, .ofV4 0x0101c80a, 40975, 20480, 6⟩, synSet := true } =
        some (⟨.ofV4 0x0101c80a, 20480, 6⟩, ⟨0, 0⟩,
          { flow := ⟨.ofV4 0x01010101, .ofV4 0x0101c80a, 40975, 20480, 6⟩, synSet := true }) := by
    decide +kernel
  have agrees : smallConfig.Agrees tiny.config :=
    ⟨rfl, by decide, by decide, by decide, by decide, by decide, by decide⟩
  have misses : ∀ entry, ¬ Hits smallConfig (sampleEnv 5) (lruMapOf smallConfig lb.kernel 0) ⟨0, 0⟩
      (lruPckt ⟨0, 0⟩
        { flow := ⟨.ofV4 0x01010101, .ofV4 0x0101c80a, 40975, 20480, 6⟩, synSet := true })
      FlowMaps.fresh.lru entry :=
    fun entry hits => nomatch hits.found
  refine (drained_forwards rfl agrees (by decide) rfl
    (run_of_vipOpsAll (Option.some_get drained_returns).symm) read described found
      number.symm rfl rfl
    misses (by decide)).mpr (.inr (by decide +kernel)) ?_
  rintro ⟨num, real, weighted, nonzero⟩
  have member := mem_entries.mpr weighted
  rw [entries] at member
  obtain ⟨rfl, same⟩ := Sigma.mk.inj (List.mem_singleton.mp member)
  obtain rfl := eq_of_heq same
  exact nonzero rfl

/-- The reals of the VIP with their weights, and where a new connection for it goes. -/
def newConnection (lb : KatranLb) : List (Nat × Nat) × Option (Nat × RealDefinition) :=
  (((lb.vips.lookup ⟨"10.200.1.1", 80, 6⟩).map fun current =>
      current.reals.entries.map fun entry => (entry.1, entry.2.weight)).getD [],
    (processPacket smallConfig lb.kernel (sampleEnv 5) false
      (sampleTcp 0x01010101 0x0101c80a 4000 80 true) .fresh).sent.map
        fun sent => (sent.pckt.realIndex, sent.dst))

/-- A new connection still reaches the drained real, and a VIP that never had a real
sends to the real whose index is zero. -/
theorem drained_still_forwards :
    (tiny.vipOpsAll drained).map newConnection =
      some ([(0, 0)], some (0, { dstv6 := .ofV4 0x0100000a })) ∧
    (tiny.vipOpsAll [.addVip ⟨"10.200.1.1", 80, 6⟩ 0]).map newConnection =
      some ([], some (0, {})) := by
  decide +kernel

end KatranLb

end Katran
