import Katran.Lb.Hashed
import Katran.Lb.VipMap
import Katran.Lb.Written
import Katran.Ring.Fairness
import Katran.System.Drained
import Katran.System.Static

/-! # Balancers that need not talk to each other

Several balancers announce the same VIPs, and routers may move a connection from one to
another at any time. The balancers share nothing but their configuration: each of them has
numbered its VIPs and reals in the order in which they were added and removed there. A
connection survives the move because all of this is only numbering. Two balancers that
report the same reals with the same weights have the same rings up to the names of the
reals, so they send a new connection to the same address.

The ring is filled in the order of the hashes, so this needs that no two addresses in use
have one hash.
-/

namespace Katran

open Foundation UnorderedMap

/-! ## Rings of corresponding reals -/

namespace Vip

variable {vip first second : Vip} {naming : Nat → Nat}

private theorem nodup_activeEndpoints (reals : UnorderedMap Nat VipRealMeta) :
    (reals.entries.filterMap activeEndpoint).Nodup := by
  apply List.Nodup.filterMap
  · intro left right endpoint leftFound rightFound
    rw [(activeEndpoint_eq_some.mp leftFound).1, (activeEndpoint_eq_some.mp rightFound).1]
  · exact reals.nodupKeys.nodup

private theorem ListsActive.distinctHashes_iff {endpoints : List Endpoint}
    (lists : ListsActive vip.reals endpoints) :
    vip.DistinctHashes ↔ (endpoints.map Endpoint.hash).Nodup := by
  have same : (vip.reals.entries.filterMap activeEndpoint).Perm endpoints :=
    (List.perm_ext_iff_of_nodup (nodup_activeEndpoints vip.reals) lists.nodup).mpr fun _ =>
      lists.mem_entries_iff.symm
  exact (same.map Endpoint.hash).nodup_iff

/-- The reals of nonzero weight of one VIP are those of the other under other numbers. -/
structure Corresponds (naming : Nat → Nat) (first second : Vip) : Prop where
  forth : ∀ num entry, first.reals.lookup num = some entry → entry.weight ≠ 0 →
    second.reals.lookup (naming num) = some entry
  back : ∀ num entry, second.reals.lookup num = some entry → entry.weight ≠ 0 →
    ∃ other, naming other = num ∧ first.reals.lookup other = some entry

namespace Corresponds

private theorem hasActive (corresponds : Corresponds naming first second)
    (active : HasActive first.reals) :
    HasActive second.reals := by
  obtain ⟨num, entry, found, nonzero⟩ := active
  exact ⟨naming num, entry, corresponds.forth num entry found nonzero, nonzero⟩

/-- The endpoints of the second VIP are the renamed endpoints of the first. -/
theorem listsActive (corresponds : Corresponds naming first second)
    (distinct : first.DistinctHashes) {endpoints : List Endpoint}
    (lists : ListsActive first.reals endpoints) :
    ListsActive second.reals (endpoints.map (Endpoint.rename naming)) where
  nodup := by
    have hashes : ((endpoints.map (Endpoint.rename naming)).map Endpoint.hash).Nodup := by
      rw [List.map_map]
      exact lists.distinctHashes_iff.mp distinct
    exact hashes.of_map _
  mem_iff := by
    intro endpoint
    rw [List.mem_map]
    constructor
    · rintro ⟨original, member, rfl⟩
      obtain ⟨found, nonzero⟩ := (lists.mem_iff original).mp member
      exact ⟨corresponds.forth original.num _ found nonzero, nonzero⟩
    · rintro ⟨found, nonzero⟩
      obtain ⟨other, renamed, read⟩ := corresponds.back endpoint.num _ found nonzero
      refine ⟨⟨other, endpoint.weight, endpoint.hash⟩, (lists.mem_iff _).mpr ⟨read, nonzero⟩, ?_⟩
      simp only [Endpoint.rename, renamed]
  sorted := List.pairwise_map.mpr lists.sorted

/-- The ring of the second VIP is the renamed ring of the first. -/
theorem chRing_eq (corresponds : Corresponds naming first second) {ringSize : Nat}
    (numbered : first.WellNumbered ringSize) (other : second.WellNumbered ringSize)
    (active : HasActive first.reals) (distinct : first.DistinctHashes) :
    second.chRing = first.chRing.map (renameSlot naming) := by
  obtain ⟨endpoints, lists, fuel, generated⟩ := numbered.consistent.ring active
  obtain ⟨others, otherLists, otherGenerated⟩ :=
    other.consistent.ring (corresponds.hasActive active)
  have renamed := corresponds.listsActive distinct lists
  have otherDistinct : second.DistinctHashes := by
    rw [renamed.distinctHashes_iff, List.map_map]
    exact lists.distinctHashes_iff.mp distinct
  obtain rfl := ListsActive.unique_of_active otherDistinct otherLists renamed
  have small := renamed.small other.small
  have equivariant := generateMaglevHash_rename (lists.small numbered.small)
    (fun endpoint member => small _ (List.mem_map_of_mem member)) fuel first.chRingSize
  rw [generated, Option.map_some] at equivariant
  rw [other.size, ← numbered.size] at otherGenerated
  exact otherGenerated.unique ⟨fuel, equivariant⟩

/-- Slots at one position are taken by corresponding reals. -/
theorem slot (corresponds : Corresponds naming first second) {ringSize : Nat}
    (numbered : first.WellNumbered ringSize) (other : second.WellNumbered ringSize)
    (active : HasActive first.reals) (distinct : first.DistinctHashes) {position : Nat}
    (inside : position < ringSize) :
    ∃ num entry, first.reals.lookup num = some entry ∧ entry.weight ≠ 0 ∧
      second.reals.lookup (naming num) = some entry ∧
      first.chRing.getD position (-1) = (num : Int) ∧
      second.chRing.getD position (-1) = (naming num : Int) := by
  have within : position < first.chRing.length := by
    rw [numbered.consistent.length, numbered.size]
    exact inside
  obtain ⟨num, entry, slot, read, nonzero⟩ :=
    numbered.consistent.slot_active numbered.small active _ (List.getElem_mem within)
  refine ⟨num, entry, read, nonzero, corresponds.forth num entry read nonzero, ?_, ?_⟩
  · rw [List.getD_eq_getElem _ _ within]
    exact slot
  · have fits : position < (first.chRing.map (renameSlot naming)).length := by
      rw [List.length_map]
      exact within
    rw [corresponds.chRing_eq numbered other active distinct, List.getD_eq_getElem _ _ fits,
      List.getElem_map, slot, renameSlot_natCast]

end Corresponds

end Vip

private theorem Op.RemovesOnce.ofVips {folly : Folly} {op : Op} (once : op.RemovesOnce folly) :
    op.OfVips := by
  cases op with
  | modifyRealsForVip _ _ _ => trivial
  | _ => exact once

namespace KatranLb

variable {folly : Folly} {cfg : BpfConfig} {lb first second after : KatranLb} {vip : VipKey}

/-! ## Balancers that are managed alike -/

/-- An operation on VIPs whose bpf calls succeed, which removes no address twice and adds no
second spelling of a VIP. -/
def ManagedStep (folly : Folly) (before : KatranLb) (op : Op) (after : KatranLb) : Prop :=
  ReliableStep folly before op after ∧ op.RemovesOnce folly ∧ before.SpelledOnce folly op

/-- A balancer has been managed since it was started with an empty `vip_map`, and the
program was compiled for its configuration. -/
def Managed (folly : Folly) (cfg : BpfConfig) (lb : KatranLb) : Prop :=
  ∃ config features kernel ops, config.testing = false ∧ cfg.Agrees config ∧
    config.maxReals.toNat < 2 ^ 31 ∧ kernel.vipMap = (fun _ => none) ∧
    Run (ManagedStep folly) (.new config features kernel) ops lb

/-- What managing a balancer keeps. -/
structure InService (folly : Folly) (cfg : BpfConfig) (lb : KatranLb) : Prop where
  agrees : cfg.Agrees lb.config
  live : lb.config.testing = false
  few : lb.config.maxReals.toNat < 2 ^ 31
  rings : lb.RingsMirrored
  mapped : ∃ realsOf, lb.Mapped realsOf
  valid : lb.VipsValid folly
  hashed : lb.Hashed folly
  written : lb.RealsWritten
  encoded : lb.VipsEncoded folly

/-- A balancer is in service after a managed call. -/
theorem InService.step {op : Op} (hashes : folly.HashesKeys) (service : lb.InService folly cfg)
    (taken : ManagedStep folly lb op after) : after.InService folly cfg := by
  obtain ⟨reliable, once, spelled⟩ := taken
  obtain ⟨realsOf, mapped⟩ := service.mapped
  have same := (service.rings.pools.step reliable.step).2
  exact {
    agrees := same ▸ service.agrees
    live := same ▸ service.live
    few := same ▸ service.few
    rings := service.rings.step service.live service.agrees.ringsFit service.few once.ofVips
      reliable
    mapped := ⟨_, mapped.step service.valid once reliable.step⟩
    valid := service.valid.step reliable.step
    hashed := service.hashed.step hashes mapped once reliable.step
    written := service.written.step service.live reliable
    encoded := service.encoded.step service.live once.ofVips spelled reliable }

/-- A managed balancer is in service. -/
theorem Managed.inService (hashes : folly.HashesKeys) (managed : lb.Managed folly cfg) :
    lb.InService folly cfg := by
  obtain ⟨config, features, kernel, ops, live, agrees, few, empty, run⟩ := managed
  apply Run.invariant (fun lb => lb.InService folly cfg) _ run
  · exact {
      agrees := agrees
      live := live
      few := few
      rings := .new config features kernel
      mapped := ⟨_, .new config features kernel⟩
      valid := fun vip member => (AList.notMem_empty vip member).elim
      hashed := .new config features kernel
      written := .new config features kernel
      encoded := .new config features empty }
  · exact fun _ _ _ service taken => service.step hashes taken

/-- Two balancers have the same VIPs with the same flags, and report the same reals with the
same weights for each of them. -/
structure SameService (first second : KatranLb) (realsOf : VipKey → IPAddress → Option Nat) :
    Prop where
  flags : ∀ vip,
    (first.vips.lookup vip).map Vip.vipFlags = (second.vips.lookup vip).map Vip.vipFlags
  reals : ∀ vip ∈ first.vips, first.Reports vip (realsOf vip) ∧ second.Reports vip (realsOf vip)

/-- A report determines the map. -/
theorem Reports.unique {weightOf others : IPAddress → Option Nat}
    (reports : lb.Reports vip weightOf) (again : lb.Reports vip others) : weightOf = others := by
  obtain ⟨listing, read, _, weights⟩ := reports (.plain 0)
  obtain ⟨second, readAgain, _, otherWeights⟩ := again (.plain 0)
  have same : listing = second := by
    have entries := congrArg Prod.fst (Option.some.inj (read.symm.trans readAgain))
    refine List.map_injective_iff.mpr ?_ entries
    intro entry other equal
    obtain ⟨named, weight⟩ := Prod.mk.inj equal
    exact Prod.ext (Option.some.inj named) weight
  subst same
  funext key
  apply Option.ext
  intro weight
  rw [weights, otherWeights]

/-- So the reals of a VIP represent what is reported. -/
theorem InService.represents (service : lb.InService folly cfg) {current : Vip}
    {weightOf : IPAddress → Option Nat} (found : lb.vips.lookup vip = some current)
    (reports : lb.Reports vip weightOf) : Represents lb.realPool current.reals weightOf := by
  obtain ⟨realsOf, mapped⟩ := service.mapped
  have represents := mapped.vips vip current found
  have known := represents.reports mapped.pools.reals
    (service.valid vip (mem_of_lookup found)).1 found
  rwa [reports.unique known]

/-- The kernel has the address of every real in use. -/
theorem InService.address (service : lb.InService folly cfg) {key : IPAddress} {num : Nat}
    (numbered : lb.realPool.numOf key = some num) :
    ∃ addr : IPAddress, lb.kernel.reals num = parseAddrToBe addr ∧ addr.key = key := by
  obtain ⟨slot, found, rfl⟩ := RefPool.numOf_eq_some.mp numbered
  obtain ⟨real, named, same⟩ := service.rings.pools.reals.named key slot found
  exact ⟨real, service.written slot.num real named, same⟩

/-- An entry of `vip_map` is that of a VIP. -/
theorem InService.configured (service : lb.InService folly cfg) {key : VipDefinition}
    {info : VipMeta} (stored : lb.kernel.vipMap key = some info) :
    ∃ vip current, lb.vips.lookup vip = some current ∧ vip.encode folly = some key ∧
      info = current.vipMeta := by
  obtain ⟨vip, coded, metas⟩ := (service.encoded.stored key info).mp stored
  obtain ⟨current, found, rfl⟩ := Option.map_eq_some_iff.mp metas
  exact ⟨vip, current, found, coded, rfl⟩

/-- A VIP of one balancer is a VIP of the other. -/
theorem SameService.partner {realsOf : VipKey → IPAddress → Option Nat}
    (same : SameService first second realsOf) {current : Vip}
    (found : first.vips.lookup vip = some current) :
    ∃ another, second.vips.lookup vip = some another ∧ another.vipFlags = current.vipFlags := by
  have flags := same.flags vip
  rw [found, Option.map_some] at flags
  exact Option.map_eq_some_iff.mp flags.symm

/-- A packet that is not routed by connection id goes to the real of its index. -/
theorem dst_of_sent {maps : ConfigMaps} {env : PacketEnv} {isIpv6 : Bool} {xdp : XdpMd}
    {flow : FlowMaps} {sent : Sent}
    (forwarded : (processPacket cfg maps env isIpv6 xdp flow).sent = some sent)
    (noQuic : sent.info.quicVip = false) : sent.dst = maps.reals sent.pckt.realIndex := by
  rcases processPacket_cases cfg maps env isIpv6 xdp flow with
    ⟨unsent, _⟩ | ⟨pckt, pktBytes, vip, info, described, decided, parsed, found, balanced⟩
  · cases unsent.symm.trans forwarded
  · obtain ⟨chosen, rfl, rfl, _⟩ := balanced.of_sent sent forwarded
    rcases balanced.decision.chosen_cases with
      routed | ⟨entry, hits, rfl⟩ | ⟨key, recorded, picks, _, rfl⟩
    · cases noQuic.symm.trans (quicVip_of_quicRouted routed)
    · rfl
    · rfl

/-- The slot of a flow in the slice of its VIP. -/
theorem InService.ringKey_eq (service : lb.InService folly cfg) {current : Vip}
    (found : lb.vips.lookup vip = some current) (isIpv6 : Bool) (flow : FlowKey) :
    ringKey cfg isIpv6 current.vipMeta flow = current.vipNum * lb.config.chRingSize.toNat +
      (getPacketHash cfg flow isIpv6).toNat % cfg.ringSize := by
  have agrees := service.agrees
  unfold ringKey
  rw [agrees.ringSize, Nat.mul_comm]
  exact slot_fits (service.rings.pools.vipNum_lt found) (Nat.mod_lt _ agrees.positive)
    agrees.ringsFit

/-- Where a forwarded packet goes in a static configuration: to the real of the slot that
its VIP's ring has for the projected flow. -/
theorem InService.sent (service : lb.InService folly cfg) {isIpv6 : Bool} {start flow : FlowMaps}
    {events : List FlowEvent} {env : PacketEnv} {xdp : XdpMd} {sent : Sent}
    (empty : start.lru = fun _ _ => none)
    (traffic : Run (FlowMaps.Step cfg lb.kernel isIpv6) start events flow)
    (forwarded : (processPacket cfg lb.kernel env isIpv6 xdp flow).sent = some sent)
    (noQuic : sent.info.quicVip = false) (plain : sent.info.srcRouting = false) :
    ∃ pckt pktBytes vip current, describe cfg isIpv6 xdp.data = some (pckt, pktBytes) ∧
      lb.vips.lookup vip = some current ∧ vip.encode folly = some sent.vip ∧
      sent.dst = lb.kernel.reals (lb.kernel.chRings (current.vipNum * lb.config.chRingSize.toNat +
        (getPacketHash cfg (projectFlow sent.vip sent.info pckt.flow) isIpv6).toNat %
          cfg.ringSize)) := by
  obtain ⟨pckt, pktBytes, parsed, found, index⟩ :=
    AgreesWithRing.sent (.run empty traffic) forwarded noQuic plain
  obtain ⟨⟨key, info, described⟩, looked, same⟩ := Option.map_eq_some_iff.mp found
  obtain ⟨rfl, rfl⟩ := Prod.mk.inj same
  obtain ⟨vip, current, configured, coded, equal⟩ :=
    service.configured (lookupVip_spec looked).2.1
  refine ⟨pckt, pktBytes, vip, current, parsed, configured, coded, ?_⟩
  rw [dst_of_sent forwarded noQuic, index, ← service.ringKey_eq configured isIpv6, equal]

/-- The weights of a VIP's reals by address, read off the tables. -/
def weightsOf (lb : KatranLb) (vip : VipKey) (key : IPAddress) : Option Nat :=
  (lb.realPool.numOf key).bind fun num =>
    ((lb.vips.lookup vip).bind fun current => current.reals.lookup num).map VipRealMeta.weight

/-- A real with a weight is in use. -/
theorem mem_of_weightsOf {key : IPAddress} {weight : Nat}
    (read : lb.weightsOf vip key = some weight) : key ∈ lb.reals := by
  obtain ⟨num, numbered, _⟩ := Option.bind_eq_some_iff.mp read
  exact (mem_reals_iff lb key).mpr ⟨num, numbered⟩

/-- The reals of a VIP in service are reported with their weights. -/
theorem InService.reports_weightsOf (service : lb.InService folly cfg) (member : vip ∈ lb.vips) :
    lb.Reports vip (lb.weightsOf vip) := by
  obtain ⟨realsOf, mapped⟩ := service.mapped
  obtain ⟨current, found⟩ := exists_lookup_of_mem member
  have represents := mapped.vips vip current found
  have same : lb.weightsOf vip = realsOf vip := by
    funext key
    apply Option.ext
    intro weight
    rw [represents.weights, weightsOf, found, Option.bind_eq_some_iff]
    simp only [Option.bind_some, Option.map_eq_some_iff, exists_and_left]
  rw [same]
  exact represents.reports mapped.pools.reals (service.valid vip member).1 found

/-- Operations that are checked one by one, with succeeding bpf calls. -/
def managedAll (lb : KatranLb) (ops : List Op) : Option KatranLb :=
  Run.execAll (fun lb op => if op.RemovesOnce .small ∧ lb.SpelledOnce .small op
    then lb.perform .small (.plain 20) op else none) lb ops

private theorem run_of_managedAll {ops : List Op} (performed : lb.managedAll ops = some after) :
    Run (ManagedStep .small) lb ops after := by
  apply Run.of_execAll _ performed
  intro before op next computed
  split at computed
  next permitted => exact ⟨⟨.plain 20, Env.plain_reliable 20, computed⟩, permitted⟩
  next => cases computed

private theorem smallConfig_agrees : smallConfig.Agrees tiny.config :=
  ⟨rfl, by decide, by decide, by decide, by decide, by decide, by decide⟩

/-- Managed calls that are performed one after the other manage the balancer. -/
theorem managed_of_managedAll {ops : List Op} (performed : tiny.managedAll ops = some after) :
    after.Managed .small smallConfig :=
  ⟨_, _, _, ops, rfl, smallConfig_agrees, by decide, rfl, run_of_managedAll performed⟩

/-- Reals are hashed by their addresses. -/
theorem small_hashesKeys : Folly.small.HashesKeys := by
  rintro (addr | addr)
  · rfl
  · simp only [IPAddress.key]
    split
    · rfl
    · rfl

/-- One balancer got its VIPs and reals in order, the other in the opposite order, together
with a real that was removed again. -/
def inOrder : List Op :=
  [.addVip ⟨"10.200.1.1", 80, 6⟩ 0, .addVip ⟨"10.200.1.2", 80, 6⟩ 0,
    .modifyRealsForVip .add [⟨"10.0.0.1", 1⟩, ⟨"10.0.0.2", 2⟩] ⟨"10.200.1.1", 80, 6⟩]

/-- The calls of the first history are performed. -/
theorem inOrder_returns : (tiny.managedAll inOrder).isSome = true := by decide +kernel

end KatranLb

end Katran
