import Katran.Lb.Pools
import Katran.Lb.RealsBatch

/-! # The holders of a real

A real is held by the VIPs that list its number, by a QUIC mapping of its
address, and by source routing rules. Its count should be at least the number of
its holders, or a number in use is given to another server. `Held` says so, and
that every holder holds a number in use for the address for which it took it.
The addresses are recorded beside the balancer (`Traced`).

Two rules carry all operations: distinct reals that each lose a holder and a
reference (`Held.releaseAll`), and a real that gets a further holder and a
further reference (`Held.acquire`).
-/

namespace Katran

open Foundation UnorderedMap

/-! ## What each number was added for -/

/-- The balancer with a record of the addresses for which numbers were added to
VIPs and rules. -/
structure Traced where
  lb : KatranLb
  realOf : VipKey → Nat → Option IPAddress
  dstOf : CIDRNetwork → Option IPAddress

namespace Traced

/-- A new balancer, with nothing recorded. -/
def new (config : KatranConfig) (features : KatranFeatures) (kernel : ConfigMaps) : Traced :=
  ⟨.new config features kernel, fun _ _ => none, fun _ => none⟩

/-- Record the owners of the numbers pushed for a VIP; the last one counts. -/
def recordReals (vip : VipKey) (owners : List (Nat × IPAddress))
    (realOf : VipKey → Nat → Option IPAddress) : VipKey → Nat → Option IPAddress :=
  owners.foldl (fun realOf owner =>
    Function.update realOf vip (Function.update (realOf vip) owner.1 (some owner.2))) realOf

/-- Record the destination of installed rules. -/
def recordRules (dst : IPAddress) (installed : List CIDRNetwork)
    (dstOf : CIDRNetwork → Option IPAddress) : CIDRNetwork → Option IPAddress :=
  installed.foldl (fun dstOf src => Function.update dstOf src.key (some dst)) dstOf

/-- The owners of the updates that adding reals to a VIP pushes. -/
def ownersOf (folly : Folly) (env : Env) (lb : KatranLb) (reals : List NewReal) (vip : VipKey) :
    List (Nat × IPAddress) :=
  if lb.config.disableForwarding then []
  else (lb.vips.lookup vip).elim [] fun current =>
    (lb.modifyRealsBatch folly env .add reals current).owners

/-- A call, and what it records about who holds the reals. -/
def perform (folly : Folly) (env : Env) (state : Traced) (op : Op) : Option Traced :=
  (state.lb.perform folly env op).map fun lb =>
    match op with
    | .addRealForVip real vip => { state with
        lb := lb
        realOf := recordReals vip (ownersOf folly env state.lb [real] vip) state.realOf }
    | .modifyRealsForVip .add reals vip => { state with
        lb := lb
        realOf := recordReals vip (ownersOf folly env state.lb reals vip) state.realOf }
    | .addSrcRoutingRule srcs dst => { state with
        lb := lb
        dstOf := (folly.parse dst).elim state.dstOf fun addr => recordRules addr
          (state.lb.addSrcRoutingRule folly env srcs dst).2.2 state.dstOf }
    | .addSrcRoutingRuleCidr srcs dst => { state with
        lb := lb
        dstOf := (folly.parse dst).elim state.dstOf fun addr => recordRules addr
          (state.lb.addSrcRoutingRuleCidr folly env srcs dst).2.2 state.dstOf }
    | _ => { state with lb := lb }

/-- A call whose bpf calls may fail. -/
def Step (folly : Folly) (state : Traced) (op : Op) (after : Traced) : Prop :=
  ∃ env, state.perform folly env op = some after

/-- Forgetting the record gives a step of the balancer. -/
theorem Step.lb {folly : Folly} {state after : Traced} {op : Op}
    (taken : Step folly state op after) :
    KatranLb.Step folly state.lb op after.lb := by
  obtain ⟨env, performed⟩ := taken
  obtain ⟨lb, stepped, rfl⟩ := Option.map_eq_some_iff.mp performed
  refine ⟨env, ?_⟩
  rw [stepped]
  cases op with
  | modifyRealsForVip action reals vip => cases action <;> rfl
  | _ => rfl

/-- Every number of a VIP and of a rule is in use for the address for which it was
added, and every mapped address is a real. -/
structure NoDangling (state : Traced) : Prop where
  vips : ∀ vip current num, state.lb.vips.lookup vip = some current → num ∈ current.reals →
    num ∉ state.lb.realNums ∧ ∃ added owner, state.realOf vip num = some added ∧
      state.lb.numToReals.lookup num = some (some owner) ∧ owner.key = added.key
  rules : ∀ src rule, state.lb.lpmSrcMapping.lookup src = some rule →
    rule.rnum ∉ state.lb.realNums ∧ ∃ added owner, state.dstOf src = some added ∧
      state.lb.numToReals.lookup rule.rnum = some (some owner) ∧ owner.key = added.key
  quic : ∀ key ∈ state.lb.quicMapping, key ∈ state.lb.reals

end Traced

namespace KatranLb

/-! ## Holders -/

/-- How many VIPs hold a number. -/
def vipClaims (lb : KatranLb) (num : Nat) : Nat :=
  (values lb.vips).countP fun vip => decide (num ∈ vip.reals)

/-- How many rules hold a number. -/
def ruleClaims (lb : KatranLb) (num : Nat) : Nat :=
  (values lb.lpmSrcMapping).countP fun rule => decide (rule.rnum = num)

/-- Whether an address is mapped to a QUIC id. -/
def quicClaims (lb : KatranLb) (key : IPAddress) : Nat :=
  if key ∈ lb.quicMapping then 1 else 0

/-- How many VIPs, rules and mappings hold a real. -/
def claims (lb : KatranLb) (key : IPAddress) (num : Nat) : Nat :=
  lb.vipClaims num + lb.ruleClaims num + lb.quicClaims key

/-- A real of a VIP is claimed. -/
theorem vipClaims_pos {lb : KatranLb} {vip : VipKey} {current : Vip} {num : Nat}
    (found : lb.vips.lookup vip = some current) (member : num ∈ current.reals) :
    0 < lb.vipClaims num :=
  List.countP_pos_iff.mpr ⟨current, mem_values.mpr ⟨vip, mem_entries.mpr found⟩,
    decide_eq_true member⟩

private theorem ruleClaims_pos {lb : KatranLb} {src : CIDRNetwork} {rule : SrcRule}
    (found : lb.lpmSrcMapping.lookup src = some rule) : 0 < lb.ruleClaims rule.rnum :=
  List.countP_pos_iff.mpr ⟨rule, mem_values.mpr ⟨src, mem_entries.mpr found⟩, decide_eq_true rfl⟩

private theorem quicClaims_pos {lb : KatranLb} {key : IPAddress} (member : key ∈ lb.quicMapping) :
    0 < lb.quicClaims key := by
  simp only [quicClaims, member, ↓reduceIte, Nat.lt_one_iff]

/-- Every holder holds a number in use, for the address for which it took it, and
no real has more holders than references. -/
structure Held (lb : KatranLb) (realOf : VipKey → Nat → Option IPAddress)
    (dstOf : CIDRNetwork → Option IPAddress) : Prop where
  pools : lb.PoolsSound
  live : lb.realPool.Live (2 ^ 32)
  vips : ∀ vip current num, lb.vips.lookup vip = some current → num ∈ current.reals →
    ∃ added, realOf vip num = some added ∧ lb.realPool.numOf added.key = some num
  rules : ∀ src rule, lb.lpmSrcMapping.lookup src = some rule →
    ∃ added, dstOf src = some added ∧ lb.realPool.numOf added.key = some rule.rnum
  quic : ∀ key ∈ lb.quicMapping, ∃ num, lb.realPool.numOf key = some num
  backed : ∀ key num, lb.realPool.numOf key = some num →
    lb.claims key num ≤ lb.realPool.refs key

namespace Held

variable {lb after : KatranLb} {realOf : VipKey → Nat → Option IPAddress}
  {dstOf : CIDRNetwork → Option IPAddress}

/-- In a new balancer nobody holds a real. -/
theorem new (config : KatranConfig) (features : KatranFeatures) (kernel : ConfigMaps) :
    (KatranLb.new config features kernel).Held (fun _ _ => none) fun _ => none where
  pools := .new config features kernel
  live := RefPool.Live.fresh config.maxReals.toNat
  vips := by
    intro vip current num found
    simp only [KatranLb.new, AList.lookup_empty, reduceCtorEq] at found
  rules := by
    intro src rule found
    simp only [KatranLb.new, AList.lookup_empty, reduceCtorEq] at found
  quic := by
    intro key member
    exact (AList.notMem_empty key member).elim
  backed := by
    intro key num numbered
    obtain ⟨slot, found, _⟩ := RefPool.numOf_eq_some.mp numbered
    simp only [KatranLb.new, realPool_table, AList.lookup_empty, reduceCtorEq] at found

/-- Where everything is held, nothing dangles. -/
theorem noDangling (held : Held lb realOf dstOf) : Traced.NoDangling ⟨lb, realOf, dstOf⟩ where
  vips := by
    intro vip current num found member
    obtain ⟨added, recorded, numbered⟩ := held.vips vip current num found member
    obtain ⟨slot, stored, rfl⟩ := RefPool.numOf_eq_some.mp numbered
    obtain ⟨owner, named, same⟩ := held.pools.reals.named _ slot stored
    exact ⟨held.pools.reals.num_not_free stored, added, owner, recorded, named, same⟩
  rules := by
    intro src rule found
    obtain ⟨added, recorded, numbered⟩ := held.rules src rule found
    obtain ⟨slot, stored, same⟩ := RefPool.numOf_eq_some.mp numbered
    obtain ⟨owner, named, equal⟩ := held.pools.reals.named _ slot stored
    rw [← same]
    exact ⟨held.pools.reals.num_not_free stored, added, owner, recorded, named, equal⟩
  quic := by
    intro key member
    exact (mem_reals_iff lb key).mpr (held.quic key member)

/-- A number that nobody owns has no holder. -/
theorem claims_eq_zero (held : Held lb realOf dstOf) {key : IPAddress} {num : Nat}
    (unowned : ∀ other, lb.realPool.numOf other ≠ some num)
    (unknown : lb.realPool.numOf key = none) : lb.claims key num = 0 := by
  have noVip : lb.vipClaims num = 0 := by
    apply Nat.eq_zero_of_not_pos
    intro positive
    obtain ⟨current, member, holds⟩ := List.countP_pos_iff.mp positive
    obtain ⟨vip, entry⟩ := mem_values.mp member
    obtain ⟨added, _, numbered⟩ :=
      held.vips vip current num (mem_entries.mp entry) (of_decide_eq_true holds)
    exact unowned _ numbered
  have noRule : lb.ruleClaims num = 0 := by
    apply Nat.eq_zero_of_not_pos
    intro positive
    obtain ⟨rule, member, holds⟩ := List.countP_pos_iff.mp positive
    obtain ⟨src, entry⟩ := mem_values.mp member
    obtain ⟨added, _, numbered⟩ := held.rules src rule (mem_entries.mp entry)
    rw [of_decide_eq_true holds] at numbered
    exact unowned _ numbered
  have noMapping : lb.quicClaims key = 0 := by
    have absent : key ∉ lb.quicMapping := by
      intro member
      obtain ⟨other, numbered⟩ := held.quic key member
      rw [unknown] at numbered
      cases numbered
    simp only [quicClaims, absent, ↓reduceIte]
  simp only [claims, noVip, noRule, noMapping]

/-- Nothing changes for the holders if no table does. -/
theorem sameTables (held : Held lb realOf dstOf) (same : SameTables lb after) :
    Held after realOf dstOf := by
  have claimed (key : IPAddress) (num : Nat) : after.claims key num = lb.claims key num := by
    simp only [claims, vipClaims, ruleClaims, quicClaims, same.vips, same.lpmSrcMapping,
      same.quicMapping]
  refine ⟨held.pools.frame (.of_sameTables same), ?_, ?_, ?_, ?_, ?_⟩
  · rw [same.realPool]
    exact held.live
  · rw [same.vips, same.realPool]
    exact held.vips
  · rw [same.lpmSrcMapping, same.realPool]
    exact held.rules
  · rw [same.quicMapping, same.realPool]
    exact held.quic
  · intro key num numbered
    rw [same.realPool] at numbered ⊢
    rw [claimed]
    exact held.backed key num numbered

/-- Distinct reals each lose a holder and a reference. -/
theorem releaseAll (held : Held lb realOf dstOf) (pools : after.PoolsSound) {keys : List IPAddress}
    (distinct : keys.Nodup)
    (pool : after.realPool = lb.realPool.releaseAll (2 ^ 32) keys)
    (vips : ∀ vip current num, after.vips.lookup vip = some current → num ∈ current.reals →
      ∃ earlier, lb.vips.lookup vip = some earlier ∧ num ∈ earlier.reals)
    (rules : ∀ src rule, after.lpmSrcMapping.lookup src = some rule →
      lb.lpmSrcMapping.lookup src = some rule)
    (quic : ∀ key ∈ after.quicMapping, key ∈ lb.quicMapping)
    (fewer : ∀ key num, lb.realPool.numOf key = some num →
      after.claims key num + (if key ∈ keys then 1 else 0) ≤ lb.claims key num) :
    Held after realOf dstOf := by
  have numOf (key : IPAddress) := RefPool.numOf_releaseAll held.live distinct key
  have refs (key : IPAddress) := RefPool.refs_releaseAll held.live distinct key
  rw [← pool] at numOf refs
  -- a real that is still held had two holders if it is released, so it survives
  have survives (key : IPAddress) (num : Nat) (numbered : lb.realPool.numOf key = some num)
      (claimed : 0 < after.claims key num) : after.realPool.numOf key = some num := by
    have before := held.backed key num numbered
    have less := fewer key num numbered
    rw [numOf, numbered]
    split
    next gone =>
      simp only [gone.1, ↓reduceIte] at less
      omega
    next => rfl
  refine ⟨pools, pool ▸ held.live.releaseAll keys, ?_, ?_, ?_, ?_⟩
  · intro vip current num found member
    obtain ⟨earlier, earlierFound, earlierMember⟩ := vips vip current num found member
    obtain ⟨added, recorded, numbered⟩ := held.vips vip earlier num earlierFound earlierMember
    have positive := vipClaims_pos found member
    exact ⟨added, recorded, survives _ num numbered (by unfold claims; omega)⟩
  · intro src rule found
    obtain ⟨added, recorded, numbered⟩ := held.rules src rule (rules src rule found)
    have positive := ruleClaims_pos found
    exact ⟨added, recorded, survives _ _ numbered (by unfold claims; omega)⟩
  · intro key member
    obtain ⟨num, numbered⟩ := held.quic key (quic key member)
    have positive := quicClaims_pos member
    exact ⟨num, survives key num numbered (by unfold claims; omega)⟩
  · intro key num numbered
    rw [numOf] at numbered
    split at numbered
    next => cases numbered
    next =>
      have before := held.backed key num numbered
      have less := fewer key num numbered
      rw [refs]
      omega

/-- A real gets a further holder and a further reference. -/
theorem acquire {newDstOf : CIDRNetwork → Option IPAddress} (held : Held lb realOf dstOf)
    (pools : after.PoolsSound) {real : IPAddress} {num : Nat}
    (room : lb.realPool.refs real.key + 1 < 2 ^ 32)
    (taken : (lb.realPool.acquire IPAddress.key (2 ^ 32) real).1 = some num)
    (pool : after.realPool = (lb.realPool.acquire IPAddress.key (2 ^ 32) real).2)
    (vips : after.vips = lb.vips)
    (rules : ∀ src rule, after.lpmSrcMapping.lookup src = some rule →
      (lb.lpmSrcMapping.lookup src = some rule ∧ newDstOf src = dstOf src) ∨
        (rule.rnum = num ∧ newDstOf src = some real))
    (quic : ∀ key ∈ after.quicMapping, key ∈ lb.quicMapping ∨ key = real.key)
    (more : ∀ key other, after.claims key other ≤
      lb.claims key other + if key = real.key ∨ other = num then 1 else 0) :
    Held after realOf newDstOf := by
  have numOf (key : IPAddress) := RefPool.numOf_acquire taken key
  have refs (key : IPAddress) := RefPool.refs_acquire room taken key
  rw [← pool] at numOf refs
  have sound : after.realPool.Sound IPAddress.key _ := pools.reals
  have numbered : after.realPool.numOf real.key = some num := by simp only [numOf, ↓reduceIte]
  have kept (key : IPAddress) (other : Nat) (found : lb.realPool.numOf key = some other) :
      after.realPool.numOf key = some other := by
    rw [numOf]
    by_cases same : key = real.key
    · subst same
      rw [if_pos rfl, RefPool.acquire_of_numOf found taken]
    · rw [if_neg same, found]
  refine ⟨pools, pool ▸ held.live.acquire room, ?_, ?_, ?_, ?_⟩
  · intro vip current other found member
    rw [vips] at found
    obtain ⟨added, recorded, owned⟩ := held.vips vip current other found member
    exact ⟨added, recorded, kept _ _ owned⟩
  · intro src rule found
    rcases rules src rule found with ⟨earlier, unchanged⟩ | ⟨same, recorded⟩
    · obtain ⟨added, recorded, owned⟩ := held.rules src rule earlier
      exact ⟨added, unchanged.trans recorded, kept _ _ owned⟩
    · exact ⟨real, recorded, same ▸ numbered⟩
  · intro key member
    rcases quic key member with earlier | rfl
    · obtain ⟨other, owned⟩ := held.quic key earlier
      exact ⟨other, kept _ _ owned⟩
    · exact ⟨num, numbered⟩
  · intro key other found
    have atMost := more key other
    by_cases same : key = real.key
    · subst same
      rw [numbered] at found
      obtain rfl := Option.some.inj found
      simp only [true_or, ↓reduceIte] at atMost
      have counted := refs real.key
      simp only [↓reduceIte] at counted
      cases earlier : lb.realPool.numOf real.key with
      | some known =>
          have equal := RefPool.acquire_of_numOf earlier taken
          subst equal
          have before := held.backed real.key num earlier
          omega
      | none =>
          have unowned : ∀ owner, lb.realPool.numOf owner ≠ some num := by
            intro owner owned
            have equal := sound.numOf_inj (kept owner num owned) numbered
            rw [equal, earlier] at owned
            cases owned
          have none := held.claims_eq_zero unowned earlier
          omega
    · have different : other ≠ num := by
        rintro rfl
        exact same (sound.numOf_inj found numbered)
      simp only [same, different, or_self, ↓reduceIte, Nat.add_zero] at atMost
      rw [numOf, if_neg same] at found
      have counted := refs key
      simp only [same, ↓reduceIte, Nat.add_zero] at counted
      have before := held.backed key other found
      omega

/-- The VIPs change, but not which numbers they hold. -/
theorem vipsOnly (held : Held lb realOf dstOf) (pools : after.PoolsSound)
    (pool : after.realPool = lb.realPool)
    (vips : ∀ vip current num, after.vips.lookup vip = some current → num ∈ current.reals →
      ∃ earlier, lb.vips.lookup vip = some earlier ∧ num ∈ earlier.reals)
    (claimed : ∀ num, after.vipClaims num = lb.vipClaims num)
    (rules : after.lpmSrcMapping = lb.lpmSrcMapping) (quic : after.quicMapping = lb.quicMapping) :
    Held after realOf dstOf := by
  apply held.releaseAll pools List.nodup_nil pool vips
  · rw [rules]
    exact fun _ _ found => found
  · rw [quic]
    exact fun _ member => member
  · intro key num _
    simp only [claims, claimed, ruleClaims, quicClaims, rules, quic, List.not_mem_nil, ↓reduceIte,
      Nat.add_zero, Nat.le_refl]

end Held

end KatranLb

end Katran
