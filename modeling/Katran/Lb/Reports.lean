import Katran.Foundation.Wrapping
import Katran.Lb.RefCounts

/-! # The reals that are reported for a VIP

A VIP keeps its reals under numbers that are reassigned, and `getRealsForVip`
translates them back to addresses. What it reports is nevertheless a map from
addresses to weights that only the operations on the VIP itself change: adding
reals overwrites the entries of the valid addresses that have or get a number,
from left to right, and removing reals erases the listed ones
(`reals_reported_as_replayed`).

A batch that lists a new address twice takes one reference too many, so counts
are only known up to one: every real has as many references as VIPs list it, or
one more (`Mapped`). That is enough for a number never to be freed while a VIP
holds it, provided that no removal repeats an address.
-/

namespace Katran

open Foundation UnorderedMap

namespace KatranLb

/-! ## Replaying the operations -/

/-- The entries of a batch of additions that are not skipped: those of valid
addresses that are known to the balancer or find a free number, which makes them
known. -/
def acceptedReals (folly : Folly) : (known : List IPAddress) → (free : Nat) → List NewReal →
    List (IPAddress × Nat)
  | _, _, [] => []
  | known, free, real :: reals =>
      match folly.parse real.address with
      | none => acceptedReals folly known free reals
      | some raddr =>
          if raddr.key ∈ known then
            (raddr.key, real.weight.toNat) :: acceptedReals folly known free reals
          else
            match free with
            | 0 => acceptedReals folly known 0 reals
            | free + 1 =>
                (raddr.key, real.weight.toNat) :: acceptedReals folly
                (raddr.key :: known) free reals

/-- Overwrite entries from left to right. -/
def overwrite (weightOf : IPAddress → Option Nat) (entries : List (IPAddress × Nat)) :
    IPAddress → Option Nat :=
  entries.foldl (fun weightOf entry => Function.update weightOf entry.1 (some entry.2)) weightOf

/-- Erase entries. -/
def withdraw (weightOf : IPAddress → Option Nat) (keys : List IPAddress) : IPAddress → Option Nat :=
  fun key => if key ∈ keys then none else weightOf key

/-- What a batch means for the map of its VIP. -/
def replayBatch (folly : Folly) (lb : KatranLb) (action : ModifyAction) (reals : List NewReal)
    (weightOf : IPAddress → Option Nat) : IPAddress → Option Nat :=
  match action with
  | .add => overwrite weightOf (acceptedReals folly lb.reals.keys lb.realNums.length reals)
  | .del => withdraw weightOf (listedKeys folly reals)

/-- What an operation means for the map of its VIP. Batches for a VIP that is not
configured are refused, and a VIP that is deleted has no reals. -/
def replay (folly : Folly) (lb : KatranLb) (op : Op)
    (realsOf : VipKey → IPAddress → Option Nat) : VipKey → IPAddress → Option Nat :=
  let batch (action : ModifyAction) (reals : List NewReal) (vip : VipKey) :=
    if vip ∈ lb.vips then
      Function.update realsOf vip (replayBatch folly lb action reals (realsOf vip))
    else realsOf
  match op with
  | .delVip vip => Function.update realsOf vip fun _ => none
  | .addRealForVip real vip => batch .add [real] vip
  | .delRealForVip real vip => batch .del [real] vip
  | .modifyRealsForVip action reals vip => batch action reals vip
  | _ => realsOf

/-- The reported reals of a VIP are a map: every real is reported under an
address, no address is reported twice, and reading them changes nothing. -/
def Reports (lb : KatranLb) (vip : VipKey) (weightOf : IPAddress → Option Nat) : Prop :=
  ∀ env, ∃ listing : List (IPAddress × Nat),
    lb.getRealsForVip env vip = some (listing.map fun entry => (some entry.1, entry.2), lb) ∧
      (listing.map fun entry => entry.1.key).Nodup ∧
      ∀ key weight, weightOf key = some weight ↔ ∃ addr, (addr, weight) ∈ listing ∧ addr.key = key

end KatranLb

/-- The balancer with the maps that replaying its operations gives the VIPs. -/
structure Replayed where
  lb : KatranLb
  realsOf : VipKey → IPAddress → Option Nat

namespace Replayed

/-- A new balancer, and VIPs without reals. -/
def new (config : KatranConfig) (features : KatranFeatures) (kernel : ConfigMaps) : Replayed :=
  ⟨.new config features kernel, fun _ _ => none⟩

/-- A call, which is replayed on what the VIPs should have. -/
def perform (folly : Folly) (env : Env) (state : Replayed) (op : Op) : Option Replayed :=
  (state.lb.perform folly env op).map fun lb =>
    ⟨lb, state.lb.replay folly op state.realsOf⟩

/-- A call whose bpf calls may fail. -/
def Step (folly : Folly) (state : Replayed) (op : Op) (after : Replayed) : Prop :=
  ∃ env, state.perform folly env op = some after

end Replayed

/-- An operation on VIPs and their reals that removes no address twice. -/
def Op.RemovesOnce (folly : Folly) : Op → Prop
  | .modifyRealsForVip .del reals _ => (KatranLb.listedKeys folly reals).Nodup
  | op => op.OfVips

instance (folly : Folly) : DecidablePred (Op.RemovesOnce folly) := Op.Decides.decidablePred {
  delRealsForVip := fun _ _ => inferInstanceAs (Decidable (List.Nodup _)) }

namespace KatranLb

/-! ## Numbers that represent a map -/

/-- Reals by number represent a map from addresses to weights: every number has
an owner, and a weight is that of the number of the address. -/
structure Represents (pool : RefPool IPAddress IPAddress) (reals : UnorderedMap Nat VipRealMeta)
    (weightOf : IPAddress → Option Nat) : Prop where
  owned : ∀ num ∈ reals, ∃ key, pool.numOf key = some num
  weights : ∀ key weight, weightOf key = some weight ↔
    ∃ num entry, pool.numOf key = some num ∧ reals.lookup num = some entry ∧ entry.weight = weight

namespace Represents

variable {pool after : RefPool IPAddress IPAddress} {reals updated : UnorderedMap Nat VipRealMeta}
  {weightOf : IPAddress → Option Nat}

/-- The owners of the numbers are all that matters of the pool. -/
theorem of_owners (represents : Represents pool reals weightOf)
    (same : ∀ key, ∀ num ∈ reals, after.numOf key = some num ↔ pool.numOf key = some num) :
    Represents after reals weightOf where
  owned := by
    intro num member
    obtain ⟨key, numbered⟩ := represents.owned num member
    exact ⟨key, (same key num member).mpr numbered⟩
  weights := by
    intro key weight
    rw [represents.weights]
    constructor
    · rintro ⟨num, entry, numbered, found, rfl⟩
      exact ⟨num, entry, (same key num (mem_of_lookup found)).mpr numbered, found, rfl⟩
    · rintro ⟨num, entry, numbered, found, rfl⟩
      exact ⟨num, entry, (same key num (mem_of_lookup found)).mp numbered, found, rfl⟩

/-- Numbers that are in use stay in use for the same address while others are
handed out. -/
theorem of_grown {size : Nat} (represents : Represents pool reals weightOf)
    (sound : after.Sound IPAddress.key size)
    (kept : ∀ key num, pool.numOf key = some num → after.numOf key = some num) :
    Represents after reals weightOf := by
  apply represents.of_owners
  intro key num member
  constructor
  · intro numbered
    obtain ⟨owner, owned⟩ := represents.owned num member
    rwa [sound.numOf_inj numbered (kept owner num owned)]
  · exact kept key num

/-- Writing the weight of a number overwrites the entry of its owner. -/
theorem insert {size num : Nat} {key : IPAddress} (represents : Represents pool reals weightOf)
    (sound : pool.Sound IPAddress.key size) (numbered : pool.numOf key = some num)
    (entry : VipRealMeta) (found : updated.lookup num = some entry)
    (others : ∀ other, other ≠ num → updated.lookup other = reals.lookup other) :
    Represents pool updated (Function.update weightOf key (some entry.weight)) where
  owned := by
    intro other member
    by_cases same : other = num
    · exact ⟨key, same ▸ numbered⟩
    · obtain ⟨value, read⟩ := exists_lookup_of_mem member
      rw [others other same] at read
      exact represents.owned other (mem_of_lookup read)
  weights := by
    intro other weight
    by_cases same : other = key
    · subst same
      rw [Function.update_self]
      constructor
      · intro written
        exact ⟨num, entry, numbered, found, Option.some.inj written⟩
      · rintro ⟨left, value, leftNumbered, read, rfl⟩
        rw [numbered] at leftNumbered
        obtain rfl := Option.some.inj leftNumbered
        rw [found] at read
        rw [Option.some.inj read]
    · have different (left : Nat) (leftNumbered : pool.numOf other = some left) : left ≠ num := by
        rintro rfl
        exact same (sound.numOf_inj leftNumbered numbered)
      rw [Function.update_of_ne same, represents.weights]
      constructor
      · rintro ⟨left, value, leftNumbered, read, rfl⟩
        exact ⟨left, value, leftNumbered,
          (others left (different left leftNumbered)).trans read, rfl⟩
      · rintro ⟨left, value, leftNumbered, read, rfl⟩
        rw [others left (different left leftNumbered)] at read
        exact ⟨left, value, leftNumbered, read, rfl⟩

/-- Erasing numbers erases the entries of their owners. -/
theorem erase {keys : List IPAddress} {nums : List Nat}
    (represents : Represents pool reals weightOf)
    (lookup : ∀ num, updated.lookup num = if num ∈ nums then none else reals.lookup num)
    (listed : ∀ key num, pool.numOf key = some num → num ∈ reals → (key ∈ keys ↔ num ∈ nums)) :
    Represents pool updated (withdraw weightOf keys) := by
  have kept (num : Nat) (entry : VipRealMeta) (found : updated.lookup num = some entry) :
      num ∉ nums ∧ reals.lookup num = some entry := by
    rw [lookup] at found
    split at found
    · cases found
    next left => exact ⟨left, found⟩
  refine ⟨?_, ?_⟩
  · intro num member
    obtain ⟨entry, found⟩ := exists_lookup_of_mem member
    exact represents.owned num (mem_of_lookup (kept num entry found).2)
  · intro key weight
    unfold withdraw
    constructor
    · intro written
      split at written
      · cases written
      next unlisted =>
        obtain ⟨num, entry, numbered, found, rfl⟩ := (represents.weights key weight).mp written
        have left : num ∉ nums := unlisted ∘ (listed key num numbered (mem_of_lookup found)).mpr
        exact ⟨num, entry, numbered, by rw [lookup, if_neg left, found], rfl⟩
    · rintro ⟨num, entry, numbered, found, rfl⟩
      obtain ⟨left, read⟩ := kept num entry found
      rw [if_neg (left ∘ (listed key num numbered (mem_of_lookup read)).mp)]
      exact (represents.weights key entry.weight).mpr ⟨num, entry, numbered, read, rfl⟩

end Represents

/-! ## Reading the map back -/

private theorem realOfNum_of_numOf {lb : KatranLb} {size num : Nat} {key : IPAddress}
    (sound : lb.realPool.Sound IPAddress.key size) (numbered : lb.realPool.numOf key = some num) :
    ∃ real, lb.realOfNum num = (some real, lb) ∧ real.key = key := by
  obtain ⟨slot, found, rfl⟩ := RefPool.numOf_eq_some.mp numbered
  obtain ⟨real, named, same⟩ := sound.named key slot found
  have read : lb.numToReals.lookup slot.num = some (some real) := named
  exact ⟨real, by simp only [realOfNum, read], same⟩

/-- The loop of `getRealsForVip` over numbers in use. -/
theorem foldl_reportReal {lb : KatranLb} {size : Nat} {endpoints : List Endpoint}
    (sound : lb.realPool.Sound IPAddress.key size)
    (owned : ∀ endpoint ∈ endpoints, ∃ key, lb.realPool.numOf key = some endpoint.num)
    (done : List (Option IPAddress × Nat)) :
    ∃ listing : List (IPAddress × Nat),
      endpoints.foldl reportReal (done, lb) =
        (done ++ listing.map fun entry => (some entry.1, entry.2), lb) ∧
      listing.map (fun entry => (lb.realPool.numOf entry.1.key, entry.2)) =
        endpoints.map fun endpoint => (some endpoint.num, endpoint.weight) := by
  induction endpoints generalizing done with
  | nil => exact ⟨[], by rw [List.map_nil, List.append_nil]; rfl, rfl⟩
  | cons endpoint endpoints ih =>
      obtain ⟨key, numbered⟩ := owned endpoint List.mem_cons_self
      obtain ⟨real, read, rfl⟩ := realOfNum_of_numOf sound numbered
      have reported : reportReal (done, lb) endpoint =
          (done ++ [(some real, endpoint.weight)], lb) := by
        simp only [reportReal, read]
      obtain ⟨listing, looped, same⟩ := ih
        (fun later member => owned later (List.mem_cons_of_mem _ member))
        (done ++ [(some real, endpoint.weight)])
      refine ⟨(real, endpoint.weight) :: listing, ?_, ?_⟩
      · rw [List.foldl_cons, reported, looped, List.append_assoc]
        rfl
      · rw [List.map_cons, List.map_cons, same, numbered]

private theorem mem_getRealsAndWeight {order : IterOrder} {vip : Vip} {endpoint : Endpoint} :
    endpoint ∈ vip.getRealsAndWeight order ↔
      vip.reals.lookup endpoint.num = some ⟨endpoint.weight, endpoint.hash⟩ := by
  unfold Vip.getRealsAndWeight
  rw [List.mem_map]
  constructor
  · rintro ⟨⟨num, entry⟩, member, rfl⟩
    exact mem_entries.mp ((IterOrder.mem_visit _ _ _).mp member)
  · intro found
    exact ⟨⟨endpoint.num, ⟨endpoint.weight, endpoint.hash⟩⟩,
      (IterOrder.mem_visit _ _ _).mpr (mem_entries.mpr found), rfl⟩

private theorem nodup_getRealsAndWeight (order : IterOrder) (vip : Vip) :
    ((vip.getRealsAndWeight order).map Endpoint.num).Nodup := by
  have distinct := nodup_getReals order vip
  unfold Vip.getReals at distinct
  unfold Vip.getRealsAndWeight
  rwa [List.map_map]

/-- What a VIP represents is reported. -/
theorem Represents.reports {lb : KatranLb} {size : Nat} {vip : VipKey} {current : Vip}
    {weightOf : IPAddress → Option Nat}
    (represents : Represents lb.realPool current.reals weightOf)
    (sound : lb.realPool.Sound IPAddress.key size)
    (forwards : lb.config.disableForwarding = false)
    (found : lb.vips.lookup vip = some current) : lb.Reports vip weightOf := by
  intro env
  have owned : ∀ endpoint ∈ current.getRealsAndWeight env.listing,
      ∃ key, lb.realPool.numOf key = some endpoint.num := by
    intro endpoint member
    exact represents.owned _ (mem_of_lookup (mem_getRealsAndWeight.mp member))
  obtain ⟨listing, looped, same⟩ := foldl_reportReal sound owned []
  refine ⟨listing, ?_, ?_, ?_⟩
  · unfold getRealsForVip
    rw [forwards, if_neg Bool.false_ne_true, found, Option.map_some, looped]
    rfl
  · have nums : (listing.map fun entry => entry.1.key).map lb.realPool.numOf =
        ((current.getRealsAndWeight env.listing).map Endpoint.num).map some := by
      have firsts := congrArg (List.map Prod.fst) same
      simp only [List.map_map] at firsts ⊢
      exact firsts
    have distinct := (nodup_getRealsAndWeight env.listing current).map (Option.some_injective Nat)
    rw [← nums] at distinct
    exact distinct.of_map _
  · intro key weight
    rw [represents.weights]
    constructor
    · rintro ⟨num, entry, numbered, read, rfl⟩
      have member : (some num, entry.weight) ∈
          listing.map fun entry => (lb.realPool.numOf entry.1.key, entry.2) := by
        rw [same, List.mem_map]
        exact ⟨⟨num, entry.weight, entry.hash⟩, mem_getRealsAndWeight.mpr read, rfl⟩
      obtain ⟨⟨addr, weight⟩, listed, equal⟩ := List.mem_map.mp member
      obtain ⟨owned, rfl⟩ := Prod.mk.inj equal
      exact ⟨addr, listed, sound.numOf_inj owned numbered⟩
    · rintro ⟨addr, listed, rfl⟩
      have member : (lb.realPool.numOf addr.key, weight) ∈
          (current.getRealsAndWeight env.listing).map
            fun endpoint => (some endpoint.num, endpoint.weight) := by
        rw [← same, List.mem_map]
        exact ⟨(addr, weight), listed, rfl⟩
      obtain ⟨endpoint, inside, equal⟩ := List.mem_map.mp member
      obtain ⟨numbered, rfl⟩ := Prod.mk.inj equal
      exact ⟨endpoint.num, _, numbered.symm, mem_getRealsAndWeight.mp inside, rfl⟩

/-! ## Counts up to one -/

/-- How many VIPs other than this one hold a number. -/
def otherClaims (lb : KatranLb) (vip : VipKey) (num : Nat) : Nat :=
  vipClaims { lb with vips := lb.vips.erase vip } num

/-- The reals of every VIP represent its map, and every real has as many
references as VIPs hold it, or one more. -/
structure Mapped (lb : KatranLb) (realsOf : VipKey → IPAddress → Option Nat) : Prop where
  pools : lb.PoolsSound
  bounded : lb.realPool.Bounded (2 ^ 32)
  vips : ∀ vip current, lb.vips.lookup vip = some current →
    Represents lb.realPool current.reals (realsOf vip)
  unconfigured : ∀ vip, vip ∉ lb.vips → realsOf vip = fun _ => none
  counted : ∀ key num, lb.realPool.numOf key = some num →
    lb.vipClaims num ≤ lb.realPool.count (2 ^ 32) key ∧
      lb.realPool.count (2 ^ 32) key ≤ lb.vipClaims num + 1

private theorem otherClaims_pos {lb : KatranLb} {vip other : VipKey} {entry : Vip} {num : Nat}
    (different : other ≠ vip) (found : lb.vips.lookup other = some entry)
    (member : num ∈ entry.reals) : 0 < lb.otherClaims vip num := by
  have stays : (lb.vips.erase vip).lookup other = some entry :=
    (AList.lookup_erase_ne different).trans found
  unfold otherClaims
  exact vipClaims_pos stays member

namespace Mapped

variable {lb after : KatranLb} {realsOf : VipKey → IPAddress → Option Nat} {vip : VipKey}
  {current : Vip}

/-- A new balancer has no VIPs to report. -/
theorem new (config : KatranConfig) (features : KatranFeatures) (kernel : ConfigMaps) :
    (KatranLb.new config features kernel).Mapped fun _ _ => none where
  pools := .new config features kernel
  bounded := RefPool.Bounded.fresh config.maxReals.toNat
  vips := by
    intro vip current found
    simp only [KatranLb.new, AList.lookup_empty, reduceCtorEq] at found
  unconfigured := fun _ _ => rfl
  counted := by
    intro key num numbered
    obtain ⟨slot, found, _⟩ := RefPool.numOf_eq_some.mp numbered
    simp only [KatranLb.new, realPool_table, AList.lookup_empty, reduceCtorEq] at found

/-- A number that another VIP holds has an owner. -/
theorem owner_of_otherClaims (mapped : Mapped lb realsOf) {num : Nat}
    (held : 0 < lb.otherClaims vip num) : ∃ key, lb.realPool.numOf key = some num := by
  obtain ⟨entry, member, holds⟩ := List.countP_pos_iff.mp held
  obtain ⟨other, inside⟩ := mem_values.mp member
  have found := mem_entries.mp inside
  change (lb.vips.erase vip).lookup other = some entry at found
  rw [lookup_erase_eq_ite] at found
  split at found
  · cases found
  · exact (mapped.vips other entry found).owned num (of_decide_eq_true holds)

/-- There are fewer other VIPs than a counter can count. -/
theorem otherClaims_lt (mapped : Mapped lb realsOf) (found : lb.vips.lookup vip = some current)
    (num : Nat) : lb.otherClaims vip num + 1 < 2 ^ 32 := by
  have counted : lb.otherClaims vip num ≤ (values (lb.vips.erase vip)).length :=
    List.countP_le_length
  have split := (values_perm_cons_erase found).length_eq
  rw [List.length_cons] at split
  have total := mapped.pools.vips.length_eq
  rw [List.length_append, List.length_map, List.length_range] at total
  have small := lb.config.maxVips.toNat_lt
  omega

/-- The maps of the other VIPs survive the release of reals that one VIP holds. -/
theorem represents_releaseAll (mapped : Mapped lb realsOf) {keys : List IPAddress}
    (distinct : keys.Nodup) (found : lb.vips.lookup vip = some current)
    (held : ∀ key num, lb.realPool.numOf key = some num → key ∈ keys → num ∈ current.reals)
    {other : VipKey} {entry : Vip} (different : other ≠ vip)
    (read : lb.vips.lookup other = some entry) :
    Represents (lb.realPool.releaseAll (2 ^ 32) keys) entry.reals (realsOf other) := by
  apply (mapped.vips other entry read).of_owners
  intro key num member
  refine ⟨RefPool.numOf_of_releaseAll, ?_⟩
  intro numbered
  rw [RefPool.numOf_releaseAll_of_count mapped.bounded (by decide) distinct, numbered]
  intro released
  have claimed : lb.otherClaims vip num + (if num ∈ current.reals then 1 else 0) =
    lb.vipClaims num := vipClaims_erase found num
  rw [if_pos (held key num numbered released)] at claimed
  have others := otherClaims_pos different read member
  have counted := (mapped.counted key num numbered).1
  omega

/-- Counts stay right when every released real loses a holder. -/
theorem counted_releaseAll (mapped : Mapped lb realsOf) {keys : List IPAddress}
    (distinct : keys.Nodup) (pool : after.realPool = lb.realPool.releaseAll (2 ^ 32) keys)
    (fewer : ∀ key num, lb.realPool.numOf key = some num →
      after.vipClaims num + (if key ∈ keys then 1 else 0) = lb.vipClaims num)
    (key : IPAddress) (num : Nat) (numbered : after.realPool.numOf key = some num) :
    after.vipClaims num ≤ after.realPool.count (2 ^ 32) key ∧
      after.realPool.count (2 ^ 32) key ≤ after.vipClaims num + 1 := by
  rw [pool] at numbered
  have earlier := RefPool.numOf_of_releaseAll numbered
  have counted := mapped.counted key num earlier
  have less := fewer key num earlier
  rw [pool, RefPool.count_releaseAll mapped.bounded (by decide) distinct]
  split at less <;> simp only [*, ↓reduceIte] <;> omega

/-- Nothing changes for the maps if no table does. -/
theorem sameTables (mapped : Mapped lb realsOf) (same : SameTables lb after) :
    Mapped after realsOf := by
  refine ⟨mapped.pools.frame (.of_sameTables same), ?_, ?_, ?_, ?_⟩
  · rw [same.realPool]
    exact mapped.bounded
  · rw [same.realPool, same.vips]
    exact mapped.vips
  · rw [same.vips]
    exact mapped.unconfigured
  · intro key num
    rw [same.realPool, vipClaims_congr same.vips]
    exact mapped.counted key num

/-- The VIPs have changed, but neither the pool nor who holds which number. -/
theorem vipsOnly (mapped : Mapped lb realsOf) (pools : after.PoolsSound)
    (pool : after.realPool = lb.realPool)
    (vips : ∀ other entry, after.vips.lookup other = some entry →
      Represents lb.realPool entry.reals (realsOf other))
    (grown : ∀ other ∈ lb.vips, other ∈ after.vips)
    (claimed : ∀ num, after.vipClaims num = lb.vipClaims num) : Mapped after realsOf := by
  refine ⟨pools, pool ▸ mapped.bounded, pool ▸ vips, ?_, ?_⟩
  · intro other absent
    exact mapped.unconfigured other fun member => absent (grown other member)
  · intro key num
    rw [pool, claimed]
    exact mapped.counted key num

private theorem addVip {folly : Folly} {env : Env} {flags : UInt32} {done : Bool}
    (mapped : Mapped lb realsOf) (pools : after.PoolsSound)
    (returned : lb.addVip folly env vip flags = some (done, after)) : Mapped after realsOf := by
  rcases addVip_cases returned with ⟨_, same⟩ | ⟨_, _, absent, _, vipNum, vipNums, _, free, same⟩
  · exact mapped.sameTables same
  · have empty (num : Nat) : num ∉ (Vip.new vipNum flags lb.config.chRingSize.toNat).reals :=
      AList.notMem_empty num
    apply mapped.vipsOnly pools same.realPool
    · intro other entry found
      rw [same.vips, lookup_insert_eq_ite] at found
      split at found
      next equal =>
        obtain rfl := Option.some.inj found
        subst equal
        rw [mapped.unconfigured other absent]
        refine ⟨fun num member => (empty num member).elim, ?_⟩
        intro key weight
        constructor
        · intro written
          cases written
        · rintro ⟨num, entry, _, read, _⟩
          exact (empty num (mem_of_lookup read)).elim
      next => exact mapped.vips other entry found
    · intro other member
      rw [same.vips]
      exact (AList.mem_insert _).mpr (.inr member)
    · intro num
      have inserted := vipClaims_insert_new absent
        (Vip.new vipNum flags lb.config.chRingSize.toNat) num
      simp only [empty num, ↓reduceIte, Nat.add_zero] at inserted
      exact (vipClaims_congr same.vips num).trans inserted

private theorem modifyVip {folly : Folly} {env : Env} {flag : UInt32} {set done : Bool}
    (mapped : Mapped lb realsOf) (pools : after.PoolsSound)
    (returned : lb.modifyVip folly env vip flag set = some (done, after)) :
    Mapped after realsOf := by
  rcases modifyVip_cases returned with ⟨_, rfl⟩ | ⟨current, vipFlags, found, same⟩
  · exact mapped
  · apply mapped.vipsOnly pools same.realPool
    · intro other entry read
      rw [same.vips, lookup_insert_eq_ite] at read
      split at read
      next equal =>
        obtain rfl := Option.some.inj read
        subst equal
        exact mapped.vips other current found
      next => exact mapped.vips other entry read
    · intro other member
      rw [same.vips]
      exact (AList.mem_insert _).mpr (.inr member)
    · intro num
      have inserted := vipClaims_insert found { current with vipFlags := vipFlags } num
      exact (vipClaims_congr same.vips num).trans (Nat.add_right_cancel inserted)

/-- Deleting a VIP releases the reals it holds, and forgets its map. -/
theorem delVip {folly : Folly} {env : Env} {done : Bool} (mapped : Mapped lb realsOf)
    (valid : lb.VipsValid folly) (pools : after.PoolsSound)
    (returned : lb.delVip folly env vip = some (done, after)) :
    Mapped after (Function.update realsOf vip fun _ => none) := by
  rcases delVip_cases returned with ⟨_, rfl, refused⟩ | ⟨_, _, current, found, same⟩
  · have absent : vip ∉ after.vips := by
      intro member
      rcases refused with disabled | unknown
      · rw [(valid vip member).1] at disabled
        cases disabled
      · exact AList.lookup_eq_none.mp unknown member
    have unchanged : Function.update realsOf vip (fun _ => none) = realsOf := by
      rw [← mapped.unconfigured vip absent, Function.update_eq_self]
    rw [unchanged]
    exact mapped
  · have owned : ∀ num ∈ current.getReals env.listing, ∃ key, lb.realPool.numOf key = some num :=
      fun num member => (mapped.vips vip current found).owned num (mem_getReals.mp member)
    obtain ⟨keys, distinct, released, members⟩ := foldl_releaseNum_realPool mapped.pools.reals
      (nodup_getReals env.listing current) owned
    have pool : after.realPool = lb.realPool.releaseAll (2 ^ 32) keys :=
      same.realPool.trans released
    have vips : after.vips = lb.vips.erase vip := same.vips
    have held (key : IPAddress) (num : Nat) (numbered : lb.realPool.numOf key = some num) :
        key ∈ keys ↔ num ∈ current.reals := by
      rw [members]
      constructor
      · rintro ⟨other, member, equal⟩
        rw [numbered] at equal
        rw [Option.some.inj equal]
        exact mem_getReals.mp member
      · intro member
        exact ⟨num, mem_getReals.mpr member, numbered⟩
    refine ⟨pools, pool ▸ mapped.bounded.releaseAll (by decide) keys, ?_, ?_, ?_⟩
    · intro other entry read
      rw [vips, lookup_erase_eq_ite] at read
      split at read
      · cases read
      next different =>
        rw [pool, Function.update_of_ne different]
        exact mapped.represents_releaseAll distinct found
          (fun key num numbered => (held key num numbered).mp) different read
    · intro other notMember
      by_cases equal : other = vip
      · rw [equal, Function.update_self]
      · rw [Function.update_of_ne equal]
        apply mapped.unconfigured other
        intro member
        rw [vips, AList.mem_erase] at notMember
        exact notMember ⟨equal, member⟩
    · apply mapped.counted_releaseAll distinct pool
      intro key num numbered
      have claimed : after.vipClaims num = vipClaims { lb with vips := lb.vips.erase vip } num :=
        vipClaims_congr vips num
      simp only [held key num numbered, claimed]
      exact vipClaims_erase found num

/-- The VIPs after a batch for one of them. -/
theorem of_batch (pools : after.PoolsSound) (bounded : after.realPool.Bounded (2 ^ 32))
    (mapped : Mapped lb realsOf) {updated : Vip} (vips : after.vips = lb.vips.insert vip updated)
    {weightOf : IPAddress → Option Nat}
    (own : Represents after.realPool updated.reals weightOf)
    (others : ∀ other entry, other ≠ vip → lb.vips.lookup other = some entry →
      Represents after.realPool entry.reals (realsOf other))
    (counted : ∀ key num, after.realPool.numOf key = some num →
      after.vipClaims num ≤ after.realPool.count (2 ^ 32) key ∧
        after.realPool.count (2 ^ 32) key ≤ after.vipClaims num + 1) :
    Mapped after (Function.update realsOf vip weightOf) := by
  refine ⟨pools, bounded, ?_, ?_, counted⟩
  · intro other entry read
    rw [vips, lookup_insert_eq_ite] at read
    split at read
    next equal =>
      obtain rfl := Option.some.inj read
      rw [equal, Function.update_self]
      exact own
    next different =>
      rw [Function.update_of_ne different]
      exact others other entry different read
  · intro other absent
    rw [vips, AList.mem_insert, not_or] at absent
    rw [Function.update_of_ne absent.1]
    exact mapped.unconfigured other absent.2

/-- Removing reals without repeating an address erases the listed entries. -/
theorem delReals {folly : Folly} {env : Env} {reals : List NewReal} {updated : Vip}
    {chPositions : List RealPos} (mapped : Mapped lb realsOf) (pools : after.PoolsSound)
    (distinct : (listedKeys folly reals).Nodup) (found : lb.vips.lookup vip = some current)
    (ring : current.batchRealsUpdate env.fuel env.sorting
      (lb.modifyRealsBatch folly env .del reals current).ureals = some (chPositions, updated))
    (pool : after.realPool = (lb.modifyRealsBatch folly env .del reals current).lb.realPool)
    (vips : after.vips = lb.vips.insert vip updated) :
    Mapped after
      (Function.update realsOf vip (withdraw (realsOf vip) (listedKeys folly reals))) := by
  obtain ⟨released, removes, members⟩ := exists_removes_of_nodup folly env reals
    { lb := lb, curReals := current.getReals env.listing, ureals := [], owners := [] } distinct
  obtain ⟨removals, appended, deletes, nums⟩ := removes.ureals
  have ureals : (lb.modifyRealsBatch folly env .del reals current).ureals = removals :=
    appended.trans (List.nil_append _)
  rw [ureals] at ring
  have lookup (num : Nat) : updated.reals.lookup num =
      if num ∈ numsOf removals then none else current.reals.lookup num := by
    rw [(Vip.reals_of_batchRealsUpdate ring).1]
    exact Vip.lookup_applyUpdates_del deletes num
  have freed : after.realPool = lb.realPool.releaseAll (2 ^ 32) released := pool.trans removes.pool
  have sound : lb.realPool.Sound IPAddress.key _ := mapped.pools.reals
  have gone (key : IPAddress) (num : Nat) (numbered : lb.realPool.numOf key = some num) :
      key ∈ released ↔ num ∈ numsOf removals := by
    rw [nums]
    constructor
    · intro member
      exact ⟨key, member, numbered⟩
    · rintro ⟨other, member, same⟩
      rwa [sound.numOf_inj numbered same]
  have held (key : IPAddress) (num : Nat) (numbered : lb.realPool.numOf key = some num) :
      key ∈ released ↔ key ∈ listedKeys folly reals ∧ num ∈ current.reals := by
    rw [members]
    constructor
    · rintro ⟨listed, other, member, same⟩
      change lb.realPool.numOf key = some other at same
      rw [numbered] at same
      rw [Option.some.inj same]
      exact ⟨listed, mem_getReals.mp member⟩
    · rintro ⟨listed, member⟩
      exact ⟨listed, num, mem_getReals.mpr member, numbered⟩
  refine mapped.of_batch pools (freed ▸ mapped.bounded.releaseAll (by decide) released) vips ?_ ?_
    ?_
  · have erased : Represents lb.realPool updated.reals
        (withdraw (realsOf vip) (listedKeys folly reals)) := by
      apply (mapped.vips vip current found).erase lookup
      intro key num numbered member
      rw [← gone key num numbered, held key num numbered]
      simp only [member, and_true]
    rw [freed]
    apply erased.of_owners
    intro key num member
    refine ⟨RefPool.numOf_of_releaseAll, ?_⟩
    intro numbered
    rw [RefPool.numOf_releaseAll_of_count mapped.bounded (by decide) removes.distinct, numbered]
    intro again
    obtain ⟨entry, read⟩ := exists_lookup_of_mem member
    rw [lookup, if_pos ((gone key num numbered).mp again)] at read
    cases read
  · intro other entry different read
    rw [freed]
    exact mapped.represents_releaseAll removes.distinct found
      (fun key num numbered member => ((held key num numbered).mp member).2) different read
  · apply mapped.counted_releaseAll removes.distinct freed
    intro key num numbered
    have inserted := vipClaims_insert found updated num
    have claimed : after.vipClaims num =
        vipClaims { lb with vips := lb.vips.insert vip updated } num := vipClaims_congr vips num
    have left : num ∈ updated.reals ↔ num ∈ current.reals ∧ num ∉ numsOf removals :=
      mem_reals_of_removals ring deletes num
    have inside : num ∈ numsOf removals → num ∈ current.reals := fun member =>
      ((held key num numbered).mp ((gone key num numbered).mpr member)).2
    simp only [left] at inserted
    simp only [gone key num numbered]
    by_cases removed : num ∈ numsOf removals
    · simp only [removed, inside removed, not_true_eq_false, and_false, ↓reduceIte] at inserted ⊢
      omega
    · simp only [removed, not_false_eq_true, and_true, ↓reduceIte] at inserted ⊢
      omega

end Mapped

/-! ## Adding reals -/

/-- An addition pushes at most one update, with the weight of the entry. -/
theorem addReal_pushes (folly : Folly) (env : Env) (batch : RealsBatch) (raddr : IPAddress)
    (weight : UInt32) :
    (addReal folly env batch raddr weight).ureals = batch.ureals ∨
    ∃ num, (addReal folly env batch raddr weight).ureals =
      batch.ureals ++ [⟨.add, ⟨num, weight.toNat, folly.hash raddr⟩⟩] := by
  unfold addReal
  split
  next rmeta _ =>
    split
    · exact .inr ⟨rmeta.num, rfl⟩
    · exact .inr ⟨rmeta.num, rfl⟩
  next =>
    dsimp only
    split
    · exact .inl rfl
    · exact .inr ⟨_, rfl⟩

/-- The number that was pushed. -/
theorem ureals_of_numsOf {before after : List UpdateReal} {num weight : Nat} {hash : UInt64}
    (pushes : after = before ∨ ∃ num, after = before ++ [⟨.add, ⟨num, weight, hash⟩⟩])
    (nums : numsOf after = numsOf before ++ [num]) :
    after = before ++ [⟨.add, ⟨num, weight, hash⟩⟩] := by
  rcases pushes with rfl | ⟨other, rfl⟩
  · have lengths := congrArg List.length nums
    rw [List.length_append, List.length_singleton] at lengths
    omega
  · rw [numsOf_append, List.append_cancel_left_eq] at nums
    obtain rfl : other = num := (List.cons.inj nums).1
    rfl

/-- The reals of the VIP if the batch ended here. -/
def RealsBatch.realsSoFar (current : Vip) (batch : RealsBatch) : UnorderedMap Nat VipRealMeta :=
  (Vip.applyUpdates current.reals batch.ureals).1

/-- What holds while additions are made for a VIP: its reals so far represent the
map so far, every real has as many references as VIPs hold it, or one more, and
one that is not in `cur_reals` has room for another. -/
structure Extending (lb : KatranLb) (vip : VipKey) (current : Vip) (batch : RealsBatch)
    (weightOf : IPAddress → Option Nat) : Prop where
  sized : batch.lb.config.maxReals.toNat = lb.config.maxReals.toNat
  sound : batch.lb.realPool.Sound IPAddress.key lb.config.maxReals.toNat
  bounded : batch.lb.realPool.Bounded (2 ^ 32)
  kept : ∀ key num, lb.realPool.numOf key = some num → batch.lb.realPool.numOf key = some num
  represents : Represents batch.lb.realPool (batch.realsSoFar current) weightOf
  contains : ∀ num ∈ batch.curReals, num ∈ batch.realsSoFar current
  counted : ∀ key num, batch.lb.realPool.numOf key = some num →
    lb.otherClaims vip num + (if num ∈ batch.realsSoFar current then 1 else 0) ≤
        batch.lb.realPool.count (2 ^ 32) key ∧
      batch.lb.realPool.count (2 ^ 32) key ≤
        lb.otherClaims vip num + (if num ∈ batch.realsSoFar current then 1 else 0) + 1
  spare : ∀ key num, batch.lb.realPool.numOf key = some num → num ∉ batch.curReals →
    batch.lb.realPool.count (2 ^ 32) key ≤ lb.otherClaims vip num + 1

namespace Extending

variable {lb : KatranLb} {vip : VipKey} {current : Vip} {batch after : RealsBatch}
  {weightOf : IPAddress → Option Nat} {raddr : IPAddress}

private theorem unchanged (extending : Extending lb vip current batch weightOf)
    (sized : after.lb.config.maxReals.toNat = lb.config.maxReals.toNat)
    (pool : after.lb.realPool = batch.lb.realPool) (cur : after.curReals = batch.curReals)
    (ureals : after.ureals = batch.ureals) : Extending lb vip current after weightOf := by
  have soFar : after.realsSoFar current = batch.realsSoFar current := by
    unfold RealsBatch.realsSoFar
    rw [ureals]
  refine ⟨sized, pool ▸ extending.sound, pool ▸ extending.bounded, pool ▸ extending.kept,
    ?_, ?_, ?_, ?_⟩
  · rw [pool, soFar]
    exact extending.represents
  · rw [cur, soFar]
    exact extending.contains
  · rw [pool, soFar]
    exact extending.counted
  · rw [pool, cur]
    exact extending.spare

/-- An update is pushed for a real whose count is right afterwards. -/
theorem push {num weight : Nat} {hash : UInt64}
    (extending : Extending lb vip current batch weightOf)
    (sized : after.lb.config.maxReals.toNat = lb.config.maxReals.toNat)
    (sound : after.lb.realPool.Sound IPAddress.key lb.config.maxReals.toNat)
    (bounded : after.lb.realPool.Bounded (2 ^ 32))
    (ureals : after.ureals = batch.ureals ++ [⟨.add, ⟨num, weight, hash⟩⟩])
    (grown : ∀ key other, batch.lb.realPool.numOf key = some other →
      after.lb.realPool.numOf key = some other)
    (numbered : after.lb.realPool.numOf raddr.key = some num)
    (others : ∀ key, key ≠ raddr.key → after.lb.realPool.numOf key = batch.lb.realPool.numOf key ∧
      after.lb.realPool.count (2 ^ 32) key = batch.lb.realPool.count (2 ^ 32) key)
    (cur : ∀ other, other ≠ num → (other ∈ after.curReals ↔ other ∈ batch.curReals))
    (counted : lb.otherClaims vip num + 1 ≤ after.lb.realPool.count (2 ^ 32) raddr.key ∧
      after.lb.realPool.count (2 ^ 32) raddr.key ≤ lb.otherClaims vip num + 2)
    (spare : num ∉ after.curReals →
      after.lb.realPool.count (2 ^ 32) raddr.key ≤ lb.otherClaims vip num + 1) :
    Extending lb vip current after (Function.update weightOf raddr.key (some weight)) := by
  obtain ⟨⟨entry, found, rfl⟩, unaffected⟩ :=
    Vip.lookup_applyUpdates_add current.reals batch.ureals ⟨num, weight, hash⟩
  rw [← ureals] at found unaffected
  have member : num ∈ after.realsSoFar current := mem_of_lookup found
  have others_mem (other : Nat) (different : other ≠ num) :
      other ∈ after.realsSoFar current ↔ other ∈ batch.realsSoFar current := by
    have same := unaffected other different
    unfold RealsBatch.realsSoFar
    rw [← AList.lookup_isSome, same, AList.lookup_isSome]
  -- another key has another number, and nothing has changed for it
  have elsewhere (key : IPAddress) (other : Nat) (different : key ≠ raddr.key)
      (numberedAfter : after.lb.realPool.numOf key = some other) :
      other ≠ num ∧ batch.lb.realPool.numOf key = some other := by
    refine ⟨?_, (others key different).1.symm.trans numberedAfter⟩
    rintro rfl
    exact different (sound.numOf_inj numberedAfter numbered)
  refine ⟨sized, sound, bounded, fun key other owned =>
    grown key other (extending.kept key other owned), ?_, ?_, ?_, ?_⟩
  · exact (extending.represents.of_grown sound grown).insert sound numbered entry found unaffected
  · intro other inside
    by_cases same : other = num
    · rwa [same]
    · exact (others_mem other same).mpr (extending.contains other ((cur other same).mp inside))
  · intro key other numberedAfter
    by_cases same : key = raddr.key
    · subst same
      rw [numbered] at numberedAfter
      obtain rfl := Option.some.inj numberedAfter
      rw [if_pos member]
      exact counted
    · obtain ⟨different, earlier⟩ := elsewhere key other same numberedAfter
      simp only [(others key same).2, others_mem other different]
      exact extending.counted key other earlier
  · intro key other numberedAfter outside
    by_cases same : key = raddr.key
    · subst same
      rw [numbered] at numberedAfter
      obtain rfl := Option.some.inj numberedAfter
      exact spare outside
    · obtain ⟨different, earlier⟩ := elsewhere key other same numberedAfter
      rw [(others key same).2]
      exact extending.spare key other earlier fun inside =>
        outside ((cur other different).mpr inside)

/-- An addition for an address that is known to the balancer. -/
theorem known {num weight : Nat} {hash : UInt64}
    (extending : Extending lb vip current batch weightOf)
    (few : ∀ num, lb.otherClaims vip num + 1 < 2 ^ 32)
    (sized : after.lb.config.maxReals.toNat = lb.config.maxReals.toNat)
    (numbered : batch.lb.realPool.numOf raddr.key = some num) (outside : num ∉ batch.curReals)
    (taken : (batch.lb.realPool.acquire IPAddress.key (2 ^ 32) raddr).1 = some num)
    (pool : after.lb.realPool = (batch.lb.realPool.acquire IPAddress.key (2 ^ 32) raddr).2)
    (cur : after.curReals = batch.curReals ++ [num])
    (ureals : after.ureals = batch.ureals ++ [⟨.add, ⟨num, weight, hash⟩⟩]) :
    Extending lb vip current after (Function.update weightOf raddr.key (some weight)) := by
  have free := extending.spare raddr.key num numbered outside
  have room : batch.lb.realPool.count (2 ^ 32) raddr.key < 2 ^ 32 := by
    have bound := few num
    omega
  have numOf (key : IPAddress) := RefPool.numOf_acquire taken key
  have count (key : IPAddress) := RefPool.count_acquire room taken key
  rw [← pool] at numOf count
  have counted := (extending.counted raddr.key num numbered).1
  have counts := count raddr.key
  rw [if_pos rfl] at counts
  refine extending.push sized (pool ▸ extending.sound.acquire raddr)
    (pool ▸ extending.bounded.acquire (by decide) raddr) ureals ?_ ?_ ?_ ?_ ?_ ?_
  · intro key other found
    rw [numOf]
    split
    next same =>
      subst same
      rw [← numbered, found]
    next => exact found
  · rw [numOf, if_pos rfl]
  · intro key different
    rw [numOf, count, if_neg different, if_neg different]
    exact ⟨rfl, rfl⟩
  · intro other different
    rw [cur, List.mem_append, List.mem_singleton]
    simp only [different, or_false]
  · rw [counts]
    omega
  · intro absent
    rw [cur, List.mem_append, List.mem_singleton, not_or] at absent
    exact (absent.2 rfl).elim

/-- An addition for an address that is new to the balancer: its number is free, so
no VIP holds it. -/
theorem unknown {num weight : Nat} {hash : UInt64} {rest : List Nat}
    (extending : Extending lb vip current batch weightOf)
    (owned : ∀ num, 0 < lb.otherClaims vip num → ∃ key, lb.realPool.numOf key = some num)
    (sized : after.lb.config.maxReals.toNat = lb.config.maxReals.toNat)
    (new : batch.lb.realPool.numOf raddr.key = none) (free : batch.lb.realNums = num :: rest)
    (taken : (batch.lb.realPool.acquire IPAddress.key (2 ^ 32) raddr).1 = some num)
    (pool : after.lb.realPool = (batch.lb.realPool.acquire IPAddress.key (2 ^ 32) raddr).2)
    (cur : after.curReals = batch.curReals)
    (ureals : after.ureals = batch.ureals ++ [⟨.add, ⟨num, weight, hash⟩⟩]) :
    Extending lb vip current after (Function.update weightOf raddr.key (some weight)) := by
  have unheld : lb.otherClaims vip num = 0 := by
    apply Nat.eq_zero_of_not_pos
    intro held
    obtain ⟨key, numbered⟩ := owned num held
    apply extending.sound.numOf_not_free (extending.kept key num numbered)
    change num ∈ batch.lb.realNums
    rw [free]
    exact List.mem_cons_self
  have uncounted : batch.lb.realPool.count (2 ^ 32) raddr.key = 0 :=
    RefPool.count_of_numOf_none new
  have room : batch.lb.realPool.count (2 ^ 32) raddr.key < 2 ^ 32 := by
    rw [uncounted]
    decide
  have numOf (key : IPAddress) := RefPool.numOf_acquire taken key
  have count (key : IPAddress) := RefPool.count_acquire room taken key
  rw [← pool] at numOf count
  have counts := count raddr.key
  rw [if_pos rfl, uncounted] at counts
  refine extending.push sized (pool ▸ extending.sound.acquire raddr)
    (pool ▸ extending.bounded.acquire (by decide) raddr) ureals ?_ ?_ ?_ ?_ ?_ ?_
  · intro key other found
    rw [numOf]
    split
    next same =>
      subst same
      rw [new] at found
      cases found
    next => exact found
  · rw [numOf, if_pos rfl]
  · intro key different
    rw [numOf, count, if_neg different, if_neg different]
    exact ⟨rfl, rfl⟩
  · intro other different
    rw [cur]
  · omega
  · omega

/-- What is known to the balancer and how many numbers are free, as far as
`acceptedReals` follows them. -/
def Tracks (batch : RealsBatch) (known : List IPAddress) (free : Nat) : Prop :=
  (∀ key, key ∈ known ↔ ∃ num, batch.lb.realPool.numOf key = some num) ∧
    batch.lb.realNums.length = free

private theorem tracks_congr {known : List IPAddress} {free : Nat}
    (tracks : Tracks batch known free)
    (pool : after.lb.realPool = batch.lb.realPool) : Tracks after known free := by
  have nums : after.lb.realNums = batch.lb.realNums := congrArg RefPool.free pool
  unfold Tracks
  rw [pool, nums]
  exact tracks

/-- An addition for an address that the VIP has. -/
theorem held {num weight : Nat} {hash : UInt64}
    (extending : Extending lb vip current batch weightOf)
    (sized : after.lb.config.maxReals.toNat = lb.config.maxReals.toNat)
    (numbered : batch.lb.realPool.numOf raddr.key = some num) (inside : num ∈ batch.curReals)
    (pool : after.lb.realPool = batch.lb.realPool) (cur : after.curReals = batch.curReals)
    (ureals : after.ureals = batch.ureals ++ [⟨.add, ⟨num, weight, hash⟩⟩]) :
    Extending lb vip current after (Function.update weightOf raddr.key (some weight)) := by
  have counted := extending.counted raddr.key num numbered
  rw [if_pos (extending.contains num inside)] at counted
  refine extending.push sized (pool ▸ extending.sound) (pool ▸ extending.bounded) ureals
    ?_ ?_ ?_ ?_ ?_ ?_
  · rw [pool]
    exact fun _ _ found => found
  · rw [pool, numbered]
  · rw [pool]
    exact fun _ _ => ⟨rfl, rfl⟩
  · rw [cur]
    exact fun _ _ => Iff.rfl
  · rw [pool]
    exact counted
  · rw [cur]
    exact fun outside => (outside inside).elim

/-- Nothing is to be followed when a known address gets a reference. -/
theorem tracks_known {known : List IPAddress} {free num : Nat} (tracks : Tracks batch known free)
    (numbered : batch.lb.realPool.numOf raddr.key = some num)
    (taken : (batch.lb.realPool.acquire IPAddress.key (2 ^ 32) raddr).1 = some num)
    (pool : after.lb.realPool = (batch.lb.realPool.acquire IPAddress.key (2 ^ 32) raddr).2) :
    Tracks after known free := by
  have nums : after.lb.realNums = batch.lb.realNums :=
    (congrArg RefPool.free pool).trans (RefPool.free_acquire_of_numOf numbered taken)
  refine ⟨?_, by rw [nums, tracks.2]⟩
  intro key
  rw [tracks.1, pool, RefPool.numOf_acquire_of_numOf numbered taken]

/-- A new address becomes known and uses a number up. -/
theorem tracks_unknown {known : List IPAddress} {num : Nat} {left : List Nat}
    (tracks : Tracks batch known (left.length + 1))
    (taken : (batch.lb.realPool.acquire IPAddress.key (2 ^ 32) raddr).1 = some num)
    (pool : after.lb.realPool = (batch.lb.realPool.acquire IPAddress.key (2 ^ 32) raddr).2)
    (remaining : after.lb.realNums = left) : Tracks after (raddr.key :: known) left.length := by
  refine ⟨?_, by rw [remaining]⟩
  intro key
  rw [List.mem_cons, tracks.1, pool, RefPool.numOf_acquire taken]
  by_cases same : key = raddr.key
  · simp only [same, true_or, ↓reduceIte, Option.some.injEq, exists_eq']
  · simp only [same, false_or, ↓reduceIte]

/-- An address without a number is not among the known. -/
theorem notMem_of_tracks {known : List IPAddress} {free : Nat} (tracks : Tracks batch known free)
    (new : batch.lb.realPool.numOf raddr.key = none) : raddr.key ∉ known := by
  rw [tracks.1, new]
  rintro ⟨num, numbered⟩
  cases numbered

/-- The whole loop of an addition. -/
theorem loop {folly : Folly} {env : Env} {reals : List NewReal} {known : List IPAddress}
    {free : Nat}
    (owned : ∀ num, 0 < lb.otherClaims vip num → ∃ key, lb.realPool.numOf key = some num)
    (few : ∀ num, lb.otherClaims vip num + 1 < 2 ^ 32)
    (extending : Extending lb vip current batch weightOf) (tracks : Tracks batch known free) :
    Extending lb vip current (reals.foldl (modifyReal folly env .add) batch)
      (overwrite weightOf (acceptedReals folly known free reals)) := by
  induction reals generalizing batch weightOf known free with
  | nil => exact extending
  | cons real reals ih =>
      have rest := modifyReal_sameRest folly env .add batch real
      have sized : (modifyReal folly env .add batch real).lb.config.maxReals.toNat =
          lb.config.maxReals.toNat := by
        rw [rest.config]
        exact extending.sized
      rw [List.foldl_cons]
      cases parsed : folly.parse real.address with
      | none =>
          obtain ⟨pool, cur, ureals, _⟩ := modifyReal_of_invalid parsed env .add batch
          have skipped : acceptedReals folly known free (real :: reals) =
              acceptedReals folly known free reals := by
            rw [acceptedReals, parsed]
          rw [skipped]
          exact ih (extending.unchanged sized pool cur ureals) (tracks_congr tracks pool)
      | some raddr =>
          have body : modifyReal folly env .add batch real =
              addReal folly env batch raddr real.weight := by
            simp only [modifyReal, parsed]
          rw [body] at sized ⊢
          have pushes := addReal_pushes folly env batch raddr real.weight
          have accepted (member : raddr.key ∈ known) :
              acceptedReals folly known free (real :: reals) =
                (raddr.key, real.weight.toNat) :: acceptedReals folly known free reals := by
            rw [acceptedReals, parsed]
            exact if_pos member
          cases addReal_adds extending.sound extending.sized real.weight with
          | held num numbered inside pool cur nums owners =>
              have ureals := ureals_of_numsOf pushes nums
              rw [accepted ((tracks.1 _).mpr ⟨num, numbered⟩)]
              exact ih (extending.held sized numbered inside pool cur ureals)
                (tracks_congr tracks pool)
          | known num numbered outside taken pool cur nums owners =>
              have ureals := ureals_of_numsOf pushes nums
              rw [accepted ((tracks.1 _).mpr ⟨num, numbered⟩)]
              exact ih (extending.known few sized numbered outside taken pool cur ureals)
                (tracks_known tracks numbered taken pool)
          | unknown num new taken pool cur nums owners =>
              have ureals := ureals_of_numsOf pushes nums
              have foreign := notMem_of_tracks tracks new
              have numbers := RefPool.free_of_acquire new taken
              rw [← pool] at numbers
              obtain rfl : (addReal folly env batch raddr real.weight).lb.realNums.length + 1 =
                  free := by
                rw [← tracks.2]
                exact (congrArg List.length numbers).symm
              have allocated : acceptedReals folly known
                  ((addReal folly env batch raddr real.weight).lb.realNums.length + 1)
                  (real :: reals) = (raddr.key, real.weight.toNat) :: acceptedReals folly
                    (raddr.key :: known)
                    (addReal folly env batch raddr real.weight).lb.realNums.length reals := by
                rw [acceptedReals, parsed]
                exact if_neg foreign
              rw [allocated]
              exact ih (extending.unknown owned sized new numbers taken pool cur ureals)
                (tracks_unknown tracks taken pool rfl)
          | exhausted new empty pool cur ureals owners =>
              have length : free = 0 := by
                rw [← tracks.2, empty, List.length_nil]
              have skipped : acceptedReals folly known free (real :: reals) =
                  acceptedReals folly known free reals := by
                rw [acceptedReals, parsed, length]
                exact if_neg (notMem_of_tracks tracks new)
              rw [skipped]
              exact ih (extending.unchanged sized pool cur ureals) (tracks_congr tracks pool)

end Extending

namespace Mapped

variable {lb after : KatranLb} {realsOf : VipKey → IPAddress → Option Nat} {vip : VipKey}

/-- Before its first real, a batch extends nothing. -/
theorem extending (mapped : Mapped lb realsOf) {current : Vip}
    (found : lb.vips.lookup vip = some current) (env : Env) :
    Extending lb vip current
      { lb := lb, curReals := current.getReals env.listing, ureals := [], owners := [] }
      (realsOf vip) := by
  have claimed (num : Nat) : lb.otherClaims vip num + (if num ∈ current.reals then 1 else 0) =
    lb.vipClaims num := vipClaims_erase found num
  refine ⟨rfl, mapped.pools.reals, mapped.bounded, fun _ _ numbered => numbered,
    mapped.vips vip current found, ?_, ?_, ?_⟩
  · exact fun num member => mem_getReals.mp member
  · intro key num numbered
    have counted := mapped.counted key num numbered
    rw [← claimed num] at counted
    exact counted
  · intro key num numbered outside
    have counted := (mapped.counted key num numbered).2
    rw [← claimed num, if_neg (outside ∘ mem_getReals.mpr)] at counted
    exact counted

/-- Adding reals overwrites the entries that are accepted. -/
theorem addReals {folly : Folly} {env : Env} {reals : List NewReal} {current updated : Vip}
    {chPositions : List RealPos} (mapped : Mapped lb realsOf) (pools : after.PoolsSound)
    (found : lb.vips.lookup vip = some current)
    (ring : current.batchRealsUpdate env.fuel env.sorting
      (lb.modifyRealsBatch folly env .add reals current).ureals = some (chPositions, updated))
    (pool : after.realPool = (lb.modifyRealsBatch folly env .add reals current).lb.realPool)
    (vips : after.vips = lb.vips.insert vip updated) :
    Mapped after (Function.update realsOf vip (overwrite (realsOf vip)
      (acceptedReals folly lb.reals.keys lb.realNums.length reals))) := by
  have tracks : Extending.Tracks
      { lb := lb, curReals := current.getReals env.listing, ureals := [], owners := [] }
      lb.reals.keys lb.realNums.length :=
    ⟨fun key => mem_reals_iff lb key, rfl⟩
  have extended : Extending lb vip current (lb.modifyRealsBatch folly env .add reals current) _ :=
    (mapped.extending found env).loop (fun _ held => mapped.owner_of_otherClaims held)
      (mapped.otherClaims_lt found) tracks
  have soFar : updated.reals =
      (lb.modifyRealsBatch folly env .add reals current).realsSoFar current :=
    (Vip.reals_of_batchRealsUpdate ring).1
  refine mapped.of_batch pools (pool ▸ extended.bounded) vips ?_ ?_ ?_
  · rw [pool, soFar]
    exact extended.represents
  · intro other entry _ read
    rw [pool]
    exact (mapped.vips other entry read).of_grown extended.sound extended.kept
  · intro key num numbered
    have inserted := vipClaims_insert found updated num
    have erased : lb.otherClaims vip num + (if num ∈ current.reals then 1 else 0) =
      lb.vipClaims num := vipClaims_erase found num
    have claimed : after.vipClaims num =
        vipClaims { lb with vips := lb.vips.insert vip updated } num := vipClaims_congr vips num
    rw [pool] at numbered ⊢
    have counted := extended.counted key num numbered
    rw [← soFar] at counted
    omega

/-- A batch changes the map of its VIP as it is replayed. -/
theorem modifyRealsForVip {folly : Folly} {env : Env} {action : ModifyAction}
    {reals : List NewReal} {done : Bool} (mapped : Mapped lb realsOf) (valid : lb.VipsValid folly)
    (distinct : action = .del → (listedKeys folly reals).Nodup)
    (returned : lb.modifyRealsForVip folly env action reals vip = some (done, after)) :
    Mapped after (if vip ∈ lb.vips then
      Function.update realsOf vip (replayBatch folly lb action reals (realsOf vip))
    else realsOf) := by
  have pools := (mapped.pools.modifyRealsForVip returned).1
  rcases modifyRealsForVip_cases returned with
    ⟨_, rfl, refused⟩ | ⟨_, _, current, chPositions, updated, found, ring, same⟩
  · have absent : vip ∉ after.vips := by
      intro member
      rcases refused with disabled | unknown
      · rw [(valid vip member).1] at disabled
        cases disabled
      · exact AList.lookup_eq_none.mp unknown member
    rwa [if_neg absent]
  · have rest := modifyRealsBatch_sameRest folly env lb action reals current
    have vips : after.vips = lb.vips.insert vip updated := by
      rw [same.vips, ← rest.vips]
    rw [if_pos (mem_of_lookup found)]
    cases action with
    | add => exact mapped.addReals pools found ring same.realPool vips
    | del => exact mapped.delReals pools (distinct rfl) found ring same.realPool vips

/-- Every operation changes the maps as it is replayed. -/
theorem step {folly : Folly} {op : Op} (mapped : Mapped lb realsOf) (valid : lb.VipsValid folly)
    (once : op.RemovesOnce folly) (taken : Step folly lb op after) :
    Mapped after (lb.replay folly op realsOf) := by
  have pools := (mapped.pools.step taken).1
  obtain ⟨env, performed⟩ := taken
  cases op with
  | addVip vip flags =>
      obtain ⟨⟨done, _⟩, returned, rfl⟩ := Option.map_eq_some_iff.mp performed
      exact mapped.addVip pools returned
  | delVip vip =>
      obtain ⟨⟨done, _⟩, returned, rfl⟩ := Option.map_eq_some_iff.mp performed
      exact mapped.delVip valid pools returned
  | modifyVip vip flag set =>
      obtain ⟨⟨done, _⟩, returned, rfl⟩ := Option.map_eq_some_iff.mp performed
      exact mapped.modifyVip pools returned
  | addRealForVip real vip =>
      obtain ⟨⟨done, _⟩, returned, rfl⟩ := Option.map_eq_some_iff.mp performed
      rw [addRealForVip_eq] at returned
      exact mapped.modifyRealsForVip valid (fun del => by cases del) returned
  | delRealForVip real vip =>
      obtain ⟨⟨done, _⟩, returned, rfl⟩ := Option.map_eq_some_iff.mp performed
      rw [delRealForVip_eq] at returned
      refine mapped.modifyRealsForVip valid (fun _ => ?_) returned
      cases parsed : folly.parse real.address with
      | none =>
          rw [listedKeys_cons_none parsed]
          exact List.nodup_nil
      | some raddr =>
          rw [listedKeys_cons_some parsed]
          exact List.nodup_singleton raddr.key
  | modifyRealsForVip action reals vip =>
      obtain ⟨⟨done, _⟩, returned, rfl⟩ := Option.map_eq_some_iff.mp performed
      refine mapped.modifyRealsForVip valid ?_ returned
      rintro rfl
      exact once
  | _ => exact False.elim once

end Mapped

/-- **Reals are reported as replayed.** In every state reached by operations on
VIPs and their reals, whatever the batches of additions list and as long as no
batch of removals repeats an address, what `getRealsForVip` reports for each VIP
is the map that replaying the operations on that VIP gives. -/
theorem reals_reported_as_replayed {folly : Folly} {config : KatranConfig}
    {features : KatranFeatures} {kernel : ConfigMaps} {ops : List Op} {state : Replayed}
    (run : Run (fun before op after => Replayed.Step folly before op after ∧ op.RemovesOnce folly)
      (.new config features kernel) ops state) :
    ∀ vip ∈ state.lb.vips, state.lb.Reports vip (state.realsOf vip) := by
  have invariant : Mapped state.lb state.realsOf ∧ state.lb.VipsValid folly := by
    apply Run.invariant
      (fun state : Replayed => Mapped state.lb state.realsOf ∧ state.lb.VipsValid folly) _ run
    · exact ⟨.new config features kernel, fun vip member => (AList.notMem_empty vip member).elim⟩
    · rintro before op after ⟨mapped, valid⟩ ⟨⟨env, performed⟩, once⟩
      obtain ⟨lb, stepped, rfl⟩ := Option.map_eq_some_iff.mp performed
      exact ⟨mapped.step valid once ⟨env, stepped⟩, valid.step ⟨env, stepped⟩⟩
  obtain ⟨mapped, valid⟩ := invariant
  intro vip member
  obtain ⟨current, found⟩ := exists_lookup_of_mem member
  exact (mapped.vips vip current found).reports mapped.pools.reals (valid vip member).1 found

/-- Make calls one after the other, checking each. -/
def replayedAll (state : Replayed) (ops : List Op) : Option Replayed :=
  Run.execAll (fun state op =>
    if op.RemovesOnce .small then state.perform .small (.plain 20) op else none) state ops

private theorem run_of_replayedAll {state after : Replayed} {ops : List Op}
    (performed : replayedAll state ops = some after) :
    Run (fun before op after => Replayed.Step .small before op after ∧ op.RemovesOnce .small)
      state ops after := by
  apply Run.of_execAll _ performed
  intro before op next computed
  split at computed
  next checked => exact ⟨⟨.plain 20, computed⟩, checked⟩
  next => cases computed

/-- Three numbers for four addresses: a new address is listed twice and the last
one finds no number, until two are removed and a number is used again. -/
def reassigned : List Op :=
  [.addVip ⟨"10.200.1.1", 80, 6⟩ 0, .addVip ⟨"10.200.1.2", 80, 6⟩ 0,
    .modifyRealsForVip .add [⟨"10.0.0.1", 1⟩, ⟨"nowhere", 1⟩, ⟨"10.0.0.1", 2⟩, ⟨"10.0.0.2", 0⟩,
      ⟨"10.0.0.3", 1⟩, ⟨"10.0.0.4", 1⟩] ⟨"10.200.1.1", 80, 6⟩,
    .addRealForVip ⟨"10.0.0.1", 5⟩ ⟨"10.200.1.2", 80, 6⟩,
    .modifyRealsForVip .del [⟨"10.0.0.1", 0⟩, ⟨"10.0.0.2", 0⟩] ⟨"10.200.1.1", 80, 6⟩,
    .addRealForVip ⟨"10.0.0.4", 3⟩ ⟨"10.200.1.2", 80, 6⟩]

/-- The balancer for two VIPs and three reals, with empty maps. -/
def tinyReplayed : Replayed :=
  .new { maxVips := 2, maxReals := 3, chRingSize := 3 } {} (.fresh [2, 0, 0, 0, 0, 1] fun _ => true)

private theorem reassigned_returns : (replayedAll tinyReplayed reassigned).isSome = true := by
  decide +kernel

/-- Reals that have been removed and added again are reported with their last weights. -/
theorem reals_reported_as_replayed_reassigned :
    ∃ state, replayedAll tinyReplayed reassigned = some state ∧
      state.realsOf ⟨"10.200.1.2", 80, 6⟩ (.v4 0x0400000a) = some 3 ∧
      state.lb.Reports ⟨"10.200.1.1", 80, 6⟩ (state.realsOf ⟨"10.200.1.1", 80, 6⟩) ∧
      state.lb.Reports ⟨"10.200.1.2", 80, 6⟩ (state.realsOf ⟨"10.200.1.2", 80, 6⟩) := by
  have returned := (Option.some_get reassigned_returns).symm
  have reports := reals_reported_as_replayed (run_of_replayedAll returned)
  have member : ⟨"10.200.1.1", 80, 6⟩ ∈
      ((replayedAll tinyReplayed reassigned).get reassigned_returns).lb.vips := by
    decide +kernel
  have other : ⟨"10.200.1.2", 80, 6⟩ ∈
      ((replayedAll tinyReplayed reassigned).get reassigned_returns).lb.vips := by
    decide +kernel
  exact ⟨_, returned, by decide +kernel, reports _ member, reports _ other⟩

end KatranLb

end Katran
