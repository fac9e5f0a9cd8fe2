import Katran.Ring.History
import Katran.Ring.Shares

/-! # Reals that get too few slots

Weights are handed out in the order of the hashes until the ring is full. If they add up to
more than the ring has slots, the reals with the largest hashes get what the others leave,
whatever their own weights are: a real may have no slot at all, and fewer slots than a
lighter one. `weighted_reals_served_iff` says which weights are safe.
-/

namespace Katran

open Foundation

namespace Vip

variable {vip : Vip}

/-- How many slots of its VIP's ring a real has. -/
def slots (vip : Vip) (num : Nat) : Nat := vip.chRing.count (num : Int)

/-- The VIP has a real of this number and of this weight, which is not zero. -/
def Weighs (vip : Vip) (num weight : Nat) : Prop :=
  weight ≠ 0 ∧ ∃ hash, vip.reals.lookup num = some ⟨weight, hash⟩

/-- No real of nonzero weight is starved, and more weight does not mean fewer slots, but for
one. -/
structure Serves (vip : Vip) : Prop where
  served : ∀ num weight, vip.Weighs num weight → 0 < vip.slots num
  ordered : ∀ light lightWeight heavy heavyWeight, vip.Weighs light lightWeight →
    vip.Weighs heavy heavyWeight → lightWeight ≤ heavyWeight →
      vip.slots light ≤ vip.slots heavy + 1

/-- The reals of nonzero weight have distinct hashes. -/
def DistinctHashes (vip : Vip) : Prop :=
  ((vip.reals.entries.filterMap activeEndpoint).map Endpoint.hash).Nodup

instance (vip : Vip) : Decidable vip.DistinctHashes := inferInstanceAs (Decidable (List.Nodup _))

/-- The weights in the order in which they are handed out. -/
def weights (order : IterOrder) (vip : Vip) : List Nat :=
  (sortedEndpoints order vip.reals).map Endpoint.weight

/-- The endpoints are the reals with a weight. -/
theorem ListsActive.mem_entries_iff {endpoints : List Endpoint}
    (lists : ListsActive vip.reals endpoints) {endpoint : Endpoint} :
    endpoint ∈ endpoints ↔ endpoint ∈ vip.reals.entries.filterMap activeEndpoint := by
  rw [lists.mem_iff, List.mem_filterMap]
  constructor
  · rintro ⟨found, nonzero⟩
    exact ⟨_, UnorderedMap.mem_entries.mpr found, activeEndpoint_eq_some.mpr ⟨rfl, nonzero⟩⟩
  · rintro ⟨entry, member, found⟩
    obtain ⟨rfl, nonzero⟩ := activeEndpoint_eq_some.mp found
    exact ⟨UnorderedMap.mem_entries.mp member, nonzero⟩

/-- There is one order of the hashes. -/
theorem ListsActive.unique_of_active {first second : List Endpoint} (distinct : vip.DistinctHashes)
    (left : ListsActive vip.reals first) (right : ListsActive vip.reals second) :
    first = second := by
  apply List.Perm.eq_of_pairwise _ left.sorted right.sorted
  · exact (List.perm_ext_iff_of_nodup left.nodup right.nodup).mpr fun endpoint => by
      rw [left.mem_iff, right.mem_iff]
  · intro a b leftMember rightMember below above
    exact List.inj_on_of_nodup_map distinct (left.mem_entries_iff.mp leftMember)
      (right.mem_entries_iff.mp rightMember) (UInt64.le_antisymm below above)

private theorem ListsActive.nodup_nums {reals : UnorderedMap Nat VipRealMeta}
    {endpoints : List Endpoint}
    (lists : ListsActive reals endpoints) : (endpoints.map Endpoint.num).Nodup := by
  apply List.Nodup.map_on _ lists.nodup
  intro a aMember b bMember same
  obtain ⟨aFound, _⟩ := (lists.mem_iff a).mp aMember
  obtain ⟨bFound, _⟩ := (lists.mem_iff b).mp bMember
  rw [same, bFound] at aFound
  cases a
  cases b
  cases same
  cases aFound
  rfl

/-- The reals of nonzero weight are the endpoints. -/
theorem ListsActive.weighs_iff {endpoints : List Endpoint} (lists : ListsActive vip.reals endpoints)
    {num weight : Nat} : vip.Weighs num weight ↔
      ∃ index, ∃ inside : index < endpoints.length,
        endpoints[index].num = num ∧ endpoints[index].weight = weight := by
  constructor
  · rintro ⟨nonzero, hash, found⟩
    obtain ⟨index, inside, same⟩ :=
      List.getElem_of_mem ((lists.mem_iff ⟨num, weight, hash⟩).mpr ⟨found, nonzero⟩)
    exact ⟨index, inside, by rw [same], by rw [same]⟩
  · rintro ⟨index, inside, rfl, rfl⟩
    obtain ⟨found, nonzero⟩ := (lists.mem_iff _).mp (List.getElem_mem inside)
    exact ⟨nonzero, _, found⟩

/-- A ring serves its reals if the shares of their weights are fair. -/
theorem serves_iff_fairShares {ringSize : Nat} {endpoints : List Endpoint}
    (small : ∀ endpoint ∈ endpoints, endpoint.num < 2 ^ 31)
    (lists : ListsActive vip.reals endpoints)
    (generated : MaglevReturns endpoints ringSize vip.chRing) :
    vip.Serves ↔ FairShares ringSize (endpoints.map Endpoint.weight) := by
  have slotsOf (index : Nat) (inside : index < endpoints.length) :
      vip.slots endpoints[index].num = share ringSize (endpoints.map Endpoint.weight) index :=
    generated.count_eq_share lists.nodup_nums small inside
  have weightOf (index : Nat) (inside : index < endpoints.length) :
      (endpoints.map Endpoint.weight).getD index 0 = endpoints[index].weight := by
    rw [List.getD_eq_getElem _ _ (by rwa [List.length_map]), List.getElem_map]
  constructor
  · intro serves
    refine ⟨?_, ?_⟩
    · intro index inside
      rw [List.length_map] at inside
      rw [← slotsOf index inside]
      exact serves.served _ _ (lists.weighs_iff.mpr ⟨index, inside, rfl, rfl⟩)
    · intro light lightInside heavy heavyInside lighter
      rw [List.length_map] at lightInside heavyInside
      rw [weightOf light lightInside, weightOf heavy heavyInside] at lighter
      rw [← slotsOf light lightInside, ← slotsOf heavy heavyInside]
      exact serves.ordered _ _ _ _ (lists.weighs_iff.mpr ⟨light, lightInside, rfl, rfl⟩)
        (lists.weighs_iff.mpr ⟨heavy, heavyInside, rfl, rfl⟩) lighter
  · intro fair
    have length : (endpoints.map Endpoint.weight).length = endpoints.length := List.length_map _
    refine ⟨?_, ?_⟩
    · intro num weight weighs
      obtain ⟨index, inside, rfl, rfl⟩ := lists.weighs_iff.mp weighs
      rw [slotsOf index inside]
      exact fair.served index (length ▸ inside)
    · intro light _ heavy _ lightWeighs heavyWeighs lighter
      obtain ⟨lightIndex, lightInside, rfl, rfl⟩ := lists.weighs_iff.mp lightWeighs
      obtain ⟨heavyIndex, heavyInside, rfl, rfl⟩ := lists.weighs_iff.mp heavyWeighs
      rw [slotsOf lightIndex lightInside, slotsOf heavyIndex heavyInside]
      refine fair.ordered lightIndex (length ▸ lightInside) heavyIndex (length ▸ heavyInside) ?_
      rwa [weightOf lightIndex lightInside, weightOf heavyIndex heavyInside]

/-- **Who is served.** After every history, no real of nonzero weight is starved and more weight
does not mean fewer slots exactly if the ring suffices for the weights. -/
theorem weighted_reals_served_iff {ringSize vipNum : Nat} {vipFlags : UInt32} {calls : List Call}
    (run : Run Step (Vip.new vipNum vipFlags ringSize) calls vip)
    (smallNums : ∀ made ∈ calls, made.SmallNums) (distinct : vip.DistinctHashes)
    (order : IterOrder) : vip.Serves ↔ Suffices ringSize (vip.weights order) := by
  have numbered := WellNumbered.run smallNums run
  have listed := sortedEndpoints_listsActive order vip.reals
  have positive : ∀ weight ∈ vip.weights order, 0 < weight := by
    intro weight member
    obtain ⟨endpoint, inside, rfl⟩ := List.mem_map.mp member
    exact Nat.pos_of_ne_zero ((listed.mem_iff endpoint).mp inside).2
  by_cases active : HasActive vip.reals
  · obtain ⟨endpoints, lists, generated⟩ := numbered.consistent.ring active
    rw [numbered.size] at generated
    obtain rfl := lists.unique_of_active distinct listed
    rw [← fairShares_iff positive]
    exact serves_iff_fairShares (lists.small numbered.small) lists generated
  · have nobody (num weight : Nat) : ¬ vip.Weighs num weight := by
      rintro ⟨nonzero, hash, found⟩
      exact active ⟨num, _, found, nonzero⟩
    have none : sortedEndpoints order vip.reals = [] := by
      by_contra some
      exact active (listed.ne_nil_iff.mp some)
    refine iff_of_true ⟨?_, ?_⟩ (.inl ?_)
    · exact fun num weight weighs => (nobody num weight weighs).elim
    · exact fun light lightWeight _ _ weighs => (nobody light lightWeight weighs).elim
    · rw [weights, none]
      exact Nat.zero_le _

/-- A batch of two reals whose weights add up to no more than the ring. -/
def modestHistory : List Call := [.batchRealsUpdate [⟨.add, 1, 4, 5⟩, ⟨.add, 2, 1, 9⟩]]

private theorem modestHistory_returns : (replay 20 7 modestHistory).isSome =
    true := by decide +kernel

/-- Two reals with modest weights are both served. -/
theorem weighted_reals_served_iff_modest :
    ∃ vip, replay 20 7 modestHistory = some vip ∧ vip.Serves := by
  have replayed := (Option.some_get modestHistory_returns).symm
  refine ⟨_, replayed, (weighted_reals_served_iff (run_of_replay replayed) ?_ ?_ .stored).mpr ?_⟩
  · decide
  · decide +kernel
  · decide +kernel

/-- A batch of two reals of which the first takes the whole ring. -/
def greedyHistory : List Call := [.batchRealsUpdate [⟨.add, 1, 9, 5⟩, ⟨.add, 2, 9, 9⟩]]

private theorem greedyHistory_returns : (replay 20 7 greedyHistory).isSome =
    true := by decide +kernel

/-- The second real has no slot, with the weight of the first. -/
theorem heavy_real_starved :
    ∃ vip, replay 20 7 greedyHistory = some vip ∧ Run Step (Vip.new 0 0 7) greedyHistory vip ∧
      vip.DistinctHashes ∧ vip.Weighs 2 9 ∧ vip.slots 2 = 0 ∧ ¬ vip.Serves := by
  have replayed := (Option.some_get greedyHistory_returns).symm
  have weighs : ((replay 20 7 greedyHistory).get greedyHistory_returns).Weighs 2 9 :=
    ⟨by decide, 9, by decide +kernel⟩
  have starved : ((replay 20 7 greedyHistory).get greedyHistory_returns).slots 2 = 0 := by
    decide +kernel
  refine ⟨_, replayed, run_of_replay replayed, by decide +kernel, weighs, starved, ?_⟩
  intro serves
  exact absurd (serves.served 2 9 weighs) (by rw [starved]; decide)

end Vip

end Katran
