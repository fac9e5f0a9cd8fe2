import Katran.Foundation.Run
import Katran.Ring.Vip

/-! # Rings do not depend on their history

Load balancers that share no state must send a flow to the same server. Two VIPs
that reach the same reals through different histories, and that number the
reals differently, hold the same ring once every number is read as the hash of
the real it denotes (`chRing_history_independent`).

By `Vip.Consistent` both rings are the generator's rings of the reals sorted by
hash. With distinct hashes the two sorted lists agree up to the numbers, and
renaming the endpoints renames the ring (`generateMaglevHash_rename`).
-/

namespace Katran

open Foundation UnorderedMap

namespace Vip

/-- The calls that change the reals of a VIP. -/
inductive Call where
  | batchRealsUpdate (ureals : List UpdateReal)
  | addReal (real : Endpoint)
  | delReal (realNum : Nat)
deriving DecidableEq, Repr

/-- A call of the VIP. -/
def call (fuel : Nat) (order : IterOrder) (vip : Vip) : Call → Option (List RealPos × Vip)
  | .batchRealsUpdate ureals => vip.batchRealsUpdate fuel order ureals
  | .addReal real => vip.addReal fuel order real
  | .delReal realNum => vip.delReal fuel order realNum

/-- The updates a call makes. -/
def Call.ureals : Call → List UpdateReal
  | .batchRealsUpdate ureals => ureals
  | .addReal real => [{ action := .add, updatedReal := real }]
  | .delReal realNum =>
      [{ action := .del, updatedReal := { num := realNum, weight := 0, hash := 0 } }]

/-- A call that returns, with some traversal order of the reals. -/
def Step (vip : Vip) (made : Call) (after : Vip) : Prop :=
  ∃ fuel order delta, vip.call fuel order made = some (delta, after)

/-- Every real the call adds has a number that fits an `int`. -/
def Call.SmallNums (made : Call) : Prop :=
  ∀ ureal ∈ made.ureals, ureal.action = .add → ureal.updatedReal.num < 2 ^ 31

instance (made : Call) : Decidable made.SmallNums :=
  inferInstanceAs (Decidable (∀ ureal ∈ made.ureals, _ → _))

private theorem call_eq_batchRealsUpdate (fuel : Nat) (order : IterOrder) (vip : Vip)
    (made : Call) :
    vip.call fuel order made = vip.batchRealsUpdate fuel order made.ureals := by
  cases made <;> rfl

/-- A call keeps the reals well numbered. -/
theorem WellNumbered.step {ringSize : Nat} {vip after : Vip} {made : Call}
    (numbered : vip.WellNumbered ringSize) (smallNums : made.SmallNums)
    (taken : vip.Step made after) : after.WellNumbered ringSize := by
  obtain ⟨fuel, order, delta, returned⟩ := taken
  rw [call_eq_batchRealsUpdate] at returned
  exact numbered.batchRealsUpdate smallNums returned

/-- The reals are well numbered after every history. -/
theorem WellNumbered.run {ringSize vipNum : Nat} {vipFlags : UInt32} {vip : Vip}
    {calls : List Call} (smallNums : ∀ made ∈ calls, made.SmallNums)
    (run : Run Step (Vip.new vipNum vipFlags ringSize) calls vip) : vip.WellNumbered ringSize := by
  have initial := WellNumbered.new vipNum vipFlags ringSize
  generalize Vip.new vipNum vipFlags ringSize = first at run initial
  induction run with
  | nil state => exact initial
  | cons taken _ ih =>
      exact ih (fun made member => smallNums made (List.mem_cons_of_mem _ member))
        (initial.step (smallNums _ List.mem_cons_self) taken)

/-- The hash of the real in a slot of the ring. -/
def hashOfSlot (vip : Vip) (slot : Int) : Option UInt64 :=
  if 0 ≤ slot then (vip.reals.lookup slot.toNat).map VipRealMeta.hash else none

private theorem hashOfSlot_natCast (vip : Vip) (num : Nat) :
    vip.hashOfSlot (num : Int) = (vip.reals.lookup num).map VipRealMeta.hash := by
  have taken : (0 : Int) ≤ (num : Int) := Int.natCast_nonneg num
  simp only [hashOfSlot, taken, ↓reduceIte, Int.toNat_natCast]

/-- Distinct hashes tell the endpoints of a VIP apart. -/
theorem endpoint_of_hash {reals : UnorderedMap Nat VipRealMeta} {first second : Endpoint}
    (distinct : ((values reals).map VipRealMeta.hash).Nodup)
    (left : reals.lookup first.num = some ⟨first.weight, first.hash⟩)
    (right : reals.lookup second.num = some ⟨second.weight, second.hash⟩)
    (hashes : first.hash = second.hash) : first = second := by
  have entries := List.inj_on_of_nodup_map
    (f := fun entry : Sigma fun _ : Nat => VipRealMeta => entry.2.hash)
    (by simpa only [values, List.map_map, Function.comp_def] using distinct)
    (mem_entries.mpr left) (mem_entries.mpr right) hashes
  cases first
  cases second
  cases entries
  rfl

/-- With distinct hashes a sorted list of the active reals is determined by the reals. -/
theorem ListsActive.unique {reals : UnorderedMap Nat VipRealMeta} {first second : List Endpoint}
    (distinct : ((values reals).map VipRealMeta.hash).Nodup) (left : ListsActive reals first)
    (right : ListsActive reals second) : first = second := by
  apply List.Perm.eq_of_pairwise _ left.sorted right.sorted
  · exact (List.perm_ext_iff_of_nodup left.nodup right.nodup).mpr fun endpoint => by
      rw [left.mem_iff, right.mem_iff]
  · intro a b leftMember rightMember below above
    have hashes : a.hash = b.hash := UInt64.le_antisymm below above
    obtain ⟨leftFound, _⟩ := (left.mem_iff a).mp leftMember
    obtain ⟨rightFound, _⟩ := (right.mem_iff b).mp rightMember
    exact endpoint_of_hash distinct leftFound rightFound hashes

/-! ## Two histories -/

/-- The number under which the second VIP knows a real of the first. -/
def partner (first second : Vip) (num : Nat) : Nat :=
  (first.reals.lookup num).elim 0 fun real =>
    (second.reals.entries.find? fun entry => entry.2 = real).elim 0 Sigma.fst

/-- A real of the first VIP is, under its partner's number, a real of the second. -/
theorem lookup_partner {first second : Vip}
    (sameReals : (values first.reals).Perm (values second.reals)) {num : Nat} {real : VipRealMeta}
    (found : first.reals.lookup num = some real) :
    second.reals.lookup (partner first second num) = some real := by
  have present : real ∈ values second.reals :=
    sameReals.mem_iff.mp (mem_values.mpr ⟨num, mem_entries.mpr found⟩)
  obtain ⟨other, member⟩ := mem_values.mp present
  have searched : (second.reals.entries.find? fun entry => entry.2 = real).isSome :=
    List.find?_isSome.mpr ⟨⟨other, real⟩, member, decide_eq_true rfl⟩
  obtain ⟨⟨key, value⟩, hit⟩ := Option.isSome_iff_exists.mp searched
  have accepted := List.find?_some hit
  have same : value = real := of_decide_eq_true accepted
  subst same
  have named : partner first second num = key := by
    simp only [partner, found, Option.elim_some, hit]
  rw [named]
  exact mem_entries.mp (List.mem_of_find?_eq_some hit)

/-- The endpoints of the first VIP, renumbered, are endpoints of the second. -/
theorem ListsActive.rename {first second : Vip} {endpoints : List Endpoint}
    (sameReals : (values first.reals).Perm (values second.reals))
    (distinct : ((values first.reals).map VipRealMeta.hash).Nodup)
    (lists : ListsActive first.reals endpoints) :
    ListsActive second.reals (endpoints.map (Endpoint.rename (partner first second))) where
  nodup := by
    apply List.Nodup.map_on _ lists.nodup
    intro a aMember b bMember same
    obtain ⟨aFound, _⟩ := (lists.mem_iff a).mp aMember
    obtain ⟨bFound, _⟩ := (lists.mem_iff b).mp bMember
    have hashes := congrArg Endpoint.hash same
    exact endpoint_of_hash distinct aFound bFound hashes
  mem_iff := by
    intro endpoint
    rw [List.mem_map]
    constructor
    · rintro ⟨origin, member, rfl⟩
      obtain ⟨found, nonzero⟩ := (lists.mem_iff origin).mp member
      exact ⟨lookup_partner sameReals found, nonzero⟩
    · rintro ⟨found, nonzero⟩
      have present : (⟨endpoint.weight, endpoint.hash⟩ : VipRealMeta) ∈ values first.reals :=
        sameReals.mem_iff.mpr (mem_values.mpr ⟨_, mem_entries.mpr found⟩)
      obtain ⟨num, member⟩ := mem_values.mp present
      have origin := mem_entries.mp member
      refine ⟨⟨num, endpoint.weight, endpoint.hash⟩, (lists.mem_iff _).mpr ⟨origin, nonzero⟩, ?_⟩
      have distinctSecond := ((sameReals.map VipRealMeta.hash).nodup_iff).mp distinct
      exact endpoint_of_hash distinctSecond (lookup_partner sameReals origin) found rfl
  sorted := List.pairwise_map.mpr lists.sorted

/-- The ring of a VIP reached by a history is the generator's ring of its reals
of nonzero weight, sorted by hash. -/
theorem WellNumbered.generated {ringSize : Nat} {vip : Vip} (numbered : vip.WellNumbered ringSize)
    (distinct : ((values vip.reals).map VipRealMeta.hash).Nodup) (active : HasActive vip.reals)
    (order : IterOrder) : MaglevReturns (sortedEndpoints order vip.reals) ringSize vip.chRing := by
  obtain ⟨endpoints, lists, generated⟩ := numbered.consistent.ring active
  rw [numbered.size] at generated
  rwa [(sortedEndpoints_listsActive order vip.reals).unique distinct lists]

/-- Reading a slot before or after renumbering gives the same hash. -/
theorem hashOfSlot_renameSlot {first second : Vip}
    (sameReals : (values first.reals).Perm (values second.reals)) {num : Nat} {real : VipRealMeta}
    (found : first.reals.lookup num = some real) :
    second.hashOfSlot (renameSlot (partner first second) (num : Int)) =
      first.hashOfSlot (num : Int) := by
  rw [renameSlot_natCast, hashOfSlot_natCast, hashOfSlot_natCast, found,
    lookup_partner sameReals found]

/-- **History independence.** Two VIPs of one ring size that end with the same
reals of pairwise distinct hashes, one of them of nonzero weight, hold the same
ring after replacing every number by the hash of its real, whichever calls led
there and however the reals are numbered. Every slot denotes a real, and each
ring is the generator's ring of the reals sorted by hash. -/
theorem chRing_history_independent {ringSize firstNum secondNum : Nat}
    {firstFlags secondFlags : UInt32} {firstCalls secondCalls : List Call} {first second : Vip}
    (firstRun : Run Step (Vip.new firstNum firstFlags ringSize) firstCalls first)
    (secondRun : Run Step (Vip.new secondNum secondFlags ringSize) secondCalls second)
    (firstSmall : ∀ made ∈ firstCalls, made.SmallNums)
    (secondSmall : ∀ made ∈ secondCalls, made.SmallNums)
    (sameReals : (values first.reals).Perm (values second.reals))
    (distinct : ((values first.reals).map VipRealMeta.hash).Nodup)
    (active : ∃ real ∈ values first.reals, real.weight ≠ 0) :
    first.chRing.map first.hashOfSlot = second.chRing.map second.hashOfSlot ∧
      first.chRing.length = ringSize ∧ none ∉ first.chRing.map first.hashOfSlot ∧
      ∀ order, MaglevReturns (sortedEndpoints order first.reals) ringSize first.chRing ∧
        MaglevReturns (sortedEndpoints order second.reals) ringSize second.chRing := by
  have left := WellNumbered.run firstSmall firstRun
  have right := WellNumbered.run secondSmall secondRun
  obtain ⟨real, member, nonzero⟩ := active
  obtain ⟨num, entry⟩ := mem_values.mp member
  have leftActive : HasActive first.reals := ⟨num, real, mem_entries.mp entry, nonzero⟩
  have rightActive : HasActive second.reals :=
    ⟨_, real, lookup_partner sameReals (mem_entries.mp entry), nonzero⟩
  have distinctSecond := ((sameReals.map VipRealMeta.hash).nodup_iff).mp distinct
  obtain ⟨endpoints, lists, generated⟩ := left.consistent.ring leftActive
  obtain ⟨others, otherLists, otherGenerated⟩ := right.consistent.ring rightActive
  have renamed := lists.rename sameReals distinct
  have matched : others = endpoints.map (Endpoint.rename (partner first second)) :=
    otherLists.unique distinctSecond renamed
  -- the second ring is the first one under the second VIP's numbers
  have rings : second.chRing = first.chRing.map (renameSlot (partner first second)) := by
    obtain ⟨fuel, generated⟩ := generated
    have numbers : ∀ endpoint ∈ endpoints, partner first second endpoint.num < 2 ^ 31 :=
      fun endpoint inside => renamed.small right.small _ (List.mem_map_of_mem inside)
    have moved := generateMaglevHash_rename (lists.small left.small) numbers fuel first.chRingSize
    rw [generated, Option.map_some, ← matched, left.size] at moved
    rw [right.size] at otherGenerated
    exact otherGenerated.unique ⟨fuel, moved⟩
  have owned := left.consistent.slot_active left.small leftActive
  refine ⟨?_, left.consistent.length.trans left.size, ?_, ?_⟩
  · rw [rings, List.map_map]
    apply List.map_congr_left
    intro slot inside
    obtain ⟨num, real, rfl, found, _⟩ := owned slot inside
    exact (hashOfSlot_renameSlot sameReals found).symm
  · intro absent
    obtain ⟨slot, inside, none⟩ := List.mem_map.mp absent
    obtain ⟨num, real, rfl, found, _⟩ := owned slot inside
    rw [hashOfSlot_natCast, found] at none
    cases none
  · intro order
    exact ⟨left.generated distinct leftActive order,
      right.generated distinctSecond rightActive order⟩

/-- Replay a history on a new VIP. -/
def replay (fuel ringSize : Nat) (calls : List Call) : Option Vip :=
  Run.execAll (fun vip made => (vip.call fuel .stored made).map Prod.snd)
    (Vip.new 0 0 ringSize) calls

/-- Calls that are replayed are a run. -/
theorem run_of_replay {fuel ringSize : Nat} {calls : List Call} {vip : Vip}
    (replayed : replay fuel ringSize calls = some vip) :
    Run Step (Vip.new 0 0 ringSize) calls vip := by
  apply Run.of_execAll _ replayed
  intro before made after computed
  obtain ⟨⟨delta, _⟩, returned, rfl⟩ := Option.map_eq_some_iff.mp computed
  exact ⟨fuel, .stored, delta, returned⟩

/-- Two reals added one by one. -/
def plainHistory : List Call := [.addReal ⟨0, 1, 5⟩, .addReal ⟨1, 2, 9⟩]

/-- The same reals under other numbers, after a weight change and a removal. -/
def windingHistory : List Call :=
  [.batchRealsUpdate [⟨.add, 7, 4, 9⟩, ⟨.add, 3, 4, 11⟩], .addReal ⟨4, 1, 5⟩,
    .batchRealsUpdate [⟨.del, 3, 0, 0⟩, ⟨.add, 7, 2, 9⟩]]

private theorem plainHistory_returns : (replay 10 3 plainHistory).isSome = true := by decide +kernel

private theorem windingHistory_returns : (replay 10 3 windingHistory).isSome =
    true := by decide +kernel

/-- Two histories with other numbers lead to rings with the same reals. -/
theorem chRing_history_independent_plain_winding :
    ∃ first second, replay 10 3 plainHistory = some first ∧
      replay 10 3 windingHistory = some second ∧ first.chRing ≠ second.chRing ∧
      first.chRing.map first.hashOfSlot = second.chRing.map second.hashOfSlot := by
  have first := (Option.some_get plainHistory_returns).symm
  have second := (Option.some_get windingHistory_returns).symm
  refine ⟨_, _, first, second, by decide +kernel, ?_⟩
  exact (chRing_history_independent (run_of_replay first) (run_of_replay second) (by decide +kernel)
    (by decide +kernel) (by decide +kernel) (by decide +kernel) (by decide +kernel)).1

end Vip

end Katran
