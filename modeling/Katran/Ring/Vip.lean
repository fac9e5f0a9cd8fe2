import Katran.Foundation.Assoc
import Katran.Foundation.Mirror
import Katran.Ring.Placings
import Mathlib.Data.List.Sort

/-! # Virtual IPs and their rings

A `Vip` keeps its reals by number, each with a weight and the hash that seeds
its permutation, and a copy of the ring it last generated. An update of the
reals regenerates the ring only if it removed a real or changed a weight, and
only if a real of nonzero weight is left; it reports the positions at which the
new ring differs from the copy.

The order in which `reals_` is traversed is a parameter of every call
(`IterOrder`). The endpoints are then sorted by hash; since the order before the
sort is arbitrary, a stable sort covers every outcome of an unstable one.

`Vip.Consistent` says that the ring of a VIP with a real of nonzero weight is
the generator's ring of its current reals. It holds after every history.
-/

namespace Katran

open Foundation

/-- A ring position and the real to be stored there. -/
structure RealPos where
  real : Nat
  pos : Nat
deriving DecidableEq, Repr

/-- Whether something is added or removed. -/
inductive ModifyAction where
  | add
  | del
deriving DecidableEq, Repr

/-- A real of a VIP that is added, changed or removed. -/
structure UpdateReal where
  action : ModifyAction
  updatedReal : Endpoint
deriving DecidableEq, Repr

/-- What a VIP stores about a real; a new entry starts with zeros. -/
structure VipRealMeta where
  weight : Nat := 0
  hash : UInt64 := 0
deriving DecidableEq, Repr

/-- The real of an `int` of the ring, as it is written to the forwarding plane. -/
def toUInt32 (slot : Int) : Nat := (slot % 2 ^ 32).toNat

/-- A number that fits is not changed. -/
theorem toUInt32_natCast {num : Nat} (small : num < 2 ^ 32) : toUInt32 (num : Int) = num := by
  unfold toUInt32
  omega

/-- A VIP with its reals and its ring. -/
structure Vip where
  vipNum : Nat
  vipFlags : UInt32
  chRingSize : Nat
  reals : UnorderedMap Nat VipRealMeta
  chRing : List Int

namespace Vip

/-- A new VIP has no reals, and no position of its ring has been written. -/
def new (vipNum : Nat) (vipFlags : UInt32) (ringSize : Nat) : Vip :=
  { vipNum := vipNum
    vipFlags := vipFlags
    chRingSize := ringSize
    reals := ∅
    chRing := List.replicate ringSize (-1) }

/-- Sets flags. -/
def setVipFlags (vip : Vip) (flags : UInt32) : Vip :=
  { vip with vipFlags := vip.vipFlags ||| flags }

/-- Clears flags. -/
def unsetVipFlags (vip : Vip) (flags : UInt32) : Vip :=
  { vip with vipFlags := vip.vipFlags &&& ~~~flags }

/-- The numbers of the reals, in iteration order. -/
def getReals (order : IterOrder) (vip : Vip) : List Nat :=
  (order.visit vip.reals.entries).map Sigma.fst

/-- The reals with their weights, in iteration order. -/
def getRealsAndWeight (order : IterOrder) (vip : Vip) : List Endpoint :=
  (order.visit vip.reals.entries).map fun entry =>
    { num := entry.1, weight := entry.2.weight, hash := entry.2.hash }

/-- Apply one update to the reals, remembering whether the ring is affected. -/
def applyUpdate (state : UnorderedMap Nat VipRealMeta × Bool) (ureal : UpdateReal) :
    UnorderedMap Nat VipRealMeta × Bool :=
  match ureal.action with
  | .del => (state.1.erase ureal.updatedReal.num, true)
  | .add =>
      -- `reals_[num]` adds an entry of weight and hash zero for an unknown real
      let current := (state.1.lookup ureal.updatedReal.num).getD {}
      if current.weight ≠ ureal.updatedReal.weight then
        (state.1.insert ureal.updatedReal.num
          { weight := ureal.updatedReal.weight, hash := ureal.updatedReal.hash }, true)
      else
        (state.1.insert ureal.updatedReal.num current, state.2)

/-- The loop of `batchRealsUpdate` over the updates, and whether a real has changed. -/
def applyUpdates (reals : UnorderedMap Nat VipRealMeta) (ureals : List UpdateReal) :
    UnorderedMap Nat VipRealMeta × Bool :=
  ureals.foldl applyUpdate (reals, false)

/-- The endpoint of a real, unless its weight is zero. -/
def activeEndpoint (entry : Sigma fun _ : Nat => VipRealMeta) : Option Endpoint :=
  if entry.2.weight ≠ 0 then
    some { num := entry.1, weight := entry.2.weight, hash := entry.2.hash }
  else none

/-- Endpoints are sorted by their hash. -/
def compareEndpoints (a b : Endpoint) : Bool := a.hash < b.hash

/-- The reals of nonzero weight, sorted by hash. -/
def sortedEndpoints (order : IterOrder) (reals : UnorderedMap Nat VipRealMeta) : List Endpoint :=
  ((order.visit reals.entries).filterMap activeEndpoint).insertionSort
    fun a b => ¬ compareEndpoints b a = true

/-- Update the reals and list the endpoints of the new ring, none if the ring is
not affected. -/
def getEndpoints (order : IterOrder) (vip : Vip) (ureals : List UpdateReal) : List Endpoint × Vip :=
  let updated := applyUpdates vip.reals ureals
  (if updated.2 then sortedEndpoints order updated.1 else [], { vip with reals := updated.1 })

/-- Update the reals and report the changed positions of the ring. -/
def batchRealsUpdate (fuel : Nat) (order : IterOrder) (vip : Vip) (ureals : List UpdateReal) :
    Option (List RealPos × Vip) :=
  let (endpoints, vip) := vip.getEndpoints order ureals
  if endpoints.length ≠ 0 then
    match generateMaglevHash fuel endpoints vip.chRingSize with
    | none => none
    | some newChRing =>
        let synced := sync (-1) newChRing vip.chRing
        some (synced.1.map fun change => { real := toUInt32 change.2, pos := change.1 },
          { vip with chRing := synced.2 })
  else
    some ([], vip)

/-- The update of one real that is added. -/
def addReal (fuel : Nat) (order : IterOrder) (vip : Vip) (real : Endpoint) :
    Option (List RealPos × Vip) :=
  vip.batchRealsUpdate fuel order [{ action := .add, updatedReal := real }]

/-- The update of one real that is removed. -/
def delReal (fuel : Nat) (order : IterOrder) (vip : Vip) (realNum : Nat) :
    Option (List RealPos × Vip) :=
  vip.batchRealsUpdate fuel order
    [{ action := .del, updatedReal := { num := realNum, weight := 0, hash := 0 } }]

/-! ## What an update does to the reals -/

/-- An update changes the entry of its own real only. -/
theorem lookup_applyUpdate_of_ne {reals : UnorderedMap Nat VipRealMeta} {changed : Bool}
    {ureal : UpdateReal} {num : Nat} (other : num ≠ ureal.updatedReal.num) :
    (applyUpdate (reals, changed) ureal).1.lookup num = reals.lookup num := by
  unfold applyUpdate
  split
  · exact AList.lookup_erase_ne other
  · dsimp only
    split <;> exact AList.lookup_insert_ne other

/-- The reals after an update. -/
theorem mem_applyUpdate {reals : UnorderedMap Nat VipRealMeta} {changed : Bool}
    {ureal : UpdateReal} {num : Nat} :
    num ∈ (applyUpdate (reals, changed) ureal).1 ↔
      if num = ureal.updatedReal.num then ureal.action = .add else num ∈ reals := by
  unfold applyUpdate
  by_cases same : num = ureal.updatedReal.num
  · split
    next removed => simp only [AList.mem_erase, same, ne_eq, not_true_eq_false, false_and,
      ↓reduceIte, removed, reduceCtorEq]
    next added =>
      dsimp only
      split <;> simp only [AList.mem_insert, same, true_or, added]
  · split
    · simp only [AList.mem_erase, same, ne_eq, not_false_eq_true, true_and, ↓reduceIte]
    · dsimp only
      split <;> simp only [AList.mem_insert, same, false_or]

/-- A batch touches the reals it lists only. -/
theorem mem_foldl_applyUpdate {reals : UnorderedMap Nat VipRealMeta} {changed : Bool}
    {ureals : List UpdateReal} {num : Nat}
    (member : num ∈ (ureals.foldl applyUpdate (reals, changed)).1) :
    num ∈ reals ∨ ∃ ureal ∈ ureals, ureal.action = .add ∧ ureal.updatedReal.num = num := by
  induction ureals generalizing reals changed with
  | nil => exact .inl member
  | cons ureal ureals ih =>
      rw [List.foldl_cons] at member
      rw [show applyUpdate (reals, changed) ureal =
        ((applyUpdate (reals, changed) ureal).1, (applyUpdate (reals, changed) ureal).2)
        from rfl] at member
      rcases ih member with earlier | later
      · rw [mem_applyUpdate] at earlier
        by_cases same : num = ureal.updatedReal.num
        · rw [if_pos same] at earlier
          exact .inr ⟨ureal, List.mem_cons_self, earlier, same.symm⟩
        · rw [if_neg same] at earlier
          exact .inl earlier
      · obtain ⟨update, inside, added, same⟩ := later
        exact .inr ⟨update, List.mem_cons_of_mem _ inside, added, same⟩

/-- Adding a batch of reals. -/
theorem mem_applyUpdates_add {reals : UnorderedMap Nat VipRealMeta} {changed : Bool}
    {ureals : List UpdateReal} (added : ∀ ureal ∈ ureals, ureal.action = .add) (num : Nat) :
    num ∈ (ureals.foldl applyUpdate (reals, changed)).1 ↔
      num ∈ reals ∨ num ∈ ureals.map fun ureal => ureal.updatedReal.num := by
  induction ureals generalizing reals changed with
  | nil => simp only [List.foldl_nil, List.map_nil, List.not_mem_nil, or_false]
  | cons ureal ureals ih =>
      rw [List.foldl_cons]
      rw [show applyUpdate (reals, changed) ureal =
        ((applyUpdate (reals, changed) ureal).1, (applyUpdate (reals, changed) ureal).2) from rfl]
      rw [ih fun later member => added later (List.mem_cons_of_mem _ member), mem_applyUpdate,
        List.map_cons, List.mem_cons, added ureal List.mem_cons_self]
      by_cases same : num = ureal.updatedReal.num
      · simp only [same, ↓reduceIte, true_or, or_true]
      · simp only [same, ↓reduceIte, false_or]

/-- Removing a batch of reals. -/
theorem mem_applyUpdates_del {reals : UnorderedMap Nat VipRealMeta} {changed : Bool}
    {ureals : List UpdateReal} (removed : ∀ ureal ∈ ureals, ureal.action = .del) (num : Nat) :
    num ∈ (ureals.foldl applyUpdate (reals, changed)).1 ↔
      num ∈ reals ∧ num ∉ ureals.map fun ureal => ureal.updatedReal.num := by
  induction ureals generalizing reals changed with
  | nil => simp only [List.foldl_nil, List.map_nil, List.not_mem_nil, not_false_eq_true, and_true]
  | cons ureal ureals ih =>
      rw [List.foldl_cons]
      rw [show applyUpdate (reals, changed) ureal =
        ((applyUpdate (reals, changed) ureal).1, (applyUpdate (reals, changed) ureal).2) from rfl]
      rw [ih fun later member => removed later (List.mem_cons_of_mem _ member), mem_applyUpdate,
        List.map_cons, List.mem_cons, removed ureal List.mem_cons_self]
      by_cases same : num = ureal.updatedReal.num
      · simp only [same, ↓reduceIte, reduceCtorEq, false_and, true_or, not_true_eq_false, and_false]
      · simp only [same, ↓reduceIte, false_or]

/-- The entries after a batch of removals. -/
theorem lookup_applyUpdates_del {reals : UnorderedMap Nat VipRealMeta} {changed : Bool}
    {ureals : List UpdateReal} (removed : ∀ ureal ∈ ureals, ureal.action = .del) (num : Nat) :
    (ureals.foldl applyUpdate (reals, changed)).1.lookup num =
      if num ∈ ureals.map fun ureal => ureal.updatedReal.num then none else reals.lookup num := by
  induction ureals generalizing reals changed with
  | nil => simp only [List.foldl_nil, List.map_nil, List.not_mem_nil, ↓reduceIte]
  | cons ureal ureals ih =>
      have erased : applyUpdate (reals, changed) ureal =
          (reals.erase ureal.updatedReal.num, true) := by
        simp only [applyUpdate, removed ureal List.mem_cons_self]
      rw [List.foldl_cons, erased,
        ih fun later member => removed later (List.mem_cons_of_mem _ member),
        UnorderedMap.lookup_erase_eq_ite, List.map_cons]
      by_cases same : num = ureal.updatedReal.num
      · simp only [same, ↓reduceIte, ite_self, List.mem_cons, true_or]
      · simp only [same, ↓reduceIte, List.mem_cons, false_or]

/-- The entries after one more addition: its real has the new weight. -/
theorem lookup_applyUpdates_add (reals : UnorderedMap Nat VipRealMeta) (ureals : List UpdateReal)
    (real : Endpoint) :
    (∃ entry, (applyUpdates reals (ureals ++ [⟨.add, real⟩])).1.lookup real.num = some entry ∧
      entry.weight = real.weight) ∧
    ∀ num, num ≠ real.num → (applyUpdates reals (ureals ++ [⟨.add, real⟩])).1.lookup num =
      (applyUpdates reals ureals).1.lookup num := by
  have last : applyUpdates reals (ureals ++ [⟨.add, real⟩]) =
      applyUpdate ((applyUpdates reals ureals).1, (applyUpdates reals ureals).2) ⟨.add, real⟩ := by
    simp only [applyUpdates, List.foldl_append, List.foldl_cons, List.foldl_nil]
  rw [last]
  refine ⟨?_, fun num different => lookup_applyUpdate_of_ne different⟩
  simp only [applyUpdate]
  split
  · exact ⟨_, AList.lookup_insert _, rfl⟩
  next same => exact ⟨_, AList.lookup_insert _, not_not.mp same⟩

/-- An update that leaves the flag clear adds at most a real of weight zero. -/
theorem lookup_applyUpdate_of_unchanged {reals : UnorderedMap Nat VipRealMeta} {ureal : UpdateReal}
    (unchanged : (applyUpdate (reals, false) ureal).2 = false) {num : Nat} {real : VipRealMeta}
    (active : real.weight ≠ 0) :
    (applyUpdate (reals, false) ureal).1.lookup num = some real ↔
      reals.lookup num = some real := by
  by_cases same : num = ureal.updatedReal.num
  · subst same
    unfold applyUpdate at unchanged ⊢
    split at unchanged
    · cases unchanged
    next added =>
      dsimp only at unchanged ⊢
      split at unchanged
      · cases unchanged
      next sameWeight =>
        rw [if_neg sameWeight, AList.lookup_insert]
        cases found : reals.lookup ureal.updatedReal.num with
        | none =>
            simp only [Option.getD_none, Option.some.injEq, reduceCtorEq, iff_false]
            rintro rfl
            exact active rfl
        | some current => simp only [Option.getD_some]
  · rw [lookup_applyUpdate_of_ne same]

private theorem foldl_applyUpdate_true (reals : UnorderedMap Nat VipRealMeta)
    (ureals : List UpdateReal) :
    (ureals.foldl applyUpdate (reals, true)).2 = true := by
  induction ureals generalizing reals with
  | nil => rfl
  | cons ureal ureals ih =>
      have kept : (applyUpdate (reals, true) ureal).2 = true := by
        unfold applyUpdate
        split
        · rfl
        · dsimp only
          split <;> rfl
      rw [List.foldl_cons, show applyUpdate (reals, true) ureal =
        ((applyUpdate (reals, true) ureal).1, true) from Prod.ext rfl kept]
      exact ih _

/-- A batch that leaves the flag clear changes no real of nonzero weight. -/
theorem lookup_applyUpdates_of_unchanged {reals : UnorderedMap Nat VipRealMeta}
    {ureals : List UpdateReal} (unchanged : (applyUpdates reals ureals).2 = false) {num : Nat}
    {real : VipRealMeta} (active : real.weight ≠ 0) :
    (applyUpdates reals ureals).1.lookup num = some real ↔ reals.lookup num = some real := by
  unfold applyUpdates at unchanged ⊢
  induction ureals generalizing reals with
  | nil => rfl
  | cons ureal ureals ih =>
      rw [List.foldl_cons] at unchanged ⊢
      cases flag : (applyUpdate (reals, false) ureal).2 with
      | true =>
          rw [show applyUpdate (reals, false) ureal =
            ((applyUpdate (reals, false) ureal).1, true) from Prod.ext rfl flag,
            foldl_applyUpdate_true] at unchanged
          cases unchanged
      | false =>
          have split : applyUpdate (reals, false) ureal =
            ((applyUpdate (reals, false) ureal).1, false) := Prod.ext rfl flag
          rw [split] at unchanged ⊢
          rw [ih unchanged, lookup_applyUpdate_of_unchanged flag active]

/-! ## The endpoints of a ring -/

/-- A list of the reals of nonzero weight, each once, in the order of their hashes. -/
structure ListsActive (reals : UnorderedMap Nat VipRealMeta) (endpoints : List Endpoint) :
    Prop where
  nodup : endpoints.Nodup
  mem_iff : ∀ endpoint, endpoint ∈ endpoints ↔
    reals.lookup endpoint.num = some ⟨endpoint.weight, endpoint.hash⟩ ∧ endpoint.weight ≠ 0
  sorted : endpoints.Pairwise fun a b => a.hash ≤ b.hash

/-- A real with a weight is an endpoint. -/
theorem activeEndpoint_eq_some {entry : Sigma fun _ : Nat => VipRealMeta} {endpoint : Endpoint} :
    activeEndpoint entry = some endpoint ↔
      entry = ⟨endpoint.num, ⟨endpoint.weight, endpoint.hash⟩⟩ ∧ endpoint.weight ≠ 0 := by
  obtain ⟨num, ⟨weight, hash⟩⟩ := entry
  unfold activeEndpoint
  constructor
  · intro found
    split at found
    next nonzero =>
      obtain rfl := Option.some.inj found
      exact ⟨rfl, nonzero⟩
    · cases found
  · rintro ⟨same, nonzero⟩
    cases same
    exact if_pos nonzero

/-- The sorted endpoints list the reals of nonzero weight, in whichever order
the reals are traversed. -/
theorem sortedEndpoints_listsActive (order : IterOrder) (reals : UnorderedMap Nat VipRealMeta) :
    ListsActive reals (sortedEndpoints order reals) where
  nodup := by
    unfold sortedEndpoints
    rw [(List.perm_insertionSort _ _).nodup_iff]
    apply List.Nodup.filterMap
    · intro left right endpoint leftFound rightFound
      rw [(activeEndpoint_eq_some.mp leftFound).1, (activeEndpoint_eq_some.mp rightFound).1]
    · rw [(order.visit_perm _).nodup_iff]
      exact reals.nodupKeys.nodup
  mem_iff := by
    intro endpoint
    unfold sortedEndpoints
    rw [(List.perm_insertionSort _ _).mem_iff, List.mem_filterMap]
    constructor
    · rintro ⟨entry, member, found⟩
      obtain ⟨rfl, nonzero⟩ := activeEndpoint_eq_some.mp found
      exact ⟨UnorderedMap.mem_entries.mp ((order.mem_visit _ _).mp member), nonzero⟩
    · rintro ⟨found, nonzero⟩
      exact ⟨_, (order.mem_visit _ _).mpr (UnorderedMap.mem_entries.mpr found),
        activeEndpoint_eq_some.mpr ⟨rfl, nonzero⟩⟩
  sorted := by
    have atMost (a b : Endpoint) : ¬ compareEndpoints b a = true ↔ a.hash ≤ b.hash := by
      simp only [compareEndpoints, decide_eq_true_eq, UInt64.not_lt]
    have : IsTrans Endpoint fun a b => ¬ compareEndpoints b a = true := ⟨fun a b c first second =>
      (atMost a c).mpr (UInt64.le_trans ((atMost a b).mp first) ((atMost b c).mp second))⟩
    have : Std.Total fun a b : Endpoint => ¬ compareEndpoints b a = true := ⟨fun a b => by
      rw [atMost, atMost]
      exact UInt64.le_total a.hash b.hash⟩
    have ordered := List.pairwise_insertionSort (fun a b => ¬ compareEndpoints b a = true)
      ((order.visit reals.entries).filterMap activeEndpoint)
    exact ordered.imp (atMost _ _).mp

/-- Some real has nonzero weight. -/
def HasActive (reals : UnorderedMap Nat VipRealMeta) : Prop :=
  ∃ num real, reals.lookup num = some real ∧ real.weight ≠ 0

/-- There are endpoints if a real has a weight. -/
theorem ListsActive.ne_nil_iff {reals : UnorderedMap Nat VipRealMeta} {endpoints : List Endpoint}
    (lists : ListsActive reals endpoints) : endpoints ≠ [] ↔ HasActive reals := by
  constructor
  · intro nonempty
    obtain ⟨endpoint, member⟩ := List.exists_mem_of_ne_nil endpoints nonempty
    obtain ⟨found, nonzero⟩ := (lists.mem_iff endpoint).mp member
    exact ⟨_, _, found, nonzero⟩
  · rintro ⟨num, ⟨weight, hash⟩, found, nonzero⟩ empty
    have member := (lists.mem_iff ⟨num, weight, hash⟩).mpr ⟨found, nonzero⟩
    rw [empty] at member
    cases member

/-- Which endpoints are listed depends on the reals of nonzero weight only. -/
theorem ListsActive.congr {reals others : UnorderedMap Nat VipRealMeta} {endpoints : List Endpoint}
    (lists : ListsActive reals endpoints)
    (same : ∀ num real, real.weight ≠ 0 →
      (others.lookup num = some real ↔ reals.lookup num = some real)) :
    ListsActive others endpoints where
  nodup := lists.nodup
  mem_iff := by
    intro endpoint
    rw [lists.mem_iff]
    constructor
    · rintro ⟨found, nonzero⟩
      exact ⟨(same _ ⟨_, _⟩ nonzero).mpr found, nonzero⟩
    · rintro ⟨found, nonzero⟩
      exact ⟨(same _ ⟨_, _⟩ nonzero).mp found, nonzero⟩
  sorted := lists.sorted

/-! ## What a batch does to the ring -/

/-- A batch either leaves the ring alone, because no real of nonzero weight was
affected or none is left, or replaces it by the ring of the new reals. -/
theorem batchRealsUpdate_cases {fuel : Nat} {order : IterOrder} {vip after : Vip}
    {ureals : List UpdateReal} {delta : List RealPos}
    (returned : vip.batchRealsUpdate fuel order ureals = some (delta, after)) :
    (delta = [] ∧ after = { vip with reals := (applyUpdates vip.reals ureals).1 } ∧
      ((applyUpdates vip.reals ureals).2 = false ∨ ¬ HasActive after.reals)) ∨
    ∃ endpoints ring, endpoints ≠ [] ∧ ListsActive after.reals endpoints ∧
      MaglevReturns endpoints vip.chRingSize ring ∧
      delta = (sync (-1) ring vip.chRing).1.map
        (fun change => { real := toUInt32 change.2, pos := change.1 }) ∧
      after = { vip with
        reals := (applyUpdates vip.reals ureals).1, chRing := (sync (-1) ring vip.chRing).2 } := by
  have lists := sortedEndpoints_listsActive order (applyUpdates vip.reals ureals).1
  unfold batchRealsUpdate getEndpoints at returned
  dsimp only at returned
  cases flag : (applyUpdates vip.reals ureals).2 with
  | false =>
      rw [flag, if_neg Bool.false_ne_true, if_neg (fun long => long List.length_nil)] at returned
      obtain ⟨rfl, rfl⟩ := Prod.mk.inj (Option.some.inj returned)
      exact .inl ⟨rfl, rfl, .inl rfl⟩
  | true =>
      rw [flag, if_pos rfl] at returned
      by_cases empty : sortedEndpoints order (applyUpdates vip.reals ureals).1 = []
      · rw [empty, if_neg (fun long => long List.length_nil)] at returned
        obtain ⟨rfl, rfl⟩ := Prod.mk.inj (Option.some.inj returned)
        exact .inl ⟨rfl, rfl, .inr fun active => lists.ne_nil_iff.mpr active empty⟩
      · rw [if_pos (fun short => empty (List.length_eq_zero_iff.mp short))] at returned
        cases generated : generateMaglevHash fuel
            (sortedEndpoints order (applyUpdates vip.reals ureals).1) vip.chRingSize with
        | none =>
            rw [generated] at returned
            cases returned
        | some ring =>
            rw [generated] at returned
            obtain ⟨rfl, rfl⟩ := Prod.mk.inj (Option.some.inj returned)
            exact .inr ⟨_, ring, empty, lists, ⟨fuel, generated⟩, rfl, rfl⟩

/-- A batch changes the reals as it says, and neither the number nor the flags. -/
theorem reals_of_batchRealsUpdate {fuel : Nat} {order : IterOrder} {vip after : Vip}
    {ureals : List UpdateReal} {delta : List RealPos}
    (returned : vip.batchRealsUpdate fuel order ureals = some (delta, after)) :
    after.reals = (applyUpdates vip.reals ureals).1 ∧ after.vipNum = vip.vipNum ∧
      after.vipFlags = vip.vipFlags ∧ after.chRingSize = vip.chRingSize := by
  rcases batchRealsUpdate_cases returned with ⟨_, rfl, _⟩ | ⟨_, _, _, _, _, _, rfl⟩
  · exact ⟨rfl, rfl, rfl, rfl⟩
  · exact ⟨rfl, rfl, rfl, rfl⟩

/-- The ring has its size, and it is the generator's ring of the current reals
whenever one of them has nonzero weight. -/
structure Consistent (vip : Vip) : Prop where
  length : vip.chRing.length = vip.chRingSize
  ring : HasActive vip.reals →
    ∃ endpoints, ListsActive vip.reals endpoints ∧ MaglevReturns endpoints vip.chRingSize vip.chRing

/-- A new VIP has an empty ring and no reals. -/
theorem Consistent.new (vipNum : Nat) (vipFlags : UInt32) (ringSize : Nat) :
    (Vip.new vipNum vipFlags ringSize).Consistent where
  length := List.length_replicate
  ring := by
    rintro ⟨num, real, found, _⟩
    simp only [Vip.new, AList.lookup_empty, reduceCtorEq] at found

/-- Endpoints have the numbers of reals. -/
theorem ListsActive.small {reals : UnorderedMap Nat VipRealMeta} {endpoints : List Endpoint}
    (lists : ListsActive reals endpoints) {bound : Nat} (small : ∀ num ∈ reals, num < bound) :
    ∀ endpoint ∈ endpoints, endpoint.num < bound := by
  intro endpoint member
  exact small _ (UnorderedMap.mem_of_lookup ((lists.mem_iff endpoint).mp member).1)

/-- Every batch keeps a VIP consistent. -/
theorem Consistent.batchRealsUpdate {fuel : Nat} {order : IterOrder} {vip after : Vip}
    {ureals : List UpdateReal} {delta : List RealPos} (consistent : vip.Consistent)
    (small : ∀ num ∈ after.reals, num < 2 ^ 31)
    (returned : vip.batchRealsUpdate fuel order ureals = some (delta, after)) :
    after.Consistent := by
  rcases batchRealsUpdate_cases returned with
    ⟨_, rfl, unaffected⟩ | ⟨endpoints, ring, nonempty, lists, generated, _, rfl⟩
  · refine ⟨consistent.length, ?_⟩
    intro active
    rcases unaffected with unchanged | inactive
    · obtain ⟨num, real, found, nonzero⟩ := active
      obtain ⟨endpoints, lists, generated⟩ := consistent.ring
        ⟨num, real, (lookup_applyUpdates_of_unchanged unchanged nonzero).mp found, nonzero⟩
      exact ⟨endpoints, lists.congr fun num real nonzero =>
        lookup_applyUpdates_of_unchanged unchanged nonzero, generated⟩
    · exact (inactive active).elim
  · obtain ⟨length, _⟩ := generated.slot_owned nonempty (lists.small small)
    have fits : ring.length = vip.chRing.length := length.trans consistent.length.symm
    have copied : (sync (-1) ring vip.chRing).2 = ring := sync_cached fits
    refine ⟨?_, fun _ => ⟨endpoints, lists, ?_⟩⟩
    · change (sync (-1) ring vip.chRing).2.length = vip.chRingSize
      rw [copied, length]
    · change MaglevReturns endpoints vip.chRingSize (sync (-1) ring vip.chRing).2
      rw [copied]
      exact generated

/-- What every history of calls keeps: consistency, small numbers and the ring size. -/
structure WellNumbered (ringSize : Nat) (vip : Vip) : Prop where
  consistent : vip.Consistent
  small : ∀ num ∈ vip.reals, num < 2 ^ 31
  size : vip.chRingSize = ringSize

/-- A new VIP has no reals to number. -/
theorem WellNumbered.new (vipNum : Nat) (vipFlags : UInt32) (ringSize : Nat) :
    (Vip.new vipNum vipFlags ringSize).WellNumbered ringSize :=
  ⟨.new vipNum vipFlags ringSize, fun num member => (AList.notMem_empty num member).elim, rfl⟩

/-- A batch whose additions have small numbers keeps this. -/
theorem WellNumbered.batchRealsUpdate {ringSize fuel : Nat} {order : IterOrder} {vip after : Vip}
    {ureals : List UpdateReal} {delta : List RealPos} (numbered : vip.WellNumbered ringSize)
    (smallNums : ∀ ureal ∈ ureals, ureal.action = .add → ureal.updatedReal.num < 2 ^ 31)
    (returned : vip.batchRealsUpdate fuel order ureals = some (delta, after)) :
    after.WellNumbered ringSize := by
  obtain ⟨reals, _, _, size⟩ := reals_of_batchRealsUpdate returned
  have small : ∀ num ∈ after.reals, num < 2 ^ 31 := by
    intro num member
    rw [reals] at member
    rcases mem_foldl_applyUpdate member with earlier | ⟨ureal, inside, added, rfl⟩
    · exact numbered.small num earlier
    · exact smallNums ureal inside added
  exact ⟨numbered.consistent.batchRealsUpdate small returned, small, size.trans numbered.size⟩

/-- A consistent ring points at reals of nonzero weight only. -/
theorem Consistent.slot_active {vip : Vip} (consistent : vip.Consistent)
    (small : ∀ num ∈ vip.reals, num < 2 ^ 31) (active : HasActive vip.reals) :
    ∀ slot ∈ vip.chRing, ∃ (num : Nat) (real : VipRealMeta), slot = (num : Int) ∧
      vip.reals.lookup num = some real ∧ real.weight ≠ 0 := by
  intro slot member
  obtain ⟨endpoints, lists, generated⟩ := consistent.ring active
  obtain ⟨_, owned⟩ :=
    generated.slot_owned (lists.ne_nil_iff.mpr active) (lists.small small)
  obtain ⟨endpoint, inside, same⟩ := owned slot member
  obtain ⟨found, nonzero⟩ := (lists.mem_iff endpoint).mp inside
  exact ⟨endpoint.num, _, same, found, nonzero⟩

end Vip

end Katran
