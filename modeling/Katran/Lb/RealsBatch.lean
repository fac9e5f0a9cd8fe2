import Katran.Lb.Effects

/-! # The loop of `modifyRealsForVip`

The loop takes or gives up references while it collects the updates for the
VIP, and consults a copy of the VIP's numbers, `cur_reals`, that a removal
never shortens and that the addition of an unknown real does not extend. This
module says what the loop does to the reference counts.

A removal gives up one reference to each of a list of distinct reals of the VIP,
provided that an address listed twice has a single reference (`DelsOnce`). An
addition takes at least one reference to every real that is new to the VIP
(`Adding`), and exactly one provided that no address that is new to the balancer
is listed twice (`AddsOnce`).
-/

namespace Katran

open Foundation UnorderedMap

namespace KatranLb

/-- The keys of the valid addresses of a batch, in order. -/
def listedKeys (folly : Folly) (reals : List NewReal) : List IPAddress :=
  reals.filterMap fun real => (folly.parse real.address).map IPAddress.key

/-- An address that a batch lists twice, and that has one of the numbers, has a
single reference. -/
def DelsOnce (pool : RefPool IPAddress IPAddress) (nums : List Nat) (keys : List IPAddress) :
    Prop :=
  ∀ key ∈ keys, ∀ num ∈ nums, pool.numOf key = some num →
    pool.refs key = 1 ∨ keys.count key = 1

/-- As long as there are free numbers, an address that is new to the balancer is
not listed again. -/
def AddsOnce (reals : UnorderedMap IPAddress RealMeta) : (free : Nat) → List IPAddress → Prop
  | _, [] => True
  | free, key :: keys =>
      if key ∈ reals then AddsOnce reals free keys
      else
        match free with
        | 0 => True
        | free + 1 => key ∉ keys ∧ AddsOnce reals free keys

instance decidableAddsOnce (reals : UnorderedMap IPAddress RealMeta) :
    (free : Nat) → (keys : List IPAddress) → Decidable (AddsOnce reals free keys)
  | _, [] => inferInstanceAs (Decidable True)
  | 0, key :: keys =>
      have := decidableAddsOnce reals 0 keys
      inferInstanceAs (Decidable (if key ∈ reals then AddsOnce reals 0 keys else True))
  | free + 1, key :: keys =>
      have := decidableAddsOnce reals (free + 1) keys
      have := decidableAddsOnce reals free keys
      inferInstanceAs (Decidable
        (if key ∈ reals then AddsOnce reals (free + 1) keys
        else key ∉ keys ∧ AddsOnce reals free keys))

/-- The numbers of a list of updates. -/
def numsOf (ureals : List UpdateReal) : List Nat := ureals.map fun ureal => ureal.updatedReal.num

theorem numsOf_append (first second : List UpdateReal) :
    numsOf (first ++ second) = numsOf first ++ numsOf second := List.map_append

/-! ## Only the pool of reals changes -/

private theorem addReal_sameRest (folly : Folly) (env : Env) (batch : RealsBatch)
    (raddr : IPAddress)
    (weight : UInt32) : SameRest batch.lb (addReal folly env batch raddr weight).lb := by
  have kept := increaseRefCountForReal_sameRest env batch.lb raddr
  unfold addReal
  split
  · split
    · exact .refl _
    · exact kept
  · dsimp only
    split
    · exact kept
    · exact kept

private theorem delReal_sameRest (batch : RealsBatch) (raddr : IPAddress) :
    SameRest batch.lb (delReal batch raddr).lb := by
  unfold delReal
  split
  · exact .refl _
  · split
    · exact decreaseRefCountForReal_sameRest batch.lb (some raddr)
    · exact .refl _

/-- A real of a batch changes only the pool of reals. -/
theorem modifyReal_sameRest (folly : Folly) (env : Env) (action : ModifyAction) (batch : RealsBatch)
    (real : NewReal) : SameRest batch.lb (modifyReal folly env action batch real).lb := by
  unfold modifyReal
  split
  · exact (validateAddress_sameTables folly batch.lb real.address false).toSameRest
  · cases action with
    | del => exact delReal_sameRest batch _
    | add => exact addReal_sameRest folly env batch _ real.weight

private theorem foldl_modifyReal_sameRest (folly : Folly) (env : Env) (action : ModifyAction)
    (reals : List NewReal) (batch : RealsBatch) :
    SameRest batch.lb (reals.foldl (modifyReal folly env action) batch).lb := by
  induction reals generalizing batch with
  | nil => exact .refl _
  | cons real reals ih => exact (modifyReal_sameRest folly env action batch real).trans (ih _)

/-- A batch changes only the pool of reals. -/
theorem modifyRealsBatch_sameRest (folly : Folly) (env : Env) (lb : KatranLb)
    (action : ModifyAction) (reals : List NewReal) (current : Vip) :
    SameRest lb (lb.modifyRealsBatch folly env action reals current).lb :=
  foldl_modifyReal_sameRest folly env action reals
    { lb := lb, curReals := current.getReals env.listing, ureals := [], owners := [] }

/-- An invalid address changes nothing but a counter. -/
theorem modifyReal_of_invalid {folly : Folly} {real : NewReal}
    (invalid : folly.parse real.address = none) (env : Env) (action : ModifyAction)
    (batch : RealsBatch) :
    (modifyReal folly env action batch real).lb.realPool = batch.lb.realPool ∧
      (modifyReal folly env action batch real).curReals = batch.curReals ∧
      (modifyReal folly env action batch real).ureals = batch.ureals ∧
      (modifyReal folly env action batch real).owners = batch.owners := by
  have same : modifyReal folly env action batch real =
      { batch with lb := (batch.lb.validateAddress folly real.address false).2 } := by
    unfold modifyReal
    split
    · rfl
    next found => rw [invalid] at found; cases found
  rw [same]
  exact ⟨(validateAddress_sameTables folly batch.lb real.address false).realPool, rfl, rfl, rfl⟩

/-! ## Removals -/

/-- A removal is skipped, if the VIP does not have the real, or gives up one
reference and pushes an update. -/
theorem delReal_cases (batch : RealsBatch) (raddr : IPAddress) :
    (delReal batch raddr = batch ∧
      ∀ num, batch.lb.realPool.numOf raddr.key = some num → num ∉ batch.curReals) ∨
    ∃ num, batch.lb.realPool.numOf raddr.key = some num ∧ num ∈ batch.curReals ∧
      (delReal batch raddr).lb.realPool = batch.lb.realPool.release (2 ^ 32) raddr.key ∧
      (delReal batch raddr).curReals = batch.curReals ∧
      (delReal batch raddr).ureals = batch.ureals ++ [⟨.del, ⟨num, 0, 0⟩⟩] := by
  cases known : batch.lb.reals.lookup raddr.key with
  | none =>
      refine .inl ⟨by simp only [delReal, known], ?_⟩
      intro num numbered
      rw [RefPool.numOf_eq_none.mpr known] at numbered
      cases numbered
  | some rmeta =>
      by_cases held : rmeta.num ∈ batch.curReals
      · refine .inr ⟨rmeta.num, RefPool.numOf_eq_some.mpr ⟨rmeta, known, rfl⟩, held, ?_⟩
        simp only [delReal, known, held, ↓reduceIte, and_self, and_true]
        exact decreaseRefCountForReal_realPool batch.lb raddr
      · refine .inl ⟨by simp only [delReal, known, held, ↓reduceIte], ?_⟩
        intro num numbered
        rw [RefPool.numOf_eq_some.mpr ⟨rmeta, known, rfl⟩] at numbered
        rwa [← Option.some.inj numbered]

private theorem DelsOnce.tail {pool : RefPool IPAddress IPAddress} {nums : List Nat}
    {key : IPAddress} {keys : List IPAddress} (once : DelsOnce pool nums (key :: keys)) :
    DelsOnce pool nums keys := by
  intro other member num held numbered
  rcases once other (List.mem_cons_of_mem _ member) num held numbered with single | listed
  · exact .inl single
  · rw [List.count_cons] at listed
    have positive : 0 < keys.count other := List.count_pos_iff.mpr member
    exact .inr (by omega)

/-- A key whose number survives its release is not listed again. -/
theorem DelsOnce.notMem_of_release {pool : RefPool IPAddress IPAddress} {nums : List Nat}
    {key : IPAddress} {keys : List IPAddress} {num left : Nat} (live : pool.Live (2 ^ 32))
    (once : DelsOnce pool nums (key :: keys)) (held : num ∈ nums)
    (numbered : pool.numOf key = some num)
    (survives : (pool.release (2 ^ 32) key).numOf key = some left) : key ∉ keys := by
  rw [RefPool.numOf_release live] at survives
  have several : ¬ pool.refs key ≤ 1 := by
    intro last
    simp only [last, and_self, ↓reduceIte, reduceCtorEq] at survives
  rcases once key List.mem_cons_self num held numbered with single | listed
  · omega
  · rw [List.count_cons_self] at listed
    exact List.count_eq_zero.mp (by omega)

private theorem DelsOnce.release {pool : RefPool IPAddress IPAddress} {nums : List Nat}
    {key : IPAddress} {keys : List IPAddress} {num : Nat} (live : pool.Live (2 ^ 32))
    (once : DelsOnce pool nums (key :: keys)) (held : num ∈ nums)
    (numbered : pool.numOf key = some num) : DelsOnce (pool.release (2 ^ 32) key) nums keys := by
  intro other member left leftHeld survives
  by_cases same : other = key
  · subst same
    exact (once.notMem_of_release live held numbered survives member).elim
  · rw [RefPool.numOf_release live] at survives
    simp only [same, false_and, ↓reduceIte] at survives
    rw [RefPool.refs_release live]
    simp only [same, ↓reduceIte, Nat.sub_zero]
    exact once.tail other member left leftHeld survives

/-- What a batch of removals does: it releases distinct keys of the VIP, and the
updates are the removals of their numbers. -/
structure Removes (before after : RealsBatch) (released : List IPAddress) : Prop where
  distinct : released.Nodup
  pool : after.lb.realPool = before.lb.realPool.releaseAll (2 ^ 32) released
  numbered : ∀ key ∈ released, ∃ num ∈ before.curReals, before.lb.realPool.numOf key = some num
  ureals : ∃ removals, after.ureals = before.ureals ++ removals ∧
    (∀ ureal ∈ removals, ureal.action = .del) ∧
    ∀ num, num ∈ numsOf removals ↔ ∃ key ∈ released, before.lb.realPool.numOf key = some num

private theorem Removes.refl (batch : RealsBatch) : Removes batch batch [] where
  distinct := List.nodup_nil
  pool := rfl
  numbered := by
    intro key member
    cases member
  ureals := by
    refine ⟨[], (List.append_nil _).symm, ?_, ?_⟩
    · intro ureal member
      cases member
    · intro num
      simp only [numsOf, List.map_nil, List.not_mem_nil, false_and, exists_false]

/-- An entry that changes nothing in front of a batch of removals. -/
theorem Removes.of_unchanged {before middle after : RealsBatch} {released : List IPAddress}
    (pool : middle.lb.realPool = before.lb.realPool) (cur : middle.curReals = before.curReals)
    (ureals : middle.ureals = before.ureals) (removes : Removes middle after released) :
    Removes before after released := by
  refine ⟨removes.distinct, ?_, ?_, ?_⟩
  · rw [removes.pool, pool]
  · rw [← pool, ← cur]
    exact removes.numbered
  · rw [← pool, ← ureals]
    exact removes.ureals

/-- A release in front of a batch of removals. -/
theorem Removes.cons {before middle after : RealsBatch} {key : IPAddress} {num : Nat}
    {released : List IPAddress} (numbered : before.lb.realPool.numOf key = some num)
    (held : num ∈ before.curReals)
    (pool : middle.lb.realPool = before.lb.realPool.release (2 ^ 32) key)
    (cur : middle.curReals = before.curReals)
    (ureals : middle.ureals = before.ureals ++ [⟨.del, ⟨num, 0, 0⟩⟩])
    (notAgain : key ∉ released) (removes : Removes middle after released) :
    Removes before after (key :: released) := by
  have earlier : ∀ other left, middle.lb.realPool.numOf other = some left →
      before.lb.realPool.numOf other = some left := by
    intro other left survives
    rw [pool] at survives
    exact RefPool.numOf_of_release survives
  refine ⟨List.nodup_cons.mpr ⟨notAgain, removes.distinct⟩, ?_, ?_, ?_⟩
  · rw [removes.pool, pool]
    rfl
  · intro other member
    rcases List.mem_cons.mp member with rfl | later
    · exact ⟨num, held, numbered⟩
    · obtain ⟨left, leftHeld, survives⟩ := removes.numbered other later
      rw [cur] at leftHeld
      exact ⟨left, leftHeld, earlier other left survives⟩
  · obtain ⟨removals, appended, deletes, nums⟩ := removes.ureals
    refine ⟨⟨.del, ⟨num, 0, 0⟩⟩ :: removals, ?_, ?_, ?_⟩
    · rw [appended, ureals, List.append_assoc, List.singleton_append]
    · intro ureal member
      rcases List.mem_cons.mp member with rfl | later
      · rfl
      · exact deletes ureal later
    · intro other
      change other ∈ num :: numsOf removals ↔ _
      rw [List.mem_cons, nums]
      constructor
      · rintro (rfl | ⟨owner, member, survives⟩)
        · exact ⟨key, List.mem_cons_self, numbered⟩
        · exact ⟨owner, List.mem_cons_of_mem _ member, earlier owner other survives⟩
      · rintro ⟨owner, member, found⟩
        rcases List.mem_cons.mp member with rfl | later
        · rw [numbered] at found
          exact .inl (Option.some.inj found).symm
        · obtain ⟨left, _, survives⟩ := removes.numbered owner later
          have same := earlier owner left survives
          rw [found] at same
          rw [← Option.some.inj same] at survives
          exact .inr ⟨owner, later, survives⟩

/-- An address that is not valid lists no key. -/
theorem listedKeys_cons_none {folly : Folly} {real : NewReal}
    (invalid : folly.parse real.address = none) (reals : List NewReal) :
    listedKeys folly (real :: reals) = listedKeys folly reals := by
  simp only [listedKeys, List.filterMap_cons, invalid, Option.map_none]

/-- A valid address lists its key. -/
theorem listedKeys_cons_some {folly : Folly} {real : NewReal} {raddr : IPAddress}
    (valid : folly.parse real.address = some raddr) (reals : List NewReal) :
    listedKeys folly (real :: reals) = raddr.key :: listedKeys folly reals := by
  simp only [listedKeys, List.filterMap_cons, valid, Option.map_some]

/-- The loop of a removal. -/
theorem exists_removes (folly : Folly) (env : Env) (reals : List NewReal) (batch : RealsBatch)
    (live : batch.lb.realPool.Live (2 ^ 32))
    (once : DelsOnce batch.lb.realPool batch.curReals (listedKeys folly reals)) :
    ∃ released, released ⊆ listedKeys folly reals ∧
      Removes batch (reals.foldl (modifyReal folly env .del) batch) released := by
  induction reals generalizing batch with
  | nil => exact ⟨[], List.nil_subset _, .refl batch⟩
  | cons real reals ih =>
      rw [List.foldl_cons]
      cases parsed : folly.parse real.address with
      | none =>
          rw [listedKeys_cons_none parsed] at once ⊢
          obtain ⟨pool, cur, ureals, _⟩ := modifyReal_of_invalid parsed env .del batch
          rw [← pool] at live once
          rw [← cur] at once
          obtain ⟨released, inside, removes⟩ := ih _ live once
          exact ⟨released, inside, removes.of_unchanged pool cur ureals⟩
      | some raddr =>
          have body : modifyReal folly env .del batch real = delReal batch raddr := by
            simp only [modifyReal, parsed]
          rw [listedKeys_cons_some parsed] at once ⊢
          rw [body]
          rcases delReal_cases batch raddr with
            ⟨skipped, _⟩ | ⟨num, numbered, held, pool, cur, ureals⟩
          · rw [skipped]
            obtain ⟨released, inside, removes⟩ := ih _ live once.tail
            exact ⟨released, List.subset_cons_of_subset _ inside, removes⟩
          · have laterOnce := once.release live held numbered
            have laterLive := live.release raddr.key
            rw [← pool] at laterOnce laterLive
            rw [← cur] at laterOnce
            obtain ⟨released, inside, removes⟩ := ih _ laterLive laterOnce
            have notAgain : raddr.key ∉ released := by
              intro again
              obtain ⟨left, _, survives⟩ := removes.numbered _ again
              rw [pool] at survives
              exact once.notMem_of_release live held numbered survives (inside again)
            exact ⟨raddr.key :: released, List.cons_subset_cons _ inside,
              removes.cons numbered held pool cur ureals notAgain⟩

/-- The loop of a removal that repeats no address: it releases the listed keys
whose numbers the VIP has. -/
theorem exists_removes_of_nodup (folly : Folly) (env : Env) (reals : List NewReal)
    (batch : RealsBatch) (distinct : (listedKeys folly reals).Nodup) :
    ∃ released, Removes batch (reals.foldl (modifyReal folly env .del) batch) released ∧
      ∀ key, key ∈ released ↔ key ∈ listedKeys folly reals ∧
        ∃ num ∈ batch.curReals, batch.lb.realPool.numOf key = some num := by
  induction reals generalizing batch with
  | nil =>
      refine ⟨[], .refl batch, ?_⟩
      intro key
      simp only [listedKeys, List.filterMap_nil, List.not_mem_nil, false_and]
  | cons real reals ih =>
      rw [List.foldl_cons]
      cases parsed : folly.parse real.address with
      | none =>
          rw [listedKeys_cons_none parsed] at distinct ⊢
          obtain ⟨pool, cur, ureals, _⟩ := modifyReal_of_invalid parsed env .del batch
          obtain ⟨released, removes, members⟩ := ih (modifyReal folly env .del batch real) distinct
          rw [pool, cur] at members
          exact ⟨released, removes.of_unchanged pool cur ureals, members⟩
      | some raddr =>
          have body : modifyReal folly env .del batch real = delReal batch raddr := by
            simp only [modifyReal, parsed]
          rw [listedKeys_cons_some parsed, List.nodup_cons] at distinct
          rw [listedKeys_cons_some parsed, body]
          obtain ⟨released, removes, members⟩ := ih (delReal batch raddr) distinct.2
          rcases delReal_cases batch raddr with
            ⟨skipped, foreign⟩ | ⟨num, numbered, held, pool, cur, ureals⟩
          · rw [skipped] at removes members
            rw [skipped]
            refine ⟨released, removes, ?_⟩
            intro key
            rw [members, List.mem_cons]
            constructor
            · rintro ⟨listed, owned⟩
              exact ⟨.inr listed, owned⟩
            · rintro ⟨rfl | listed, num, held, numbered⟩
              · exact (foreign num numbered held).elim
              · exact ⟨listed, num, held, numbered⟩
          · have notAgain : raddr.key ∉ released := fun again => distinct.1 ((members _).mp again).1
            refine ⟨raddr.key :: released,
              removes.cons numbered held pool cur ureals notAgain, ?_⟩
            intro key
            rw [List.mem_cons, members, List.mem_cons, cur, pool]
            constructor
            · rintro (rfl | ⟨listed, left, leftHeld, survives⟩)
              · exact ⟨.inl rfl, num, held, numbered⟩
              · exact ⟨.inr listed, left, leftHeld, RefPool.numOf_of_release survives⟩
            · rintro ⟨rfl | listed, left, leftHeld, found⟩
              · exact .inl rfl
              · have different : key ≠ raddr.key := by
                  rintro rfl
                  exact distinct.1 listed
                exact .inr ⟨listed, left, leftHeld,
                  (RefPool.numOf_release_of_ne different).trans found⟩

/-! ## Additions -/

/-- An addition pushes an update for a number of the VIP; takes a reference to a
known real that is new to the VIP; takes a reference to an unknown real, which
is not appended to `cur_reals`; or finds no number. -/
inductive Adds (batch after : RealsBatch) (raddr : IPAddress) : Prop where
  | held (num : Nat) (numbered : batch.lb.realPool.numOf raddr.key = some num)
      (inside : num ∈ batch.curReals) (pool : after.lb.realPool = batch.lb.realPool)
      (cur : after.curReals = batch.curReals)
      (nums : numsOf after.ureals = numsOf batch.ureals ++ [num])
      (owners : after.owners = batch.owners ++ [(num, raddr)])
  | known (num : Nat) (numbered : batch.lb.realPool.numOf raddr.key = some num)
      (outside : num ∉ batch.curReals)
      (taken : (batch.lb.realPool.acquire IPAddress.key (2 ^ 32) raddr).1 = some num)
      (pool : after.lb.realPool = (batch.lb.realPool.acquire IPAddress.key (2 ^ 32) raddr).2)
      (cur : after.curReals = batch.curReals ++ [num])
      (nums : numsOf after.ureals = numsOf batch.ureals ++ [num])
      (owners : after.owners = batch.owners ++ [(num, raddr)])
  | unknown (num : Nat) (new : batch.lb.realPool.numOf raddr.key = none)
      (taken : (batch.lb.realPool.acquire IPAddress.key (2 ^ 32) raddr).1 = some num)
      (pool : after.lb.realPool = (batch.lb.realPool.acquire IPAddress.key (2 ^ 32) raddr).2)
      (cur : after.curReals = batch.curReals)
      (nums : numsOf after.ureals = numsOf batch.ureals ++ [num])
      (owners : after.owners = batch.owners ++ [(num, raddr)])
  | exhausted (new : batch.lb.realPool.numOf raddr.key = none) (empty : batch.lb.realNums = [])
      (pool : after.lb.realPool = batch.lb.realPool) (cur : after.curReals = batch.curReals)
      (ureals : after.ureals = batch.ureals) (owners : after.owners = batch.owners)

/-- What the addition of one real does to the pool and to the batch. -/
theorem addReal_adds {folly : Folly} {env : Env} {batch : RealsBatch} {raddr : IPAddress}
    {size : Nat} (sound : batch.lb.realPool.Sound IPAddress.key size)
    (sized : batch.lb.config.maxReals.toNat = size) (weight : UInt32) :
    Adds batch (addReal folly env batch raddr weight) raddr := by
  have pool := increaseRefCountForReal_realPool env batch.lb raddr
  have first := increaseRefCountForReal_fst env batch.lb raddr
  have same := increaseRefCountForReal_sameRest env batch.lb raddr
  cases known : batch.lb.reals.lookup raddr.key with
  | some rmeta =>
      have numbered : batch.lb.realPool.numOf raddr.key = some rmeta.num :=
        RefPool.numOf_eq_some.mpr ⟨rmeta, known, rfl⟩
      by_cases held : rmeta.num ∈ batch.curReals
      · have body : addReal folly env batch raddr weight =
            batch.push folly raddr rmeta.num weight := by
          simp only [addReal, known, held, ↓reduceIte]
        rw [body]
        exact .held rmeta.num numbered held rfl rfl List.map_append rfl
      · have body : addReal folly env batch raddr weight = { batch with
            lb := (batch.lb.increaseRefCountForReal env raddr).2
            curReals := batch.curReals ++ [rmeta.num] }.push folly raddr rmeta.num weight := by
          simp only [addReal, known, held, ↓reduceIte]
        have taken : (batch.lb.realPool.acquire IPAddress.key (2 ^ 32) raddr).1 =
            some rmeta.num := by
          simp only [RefPool.acquire, realPool_table, known]
        rw [body]
        exact .known rmeta.num numbered held taken pool rfl List.map_append rfl
  | none =>
      have new : batch.lb.realPool.numOf raddr.key = none := RefPool.numOf_eq_none.mpr known
      have body : addReal folly env batch raddr weight =
          if (batch.lb.increaseRefCountForReal env raddr).1 =
              (batch.lb.increaseRefCountForReal env raddr).2.config.maxReals.toNat then
            { batch with lb := (batch.lb.increaseRefCountForReal env raddr).2 }
          else { batch with lb := (batch.lb.increaseRefCountForReal env raddr).2 }.push folly raddr
            (batch.lb.increaseRefCountForReal env raddr).1 weight := by
        simp only [addReal, known]
      rw [same.config, sized, first] at body
      cases taken : (batch.lb.realPool.acquire IPAddress.key (2 ^ 32) raddr).1 with
      | none =>
          obtain ⟨unchanged, _, empty⟩ := RefPool.acquire_none taken
          rw [taken, Option.getD_none, sized, if_pos rfl] at body
          rw [body]
          exact .exhausted new empty (pool.trans unchanged) rfl rfl rfl
      | some num =>
          have numbered := RefPool.numOf_acquire taken raddr.key
          simp only [↓reduceIte] at numbered
          obtain ⟨slot, found, equal⟩ := RefPool.numOf_eq_some.mp numbered
          have bounded : num < size := equal ▸ (sound.acquire raddr).num_lt found
          rw [taken, Option.getD_some, if_neg (by omega)] at body
          rw [body]
          exact .unknown num new taken pool rfl List.map_append rfl

/-- One if a number has been pushed that the VIP did not have. -/
def gained (initial nums : List Nat) (num : Nat) : Nat :=
  if num ∈ nums ∧ num ∉ initial then 1 else 0

private theorem gained_append_of_ne {initial nums : List Nat} {num other : Nat}
    (different : other ≠ num) :
    gained initial (nums ++ [num]) other = gained initial nums other := by
  simp only [gained, List.mem_append, List.mem_singleton, different, or_false]

private theorem gained_le_one (initial nums : List Nat) (num : Nat) :
    gained initial nums num ≤ 1 := by
  unfold gained
  split <;> omega

/-- A reference to a real has been taken and an update pushed, `num` being the real's number,
old or new. -/
structure Takes (size : Nat) (batch after : RealsBatch) (raddr : IPAddress) (num : Nat) :
    Prop where
  sound : after.lb.realPool.Sound IPAddress.key size
  live : after.lb.realPool.Live (2 ^ 32)
  numOf : ∀ key, after.lb.realPool.numOf key =
    if key = raddr.key then some num else batch.lb.realPool.numOf key
  refs : ∀ key, after.lb.realPool.refs key =
    batch.lb.realPool.refs key + if key = raddr.key then 1 else 0
  same : ∀ other, batch.lb.realPool.numOf raddr.key = some other → other = num
  nums : numsOf after.ureals = numsOf batch.ureals ++ [num]
  owners : after.owners = batch.owners ++ [(num, raddr)]

namespace Takes

variable {size num other : Nat} {batch after : RealsBatch} {raddr key : IPAddress}

private theorem numbered (takes : Takes size batch after raddr num) :
    after.lb.realPool.numOf raddr.key = some num := by
  rw [takes.numOf, if_pos rfl]

/-- No real loses its number. -/
theorem grown (takes : Takes size batch after raddr num)
    (found : batch.lb.realPool.numOf key = some other) :
    after.lb.realPool.numOf key = some other := by
  rw [takes.numOf]
  split
  next equal =>
    subst equal
    rw [takes.same other found]
  next => exact found

/-- The other reals have their numbers from before. -/
theorem earlier (takes : Takes size batch after raddr num) (different : key ≠ raddr.key)
    (found : after.lb.realPool.numOf key = some other) :
    batch.lb.realPool.numOf key = some other ∧ other ≠ num := by
  refine ⟨by rwa [takes.numOf, if_neg different] at found, ?_⟩
  rintro rfl
  exact different (takes.sound.numOf_inj found takes.numbered)

end Takes

/-- What holds while additions are made, for a pool that was `before` and a VIP
that had the numbers `initial`: no real loses its number, every real that is new
to the VIP has a further reference, and every update is owned by its address. -/
structure Adding (before : RefPool IPAddress IPAddress) (initial : List Nat) (size : Nat)
    (batch : RealsBatch) : Prop where
  sized : batch.lb.config.maxReals.toNat = size
  sound : batch.lb.realPool.Sound IPAddress.key size
  live : batch.lb.realPool.Live (2 ^ 32)
  kept : ∀ key num, before.numOf key = some num → batch.lb.realPool.numOf key = some num
  counted : ∀ key num, batch.lb.realPool.numOf key = some num →
    before.refs key + gained initial (numsOf batch.ureals) num ≤ batch.lb.realPool.refs key
  contains : ∀ num ∈ initial, num ∈ batch.curReals
  origin : ∀ num ∈ batch.curReals, num ∈ initial ∨ num ∈ numsOf batch.ureals
  owners : numsOf batch.ureals = batch.owners.map Prod.fst
  owned : ∀ owner ∈ batch.owners, batch.lb.realPool.numOf owner.2.key = some owner.1
  room : ∀ key num, batch.lb.realPool.numOf key = some num → num ∉ batch.curReals →
    batch.lb.realPool.refs key + 1 < 2 ^ 32

namespace Adding

variable {before : RefPool IPAddress IPAddress} {initial : List Nat} {size : Nat}
  {batch after : RealsBatch} {raddr : IPAddress}

/-- Pushing a number the VIP has or has pushed before counts nothing. -/
theorem gained_append_of_mem {nums : List Nat} {num : Nat}
    (origin : num ∈ initial ∨ num ∈ nums) (other : Nat) :
    gained initial (nums ++ [num]) other = gained initial nums other := by
  by_cases same : other = num
  · subst same
    rcases origin with held | pushed
    · simp only [gained, held, not_true_eq_false, and_false]
    · simp only [gained, pushed, List.mem_append, true_or]
  · exact gained_append_of_ne same

private theorem owned_append {num : Nat}
    (grown : ∀ key num, batch.lb.realPool.numOf key = some num →
      after.lb.realPool.numOf key = some num)
    (owned : ∀ owner ∈ batch.owners, batch.lb.realPool.numOf owner.2.key = some owner.1)
    (numbered : after.lb.realPool.numOf raddr.key = some num)
    (owners : after.owners = batch.owners ++ [(num, raddr)]) :
    ∀ owner ∈ after.owners, after.lb.realPool.numOf owner.2.key = some owner.1 := by
  intro owner member
  rw [owners, List.mem_append, List.mem_singleton] at member
  rcases member with earlier | rfl
  · exact grown _ _ (owned owner earlier)
  · exact numbered

private theorem unchanged (adding : Adding before initial size batch)
    (sized : after.lb.config.maxReals.toNat = size)
    (pool : after.lb.realPool = batch.lb.realPool) (cur : after.curReals = batch.curReals)
    (ureals : after.ureals = batch.ureals) (owners : after.owners = batch.owners) :
    Adding before initial size after := by
  refine ⟨sized, pool ▸ adding.sound, pool ▸ adding.live, pool ▸ adding.kept, ?_, ?_, ?_,
    ?_, ?_, ?_⟩
  · rw [pool, ureals]
    exact adding.counted
  · rw [cur]
    exact adding.contains
  · rw [cur, ureals]
    exact adding.origin
  · rw [ureals, owners]
    exact adding.owners
  · rw [pool, owners]
    exact adding.owned
  · rw [pool, cur]
    exact adding.room

/-- After a push the numbers of the VIP are those it had and those pushed. -/
theorem origin_append {num : Nat}
    (origin : ∀ other ∈ batch.curReals, other ∈ initial ∨ other ∈ numsOf batch.ureals)
    (nums : numsOf after.ureals = numsOf batch.ureals ++ [num])
    (cur : ∀ other ∈ after.curReals, other ∈ batch.curReals ∨ other = num) :
    ∀ other ∈ after.curReals, other ∈ initial ∨ other ∈ numsOf after.ureals := by
  intro other member
  rw [nums, List.mem_append, List.mem_singleton]
  rcases cur other member with earlier | rfl
  · rcases origin other earlier with first | second
    · exact .inl first
    · exact .inr (.inl second)
  · exact .inr (.inr rfl)

private theorem owners_append {num : Nat} (owners : numsOf batch.ureals = batch.owners.map Prod.fst)
    (nums : numsOf after.ureals = numsOf batch.ureals ++ [num])
    (pushed : after.owners = batch.owners ++ [(num, raddr)]) :
    numsOf after.ureals = after.owners.map Prod.fst := by
  rw [nums, pushed, owners, List.map_append]
  rfl

/-- No real has lost a reference. -/
theorem refs_le (adding : Adding before initial size batch) (key : IPAddress) :
    before.refs key ≤ batch.lb.realPool.refs key := by
  cases earlier : before.numOf key with
  | none =>
      rw [RefPool.refs_of_numOf_none earlier]
      exact Nat.zero_le _
  | some num => exact Nat.le_of_add_right_le (adding.counted key num (adding.kept key num earlier))

private theorem takes (adding : Adding before initial size batch) {num : Nat}
    (fits : batch.lb.realPool.refs raddr.key + 1 < 2 ^ 32)
    (taken : (batch.lb.realPool.acquire IPAddress.key (2 ^ 32) raddr).1 = some num)
    (pool : after.lb.realPool = (batch.lb.realPool.acquire IPAddress.key (2 ^ 32) raddr).2)
    (same : ∀ other, batch.lb.realPool.numOf raddr.key = some other → other = num)
    (nums : numsOf after.ureals = numsOf batch.ureals ++ [num])
    (owners : after.owners = batch.owners ++ [(num, raddr)]) :
    Takes size batch after raddr num where
  sound := pool ▸ adding.sound.acquire raddr
  live := pool ▸ adding.live.acquire fits
  numOf := fun key => pool ▸ RefPool.numOf_acquire taken key
  refs := fun key => pool ▸ RefPool.refs_acquire fits taken key
  same := same
  nums := nums
  owners := owners

/-- A reference that is taken to a real which the VIP did not have. -/
theorem takes_of_known (adding : Adding before initial size batch) {num : Nat}
    (numbered : batch.lb.realPool.numOf raddr.key = some num) (outside : num ∉ batch.curReals)
    (taken : (batch.lb.realPool.acquire IPAddress.key (2 ^ 32) raddr).1 = some num)
    (pool : after.lb.realPool = (batch.lb.realPool.acquire IPAddress.key (2 ^ 32) raddr).2)
    (nums : numsOf after.ureals = numsOf batch.ureals ++ [num])
    (owners : after.owners = batch.owners ++ [(num, raddr)]) :
    Takes size batch after raddr num := by
  refine adding.takes (adding.room raddr.key num numbered outside) taken pool ?_ nums owners
  intro other found
  exact (Option.some.inj (numbered.symm.trans found)).symm

/-- A reference that is taken to a real which had no number. -/
theorem takes_of_unknown (adding : Adding before initial size batch) {num : Nat}
    (new : batch.lb.realPool.numOf raddr.key = none)
    (taken : (batch.lb.realPool.acquire IPAddress.key (2 ^ 32) raddr).1 = some num)
    (pool : after.lb.realPool = (batch.lb.realPool.acquire IPAddress.key (2 ^ 32) raddr).2)
    (nums : numsOf after.ureals = numsOf batch.ureals ++ [num])
    (owners : after.owners = batch.owners ++ [(num, raddr)]) :
    Takes size batch after raddr num := by
  have fits : batch.lb.realPool.refs raddr.key + 1 < 2 ^ 32 := by
    rw [RefPool.refs_of_numOf_none new]
    decide
  refine adding.takes fits taken pool ?_ nums owners
  intro other found
  cases new.symm.trans found

/-- A reference is taken: the real's number joins those of the VIP, or had no reference. -/
theorem take (adding : Adding before initial size batch)
    (sized : after.lb.config.maxReals.toNat = size) {num : Nat}
    (takes : Takes size batch after raddr num)
    (keeps : ∀ other ∈ batch.curReals, other ∈ after.curReals)
    (cur : ∀ other ∈ after.curReals, other ∈ batch.curReals ∨ other = num)
    (first : num ∈ after.curReals ∨ batch.lb.realPool.refs raddr.key = 0) :
    Adding before initial size after where
  sized := sized
  sound := takes.sound
  live := takes.live
  kept := fun key other found => takes.grown (adding.kept key other found)
  counted := by
    intro key other found
    rw [takes.refs, takes.nums]
    by_cases same : key = raddr.key
    · have most := gained_le_one initial (numsOf batch.ureals ++ [num]) other
      have least := adding.refs_le key
      rw [if_pos same]
      omega
    · obtain ⟨numbered, different⟩ := takes.earlier same found
      rw [if_neg same, Nat.add_zero, gained_append_of_ne different]
      exact adding.counted key other numbered
  contains := fun other member => keeps other (adding.contains other member)
  origin := origin_append adding.origin takes.nums cur
  owners := owners_append adding.owners takes.nums takes.owners
  owned := owned_append (fun _ _ => takes.grown) adding.owned takes.numbered takes.owners
  room := by
    intro key other found outside
    rw [takes.refs]
    by_cases same : key = raddr.key
    · subst same
      obtain rfl := Option.some.inj (takes.numbered.symm.trans found)
      rw [first.resolve_left outside, if_pos rfl]
      decide
    · obtain ⟨numbered, _⟩ := takes.earlier same found
      rw [if_neg same, Nat.add_zero]
      exact adding.room key other numbered fun member => outside (keeps other member)

/-- One more real has been added. -/
theorem step (adding : Adding before initial size batch)
    (sized : after.lb.config.maxReals.toNat = size) (adds : Adds batch after raddr) :
    Adding before initial size after := by
  cases adds with
  | held num numbered inside pool cur nums owners =>
      have pushed := gained_append_of_mem (adding.origin num inside)
      refine ⟨sized, pool ▸ adding.sound, pool ▸ adding.live, pool ▸ adding.kept, ?_, ?_, ?_,
        owners_append adding.owners nums owners, ?_, ?_⟩
      · intro key other found
        rw [pool] at found ⊢
        rw [nums, pushed]
        exact adding.counted key other found
      · rw [cur]
        exact adding.contains
      · exact origin_append adding.origin nums fun other member => .inl (cur ▸ member)
      · apply owned_append _ adding.owned _ owners
        · intro key other found
          rwa [pool]
        · rwa [pool]
      · rw [pool, cur]
        exact adding.room
  | known num numbered outside taken pool cur nums owners =>
      have takes := adding.takes_of_known numbered outside taken pool nums owners
      refine adding.take sized takes ?_ ?_ (.inl ?_)
      · intro other member
        rw [cur]
        exact List.mem_append_left _ member
      · intro other member
        rwa [cur, List.mem_append, List.mem_singleton] at member
      · rw [cur]
        exact List.mem_append_right _ List.mem_cons_self
  | unknown num new taken pool cur nums owners =>
      have takes := adding.takes_of_unknown new taken pool nums owners
      refine adding.take sized takes ?_ ?_ (.inr (RefPool.refs_of_numOf_none new))
      · intro other member
        rwa [cur]
      · intro other member
        exact .inl (cur ▸ member)
  | exhausted new empty pool cur ureals owners =>
      exact adding.unchanged sized pool cur ureals owners

/-- The body of the loop of an addition. -/
theorem modifyReal {folly : Folly} {env : Env} (adding : Adding before initial size batch)
    (real : NewReal) : Adding before initial size (modifyReal folly env .add batch real) := by
  have rest := modifyReal_sameRest folly env .add batch real
  have sized : (KatranLb.modifyReal folly env .add batch real).lb.config.maxReals.toNat = size := by
    rw [rest.config]
    exact adding.sized
  cases parsed : folly.parse real.address with
  | none =>
      obtain ⟨pool, cur, ureals, owners⟩ := modifyReal_of_invalid parsed env .add batch
      exact adding.unchanged sized pool cur ureals owners
  | some raddr =>
      have body : KatranLb.modifyReal folly env .add batch real =
          addReal folly env batch raddr real.weight := by
        simp only [KatranLb.modifyReal, parsed]
      rw [body] at sized ⊢
      exact adding.step sized (addReal_adds adding.sound adding.sized real.weight)

/-- The whole loop of an addition. -/
theorem loop {folly : Folly} {env : Env} {reals : List NewReal}
    (adding : Adding before initial size batch) :
    Adding before initial size (reals.foldl (KatranLb.modifyReal folly env .add) batch) := by
  induction reals generalizing batch with
  | nil => exact adding
  | cons real reals ih => exact ih (adding.modifyReal real)

end Adding

/-- What holds in addition while no new address is listed twice: no real has more
references than it should, where `keys` is what is left of the batch. -/
structure AddingOnce (before : RefPool IPAddress IPAddress) (initial : List Nat)
    (known : UnorderedMap IPAddress RealMeta) (batch : RealsBatch) (keys : List IPAddress) :
    Prop where
  exact : ∀ key num, batch.lb.realPool.numOf key = some num →
    batch.lb.realPool.refs key ≤ before.refs key + gained initial (numsOf batch.ureals) num
  uncounted : ∀ key ∈ keys, ∀ num, batch.lb.realPool.numOf key = some num →
    num ∉ batch.curReals → num ∉ numsOf batch.ureals
  same : ∀ key ∈ keys, key ∈ batch.lb.reals ↔ key ∈ known
  once : AddsOnce known batch.lb.realNums.length keys
  indexed : batch.lb.realPool.Indexed

private theorem AddsOnce.zero (known : UnorderedMap IPAddress RealMeta) (keys : List IPAddress) :
    AddsOnce known 0 keys := by
  induction keys with
  | nil => trivial
  | cons key keys ih =>
      unfold AddsOnce
      split
      · exact ih
      · trivial

private theorem AddsOnce.tail_of_mem {known : UnorderedMap IPAddress RealMeta} {free : Nat}
    {key : IPAddress} {keys : List IPAddress} (once : AddsOnce known free (key :: keys))
    (member : key ∈ known) : AddsOnce known free keys := by
  unfold AddsOnce at once
  rwa [if_pos member] at once

private theorem AddsOnce.tail_of_notMem {known : UnorderedMap IPAddress RealMeta} {free : Nat}
    {key : IPAddress} {keys : List IPAddress} (once : AddsOnce known (free + 1) (key :: keys))
    (absent : key ∉ known) : key ∉ keys ∧ AddsOnce known free keys := by
  unfold AddsOnce at once
  rwa [if_neg absent] at once

/-- A real is in use if it has a number. -/
theorem mem_reals_iff (lb : KatranLb) (key : IPAddress) :
    key ∈ lb.reals ↔ ∃ num, lb.realPool.numOf key = some num := by
  constructor
  · intro member
    obtain ⟨rmeta, found⟩ := exists_lookup_of_mem member
    exact ⟨rmeta.num, RefPool.numOf_eq_some.mpr ⟨rmeta, found, rfl⟩⟩
  · rintro ⟨num, numbered⟩
    obtain ⟨rmeta, found, _⟩ := RefPool.numOf_eq_some.mp numbered
    exact mem_of_lookup found

namespace AddingOnce

variable {before : RefPool IPAddress IPAddress} {initial : List Nat} {size : Nat}
  {known : UnorderedMap IPAddress RealMeta} {batch after : RealsBatch} {raddr : IPAddress}
  {keys : List IPAddress}

/-- A reference that is taken is counted, if none had been taken before. -/
theorem exact_take (exactly : AddingOnce before initial known batch (raddr.key :: keys)) {num : Nat}
    (takes : Takes size batch after raddr num) (outside : num ∉ initial)
    (untaken : batch.lb.realPool.refs raddr.key ≤ before.refs raddr.key) :
    ∀ key other, after.lb.realPool.numOf key = some other →
      after.lb.realPool.refs key ≤ before.refs key + gained initial
        (numsOf after.ureals) other := by
  intro key other found
  rw [takes.refs, takes.nums]
  by_cases same : key = raddr.key
  · subst same
    obtain rfl := Option.some.inj (takes.numbered.symm.trans found)
    simp only [gained, List.mem_append, List.mem_singleton, or_true, outside, not_false_eq_true,
      and_self, ↓reduceIte]
    omega
  · obtain ⟨numbered, different⟩ := takes.earlier same found
    rw [if_neg same, Nat.add_zero, gained_append_of_ne different]
    exact exactly.exact key other numbered

/-- An address that is known is listed as such. -/
theorem listed (exactly : AddingOnce before initial known batch (raddr.key :: keys)) {num : Nat}
    (numbered : batch.lb.realPool.numOf raddr.key = some num) : raddr.key ∈ known :=
  (exactly.same _ List.mem_cons_self).mp ((mem_reals_iff _ _).mpr ⟨num, numbered⟩)

private theorem held (adding : Adding before initial size batch)
    (exactly : AddingOnce before initial known batch (raddr.key :: keys)) {num : Nat}
    (numbered : batch.lb.realPool.numOf raddr.key = some num) (inside : num ∈ batch.curReals)
    (pool : after.lb.realPool = batch.lb.realPool) (cur : after.curReals = batch.curReals)
    (nums : numsOf after.ureals = numsOf batch.ureals ++ [num]) :
    AddingOnce before initial known after keys := by
  have pushed := Adding.gained_append_of_mem (adding.origin num inside)
  have table : after.lb.reals = batch.lb.reals := congrArg RefPool.table pool
  have free : after.lb.realNums = batch.lb.realNums := congrArg RefPool.free pool
  refine ⟨?_, ?_, ?_, ?_, pool ▸ exactly.indexed⟩
  · intro key other found
    rw [pool] at found ⊢
    rw [nums, pushed]
    exact exactly.exact key other found
  · intro key member other found outside
    rw [pool] at found
    rw [cur] at outside
    rw [nums, List.mem_append, List.mem_singleton, not_or]
    refine ⟨exactly.uncounted key (List.mem_cons_of_mem _ member) other found outside, ?_⟩
    rintro rfl
    exact outside inside
  · intro key member
    rw [table]
    exact exactly.same key (List.mem_cons_of_mem _ member)
  · rw [free]
    exact exactly.once.tail_of_mem (exactly.listed numbered)

private theorem takeKnown (adding : Adding before initial size batch)
    (exactly : AddingOnce before initial known batch (raddr.key :: keys)) {num : Nat}
    (numbered : batch.lb.realPool.numOf raddr.key = some num) (outside : num ∉ batch.curReals)
    (taken : (batch.lb.realPool.acquire IPAddress.key (2 ^ 32) raddr).1 = some num)
    (pool : after.lb.realPool = (batch.lb.realPool.acquire IPAddress.key (2 ^ 32) raddr).2)
    (cur : after.curReals = batch.curReals ++ [num]) (takes : Takes size batch after raddr num) :
    AddingOnce before initial known after keys := by
  have numOf (key : IPAddress) : after.lb.realPool.numOf key = batch.lb.realPool.numOf key := by
    rw [pool, RefPool.numOf_acquire_of_numOf numbered taken]
  have free : after.lb.realNums = batch.lb.realNums :=
    (congrArg RefPool.free pool).trans (RefPool.free_acquire_of_numOf numbered taken)
  have untaken : batch.lb.realPool.refs raddr.key ≤ before.refs raddr.key := by
    have counted := exactly.exact raddr.key num numbered
    have unpushed := exactly.uncounted _ List.mem_cons_self num numbered outside
    rwa [gained, if_neg fun pushed => unpushed pushed.1, Nat.add_zero] at counted
  have outsideInitial : num ∉ initial := fun member => outside (adding.contains num member)
  refine ⟨exactly.exact_take takes outsideInitial untaken, ?_, ?_, ?_,
    pool ▸ exactly.indexed.acquire raddr⟩
  · intro key member other found free
    rw [numOf] at found
    rw [cur, List.mem_append, List.mem_singleton, not_or] at free
    rw [takes.nums, List.mem_append, List.mem_singleton, not_or]
    exact ⟨exactly.uncounted key (List.mem_cons_of_mem _ member) other found free.1, free.2⟩
  · intro key member
    rw [mem_reals_iff, numOf, ← mem_reals_iff]
    exact exactly.same key (List.mem_cons_of_mem _ member)
  · rw [free]
    exact exactly.once.tail_of_mem (exactly.listed numbered)

private theorem takeUnknown (adding : Adding before initial size batch)
    (owned : ∀ num ∈ initial, ∃ key, before.numOf key = some num)
    (exactly : AddingOnce before initial known batch (raddr.key :: keys)) {num : Nat}
    (new : batch.lb.realPool.numOf raddr.key = none)
    (taken : (batch.lb.realPool.acquire IPAddress.key (2 ^ 32) raddr).1 = some num)
    (pool : after.lb.realPool = (batch.lb.realPool.acquire IPAddress.key (2 ^ 32) raddr).2)
    (cur : after.curReals = batch.curReals) (takes : Takes size batch after raddr num) :
    AddingOnce before initial known after keys := by
  have firstFree : batch.lb.realNums = num :: after.lb.realNums := by
    have queue := RefPool.free_of_acquire new taken
    rwa [← pool] at queue
  have absent : raddr.key ∉ known := by
    rw [← exactly.same _ List.mem_cons_self, mem_reals_iff, new]
    rintro ⟨other, found⟩
    cases found
  have once := exactly.once
  rw [firstFree, List.length_cons] at once
  obtain ⟨notAgain, later⟩ := once.tail_of_notMem absent
  have outsideInitial : num ∉ initial := by
    intro member
    obtain ⟨key, found⟩ := owned num member
    apply adding.sound.numOf_not_free (adding.kept key num found)
    change num ∈ batch.lb.realNums
    rw [firstFree]
    exact List.mem_cons_self
  have untaken : batch.lb.realPool.refs raddr.key ≤ before.refs raddr.key := by
    rw [RefPool.refs_of_numOf_none new]
    exact Nat.zero_le _
  have others : ∀ key ∈ keys, key ≠ raddr.key := by
    rintro key member rfl
    exact notAgain member
  refine ⟨exactly.exact_take takes outsideInitial untaken, ?_, ?_, ?_,
    pool ▸ exactly.indexed.acquire raddr⟩
  · intro key member other found outside
    obtain ⟨numbered, different⟩ := takes.earlier (others key member) found
    rw [cur] at outside
    rw [takes.nums, List.mem_append, List.mem_singleton, not_or]
    exact ⟨exactly.uncounted key (List.mem_cons_of_mem _ member) other numbered outside, different⟩
  · intro key member
    rw [mem_reals_iff, takes.numOf, if_neg (others key member), ← mem_reals_iff]
    exact exactly.same key (List.mem_cons_of_mem _ member)
  · exact later

private theorem exhausted (exactly : AddingOnce before initial known batch (raddr.key :: keys))
    (empty : batch.lb.realNums = []) (pool : after.lb.realPool = batch.lb.realPool)
    (cur : after.curReals = batch.curReals) (ureals : after.ureals = batch.ureals) :
    AddingOnce before initial known after keys := by
  have table : after.lb.reals = batch.lb.reals := congrArg RefPool.table pool
  have free : after.lb.realNums = [] := (congrArg RefPool.free pool).trans empty
  refine ⟨?_, ?_, ?_, ?_, pool ▸ exactly.indexed⟩
  · rw [pool, ureals]
    exact exactly.exact
  · rw [pool, ureals, cur]
    exact fun key member => exactly.uncounted key (List.mem_cons_of_mem _ member)
  · rw [table]
    exact fun key member => exactly.same key (List.mem_cons_of_mem _ member)
  · rw [free]
    exact AddsOnce.zero known keys

/-- One more real has been added, with a reference for each that is new to the VIP. -/
theorem step (adding : Adding before initial size batch)
    (owned : ∀ num ∈ initial, ∃ key, before.numOf key = some num)
    (exactly : AddingOnce before initial known batch (raddr.key :: keys))
    (adds : Adds batch after raddr) : AddingOnce before initial known after keys := by
  cases adds with
  | held num numbered inside pool cur nums owners =>
      exact exactly.held adding numbered inside pool cur nums
  | known num numbered outside taken pool cur nums owners =>
      have takes := adding.takes_of_known numbered outside taken pool nums owners
      exact exactly.takeKnown adding numbered outside taken pool cur takes
  | unknown num new taken pool cur nums owners =>
      have takes := adding.takes_of_unknown new taken pool nums owners
      exact exactly.takeUnknown adding owned new taken pool cur takes
  | exhausted new empty pool cur ureals owners => exact exactly.exhausted empty pool cur ureals

/-- The whole loop of an addition without repeated new addresses. -/
theorem loop {folly : Folly} {env : Env} {reals : List NewReal}
    (adding : Adding before initial size batch)
    (owned : ∀ num ∈ initial, ∃ key, before.numOf key = some num)
    (exactly : AddingOnce before initial known batch (listedKeys folly reals)) :
    AddingOnce before initial known (reals.foldl (modifyReal folly env .add) batch) [] := by
  induction reals generalizing batch with
  | nil => exact exactly
  | cons real reals ih =>
      rw [List.foldl_cons]
      apply ih (adding.modifyReal real)
      cases parsed : folly.parse real.address with
      | none =>
          rw [listedKeys_cons_none parsed] at exactly
          obtain ⟨pool, cur, ureals, _⟩ := modifyReal_of_invalid parsed env .add batch
          have table : (modifyReal folly env .add batch real).lb.reals = batch.lb.reals :=
            congrArg RefPool.table pool
          have free : (modifyReal folly env .add batch real).lb.realNums = batch.lb.realNums :=
            congrArg RefPool.free pool
          refine ⟨?_, ?_, ?_, ?_, pool ▸ exactly.indexed⟩
          · rw [pool, ureals]
            exact exactly.exact
          · rw [pool, ureals, cur]
            exact exactly.uncounted
          · rw [table]
            exact exactly.same
          · rw [free]
            exact exactly.once
      | some raddr =>
          rw [listedKeys_cons_some parsed] at exactly
          have body : modifyReal folly env .add batch real =
              addReal folly env batch raddr real.weight := by
            simp only [modifyReal, parsed]
          rw [body]
          exact exactly.step adding owned (addReal_adds adding.sound adding.sized real.weight)

end AddingOnce

end KatranLb

end Katran
