import Katran.Lb.Reports

/-! # Reals are placed by the hash of their address

The ring of a VIP is generated from the hashes that its reals were added with. A real of
weight zero may have been entered without one, but every real that takes part in the ring
has the hash of the address that owns its number (`Hashed`), however often numbers were
given back and handed out again. So the ring depends on addresses and weights only.

Equal addresses have equal hashes in the address library, also if one of them is the
mapped form of the other (`Folly.HashesKeys`).
-/

namespace Katran

open Foundation UnorderedMap

/-- Addresses that compare equal have one hash. -/
def Folly.HashesKeys (folly : Folly) : Prop := ∀ addr, folly.hash addr = folly.hash addr.key

namespace KatranLb

/-- Every real of nonzero weight has the hash of the owner of its number. -/
def HashedBy (folly : Folly) (pool : RefPool IPAddress IPAddress)
    (reals : UnorderedMap Nat VipRealMeta) : Prop :=
  ∀ key num entry, pool.numOf key = some num → reals.lookup num = some entry →
    entry.weight ≠ 0 → entry.hash = folly.hash key

namespace HashedBy

variable {folly : Folly} {pool after : RefPool IPAddress IPAddress}
  {reals updated : UnorderedMap Nat VipRealMeta}

/-- Owners may be forgotten, and so may reals. -/
theorem of_fewer (hashed : HashedBy folly pool reals)
    (owners : ∀ key num, num ∈ updated → after.numOf key = some num → pool.numOf key = some num)
    (fewer : ∀ num entry, updated.lookup num = some entry → reals.lookup num = some entry) :
    HashedBy folly after updated := by
  intro key num entry numbered found nonzero
  exact hashed key num entry (owners key num (mem_of_lookup found) numbered) (fewer num entry found)
    nonzero

/-- An entry that an addition leaves for its real is the one it asks for, or the one that
was there, or has weight zero. -/
theorem lookup_applyUpdates_last {ureals : List UpdateReal} {real : Endpoint} {entry : VipRealMeta}
    (found : (Vip.applyUpdates reals (ureals ++ [⟨.add, real⟩])).1.lookup real.num = some entry)
    (nonzero : entry.weight ≠ 0) :
    entry.hash = real.hash ∨ (Vip.applyUpdates reals ureals).1.lookup real.num = some entry := by
  have last : Vip.applyUpdates reals (ureals ++ [⟨.add, real⟩]) =
      Vip.applyUpdate ((Vip.applyUpdates reals ureals).1, (Vip.applyUpdates reals ureals).2)
        ⟨.add, real⟩ := by
    simp only [Vip.applyUpdates, List.foldl_append, List.foldl_cons, List.foldl_nil]
  rw [last] at found
  simp only [Vip.applyUpdate] at found
  split at found
  · rw [AList.lookup_insert] at found
    exact .inl (by rw [← Option.some.inj found])
  · rw [AList.lookup_insert] at found
    cases known : (Vip.applyUpdates reals ureals).1.lookup real.num with
    | none =>
        rw [known, Option.getD_none] at found
        rw [← Option.some.inj found] at nonzero
        exact (nonzero rfl).elim
    | some current =>
        rw [known, Option.getD_some] at found
        exact .inr found

/-- An addition for an address whose number is known afterwards. -/
theorem push {current : Vip} {batch later : RealsBatch} {raddr : IPAddress} {num weight size : Nat}
    (hashes : folly.HashesKeys)
    (hashed : HashedBy folly batch.lb.realPool (batch.realsSoFar current))
    (owned : ∀ other ∈ batch.realsSoFar current, ∃ key, batch.lb.realPool.numOf key = some other)
    (sound : later.lb.realPool.Sound IPAddress.key size)
    (ureals : later.ureals = batch.ureals ++ [⟨.add, ⟨num, weight, folly.hash raddr⟩⟩])
    (grown : ∀ key other, batch.lb.realPool.numOf key = some other →
      later.lb.realPool.numOf key = some other)
    (numbered : later.lb.realPool.numOf raddr.key = some num)
    (others : ∀ key, key ≠ raddr.key →
      later.lb.realPool.numOf key = batch.lb.realPool.numOf key) :
    HashedBy folly later.lb.realPool (later.realsSoFar current) := by
  intro key other entry owner found nonzero
  unfold RealsBatch.realsSoFar at found
  rw [ureals] at found
  by_cases same : other = num
  · subst same
    obtain rfl := sound.numOf_inj owner numbered
    have read : (Vip.applyUpdates current.reals (batch.ureals ++
        [⟨.add, ⟨other, weight, folly.hash raddr⟩⟩])).1.lookup
          (Endpoint.num ⟨other, weight, folly.hash raddr⟩) = some entry := found
    rcases lookup_applyUpdates_last read nonzero with asked | known
    · rw [asked]
      exact hashes raddr
    · -- the number was in use, and its owner has not changed
      obtain ⟨key, earlier⟩ := owned other (mem_of_lookup known)
      obtain rfl := sound.numOf_inj (grown key other earlier) numbered
      exact hashed _ other entry earlier known nonzero
  · rw [(Vip.lookup_applyUpdates_add current.reals batch.ureals
      ⟨num, weight, folly.hash raddr⟩).2 other same] at found
    have different : key ≠ raddr.key := by
      rintro rfl
      rw [numbered] at owner
      exact same (Option.some.inj owner).symm
    rw [others key different] at owner
    exact hashed key other entry owner found nonzero

end HashedBy

variable {folly : Folly} {env : Env} {lb after : KatranLb} {vip : VipKey}

/-- What every addition of a batch keeps. -/
theorem HashedBy.modifyReal {current : Vip} {batch : RealsBatch} {weightOf : IPAddress → Option Nat}
    {real : NewReal} (hashes : folly.HashesKeys)
    (extending : Extending lb vip current batch weightOf)
    (hashed : HashedBy folly batch.lb.realPool (batch.realsSoFar current)) :
    HashedBy folly (KatranLb.modifyReal folly env .add batch real).lb.realPool
      ((KatranLb.modifyReal folly env .add batch real).realsSoFar current) := by
  cases parsed : folly.parse real.address with
  | none =>
      obtain ⟨pool, _, ureals, _⟩ := modifyReal_of_invalid parsed env .add batch
      unfold RealsBatch.realsSoFar
      rw [pool, ureals]
      exact hashed
  | some raddr =>
      have body : KatranLb.modifyReal folly env .add batch real =
          addReal folly env batch raddr real.weight := by
        simp only [KatranLb.modifyReal, parsed]
      rw [body]
      have pushes := addReal_pushes folly env batch raddr real.weight
      have owned := extending.represents.owned
      cases addReal_adds extending.sound extending.sized real.weight with
      | held num numbered _ pool _ nums _ =>
          refine hashed.push hashes owned (pool ▸ extending.sound) (ureals_of_numsOf pushes nums) ?_
            ?_ ?_
          · rw [pool]
            exact fun _ _ found => found
          · rw [pool, numbered]
          · rw [pool]
            exact fun _ _ => rfl
      | known num numbered _ taken pool _ nums _ =>
          have numOf (key : IPAddress) := RefPool.numOf_acquire_of_numOf numbered taken key
          rw [← pool] at numOf
          refine hashed.push hashes owned (pool ▸ extending.sound.acquire raddr)
            (ureals_of_numsOf pushes nums) ?_ ?_ ?_
          · intro key other found
            rw [numOf, found]
          · rw [numOf, numbered]
          · exact fun key _ => numOf key
      | unknown num new taken pool _ nums _ =>
          have numOf (key : IPAddress) := RefPool.numOf_acquire taken key
          rw [← pool] at numOf
          refine hashed.push hashes owned (pool ▸ extending.sound.acquire raddr)
            (ureals_of_numsOf pushes nums) ?_ ?_ ?_
          · intro key other found
            rw [numOf]
            split
            next same =>
              subst same
              rw [new] at found
              cases found
            next => exact found
          · rw [numOf, if_pos rfl]
          · intro key different
            rw [numOf, if_neg different]
      | exhausted _ _ pool _ ureals _ =>
          unfold RealsBatch.realsSoFar
          rw [pool, ureals]
          exact hashed

/-- The whole loop of an addition. -/
theorem HashedBy.loop {current : Vip} {reals : List NewReal} {batch : RealsBatch}
    {weightOf : IPAddress → Option Nat} (hashes : folly.HashesKeys)
    (owned : ∀ num, 0 < lb.otherClaims vip num → ∃ key, lb.realPool.numOf key = some num)
    (few : ∀ num, lb.otherClaims vip num + 1 < 2 ^ 32)
    (extending : Extending lb vip current batch weightOf)
    (hashed : HashedBy folly batch.lb.realPool (batch.realsSoFar current)) :
    HashedBy folly (reals.foldl (KatranLb.modifyReal folly env .add) batch).lb.realPool
      ((reals.foldl (KatranLb.modifyReal folly env .add) batch).realsSoFar current) := by
  induction reals generalizing batch weightOf with
  | nil => exact hashed
  | cons real reals ih =>
      have tracks : Extending.Tracks batch batch.lb.reals.keys batch.lb.realNums.length :=
        ⟨fun key => mem_reals_iff batch.lb key, rfl⟩
      have extended : Extending lb vip current
          ([real].foldl (KatranLb.modifyReal folly env .add) batch) _ :=
        extending.loop owned few tracks
      exact ih extended (hashed.modifyReal hashes extending)

/-- Every real of every VIP that takes part in a ring has the hash of its address. -/
def Hashed (folly : Folly) (lb : KatranLb) : Prop :=
  ∀ vip current, lb.vips.lookup vip = some current → HashedBy folly lb.realPool current.reals

namespace Hashed

variable {realsOf : VipKey → IPAddress → Option Nat} {done : Bool}

/-- A new balancer has no reals to hash. -/
theorem new (config : KatranConfig) (features : KatranFeatures) (kernel : ConfigMaps) :
    (KatranLb.new config features kernel).Hashed folly := by
  intro vip current found
  simp only [KatranLb.new, AList.lookup_empty, reduceCtorEq] at found

private theorem addVip {flags : UInt32} (hashed : lb.Hashed folly)
    (returned : lb.addVip folly env vip flags = some (done, after)) : after.Hashed folly := by
  intro other current found
  rcases addVip_cases returned with ⟨_, same⟩ | ⟨_, _, _, _, vipNum, vipNums, _, _, same⟩
  · rw [same.vips] at found
    rw [same.realPool]
    exact hashed other current found
  · rw [same.vips, lookup_insert_eq_ite] at found
    split at found
    · obtain rfl := Option.some.inj found
      intro key num entry _ read
      exact (AList.notMem_empty num (mem_of_lookup read)).elim
    · rw [same.realPool]
      exact hashed other current found

private theorem modifyVip {flag : UInt32} {set : Bool} (hashed : lb.Hashed folly)
    (returned : lb.modifyVip folly env vip flag set = some (done, after)) :
    after.Hashed folly := by
  rcases modifyVip_cases returned with ⟨_, rfl⟩ | ⟨current, vipFlags, found, same⟩
  · exact hashed
  · intro other another read
    rw [same.vips, lookup_insert_eq_ite] at read
    rw [same.realPool]
    split at read
    next equal =>
      obtain rfl := Option.some.inj read
      subst equal
      exact hashed other current found
    next => exact hashed other another read

private theorem delVip (hashed : lb.Hashed folly) (mapped : Mapped lb realsOf)
    (returned : lb.delVip folly env vip = some (done, after)) : after.Hashed folly := by
  rcases delVip_cases returned with ⟨_, rfl, _⟩ | ⟨_, _, current, found, same⟩
  · exact hashed
  · have owned : ∀ num ∈ current.getReals env.listing, ∃ key, lb.realPool.numOf key = some num :=
      fun num member => (mapped.vips vip current found).owned num (mem_getReals.mp member)
    obtain ⟨keys, _, released, _⟩ := foldl_releaseNum_realPool mapped.pools.reals
      (nodup_getReals env.listing current) owned
    have pool : after.realPool = lb.realPool.releaseAll (2 ^ 32) keys :=
      same.realPool.trans released
    intro other another read
    rw [same.vips, lookup_erase_eq_ite] at read
    split at read
    · cases read
    · rw [pool]
      exact (hashed other another read).of_fewer
        (fun key num _ numbered => RefPool.numOf_of_releaseAll numbered) fun _ _ => id

/-- The VIPs after a batch for one of them. -/
theorem of_batch {updated : Vip} (hashed : lb.Hashed folly)
    (vips : after.vips = lb.vips.insert vip updated)
    (own : HashedBy folly after.realPool updated.reals)
    (owners : ∀ other current, other ≠ vip → lb.vips.lookup other = some current →
      ∀ key num, num ∈ current.reals → after.realPool.numOf key = some num →
        lb.realPool.numOf key = some num) : after.Hashed folly := by
  intro other current read
  rw [vips, lookup_insert_eq_ite] at read
  split at read
  · obtain rfl := Option.some.inj read
    exact own
  next different =>
    exact (hashed other current read).of_fewer (owners other current different read) fun _ _ => id

private theorem modifyRealsForVip {action : ModifyAction} {reals : List NewReal}
    (hashed : lb.Hashed folly) (hashes : folly.HashesKeys) (mapped : Mapped lb realsOf)
    (distinct : action = .del → (listedKeys folly reals).Nodup)
    (returned : lb.modifyRealsForVip folly env action reals vip = some (done, after)) :
    after.Hashed folly := by
  rcases modifyRealsForVip_cases returned with
    ⟨_, rfl, _⟩ | ⟨_, _, current, chPositions, updated, found, ring, same⟩
  · exact hashed
  have rest := modifyRealsBatch_sameRest folly env lb action reals current
  have vips : after.vips = lb.vips.insert vip updated := by
    rw [same.vips, ← rest.vips]
  have pool : after.realPool = (lb.modifyRealsBatch folly env action reals current).lb.realPool :=
    same.realPool
  have soFar : updated.reals =
      (lb.modifyRealsBatch folly env action reals current).realsSoFar current :=
    (Vip.reals_of_batchRealsUpdate ring).1
  cases action with
  | add =>
      have extending := mapped.extending found env
      have tracks : Extending.Tracks
          { lb := lb, curReals := current.getReals env.listing, ureals := [], owners := [] }
          lb.reals.keys lb.realNums.length :=
        ⟨fun key => mem_reals_iff lb key, rfl⟩
      have extended :
          Extending lb vip current (lb.modifyRealsBatch folly env .add reals current) _ :=
        extending.loop (fun _ held => mapped.owner_of_otherClaims held)
          (mapped.otherClaims_lt found) tracks
      have own : HashedBy folly (lb.modifyRealsBatch folly env .add reals current).lb.realPool
          ((lb.modifyRealsBatch folly env .add reals current).realsSoFar current) :=
        HashedBy.loop hashes (fun _ held => mapped.owner_of_otherClaims held)
          (mapped.otherClaims_lt found) extending (hashed vip current found)
      refine hashed.of_batch vips (by rw [pool, soFar]; exact own) ?_
      intro other entry _ read key num member numbered
      obtain ⟨owner, owned⟩ := (mapped.vips other entry read).owned num member
      rw [pool] at numbered
      rwa [extended.sound.numOf_inj numbered (extended.kept owner num owned)]
  | del =>
      obtain ⟨released, removes, _⟩ := exists_removes_of_nodup folly env reals
        { lb := lb, curReals := current.getReals env.listing, ureals := [], owners := [] }
        (distinct rfl)
      obtain ⟨removals, appended, deletes, _⟩ := removes.ureals
      have ureals : (lb.modifyRealsBatch folly env .del reals current).ureals = removals :=
        appended.trans (List.nil_append _)
      have freed : after.realPool = lb.realPool.releaseAll (2 ^ 32) released :=
        pool.trans removes.pool
      rw [ureals] at ring
      have fewer (num : Nat) (entry : VipRealMeta) (read : updated.reals.lookup num = some entry) :
          current.reals.lookup num = some entry := by
        rw [(Vip.reals_of_batchRealsUpdate ring).1] at read
        rw [Vip.applyUpdates, Vip.lookup_applyUpdates_del deletes num] at read
        split at read
        · cases read
        · exact read
      refine hashed.of_batch vips ?_ ?_
      · rw [freed]
        exact (hashed vip current found).of_fewer
          (fun key num _ numbered => RefPool.numOf_of_releaseAll numbered) fewer
      · intro other entry _ _ key num _ numbered
        rw [freed] at numbered
        exact RefPool.numOf_of_releaseAll numbered

/-- The reals of a VIP are hashed by their addresses after a call. -/
theorem step {op : Op} (hashed : lb.Hashed folly) (hashes : folly.HashesKeys)
    (mapped : Mapped lb realsOf) (once : op.RemovesOnce folly) (taken : Step folly lb op after) :
    after.Hashed folly := by
  obtain ⟨env, performed⟩ := taken
  cases op with
  | addVip vip flags =>
      obtain ⟨⟨done, _⟩, returned, rfl⟩ := Option.map_eq_some_iff.mp performed
      exact hashed.addVip returned
  | delVip vip =>
      obtain ⟨⟨done, _⟩, returned, rfl⟩ := Option.map_eq_some_iff.mp performed
      exact hashed.delVip mapped returned
  | modifyVip vip flag set =>
      obtain ⟨⟨done, _⟩, returned, rfl⟩ := Option.map_eq_some_iff.mp performed
      exact hashed.modifyVip returned
  | addRealForVip real vip =>
      obtain ⟨⟨done, _⟩, returned, rfl⟩ := Option.map_eq_some_iff.mp performed
      rw [addRealForVip_eq] at returned
      exact hashed.modifyRealsForVip hashes mapped (fun del => by cases del) returned
  | delRealForVip real vip =>
      obtain ⟨⟨done, _⟩, returned, rfl⟩ := Option.map_eq_some_iff.mp performed
      rw [delRealForVip_eq] at returned
      refine hashed.modifyRealsForVip hashes mapped (fun _ => ?_) returned
      cases parsed : folly.parse real.address with
      | none =>
          rw [listedKeys_cons_none parsed]
          exact List.nodup_nil
      | some raddr =>
          rw [listedKeys_cons_some parsed]
          exact List.nodup_singleton raddr.key
  | modifyRealsForVip action reals vip =>
      obtain ⟨⟨done, _⟩, returned, rfl⟩ := Option.map_eq_some_iff.mp performed
      refine hashed.modifyRealsForVip hashes mapped ?_ returned
      rintro rfl
      exact once
  | _ => exact False.elim once

end Hashed

end KatranLb

end Katran
