import Katran.Lb.Pools
import Katran.Lb.Kernel

/-! # The rings in the kernel

All rings live in one array of the kernel, the ring of a VIP at its number times
the ring size. Only positions that differ from the VIP's copy of its ring are
written, VIP numbers are recycled, and a deleted VIP leaves its ring behind. Still,
every position of a copy that has ever been filled is what the kernel has
(`RingsMirrored`): a new VIP's copy is empty, so its first ring is written in full.
-/

namespace Katran

open Foundation UnorderedMap

namespace KatranLb

variable {folly : Folly} {env : Env} {lb after : KatranLb} {vip : VipKey} {done : Bool}

/-! ## Numbers of a batch -/

/-- Every update of a batch so far has a number below `maxReals`. -/
structure SmallUpdates (batch : RealsBatch) : Prop where
  sound : batch.lb.realPool.Sound IPAddress.key batch.lb.config.maxReals.toNat
  small : ∀ ureal ∈ batch.ureals, ureal.updatedReal.num < batch.lb.config.maxReals.toNat

private theorem SmallUpdates.push {batch : RealsBatch} (updates : SmallUpdates batch) {num : Nat}
    (below : num < batch.lb.config.maxReals.toNat) (folly : Folly) (raddr : IPAddress)
    (weight : UInt32) : SmallUpdates (batch.push folly raddr num weight) where
  sound := updates.sound
  small := by
    intro ureal member
    rcases List.mem_append.mp member with earlier | last
    · exact updates.small ureal earlier
    · obtain rfl := List.mem_singleton.mp last
      exact below

private theorem SmallUpdates.modifyReal {action : ModifyAction} {batch : RealsBatch}
    (updates : SmallUpdates batch) (folly : Folly) (env : Env) (real : NewReal) :
    SmallUpdates (KatranLb.modifyReal folly env action batch real) := by
  have kept := modifyReal_frame folly env action batch real
  have sound : (KatranLb.modifyReal folly env action batch real).lb.realPool.Sound IPAddress.key
      (KatranLb.modifyReal folly env action batch real).lb.config.maxReals.toNat := by
    rw [kept.config]
    exact kept.moves.sound updates.sound
  refine ⟨sound, ?_⟩
  rw [kept.config]
  unfold KatranLb.modifyReal
  split
  · exact updates.small
  next raddr parsed =>
    cases known : batch.lb.reals.lookup raddr.key with
    | some rmeta =>
        have below : rmeta.num < batch.lb.config.maxReals.toNat := updates.sound.num_lt known
        cases action with
        | del =>
            simp only [delReal, known]
            split
            · intro ureal member
              rcases List.mem_append.mp member with earlier | last
              · exact updates.small ureal earlier
              · obtain rfl := List.mem_singleton.mp last
                exact below
            · exact updates.small
        | add =>
            simp only [addReal, known]
            split
            · exact (updates.push below folly raddr real.weight).small
            · exact (updates.push below folly raddr real.weight).small
    | none =>
        cases action with
        | del =>
            simp only [delReal, known]
            exact updates.small
        | add =>
            simp only [addReal, known]
            cases free : batch.lb.realNums with
            | nil =>
                simp only [increaseRefCountForReal, known, free, ↓reduceIte]
                exact updates.small
            | cons rnum realNums =>
                have below : rnum < batch.lb.config.maxReals.toNat := by
                  apply updates.sound.free_lt
                  rw [realPool_free, free]
                  exact List.mem_cons_self
                have first : (batch.lb.increaseRefCountForReal env raddr).1 = rnum := by
                  simp only [increaseRefCountForReal, known, free]
                rw [first]
                split
                · exact updates.small
                · exact (updates.push below folly raddr real.weight).small

/-- The loop only collects numbers below `maxReals`. -/
theorem modifyRealsBatch_small (sound : lb.PoolsSound) (folly : Folly) (env : Env)
    (action : ModifyAction) (reals : List NewReal) (current : Vip) :
    ∀ ureal ∈ (lb.modifyRealsBatch folly env action reals current).ureals,
      ureal.updatedReal.num < lb.config.maxReals.toNat := by
  have start : SmallUpdates
      { lb := lb, curReals := current.getReals env.listing, ureals := [], owners := [] } :=
    ⟨sound.reals, nofun⟩
  have loop : SmallUpdates (lb.modifyRealsBatch folly env action reals current) := by
    unfold modifyRealsBatch
    generalize RealsBatch.mk lb (current.getReals env.listing) [] [] = batch at start
    induction reals generalizing batch with
    | nil => exact start
    | cons real reals ih => exact ih _ (start.modifyReal folly env real)
  have kept := modifyRealsBatch_sameRest folly env lb action reals current
  rw [← kept.config]
  exact loop.small

/-! ## Slices of the array -/

/-- The kernel has what the VIP's copy has, at every position that has been filled. -/
def Mirrors (kernel : ConfigMaps) (current : Vip) : Prop :=
  ∀ position < current.chRingSize, current.chRing.getD position (-1) ≠ -1 →
    kernel.chRings (current.vipNum * current.chRingSize + position) =
      toUInt32 (current.chRing.getD position (-1))

private theorem mirrors_new (kernel : ConfigMaps) (vipNum : Nat) (flags : UInt32) (ringSize : Nat) :
    Mirrors kernel (Vip.new vipNum flags ringSize) := by
  intro position below filled
  simp only [Vip.new, List.getD_eq_getElem?_getD, List.getElem?_replicate] at filled
  split at filled
  · exact (filled rfl).elim
  · exact (filled rfl).elim

/-- Slices of different VIP numbers do not meet. -/
theorem slice_disjoint {size first second position offset : Nat} (different : first ≠ second)
    (below : position < size) (inside : offset < size) :
    first * size + position ≠ second * size + offset := by
  intro equal
  have quotient : ∀ number rest, rest < size → (number * size + rest) / size = number := by
    intro number rest small
    rw [Nat.mul_comm, Nat.mul_add_div (by omega), Nat.div_eq_of_lt small, Nat.add_zero]
  have left := quotient first position below
  rw [equal, quotient second offset inside] at left
  exact different left.symm

/-- In the range of the array the key of a position does not wrap. -/
theorem slot_fits {vipNum maxVips size position : Nat} (known : vipNum < maxVips)
    (below : position < size) (fits : maxVips * size < 2 ^ 32) :
    (vipNum * size + position) % 2 ^ 32 = vipNum * size + position := by
  apply Nat.mod_eq_of_lt
  calc vipNum * size + position < vipNum * size + size := by omega
    _ = (vipNum + 1) * size := by rw [Nat.add_mul, Nat.one_mul]
    _ ≤ maxVips * size := Nat.mul_le_mul_right size known
    _ < 2 ^ 32 := fits

/-- The number of a configured VIP is below `maxVips`. -/
theorem PoolsSound.vipNum_lt (sound : lb.PoolsSound) {current : Vip}
    (found : lb.vips.lookup vip = some current) : current.vipNum < lb.config.maxVips.toNat := by
  apply List.mem_range.mp
  apply sound.vips.mem_iff.mp
  apply List.mem_append_right
  exact List.mem_map.mpr ⟨current, mem_values.mpr ⟨vip, mem_entries.mpr found⟩, rfl⟩

/-- Different VIPs have different numbers. -/
theorem PoolsSound.vipNum_ne (sound : lb.PoolsSound) {other : VipKey} {current another : Vip}
    (found : lb.vips.lookup vip = some current) (read : lb.vips.lookup other = some another)
    (different : other ≠ vip) : another.vipNum ≠ current.vipNum := by
  have nodup : (lb.vipNums ++ (values lb.vips).map Vip.vipNum).Nodup :=
    sound.vips.nodup_iff.mpr List.nodup_range
  have split := (values_perm_cons_erase found).map Vip.vipNum
  have distinct := split.nodup_iff.mp (List.nodup_append.mp nodup).2.1
  rw [List.map_cons, List.nodup_cons] at distinct
  intro equal
  apply distinct.1
  refine List.mem_map.mpr ⟨another, mem_values.mpr ⟨other, mem_entries.mpr ?_⟩, equal⟩
  rw [lookup_erase_eq_ite, if_neg different]
  exact read

/-! ## Operations on VIPs -/

/-- No ring changes, and every VIP has an empty copy of its ring or the copy it had. -/
structure KeepsRings (lb after : KatranLb) : Prop where
  config : after.config = lb.config
  chRings : after.kernel.chRings = lb.kernel.chRings
  vips : ∀ vip current, after.vips.lookup vip = some current →
    (∃ vipNum flags, current = Vip.new vipNum flags lb.config.chRingSize.toNat) ∨
    ∃ earlier flags, lb.vips.lookup vip = some earlier ∧ current =
      { earlier with vipFlags := flags }

/-- Adding a VIP keeps the rings. -/
theorem addVip_keepsRings {flags : UInt32} (reliable : env.Reliable)
    (live : lb.config.testing = false)
    (returned : lb.addVip folly env vip flags = some (done, after)) : KeepsRings lb after := by
  have kernel : after.kernel.chRings = lb.kernel.chRings := by
    rcases addVip_kernel reliable live returned with ⟨rfl, same⟩ | ⟨rfl, written⟩
    · rw [same]
    · rcases addVip_cases returned with
        ⟨wrong, _⟩ | ⟨_, _, _, addr, vipNum, vipNums, parsed, free, _⟩
      · cases wrong
      · rw [written addr vipNum vipNums parsed free]
        rfl
  rcases addVip_cases returned with ⟨_, same⟩ | ⟨_, _, absent, _, vipNum, vipNums, _, free, same⟩
  · refine ⟨same.config, kernel, ?_⟩
    intro other current found
    rw [same.vips] at found
    exact .inr ⟨current, current.vipFlags, found, rfl⟩
  · refine ⟨same.config, kernel, ?_⟩
    intro other current found
    rw [same.vips, lookup_insert_eq_ite] at found
    split at found
    · exact .inl ⟨vipNum, flags, (Option.some.inj found).symm⟩
    · exact .inr ⟨current, current.vipFlags, found, rfl⟩

/-- Removing a VIP keeps the rings. -/
theorem delVip_keepsRings (reliable : env.Reliable) (live : lb.config.testing = false)
    (returned : lb.delVip folly env vip = some (done, after)) : KeepsRings lb after := by
  rcases delVip_kernel reliable live returned with ⟨_, rfl⟩ | ⟨finished, addr, _, kernel⟩
  · exact ⟨rfl, rfl, fun _ current found => .inr ⟨current, current.vipFlags, found, rfl⟩⟩
  · rcases delVip_cases returned with ⟨wrong, _⟩ | ⟨_, _, current, found, same⟩
    · rw [finished] at wrong
      cases wrong
    · have kept := foldl_releaseNum_sameRest lb (current.getReals env.listing)
      refine ⟨same.config.trans kept.config, ?_, ?_⟩
      · rw [kernel]
        rfl
      · intro other another read
        rw [same.vips, lookup_erase_eq_ite] at read
        split at read
        · cases read
        · exact .inr ⟨another, another.vipFlags, read, rfl⟩

/-- Changing the flags of a VIP keeps the rings. -/
theorem modifyVip_keepsRings {flag : UInt32} {set : Bool} (reliable : env.Reliable)
    (live : lb.config.testing = false)
    (returned : lb.modifyVip folly env vip flag set = some (done, after)) :
    KeepsRings lb after := by
  have kernel : after.kernel.chRings = lb.kernel.chRings := by
    rcases modifyVip_kernel reliable live returned with rfl | ⟨addr, current, _, _, kernel⟩
    · rfl
    · rw [kernel]
      rfl
  rcases modifyVip_cases returned with ⟨_, rfl⟩ | ⟨current, vipFlags, found, same⟩
  · exact ⟨rfl, rfl, fun _ current found => .inr ⟨current, current.vipFlags, found, rfl⟩⟩
  · refine ⟨same.config, kernel, ?_⟩
    intro other another read
    rw [same.vips, lookup_insert_eq_ite] at read
    split at read
    next equal =>
      subst equal
      exact .inr ⟨current, vipFlags, found, (Option.some.inj read).symm⟩
    next => exact .inr ⟨another, another.vipFlags, read, rfl⟩

/-- An operation on VIPs keeps the rings, or changes the reals of one. -/
theorem ReliableStep.keepsRings_or {op : Op} (live : lb.config.testing = false)
    (ofVips : op.OfVips) (taken : ReliableStep folly lb op after) :
    KeepsRings lb after ∨ ∃ env action reals vip done, env.Reliable ∧
      lb.modifyRealsForVip folly env action reals vip = some (done, after) := by
  obtain ⟨env, reliable, performed⟩ := taken
  cases ofVips using Op.OfVips.cases with
  | addVip vip flags =>
      obtain ⟨⟨done, _⟩, returned, rfl⟩ := Option.map_eq_some_iff.mp performed
      exact .inl (addVip_keepsRings reliable live returned)
  | delVip vip =>
      obtain ⟨⟨done, _⟩, returned, rfl⟩ := Option.map_eq_some_iff.mp performed
      exact .inl (delVip_keepsRings reliable live returned)
  | modifyVip vip flag set =>
      obtain ⟨⟨done, _⟩, returned, rfl⟩ := Option.map_eq_some_iff.mp performed
      exact .inl (modifyVip_keepsRings reliable live returned)
  | addRealForVip real vip =>
      obtain ⟨⟨done, _⟩, returned, rfl⟩ := Option.map_eq_some_iff.mp performed
      rw [addRealForVip_eq] at returned
      exact .inr ⟨env, .add, [real], vip, done, reliable, returned⟩
  | delRealForVip real vip =>
      obtain ⟨⟨done, _⟩, returned, rfl⟩ := Option.map_eq_some_iff.mp performed
      rw [delRealForVip_eq] at returned
      exact .inr ⟨env, .del, [real], vip, done, reliable, returned⟩
  | modifyRealsForVip action reals vip =>
      obtain ⟨⟨done, _⟩, returned, rfl⟩ := Option.map_eq_some_iff.mp performed
      exact .inr ⟨env, action, reals, vip, done, reliable, returned⟩

/-! ## The invariant -/

/-- Every VIP's ring is up to date in its copy, and the copy in the kernel. -/
structure RingsMirrored (lb : KatranLb) : Prop where
  pools : lb.PoolsSound
  numbered : ∀ vip current, lb.vips.lookup vip = some current →
    current.WellNumbered lb.config.chRingSize.toNat
  mirrored : ∀ vip current, lb.vips.lookup vip = some current → Mirrors lb.kernel current

namespace RingsMirrored

/-- A new balancer has no VIPs whose rings are to be mirrored. -/
theorem new (config : KatranConfig) (features : KatranFeatures) (kernel : ConfigMaps) :
    (KatranLb.new config features kernel).RingsMirrored where
  pools := .new config features kernel
  numbered := by
    intro vip current found
    simp only [KatranLb.new, AList.lookup_empty, reduceCtorEq] at found
  mirrored := by
    intro vip current found
    simp only [KatranLb.new, AList.lookup_empty, reduceCtorEq] at found

/-- No ring changes, so the copies that are left are up to date. -/
theorem keepsRings (rings : lb.RingsMirrored) (pools : after.PoolsSound)
    (kept : KeepsRings lb after) : after.RingsMirrored where
  pools := pools
  numbered := by
    intro vip current found
    rw [kept.config]
    rcases kept.vips vip current found with ⟨vipNum, flags, rfl⟩ | ⟨earlier, flags, read, rfl⟩
    · exact .new vipNum flags _
    · obtain ⟨⟨length, ring⟩, small, size⟩ := rings.numbered vip earlier read
      exact ⟨⟨length, ring⟩, small, size⟩
  mirrored := by
    intro vip current found
    rcases kept.vips vip current found with ⟨vipNum, flags, rfl⟩ | ⟨earlier, flags, read, rfl⟩
    · exact mirrors_new _ vipNum flags _
    · intro position below filled
      rw [kept.chRings]
      exact rings.mirrored vip earlier read position below filled

/-- The delta of a batch brings the slice of its VIP up to date, and leaves the
other slices alone. -/
theorem writeDelta {current updated : Vip} {fuel : Nat} {order : IterOrder}
    {ureals : List UpdateReal} {chPositions : List RealPos} (rings : lb.RingsMirrored)
    (fits : lb.config.maxVips.toNat * lb.config.chRingSize.toNat < 2 ^ 32)
    (found : lb.vips.lookup vip = some current)
    (numbered : updated.WellNumbered lb.config.chRingSize.toNat)
    (ring : current.batchRealsUpdate fuel order ureals = some (chPositions, updated))
    (written : after.kernel.chRings = writeAll lb.kernel.chRings (chPositions.map fun pos =>
      ((updated.vipNum * lb.config.chRingSize.toNat + pos.pos) % 2 ^ 32, pos.real))) :
    Mirrors after.kernel updated ∧ ∀ other another, lb.vips.lookup other = some another →
      other ≠ vip → Mirrors after.kernel another := by
  have size := (rings.numbered vip current found).size
  have below := rings.pools.vipNum_lt found
  have mirrored := rings.mirrored vip current found
  rcases Vip.batchRealsUpdate_cases ring with
    ⟨rfl, rfl, _⟩ | ⟨endpoints, slots, nonempty, lists, generated, rfl, rfl⟩
  · -- no position changes
    have unchanged : after.kernel.chRings = lb.kernel.chRings := written
    constructor
    · intro position inside filled
      rw [unchanged]
      exact mirrored position inside filled
    · intro other another read _ position inside filled
      rw [unchanged]
      exact rings.mirrored other another read position inside filled
  · have length := (generated.slot_owned nonempty (lists.small numbered.small)).1
    have same : slots.length = current.chRing.length :=
      length.trans (rings.numbered vip current found).consistent.length.symm
    have keys : after.kernel.chRings = writeAll lb.kernel.chRings
        ((sync (-1) slots current.chRing).1.map fun change =>
          (current.vipNum * lb.config.chRingSize.toNat + change.1, toUInt32 change.2)) := by
      rw [written, List.map_map]
      congr 1
      apply List.map_congr_left
      rintro ⟨position, value⟩ member
      obtain ⟨inside, _, _⟩ := (mem_sync_delta same position value).mp member
      rw [length, size] at inside
      simp only [Function.comp_apply, slot_fits below inside fits]
    have filledSlot : ∀ position < slots.length, slots.getD position (-1) ≠ -1 := by
      intro position inside
      rw [List.getD_eq_getElem _ _ inside]
      obtain ⟨endpoint, _, owned⟩ := (generated.slot_owned nonempty
        (lists.small numbered.small)).2 _ (List.getElem_mem inside)
      omega
    constructor
    · intro position inside _
      change after.kernel.chRings (current.vipNum * current.chRingSize + position) =
        toUInt32 ((sync (-1) slots current.chRing).2.getD position (-1))
      change position < current.chRingSize at inside
      rw [← length] at inside
      rw [sync_cached same, size, keys]
      apply writeAll_sync same _ toUInt32 _ inside
      intro offset within equal
      rw [← size]
      apply mirrored offset (length ▸ within)
      rw [equal]
      exact filledSlot offset within
    · intro other another read different position inside filled
      have otherSize := (rings.numbered other another read).size
      rw [keys, writeAll_sync_outside same]
      · exact rings.mirrored other another read position inside filled
      · intro offset within
        rw [length, size] at within
        rw [otherSize] at inside ⊢
        exact slice_disjoint (rings.pools.vipNum_ne found read different) inside within

private theorem modifyRealsForVip {action : ModifyAction} {reals : List NewReal}
    (rings : lb.RingsMirrored)
    (pools : after.PoolsSound) (reliable : env.Reliable) (live : lb.config.testing = false)
    (fits : lb.config.maxVips.toNat * lb.config.chRingSize.toNat < 2 ^ 32)
    (few : lb.config.maxReals.toNat < 2 ^ 31)
    (returned : lb.modifyRealsForVip folly env action reals vip = some (done, after)) :
    after.RingsMirrored := by
  rcases modifyRealsForVip_cases returned with
    ⟨_, rfl, _⟩ | ⟨_, forwards, current, chPositions, updated, found, ring, same⟩
  · exact rings
  · have rest := modifyRealsBatch_sameRest folly env lb action reals current
    have kernel := modifyRealsForVip_kernel reliable live forwards found ring returned
    have numbered : updated.WellNumbered lb.config.chRingSize.toNat := by
      apply (rings.numbered vip current found).batchRealsUpdate _ ring
      intro ureal member _
      exact (modifyRealsBatch_small rings.pools folly env action reals current ureal member).trans
        few
    obtain ⟨own, others⟩ := rings.writeDelta fits found numbered ring
      (congrArg ConfigMaps.chRings kernel)
    have config : after.config = lb.config := same.config.trans rest.config
    have vips : ∀ other another, after.vips.lookup other = some another →
        (other = vip ∧ another = updated) ∨
          (other ≠ vip ∧ lb.vips.lookup other = some another) := by
      intro other another read
      rw [same.vips, rest.vips, lookup_insert_eq_ite] at read
      split at read
      next equal => exact .inl ⟨equal, (Option.some.inj read).symm⟩
      next different => exact .inr ⟨different, read⟩
    refine ⟨pools, ?_, ?_⟩
    · intro other another read
      rw [config]
      rcases vips other another read with ⟨rfl, rfl⟩ | ⟨_, earlier⟩
      · exact numbered
      · exact rings.numbered other another earlier
    · intro other another read
      rcases vips other another read with ⟨rfl, rfl⟩ | ⟨different, earlier⟩
      · exact own
      · exact others other another earlier different

/-- Every operation on VIPs keeps the rings. -/
theorem step {op : Op} (rings : lb.RingsMirrored) (live : lb.config.testing = false)
    (fits : lb.config.maxVips.toNat * lb.config.chRingSize.toNat < 2 ^ 32)
    (few : lb.config.maxReals.toNat < 2 ^ 31) (ofVips : op.OfVips)
    (taken : ReliableStep folly lb op after) : after.RingsMirrored := by
  have pools := (rings.pools.step taken.step).1
  rcases taken.keepsRings_or live ofVips with
    kept | ⟨env, action, reals, vip, done, reliable, returned⟩
  · exact rings.keepsRings pools kept
  · exact rings.modifyRealsForVip pools reliable live fits few returned

/-- The kernel's ring of a VIP with a real of nonzero weight points at such reals. -/
theorem slot_active (rings : lb.RingsMirrored) {current : Vip}
    (found : lb.vips.lookup vip = some current)
    (active : Vip.HasActive current.reals) {position : Nat}
    (inside : position < lb.config.chRingSize.toNat) :
    ∃ real, current.reals.lookup
      (lb.kernel.chRings (current.vipNum * lb.config.chRingSize.toNat + position)) = some real ∧
        real.weight ≠ 0 := by
  obtain ⟨consistent, small, size⟩ := rings.numbered vip current found
  rw [← size] at inside ⊢
  have within : position < current.chRing.length := by
    rw [consistent.length]
    exact inside
  obtain ⟨num, real, slot, read, nonzero⟩ :=
    consistent.slot_active small active _ (List.getElem_mem within)
  have copy : current.chRing.getD position (-1) = (num : Int) := by
    rw [List.getD_eq_getElem _ _ within]
    exact slot
  have bounded := small num (mem_of_lookup read)
  rw [rings.mirrored vip current found position inside (by omega), copy,
    toUInt32_natCast (by omega)]
  exact ⟨real, read, nonzero⟩

end RingsMirrored

/-- What a run of operations on VIPs keeps. -/
theorem rings_of_run {config : KatranConfig} {features : KatranFeatures} {kernel : ConfigMaps}
    {ops : List Op} (live : config.testing = false)
    (fits : config.maxVips.toNat * config.chRingSize.toNat < 2 ^ 32)
    (few : config.maxReals.toNat < 2 ^ 31)
    (run : Run (fun before op after => ReliableStep folly before op after ∧ op.OfVips)
      (KatranLb.new config features kernel) ops lb) : lb.RingsMirrored ∧ lb.config = config := by
  apply Run.invariant (fun lb => lb.RingsMirrored ∧ lb.config = config) _ run
  · exact ⟨.new config features kernel, rfl⟩
  · rintro before op after ⟨rings, same⟩ ⟨taken, ofVips⟩
    refine ⟨?_, (rings.pools.step taken.step).2.trans same⟩
    apply rings.step _ _ _ ofVips taken
    · rw [same]
      exact live
    · rw [same]
      exact fits
    · rw [same]
      exact few

/-- **Delta-synchronised rings stay sound.** In every state reached by operations on
VIPs whose bpf calls succeed, the kernel's ring of a VIP with a real of nonzero
weight holds numbers of the VIP's reals of nonzero weight only. -/
theorem kernel_rings_sound {config : KatranConfig} {features : KatranFeatures} {kernel : ConfigMaps}
    {ops : List Op} (live : config.testing = false)
    (fits : config.maxVips.toNat * config.chRingSize.toNat < 2 ^ 32)
    (few : config.maxReals.toNat < 2 ^ 31)
    (run : Run (fun before op after => ReliableStep folly before op after ∧ op.OfVips)
      (KatranLb.new config features kernel) ops lb) {current : Vip}
    (found : lb.vips.lookup vip = some current) (active : Vip.HasActive current.reals)
    {position : Nat} (inside : position < config.chRingSize.toNat) :
    ∃ real, current.reals.lookup
      (lb.kernel.chRings (current.vipNum * config.chRingSize.toNat + position)) = some real ∧
        real.weight ≠ 0 := by
  obtain ⟨rings, same⟩ := rings_of_run live fits few run
  rw [← same] at inside ⊢
  exact rings.slot_active found active inside

/-- A VIP number is recycled while its slice still has the ring of the deleted VIP,
and the new VIP is drained and filled again. -/
def recycled : List Op :=
  [.addVip ⟨"10.200.1.1", 80, 6⟩ 0, .addRealForVip ⟨"10.0.0.1", 1⟩ ⟨"10.200.1.1", 80, 6⟩,
    .delVip ⟨"10.200.1.1", 80, 6⟩, .addVip ⟨"10.200.1.2", 80, 6⟩ 0,
    .addVip ⟨"10.200.1.2", 443, 6⟩ 0,
    .modifyRealsForVip .add [⟨"10.0.0.2", 1⟩, ⟨"10.0.0.3", 1⟩] ⟨"10.200.1.2", 443, 6⟩,
    .modifyRealsForVip .add [⟨"10.0.0.2", 0⟩, ⟨"10.0.0.3", 0⟩] ⟨"10.200.1.2", 443, 6⟩,
    .addRealForVip ⟨"10.0.0.3", 2⟩ ⟨"10.200.1.2", 443, 6⟩]

/-- Operations on VIPs, made one after the other with succeeding bpf calls. -/
def vipOpsAll (lb : KatranLb) (ops : List Op) : Option KatranLb :=
  Run.execAll (fun lb op => if op.OfVips then lb.perform .small (.plain 20) op else none) lb ops

/-- Calls on VIPs that are performed one after the other are a run. -/
theorem run_of_vipOpsAll {ops : List Op} (performed : lb.vipOpsAll ops = some after) :
    Run (fun before op after => ReliableStep .small before op after ∧ op.OfVips) lb ops after := by
  apply Run.of_execAll _ performed
  intro before op next computed
  split at computed
  next ofVips => exact ⟨⟨.plain 20, Env.plain_reliable 20, computed⟩, ofVips⟩
  next => cases computed

private theorem recycled_returns : (tiny.vipOpsAll recycled).isSome = true := by decide +kernel

/-- A VIP that gets the number of another one has a ring of its own reals. -/
theorem kernel_rings_sound_recycled :
    ∃ lb, tiny.vipOpsAll recycled = some lb ∧ ∃ current,
      lb.vips.lookup ⟨"10.200.1.2", 443, 6⟩ = some current ∧ current.vipNum = 0 ∧
        ∀ position < 3, ∃ real, current.reals.lookup (lb.kernel.chRings position) = some real ∧
          real.weight ≠ 0 := by
  have returned := (Option.some_get recycled_returns).symm
  refine ⟨_, returned, ?_⟩
  have found : ((tiny.vipOpsAll recycled).get recycled_returns).vips.lookup
      ⟨"10.200.1.2", 443, 6⟩ ≠ none := by decide +kernel
  obtain ⟨current, read⟩ := Option.ne_none_iff_exists'.mp found
  have facts : ∀ current ∈ ((tiny.vipOpsAll recycled).get recycled_returns).vips.lookup
      ⟨"10.200.1.2", 443, 6⟩, current.vipNum = 0 ∧
        current.reals.lookup 2 = some { weight := 2, hash := 0x0300000a } := by
    decide +kernel
  obtain ⟨number, weighted⟩ := facts current read
  refine ⟨current, read, number, ?_⟩
  intro position inside
  have slot := kernel_rings_sound rfl (by decide) (by decide) (run_of_vipOpsAll returned) read
    ⟨2, _, weighted, by decide⟩ inside
  rwa [number, Nat.zero_mul, Nat.zero_add] at slot

end KatranLb

end Katran
