import Katran.Lb.Holders

/-! # No dangling real

Every operation keeps the holders of reals, except for one batch: a removal that
lists an address twice gives up two references for one holder, because the copy
of the VIP's numbers it consults is not updated. Without such a batch, and as
long as no 32-bit count overflows, no number of a VIP, rule or mapping is ever
free or owned by another address (`no_dangling_real`).
-/

namespace Katran

open Foundation UnorderedMap

namespace KatranLb

/-! ## VIP operations -/

/-- The claims on a number after a VIP is added. -/
theorem vipClaims_insert_new {lb : KatranLb} {vip : VipKey} (absent : vip ∉ lb.vips) (added : Vip)
    (num : Nat) :
    vipClaims { lb with vips := lb.vips.insert vip added } num =
      lb.vipClaims num + if num ∈ added.reals then 1 else 0 := by
  unfold vipClaims
  rw [countP_values_insert, erase_of_lookup_none (AList.lookup_eq_none.mpr absent)]
  simp only [decide_eq_true_eq]

/-- The claims on a number after a VIP is removed. -/
theorem vipClaims_erase {lb : KatranLb} {vip : VipKey} {current : Vip}
    (found : lb.vips.lookup vip = some current) (num : Nat) :
    vipClaims { lb with vips := lb.vips.erase vip } num + (if num ∈ current.reals then 1 else 0) =
      lb.vipClaims num := by
  have counted := countP_values_erase found fun vip => decide (num ∈ vip.reals)
  simp only [decide_eq_true_eq] at counted
  exact counted

/-- The claims on a number after the reals of a VIP have changed. -/
theorem vipClaims_insert {lb : KatranLb} {vip : VipKey} {current : Vip}
    (found : lb.vips.lookup vip = some current) (updated : Vip) (num : Nat) :
    vipClaims { lb with vips := lb.vips.insert vip updated } num +
        (if num ∈ current.reals then 1 else 0) =
      lb.vipClaims num + if num ∈ updated.reals then 1 else 0 := by
  have split := countP_values_insert lb.vips vip updated fun vip => decide (num ∈ vip.reals)
  have erased := countP_values_erase found fun vip => decide (num ∈ vip.reals)
  simp only [decide_eq_true_eq] at split erased
  unfold vipClaims
  rw [split]
  omega

/-- VIPs that stay as they are claim what they did. -/
theorem vipClaims_congr {before after : KatranLb} (same : after.vips = before.vips) (num : Nat) :
    after.vipClaims num = before.vipClaims num := by
  unfold vipClaims
  rw [same]

/-- The reals that are visited are those of the VIP. -/
theorem mem_getReals {order : IterOrder} {vip : Vip} {num : Nat} :
    num ∈ vip.getReals order ↔ num ∈ vip.reals := by
  unfold Vip.getReals
  rw [((order.visit_perm vip.reals.entries).map Sigma.fst).mem_iff]
  exact AList.mem_keys.symm

/-- No real is visited twice. -/
theorem nodup_getReals (order : IterOrder) (vip : Vip) : (vip.getReals order).Nodup := by
  unfold Vip.getReals
  rw [((order.visit_perm vip.reals.entries).map Sigma.fst).nodup_iff]
  exact vip.reals.nodupKeys

/-- Giving up numbers in use releases their owners. -/
theorem foldl_releaseNum_realPool {lb : KatranLb} {size : Nat} {nums : List Nat}
    (sound : lb.realPool.Sound IPAddress.key size) (distinct : nums.Nodup)
    (owned : ∀ num ∈ nums, ∃ key, lb.realPool.numOf key = some num) :
    ∃ keys, keys.Nodup ∧
      (nums.foldl releaseNum lb).realPool = lb.realPool.releaseAll (2 ^ 32) keys ∧
      ∀ key, key ∈ keys ↔ ∃ num ∈ nums, lb.realPool.numOf key = some num := by
  induction nums generalizing lb with
  | nil =>
      refine ⟨[], List.nodup_nil, rfl, ?_⟩
      intro key
      simp only [List.not_mem_nil, false_and, exists_false]
  | cons num nums ih =>
      rw [List.nodup_cons] at distinct
      obtain ⟨owner, ownerNum⟩ := owned num List.mem_cons_self
      obtain ⟨name, touched, rfl⟩ := sound.touch_of_numOf ownerNum
      obtain ⟨read, untouched⟩ := realOfNum_realPool lb num
      rw [touched] at read untouched
      have released : (lb.releaseNum num).realPool = lb.realPool.release (2 ^ 32) name.key := by
        unfold releaseNum
        dsimp only
        rw [read, decreaseRefCountForReal_realPool, untouched]
      have kept (key : IPAddress) (left : Nat) (found : lb.realPool.numOf key = some left)
          (different : left ≠ num) : (lb.releaseNum num).realPool.numOf key = some left := by
        have unreleased : key ≠ name.key := by
          rintro rfl
          rw [ownerNum] at found
          exact different (Option.some.inj found).symm
        rw [released, RefPool.numOf_release_of_ne unreleased, found]
      have laterOwned : ∀ left ∈ nums, ∃ key, (lb.releaseNum num).realPool.numOf key =
          some left := by
        intro left member
        obtain ⟨key, found⟩ := owned left (List.mem_cons_of_mem _ member)
        have different : left ≠ num := by
          rintro rfl
          exact distinct.1 member
        exact ⟨key, kept key left found different⟩
      obtain ⟨keys, nodup, pool, members⟩ := ih (released ▸ sound.release name.key) distinct.2
        laterOwned
      have earlier (key : IPAddress) (left : Nat)
          (found : (lb.releaseNum num).realPool.numOf key = some left) :
          lb.realPool.numOf key = some left := by
        rw [released] at found
        exact RefPool.numOf_of_release found
      refine ⟨name.key :: keys, ?_, ?_, ?_⟩
      · rw [List.nodup_cons]
        refine ⟨?_, nodup⟩
        intro again
        obtain ⟨left, member, found⟩ := (members _).mp again
        have same := earlier _ left found
        rw [ownerNum] at same
        rw [Option.some.inj same] at distinct
        exact distinct.1 member
      · rw [List.foldl_cons, pool, released]
        rfl
      · intro key
        rw [List.mem_cons, members]
        constructor
        · rintro (rfl | ⟨left, member, found⟩)
          · exact ⟨num, List.mem_cons_self, ownerNum⟩
          · exact ⟨left, List.mem_cons_of_mem _ member, earlier key left found⟩
        · rintro ⟨left, member, found⟩
          rcases List.mem_cons.mp member with rfl | later
          · exact .inl (sound.numOf_inj found ownerNum)
          · have different : left ≠ num := by
              rintro rfl
              exact distinct.1 later
            exact .inr ⟨left, later, kept key left found different⟩

namespace Held

variable {lb after : KatranLb} {realOf : VipKey → Nat → Option IPAddress}
  {dstOf : CIDRNetwork → Option IPAddress}

private theorem addVip {folly : Folly} {env : Env} {vip : VipKey} {flags : UInt32} {done : Bool}
    (held : Held lb realOf dstOf) (pools : after.PoolsSound)
    (returned : lb.addVip folly env vip flags = some (done, after)) : Held after realOf dstOf := by
  rcases addVip_cases returned with ⟨_, same⟩ | ⟨_, _, absent, _, vipNum, vipNums, _, free, same⟩
  · exact held.sameTables same
  · have empty (num : Nat) : num ∉ (Vip.new vipNum flags lb.config.chRingSize.toNat).reals :=
      AList.notMem_empty num
    apply held.vipsOnly pools same.realPool _ _ same.lpmSrcMapping same.quicMapping
    · intro other current num found member
      rw [same.vips] at found
      change (lb.vips.insert vip _).lookup other = some current at found
      rw [lookup_insert_eq_ite] at found
      by_cases equal : other = vip
      · rw [if_pos equal] at found
        obtain rfl := Option.some.inj found
        exact (empty num member).elim
      · rw [if_neg equal] at found
        exact ⟨current, found, member⟩
    · intro num
      have inserted := vipClaims_insert_new absent
        (Vip.new vipNum flags lb.config.chRingSize.toNat) num
      simp only [empty num, ↓reduceIte, Nat.add_zero] at inserted
      rw [vipClaims_congr same.vips]
      exact inserted

private theorem modifyVip {folly : Folly} {env : Env} {vip : VipKey} {flag : UInt32}
    {set done : Bool} (held : Held lb realOf dstOf) (pools : after.PoolsSound)
    (returned : lb.modifyVip folly env vip flag set = some (done, after)) :
    Held after realOf dstOf := by
  rcases modifyVip_cases returned with ⟨_, rfl⟩ | ⟨current, vipFlags, found, same⟩
  · exact held
  · apply held.vipsOnly pools same.realPool _ _ same.lpmSrcMapping same.quicMapping
    · intro other entry num read member
      rw [same.vips] at read
      change (lb.vips.insert vip _).lookup other = some entry at read
      rw [lookup_insert_eq_ite] at read
      by_cases equal : other = vip
      · subst equal
        rw [if_pos rfl] at read
        obtain rfl := Option.some.inj read
        exact ⟨current, found, member⟩
      · rw [if_neg equal] at read
        exact ⟨entry, read, member⟩
    · intro num
      rw [vipClaims_congr same.vips]
      have inserted := vipClaims_insert found { current with vipFlags := vipFlags } num
      exact Nat.add_right_cancel inserted

/-- Holders after the VIPs and the pool have changed, and nothing else. -/
theorem claims_of_vips {before after : KatranLb}
    (rules : after.lpmSrcMapping = before.lpmSrcMapping)
    (quic : after.quicMapping = before.quicMapping) (key : IPAddress) (num : Nat) :
    after.claims key num + before.vipClaims num = before.claims key num + after.vipClaims num := by
  simp only [claims, ruleClaims, quicClaims, rules, quic]
  omega

/-- Deleting a VIP releases the reals it holds. -/
theorem delVip_pool (held : Held lb realOf dstOf) {vip : VipKey} {current : Vip}
    (found : lb.vips.lookup vip = some current) (env : Env) :
    ∃ keys, keys.Nodup ∧ ((current.getReals env.listing).foldl releaseNum lb).realPool =
        lb.realPool.releaseAll (2 ^ 32) keys ∧
      ∀ key num, lb.realPool.numOf key = some num → (key ∈ keys ↔ num ∈ current.reals) := by
  have owned : ∀ num ∈ current.getReals env.listing, ∃ key, lb.realPool.numOf key = some num := by
    intro num member
    obtain ⟨added, _, numbered⟩ := held.vips vip current num found (mem_getReals.mp member)
    exact ⟨added.key, numbered⟩
  obtain ⟨keys, distinct, pool, members⟩ := foldl_releaseNum_realPool held.pools.reals
    (nodup_getReals env.listing current) owned
  refine ⟨keys, distinct, pool, ?_⟩
  intro key num numbered
  rw [members]
  constructor
  · rintro ⟨other, member, same⟩
    rw [numbered] at same
    rw [Option.some.inj same]
    exact mem_getReals.mp member
  · intro member
    exact ⟨num, mem_getReals.mpr member, numbered⟩

private theorem delVip {folly : Folly} {env : Env} {vip : VipKey} {done : Bool}
    (held : Held lb realOf dstOf) (pools : after.PoolsSound)
    (returned : lb.delVip folly env vip = some (done, after)) : Held after realOf dstOf := by
  rcases delVip_cases returned with ⟨_, rfl, _⟩ | ⟨_, _, current, found, same⟩
  · exact held
  · have rest := foldl_releaseNum_sameRest lb (current.getReals env.listing)
    have rules : after.lpmSrcMapping = lb.lpmSrcMapping :=
      same.lpmSrcMapping.trans rest.lpmSrcMapping
    have quic : after.quicMapping = lb.quicMapping := same.quicMapping.trans rest.quicMapping
    obtain ⟨keys, distinct, pool, members⟩ := held.delVip_pool found env
    apply held.releaseAll pools distinct (same.realPool.trans pool)
    · intro other entry num read member
      rw [same.vips] at read
      change (lb.vips.erase vip).lookup other = some entry at read
      rw [lookup_erase_eq_ite] at read
      split at read
      · cases read
      · exact ⟨entry, read, member⟩
    · rw [rules]
      exact fun _ _ read => read
    · rw [quic]
      exact fun _ member => member
    · intro key num numbered
      have total := claims_of_vips rules quic key num
      have erased := vipClaims_erase found num
      have vips : after.vipClaims num = vipClaims { lb with vips := lb.vips.erase vip } num :=
        vipClaims_congr same.vips num
      simp only [members key num numbered]
      omega

end Held

/-! ## Reals of a VIP -/

/-- The updates of a batch carry its action. -/
theorem foldl_modifyReal_action (folly : Folly) (env : Env) (action : ModifyAction)
    (reals : List NewReal) {batch : RealsBatch}
    (initial : ∀ ureal ∈ batch.ureals, ureal.action = action) :
    ∀ ureal ∈ (reals.foldl (modifyReal folly env action) batch).ureals, ureal.action = action := by
  induction reals generalizing batch with
  | nil => exact initial
  | cons real reals ih =>
      apply ih
      intro ureal member
      unfold modifyReal at member
      split at member
      · exact initial ureal member
      · cases action with
        | del =>
            dsimp only at member
            unfold delReal at member
            split at member
            · exact initial ureal member
            · split at member
              · rcases List.mem_append.mp member with earlier | added
                · exact initial ureal earlier
                · rw [List.mem_singleton.mp added]
              · exact initial ureal member
        | add =>
            have pushed {start : RealsBatch} {num : Nat} {raddr : IPAddress} {weight : UInt32}
                (same : start.ureals = batch.ureals)
                (inside : ureal ∈ (start.push folly raddr num weight).ureals) :
                ureal.action = .add := by
              change ureal ∈ start.ureals ++ _ at inside
              rw [same] at inside
              rcases List.mem_append.mp inside with earlier | added
              · exact initial ureal earlier
              · rw [List.mem_singleton.mp added]
            dsimp only at member
            unfold addReal at member
            split at member
            · split at member
              · exact pushed rfl member
              · exact pushed rfl member
            · dsimp only at member
              split at member
              · exact initial ureal member
              · exact pushed rfl member

/-- All updates of a batch have its action. -/
theorem modifyRealsBatch_action (folly : Folly) (env : Env) (lb : KatranLb) (action : ModifyAction)
    (reals : List NewReal) (current : Vip) :
    ∀ ureal ∈ (lb.modifyRealsBatch folly env action reals current).ureals,
      ureal.action = action := by
  apply foldl_modifyReal_action
  intro ureal member
  cases member

/-- The reals of a VIP after a batch of removals. -/
theorem mem_reals_of_removals {fuel : Nat} {order : IterOrder} {current updated : Vip}
    {ureals : List UpdateReal} {chPositions : List RealPos}
    (ring : current.batchRealsUpdate fuel order ureals = some (chPositions, updated))
    (deletes : ∀ ureal ∈ ureals, ureal.action = .del) (num : Nat) :
    num ∈ updated.reals ↔ num ∈ current.reals ∧ num ∉ numsOf ureals := by
  rw [(Vip.reals_of_batchRealsUpdate ring).1]
  exact Vip.mem_applyUpdates_del deletes num

/-- The reals of a VIP after a batch of additions. -/
theorem mem_reals_of_additions {fuel : Nat} {order : IterOrder} {current updated : Vip}
    {ureals : List UpdateReal} {chPositions : List RealPos}
    (ring : current.batchRealsUpdate fuel order ureals = some (chPositions, updated))
    (adds : ∀ ureal ∈ ureals, ureal.action = .add) (num : Nat) :
    num ∈ updated.reals ↔ num ∈ current.reals ∨ num ∈ numsOf ureals := by
  rw [(Vip.reals_of_batchRealsUpdate ring).1]
  exact Vip.mem_applyUpdates_add adds num

/-- Additions to a VIP count one more claim to each real that is new to it. -/
theorem vipClaims_of_additions {lb after : KatranLb} {vip : VipKey} {current updated : Vip}
    {nums : List Nat} (found : lb.vips.lookup vip = some current)
    (vips : after.vips = lb.vips.insert vip updated)
    (members : ∀ num, num ∈ updated.reals ↔ num ∈ current.reals ∨ num ∈ nums) (order : IterOrder)
    (num : Nat) :
    after.vipClaims num = lb.vipClaims num + gained (current.getReals order) nums num := by
  have inserted := vipClaims_insert found updated num
  have claimed : after.vipClaims num =
      vipClaims { lb with vips := lb.vips.insert vip updated } num := vipClaims_congr vips num
  simp only [gained, mem_getReals, members] at inserted ⊢
  by_cases old : num ∈ current.reals
  · simp only [old, true_or, not_true_eq_false, and_false, ↓reduceIte] at inserted ⊢
    omega
  · simp only [old, false_or, not_false_eq_true, and_true, ↓reduceIte] at inserted ⊢
    omega

namespace Held

variable {lb after : KatranLb} {realOf : VipKey → Nat → Option IPAddress}
  {dstOf : CIDRNetwork → Option IPAddress}

/-- Removing reals from a VIP releases the reals that it no longer holds. -/
theorem delReals_pool (held : Held lb realOf dstOf) {folly : Folly} {env : Env}
    {reals : List NewReal} {current updated : Vip} {chPositions : List RealPos}
    (once : DelsOnce lb.realPool current.reals.keys (listedKeys folly reals))
    (ring : current.batchRealsUpdate env.fuel env.sorting
      (lb.modifyRealsBatch folly env .del reals current).ureals = some (chPositions, updated)) :
    ∃ keys, keys.Nodup ∧ (lb.modifyRealsBatch folly env .del reals current).lb.realPool =
        lb.realPool.releaseAll (2 ^ 32) keys ∧
      (∀ num ∈ updated.reals, num ∈ current.reals) ∧
      ∀ key num, lb.realPool.numOf key = some num →
        (key ∈ keys ↔ num ∈ current.reals ∧ num ∉ updated.reals) := by
  have careful : DelsOnce lb.realPool (current.getReals env.listing) (listedKeys folly reals) := by
    intro key listed num member
    exact once key listed num (mem_getReals.mp member)
  obtain ⟨released, _, removes⟩ := exists_removes folly env reals
    { lb := lb, curReals := current.getReals env.listing, ureals := [], owners := [] }
    held.live careful
  obtain ⟨removals, appended, deletes, nums⟩ := removes.ureals
  have ureals : (lb.modifyRealsBatch folly env .del reals current).ureals = removals :=
    appended.trans (List.nil_append _)
  rw [ureals] at ring
  have members := mem_reals_of_removals ring deletes
  refine ⟨released, removes.distinct, removes.pool, fun num member => ((members num).mp member).1,
    ?_⟩
  intro key num numbered
  rw [members, not_and, not_not]
  constructor
  · intro member
    obtain ⟨other, inside, same⟩ := removes.numbered key member
    change lb.realPool.numOf key = some other at same
    rw [numbered] at same
    obtain rfl := Option.some.inj same
    exact ⟨mem_getReals.mp inside, fun _ => (nums num).mpr ⟨key, member, numbered⟩⟩
  · rintro ⟨inside, gone⟩
    obtain ⟨other, member, owned⟩ := (nums num).mp (gone inside)
    rwa [held.pools.reals.numOf_inj numbered owned]

/-- Removing reals from a VIP. -/
theorem delReals {folly : Folly} {env : Env} {reals : List NewReal} {vip : VipKey} {done : Bool}
    (held : Held lb realOf dstOf) (pools : after.PoolsSound)
    (once : ∀ current ∈ lb.vips.lookup vip,
      DelsOnce lb.realPool current.reals.keys (listedKeys folly reals))
    (returned : lb.modifyRealsForVip folly env .del reals vip = some (done, after)) :
    Held after realOf dstOf := by
  rcases modifyRealsForVip_cases returned with
    ⟨_, rfl, _⟩ | ⟨_, _, current, chPositions, updated, found, ring, same⟩
  · exact held
  · have rest := modifyRealsBatch_sameRest folly env lb .del reals current
    have rules : after.lpmSrcMapping = lb.lpmSrcMapping :=
      same.lpmSrcMapping.trans rest.lpmSrcMapping
    have quic : after.quicMapping = lb.quicMapping := same.quicMapping.trans rest.quicMapping
    have vips : after.vips = lb.vips.insert vip updated := by
      rw [same.vips, ← rest.vips]
    obtain ⟨keys, distinct, pool, kept, members⟩ :=
      held.delReals_pool (once current found) ring
    apply held.releaseAll pools distinct (same.realPool.trans pool)
    · intro other entry num read member
      rw [vips, lookup_insert_eq_ite] at read
      by_cases equal : other = vip
      · subst equal
        rw [if_pos rfl] at read
        obtain rfl := Option.some.inj read
        exact ⟨current, found, kept num member⟩
      · rw [if_neg equal] at read
        exact ⟨entry, read, member⟩
    · rw [rules]
      exact fun _ _ read => read
    · rw [quic]
      exact fun _ member => member
    · intro key num numbered
      have total := claims_of_vips rules quic key num
      have inserted := vipClaims_insert found updated num
      have claimed : after.vipClaims num =
          vipClaims { lb with vips := lb.vips.insert vip updated } num := vipClaims_congr vips num
      have inside := kept num
      simp only [members key num numbered]
      by_cases old : num ∈ current.reals
      · by_cases left : num ∈ updated.reals <;>
          simp only [old, left, not_true_eq_false, not_false_eq_true, and_false, and_self,
            ↓reduceIte] at inserted ⊢ <;> omega
      · have gone : num ∉ updated.reals := fun member => old (inside member)
        simp only [old, gone, false_and, ↓reduceIte] at inserted ⊢
        omega

/-- Nothing is recorded for another VIP. -/
theorem recordReals_of_ne {vip other : VipKey} (different : other ≠ vip)
    (owners : List (Nat × IPAddress)) (realOf : VipKey → Nat → Option IPAddress) :
    Traced.recordReals vip owners realOf other = realOf other := by
  unfold Traced.recordReals
  induction owners generalizing realOf with
  | nil => rfl
  | cons owner owners ih =>
      rw [List.foldl_cons, ih, Function.update_of_ne different]

/-- The record of a VIP is either old or made by the batch. -/
theorem recordReals_self (vip : VipKey) (owners : List (Nat × IPAddress))
    (realOf : VipKey → Nat → Option IPAddress) (num : Nat) :
    (num ∉ owners.map Prod.fst ∧ Traced.recordReals vip owners realOf vip num = realOf vip num) ∨
      ∃ added, (num, added) ∈ owners ∧
        Traced.recordReals vip owners realOf vip num = some added := by
  unfold Traced.recordReals
  induction owners generalizing realOf with
  | nil => exact .inl ⟨List.not_mem_nil, rfl⟩
  | cons owner owners ih =>
      rw [List.foldl_cons]
      rcases ih (Function.update realOf vip
          (Function.update (realOf vip) owner.1 (some owner.2))) with
        ⟨absent, unchanged⟩ | ⟨added, member, recorded⟩
      · rw [unchanged, Function.update_self]
        by_cases same : num = owner.1
        · subst same
          exact .inr ⟨owner.2, List.mem_cons_self, Function.update_self ..⟩
        · refine .inl ⟨?_, Function.update_of_ne same ..⟩
          rw [List.map_cons, List.mem_cons, not_or]
          exact ⟨same, absent⟩
      · exact .inr ⟨added, List.mem_cons_of_mem _ member, recorded⟩

/-- What holds before the first addition. -/
theorem adding (held : Held lb realOf dstOf) {current : Vip} {env : Env}
    (room : ∀ key num, lb.realPool.numOf key = some num → num ∉ current.reals →
      lb.realPool.refs key + 1 < 2 ^ 32) :
    Adding lb.realPool (current.getReals env.listing) lb.config.maxReals.toNat
      { lb := lb, curReals := current.getReals env.listing, ureals := [], owners := [] } where
  sized := rfl
  sound := held.pools.reals
  live := held.live
  kept := fun _ _ numbered => numbered
  counted := by
    intro key num _
    simp only [gained, numsOf, List.map_nil, List.not_mem_nil, false_and, ↓reduceIte, Nat.add_zero,
      Nat.le_refl]
  contains := fun _ member => member
  origin := fun _ member => .inl member
  owners := rfl
  owned := by
    intro owner member
    cases member
  room := by
    intro key num numbered outside
    exact room key num numbered fun member => outside (mem_getReals.mpr member)

end Held

/-- No count of a real that a VIP does not hold overflows by a further reference. -/
def RoomFor (lb : KatranLb) (vip : VipKey) : Prop :=
  ∀ current ∈ lb.vips.lookup vip, ∀ key num, lb.realPool.numOf key = some num →
    num ∉ current.reals → lb.realPool.refs key + 1 < 2 ^ 32

namespace Held

variable {lb after : KatranLb} {realOf : VipKey → Nat → Option IPAddress}
  {dstOf : CIDRNetwork → Option IPAddress}

/-- While reals are added, no real has more claims than it had references. -/
theorem claims_le_of_adding (held : Held lb realOf dstOf) {initial : List Nat} {size : Nat}
    {batch : RealsBatch} (adding : Adding lb.realPool initial size batch) {key : IPAddress}
    {num : Nat} (numbered : batch.lb.realPool.numOf key = some num) :
    lb.claims key num ≤ lb.realPool.refs key := by
  cases known : lb.realPool.numOf key with
  | some other =>
      obtain rfl := Option.some.inj (numbered.symm.trans (adding.kept key other known))
      exact held.backed key num known
  | none =>
      have unowned : ∀ owner, lb.realPool.numOf owner ≠ some num := by
        intro owner owned
        have equal := adding.sound.numOf_inj (adding.kept owner num owned) numbered
        rw [equal, known] at owned
        cases owned
      rw [held.claims_eq_zero unowned known]
      exact Nat.zero_le _

/-- Adding reals to a VIP. -/
theorem addReals {folly : Folly} {env : Env} {reals : List NewReal} {vip : VipKey} {done : Bool}
    (held : Held lb realOf dstOf) (pools : after.PoolsSound)
    (room : lb.RoomFor vip)
    (returned : lb.modifyRealsForVip folly env .add reals vip = some (done, after)) :
    Held after (Traced.recordReals vip (Traced.ownersOf folly env lb reals vip) realOf) dstOf := by
  rcases modifyRealsForVip_cases returned with
    ⟨_, rfl, idle⟩ | ⟨_, forwards, current, chPositions, updated, found, ring, same⟩
  · have none : Traced.ownersOf folly env after reals vip = [] := by
      rcases idle with disabled | absent
      · simp only [Traced.ownersOf, disabled, ↓reduceIte]
      · simp only [Traced.ownersOf, absent, Option.elim_none, ite_self]
    rw [none]
    exact held
  · have rest := modifyRealsBatch_sameRest folly env lb .add reals current
    have rules : after.lpmSrcMapping = lb.lpmSrcMapping :=
      same.lpmSrcMapping.trans rest.lpmSrcMapping
    have quic : after.quicMapping = lb.quicMapping := same.quicMapping.trans rest.quicMapping
    have vips : after.vips = lb.vips.insert vip updated := by
      rw [same.vips, ← rest.vips]
    have adding : Adding lb.realPool (current.getReals env.listing) lb.config.maxReals.toNat
        (lb.modifyRealsBatch folly env .add reals current) :=
      (held.adding (room current found)).loop
    have pool : after.realPool = (lb.modifyRealsBatch folly env .add reals current).lb.realPool :=
      same.realPool
    have owners : Traced.ownersOf folly env lb reals vip =
        (lb.modifyRealsBatch folly env .add reals current).owners := by
      simp only [Traced.ownersOf, forwards, Bool.false_eq_true, ↓reduceIte, found,
        Option.elim_some]
    have members := mem_reals_of_additions ring
      (modifyRealsBatch_action folly env lb .add reals current)
    rw [owners]
    refine ⟨pools, pool ▸ adding.live, ?_, ?_, ?_, ?_⟩
    · intro other entry num read member
      rw [vips, lookup_insert_eq_ite] at read
      by_cases equal : other = vip
      · subst equal
        rw [if_pos rfl] at read
        obtain rfl := Option.some.inj read
        rcases recordReals_self other (lb.modifyRealsBatch folly env .add reals current).owners
            realOf num with ⟨absent, unchanged⟩ | ⟨added, pushed, recorded⟩
        · rw [← adding.owners] at absent
          have earlier : num ∈ current.reals := ((members num).mp member).resolve_right absent
          obtain ⟨added, recorded, numbered⟩ := held.vips other current num found earlier
          exact ⟨added, unchanged.trans recorded, pool ▸ adding.kept _ _ numbered⟩
        · exact ⟨added, recorded, pool ▸ adding.owned _ pushed⟩
      · rw [if_neg equal] at read
        obtain ⟨added, recorded, numbered⟩ := held.vips other entry num read member
        refine ⟨added, ?_, pool ▸ adding.kept _ _ numbered⟩
        rw [recordReals_of_ne equal]
        exact recorded
    · intro src rule read
      rw [rules] at read
      obtain ⟨added, recorded, numbered⟩ := held.rules src rule read
      exact ⟨added, recorded, pool ▸ adding.kept _ _ numbered⟩
    · intro key member
      rw [quic] at member
      obtain ⟨num, numbered⟩ := held.quic key member
      exact ⟨num, pool ▸ adding.kept _ _ numbered⟩
    · intro key num numbered
      rw [pool] at numbered ⊢
      have counted := adding.counted key num numbered
      have total := claims_of_vips rules quic key num
      have claimed := vipClaims_of_additions found vips members env.listing num
      have before := held.claims_le_of_adding adding numbered
      omega

/-! ## QUIC mappings -/

private theorem pools_modifyQuicReal (held : Held lb realOf dstOf) (folly : Folly) (env : Env)
    (action : ModifyAction) (toUpdate : UnorderedMap UInt32 Nat) (real : QuicReal) :
    (modifyQuicReal folly env action (lb, toUpdate) real).1.PoolsSound :=
  held.pools.frame (modifyQuicReal_frame folly env action (lb, toUpdate) real)

private theorem delQuicReal (held : Held lb realOf dstOf) (folly : Folly) (env : Env)
    (toUpdate : UnorderedMap UInt32 Nat) (real : QuicReal) :
    Held (modifyQuicReal folly env .del (lb, toUpdate) real).1 realOf dstOf := by
  have pools := held.pools_modifyQuicReal folly env .del toUpdate real
  unfold modifyQuicReal at pools ⊢
  dsimp only at pools ⊢
  split
  · exact held.sameTables (validateAddress_sameTables folly lb real.address false)
  next raddr parsed =>
    simp only [parsed] at pools
    split
    · exact held
    next allowed =>
      rw [if_neg allowed] at pools
      split
      next mapped =>
        rw [if_pos mapped] at pools
        have rest := decreaseRefCountForReal_sameRest lb (some raddr)
        apply held.releaseAll pools (List.nodup_singleton raddr.key)
        · exact decreaseRefCountForReal_realPool lb raddr
        · intro vip current num found member
          exact ⟨current, rest.vips ▸ found, member⟩
        · intro src rule found
          exact rest.lpmSrcMapping ▸ found
        · intro key member
          exact rest.quicMapping ▸ (AList.mem_erase.mp member).2
        · intro key num _
          simp only [claims, vipClaims, ruleClaims, quicClaims, rest.vips, rest.lpmSrcMapping,
            rest.quicMapping, AList.mem_erase, List.mem_singleton]
          by_cases same : key = raddr.key
          · subst same
            simp only [not_true_eq_false, ne_eq, false_and, ↓reduceIte, mapped]
            omega
          · simp only [same, ne_eq, not_false_eq_true, true_and, ↓reduceIte, Nat.add_zero,
              Nat.le_refl]
      · exact held

private theorem addQuicReal (held : Held lb realOf dstOf) (folly : Folly) (env : Env)
    (toUpdate : UnorderedMap UInt32 Nat) (real : QuicReal)
    (room : ∀ key ∉ lb.quicMapping, lb.realPool.refs key + 1 < 2 ^ 32) :
    Held (modifyQuicReal folly env .add (lb, toUpdate) real).1 realOf dstOf ∧
      ∀ key ∉ (modifyQuicReal folly env .add (lb, toUpdate) real).1.quicMapping,
        (modifyQuicReal folly env .add (lb, toUpdate) real).1.realPool.refs key + 1 < 2 ^ 32 := by
  have pools := held.pools_modifyQuicReal folly env .add toUpdate real
  unfold modifyQuicReal at pools ⊢
  dsimp only at pools ⊢
  split
  · have same := validateAddress_sameTables folly lb real.address false
    refine ⟨held.sameTables same, ?_⟩
    rw [same.quicMapping, same.realPool]
    exact room
  next raddr parsed =>
    simp only [parsed] at pools
    split
    · exact ⟨held, room⟩
    next allowed =>
      rw [if_neg allowed] at pools
      split
      · exact ⟨held, room⟩
      next unmapped =>
        rw [if_neg unmapped] at pools
        have rest := increaseRefCountForReal_sameRest env lb raddr
        have pool := increaseRefCountForReal_realPool env lb raddr
        have first := increaseRefCountForReal_fst env lb raddr
        have fits := room raddr.key unmapped
        rw [rest.config] at pools ⊢
        cases taken : (lb.realPool.acquire IPAddress.key (2 ^ 32) raddr).1 with
        | none =>
            rw [taken, Option.getD_none] at first
            obtain ⟨unchanged, _⟩ := RefPool.acquire_none taken
            have same : SameTables lb (lb.increaseRefCountForReal env raddr).2 :=
              ⟨rest, pool.trans unchanged⟩
            rw [if_pos first]
            refine ⟨held.sameTables same, ?_⟩
            rw [same.quicMapping, same.realPool]
            exact room
        | some num =>
            rw [taken, Option.getD_some] at first
            have numbered := RefPool.numOf_acquire taken raddr.key
            simp only [↓reduceIte] at numbered
            obtain ⟨slot, stored, equal⟩ := RefPool.numOf_eq_some.mp numbered
            have bounded : num < lb.config.maxReals.toNat :=
              equal ▸ (held.pools.reals.acquire raddr).num_lt stored
            have unlike : ¬ (lb.increaseRefCountForReal env raddr).1 =
                lb.config.maxReals.toNat := by
              rw [first]
              omega
            rw [if_neg unlike] at pools ⊢
            refine ⟨held.acquire pools fits taken pool rest.vips ?_ ?_ ?_, ?_⟩
            · intro src rule found
              exact .inl ⟨rest.lpmSrcMapping ▸ found, rfl⟩
            · intro key member
              rcases (AList.mem_insert _).mp member with same | earlier
              · exact .inr same
              · exact .inl (rest.quicMapping ▸ earlier)
            · intro key other
              simp only [claims, vipClaims, ruleClaims, quicClaims, rest.vips, rest.lpmSrcMapping,
                rest.quicMapping, AList.mem_insert]
              by_cases same : key = raddr.key
              · subst same
                simp only [true_or, ↓reduceIte]
                omega
              · simp only [same, false_or]
                omega
            · intro key outside
              change key ∉ (lb.increaseRefCountForReal env raddr).2.quicMapping.insert raddr.key _
                at outside
              rw [AList.mem_insert, not_or, rest.quicMapping] at outside
              change (lb.increaseRefCountForReal env raddr).2.realPool.refs key + 1 < 2 ^ 32
              rw [pool, RefPool.refs_acquire fits taken]
              simp only [outside.1, ↓reduceIte, Nat.add_zero]
              exact room key outside.2

private theorem modifyQuicRealsMapping (held : Held lb realOf dstOf) (folly : Folly) (env : Env)
    (action : ModifyAction) (reals : List QuicReal)
    (room : action = .add → ∀ key ∉ lb.quicMapping, lb.realPool.refs key + 1 < 2 ^ 32) :
    Held (lb.modifyQuicRealsMapping folly env action reals) realOf dstOf := by
  have looped (toUpdate : UnorderedMap UInt32 Nat) :
      Held (reals.foldl (modifyQuicReal folly env action) (lb, toUpdate)).1 realOf dstOf := by
    induction reals generalizing lb toUpdate with
    | nil => exact held
    | cons real reals ih =>
        cases action with
        | del =>
            apply ih (held.delQuicReal folly env toUpdate real)
            intro adding
            cases adding
        | add =>
            obtain ⟨later, laterRoom⟩ := held.addQuicReal folly env toUpdate real (room rfl)
            exact ih later (fun _ => laterRoom) _
  unfold KatranLb.modifyQuicRealsMapping
  split
  · exact held
  · dsimp only
    split
    · exact looped ∅
    · exact (looped ∅).sameTables
        (SameTables.foldl (fun lb mapping => bpfCall_sameTables env lb _) _ _)

/-! ## Source routing rules -/

private theorem recordRules_cons (dst : IPAddress) (src : CIDRNetwork)
    (installed : List CIDRNetwork) (dstOf : CIDRNetwork → Option IPAddress) :
    Traced.recordRules dst (src :: installed) dstOf =
      Traced.recordRules dst installed (Function.update dstOf src.key (some dst)) := rfl

/-- A rule for one network. -/
theorem installRule (held : Held lb realOf dstOf) (pools : after.PoolsSound) {dst : IPAddress}
    {num : Nat} {rule : SrcRule} {src : CIDRNetwork} (room : lb.realPool.refs dst.key + 1 < 2 ^ 32)
    (taken : (lb.realPool.acquire IPAddress.key (2 ^ 32) dst).1 = some num)
    (pool : after.realPool = (lb.realPool.acquire IPAddress.key (2 ^ 32) dst).2)
    (vips : after.vips = lb.vips) (quic : after.quicMapping = lb.quicMapping)
    (rules : after.lpmSrcMapping = lb.lpmSrcMapping.insert src.key rule)
    (numbered : rule.rnum = num) :
    Held after realOf (Function.update dstOf src.key (some dst)) := by
  apply held.acquire pools room taken pool vips
  · intro other entry found
    rw [rules, lookup_insert_eq_ite] at found
    by_cases same : other = src.key
    · rw [if_pos same] at found
      obtain rfl := Option.some.inj found
      rw [same]
      exact .inr ⟨numbered, Function.update_self ..⟩
    · rw [if_neg same] at found
      exact .inl ⟨found, Function.update_of_ne same ..⟩
  · intro key member
    exact .inl (quic ▸ member)
  · intro key other
    have inserted := countP_values_insert lb.lpmSrcMapping src.key rule
      fun rule => decide (rule.rnum = other)
    have fewer : (values (lb.lpmSrcMapping.erase src.key)).countP
        (fun rule => decide (rule.rnum = other)) ≤
        (values lb.lpmSrcMapping).countP fun rule => decide (rule.rnum = other) := by
      cases found : lb.lpmSrcMapping.lookup src.key with
      | none => rw [erase_of_lookup_none found]
      | some old =>
          rw [← countP_values_erase found]
          exact Nat.le_add_right _ _
    simp only [decide_eq_true_eq, numbered] at inserted
    simp only [claims, vipClaims, ruleClaims, quicClaims, vips, rules, quic, inserted]
    by_cases same : num = other
    · simp only [same, or_true, ↓reduceIte]
      omega
    · have different : ¬ other = num := fun equal => same equal.symm
      simp only [same, different, or_false, ↓reduceIte]
      omega

private theorem installRules (env : Env) (dst : IPAddress) (srcs : List CIDRNetwork)
    (held : Held lb realOf dstOf) (room : lb.realPool.refs dst.key + srcs.length < 2 ^ 32) :
    Held (KatranLb.installRules env dst srcs lb).2.1 realOf
      (Traced.recordRules dst (KatranLb.installRules env dst srcs lb).2.2 dstOf) := by
  induction srcs generalizing lb dstOf with
  | nil => exact held
  | cons src srcs ih =>
      rw [List.length_cons] at room
      have fits : lb.realPool.refs dst.key + 1 < 2 ^ 32 := by omega
      have rest := increaseRefCountForReal_sameRest env lb dst
      have pool := increaseRefCountForReal_realPool env lb dst
      have first := increaseRefCountForReal_fst env lb dst
      have kept := increaseRefCountForReal_frame env lb dst
      have limit : (lb.increaseRefCountForReal env dst).2.config.maxReals.toNat =
          lb.config.maxReals.toNat := by rw [rest.config]
      unfold KatranLb.installRules
      split
      · exact held
      · dsimp only
        cases taken : (lb.realPool.acquire IPAddress.key (2 ^ 32) dst).1 with
        | none =>
            rw [taken, Option.getD_none] at first
            rw [if_pos (first.trans limit.symm)]
            exact held.sameTables ⟨rest, pool.trans (RefPool.acquire_none taken).1⟩
        | some num =>
            rw [taken, Option.getD_some] at first
            have numbered := RefPool.numOf_acquire taken dst.key
            simp only [↓reduceIte] at numbered
            obtain ⟨slot, stored, equal⟩ := RefPool.numOf_eq_some.mp numbered
            have bounded : num < lb.config.maxReals.toNat :=
              equal ▸ (held.pools.reals.acquire dst).num_lt stored
            have unlike : ¬ (lb.increaseRefCountForReal env dst).1 =
                (lb.increaseRefCountForReal env dst).2.config.maxReals.toNat := by
              rw [first, limit]
              omega
            rw [if_neg unlike, recordRules_cons]
            generalize quiet : (if (lb.increaseRefCountForReal env dst).2.config.testing = true then
              _ else _ : KatranLb) = written
            have tables : SameTables { (lb.increaseRefCountForReal env dst).2 with
                lpmSrcMapping := (lb.increaseRefCountForReal env dst).2.lpmSrcMapping.insert src.key
                  ⟨(((lb.increaseRefCountForReal env dst).2.lpmSrcMapping.lookup src.key).map
                    SrcRule.src).getD src, (lb.increaseRefCountForReal env dst).1⟩ } written := by
              rw [← quiet]
              split
              · exact .refl _
              · exact modifyLpmSrcRule_sameTables env _ .add src _
            have acquired := tables.realPool.trans pool
            have counted := RefPool.refs_acquire fits taken dst.key
            rw [if_pos rfl, ← acquired] at counted
            have rules := tables.lpmSrcMapping
            rw [rest.lpmSrcMapping] at rules
            have pools : written.PoolsSound := by
              refine PoolsSound.frame ?_ (.of_sameTables tables)
              exact held.pools.frame ⟨kept.config, kept.vipNums, kept.vips, kept.moves⟩
            apply ih
            · exact held.installRule pools fits taken acquired (tables.vips.trans rest.vips)
                (tables.quicMapping.trans rest.quicMapping) rules first
            · omega

/-- Removing a rule gives up a reference of its real. -/
theorem removeRule_pool (held : Held lb realOf dstOf) (env : Env) {src : CIDRNetwork}
    {rule : SrcRule} (found : lb.lpmSrcMapping.lookup src.key = some rule) {key : IPAddress}
    (numbered : lb.realPool.numOf key = some rule.rnum) :
    (lb.removeRule env src).realPool = lb.realPool.release (2 ^ 32) key ∧
      (lb.removeRule env src).lpmSrcMapping = lb.lpmSrcMapping.erase src.key ∧
      (lb.removeRule env src).vips = lb.vips ∧
      (lb.removeRule env src).quicMapping = lb.quicMapping := by
  obtain ⟨name, touched, same⟩ := held.pools.reals.touch_of_numOf numbered
  obtain ⟨read, kept⟩ := realOfNum_realPool lb rule.rnum
  rw [touched] at read kept
  have rest := (realOfNum_sameRest lb rule.rnum).trans
    (decreaseRefCountForReal_sameRest (lb.realOfNum rule.rnum).2 (lb.realOfNum rule.rnum).1)
  have pool : ((lb.realOfNum rule.rnum).2.decreaseRefCountForReal
      (lb.realOfNum rule.rnum).1).realPool = lb.realPool.release (2 ^ 32) key := by
    rw [read, decreaseRefCountForReal_realPool, kept, same]
  unfold KatranLb.removeRule
  simp only [found]
  split
  · exact ⟨pool, by rw [rest.lpmSrcMapping], rest.vips, rest.quicMapping⟩
  · have tables :=
      modifyLpmSrcRule_sameTables env ((lb.realOfNum rule.rnum).2.decreaseRefCountForReal
      (lb.realOfNum rule.rnum).1) .del src rule.rnum
    exact ⟨tables.realPool.trans pool, by rw [tables.lpmSrcMapping, rest.lpmSrcMapping],
      tables.vips.trans rest.vips, tables.quicMapping.trans rest.quicMapping⟩

/-- Removing a rule releases what it held. -/
theorem removeRule (env : Env) (src : CIDRNetwork) (held : Held lb realOf dstOf) :
    Held (lb.removeRule env src) realOf dstOf := by
  cases found : lb.lpmSrcMapping.lookup src.key with
  | none =>
      have same : lb.removeRule env src = lb := by simp only [KatranLb.removeRule, found]
      rw [same]
      exact held
  | some rule =>
      obtain ⟨added, _, numbered⟩ := held.rules src.key rule found
      obtain ⟨pool, rules, vips, quic⟩ := held.removeRule_pool env found numbered
      apply held.releaseAll (held.pools.frame (removeRule_frame env lb src))
        (List.nodup_singleton added.key) pool
      · intro vip current num read member
        exact ⟨current, vips ▸ read, member⟩
      · intro other entry read
        rw [rules, lookup_erase_eq_ite] at read
        split at read
        · cases read
        · exact read
      · intro key member
        exact quic ▸ member
      · intro key num owned
        have erased := countP_values_erase found fun rule => decide (rule.rnum = num)
        simp only [decide_eq_true_eq] at erased
        simp only [claims, vipClaims, ruleClaims, quicClaims, vips, rules, quic,
          List.mem_singleton]
        by_cases equal : key = added.key
        · rw [equal, numbered] at owned
          simp only [equal, Option.some.inj owned, ↓reduceIte] at erased ⊢
          omega
        · simp only [equal, ↓reduceIte]
          omega

/-- Clearing a rule returns, and gives up a reference of its real. -/
theorem clearRule_pool {size : Nat} (sound : lb.realPool.Sound IPAddress.key size) (env : Env)
    {rule : SrcRule} {key : IPAddress} (numbered : lb.realPool.numOf key = some rule.rnum) :
    ∃ next, clearRule env lb rule = some next ∧ SameRest lb next ∧
      next.realPool = lb.realPool.release (2 ^ 32) key := by
  obtain ⟨slot, stored, equal⟩ := RefPool.numOf_eq_some.mp numbered
  obtain ⟨name, named, same⟩ := sound.named _ slot stored
  rw [equal] at named
  change lb.numToReals.lookup rule.rnum = some (some name) at named
  have rest := decreaseRefCountForReal_sameRest lb (some name)
  have pool := decreaseRefCountForReal_realPool lb name
  rw [same] at pool
  refine ⟨_, by rw [clearRule, named, Option.map_some], ?_⟩
  dsimp only
  split
  · exact ⟨rest, pool⟩
  · have tables := modifyLpmSrcRule_sameTables env (lb.decreaseRefCountForReal (some name)) .del
      rule.src rule.rnum
    exact ⟨rest.trans tables.toSameRest, tables.realPool.trans pool⟩

/-- Counting the rules that are still to be cleared. -/
theorem ruleClaims_cons (lb : KatranLb) {entry : Sigma fun _ : CIDRNetwork => SrcRule}
    {entries : List (Sigma fun _ : CIDRNetwork => SrcRule)}
    (distinct : (entry :: entries).NodupKeys) (later : entries.NodupKeys) (num : Nat) :
    ruleClaims { lb with lpmSrcMapping := ⟨entry :: entries, distinct⟩ } num =
      ruleClaims { lb with lpmSrcMapping := ⟨entries, later⟩ } num +
        if entry.2.rnum = num then 1 else 0 := by
  simp only [ruleClaims, values, List.map_cons, List.countP_cons, decide_eq_true_eq]

/-- A rule is cleared, where the rules not yet visited still count as holders. -/
theorem clearRule (env : Env) {entry : Sigma fun _ : CIDRNetwork => SrcRule}
    {entries : List (Sigma fun _ : CIDRNetwork => SrcRule)}
    (distinct : (entry :: entries).NodupKeys) (later : entries.NodupKeys)
    (held : Held { lb with lpmSrcMapping := ⟨entry :: entries, distinct⟩ } realOf dstOf) :
    ∃ key next, lb.realPool.numOf key = some entry.2.rnum ∧
      KatranLb.clearRule env lb entry.2 = some next ∧ SameRest lb next ∧
      next.realPool = lb.realPool.release (2 ^ 32) key ∧
      Held { next with lpmSrcMapping := ⟨entries, later⟩ } realOf dstOf := by
  have here : (⟨entry :: entries, distinct⟩ : UnorderedMap CIDRNetwork SrcRule).lookup entry.1 =
      some entry.2 := mem_entries.mp List.mem_cons_self
  obtain ⟨added, _, numbered⟩ := held.rules entry.1 entry.2 here
  change lb.realPool.numOf added.key = some entry.2.rnum at numbered
  have sound : lb.realPool.Sound IPAddress.key _ := held.pools.reals
  obtain ⟨next, cleared, whole, pool⟩ := clearRule_pool sound env numbered
  have kept := clearRule_frame cleared
  refine ⟨added.key, next, numbered, cleared, whole, pool, ?_⟩
  apply held.releaseAll _ (List.nodup_singleton added.key)
  · exact pool
  · intro vip current num found member
    exact ⟨current, whole.vips ▸ found, member⟩
  · intro other rule found
    exact mem_entries.mp (List.mem_cons_of_mem _ (mem_entries.mpr found))
  · intro key member
    exact whole.quicMapping ▸ member
  · intro key num owned
    change lb.realPool.numOf key = some num at owned
    have counted := ruleClaims_cons lb distinct later num
    simp only [ruleClaims] at counted
    simp only [claims, vipClaims, ruleClaims, quicClaims, whole.vips, whole.quicMapping,
      List.mem_singleton, counted]
    by_cases equal : key = added.key
    · rw [equal, numbered] at owned
      simp only [equal, Option.some.inj owned, ↓reduceIte]
      omega
    · simp only [equal, ↓reduceIte]
      omega
  · exact held.pools.frame ⟨kept.config, kept.vipNums, kept.vips, kept.moves⟩

/-- The loop that clears the rules. -/
theorem clearRules {env : Env} {entries : List (Sigma fun _ : CIDRNetwork => SrcRule)}
    (distinct : entries.NodupKeys)
    (held : Held { lb with lpmSrcMapping := ⟨entries, distinct⟩ } realOf dstOf)
    (looped : entries.foldlM (fun lb entry => KatranLb.clearRule env lb entry.2) lb = some after) :
    Held { after with lpmSrcMapping := ∅ } realOf dstOf := by
  induction entries generalizing lb with
  | nil =>
      obtain rfl := Option.some.inj looped
      exact held
  | cons entry entries ih =>
      obtain ⟨next, cleared, rest⟩ := Option.bind_eq_some_iff.mp looped
      have later : entries.NodupKeys := (List.nodupKeys_cons.mp distinct).2
      obtain ⟨_, _, _, returned, _, _, kept⟩ := clearRule env distinct later held
      obtain rfl := Option.some.inj (returned.symm.trans cleared)
      exact ih later kept rest

/-- The order in which the rules are listed does not matter. -/
theorem ruleClaims_visit (lb : KatranLb) (order : IterOrder)
    (distinct : (order.visit lb.lpmSrcMapping.entries).NodupKeys) (num : Nat) :
    ruleClaims { lb with
      lpmSrcMapping := ⟨order.visit lb.lpmSrcMapping.entries, distinct⟩ } num =
      lb.ruleClaims num := by
  have shuffled := order.visit_perm lb.lpmSrcMapping.entries
  simp only [ruleClaims, values]
  exact (shuffled.map Sigma.snd).countP_eq _

/-- The rules hold what they did in whatever order they are visited. -/
theorem visit (held : Held lb realOf dstOf) (order : IterOrder)
    (distinct : (order.visit lb.lpmSrcMapping.entries).NodupKeys) :
    Held { lb with lpmSrcMapping := ⟨order.visit lb.lpmSrcMapping.entries, distinct⟩ }
      realOf dstOf := by
  apply held.releaseAll _ List.nodup_nil
  · rfl
  · exact fun vip current num found member => ⟨current, found, member⟩
  · intro src rule found
    exact mem_entries.mp ((order.mem_visit _ _).mp (mem_entries.mpr found))
  · exact fun _ member => member
  · intro key num _
    simp only [claims, ruleClaims_visit, vipClaims, quicClaims, List.not_mem_nil, ↓reduceIte,
      Nat.add_zero, Nat.le_refl]
  · exact held.pools.frame ⟨rfl, rfl, rfl, .refl _⟩

private theorem clearAllSrcRoutingRules {env : Env} {done : Bool} (held : Held lb realOf dstOf)
    (returned : lb.clearAllSrcRoutingRules env = some (done, after)) :
    Held after realOf dstOf := by
  rcases clearAllSrcRoutingRules_cases returned with rfl | ⟨cleared, rfl, looped⟩
  · exact held
  · have distinct : (env.listing.visit lb.lpmSrcMapping.entries).NodupKeys :=
      (List.perm_nodupKeys (env.listing.visit_perm _)).mpr lb.lpmSrcMapping.nodupKeys
    exact clearRules distinct (held.visit env.listing distinct) looped

private theorem addSrcRoutingRuleCidr (folly : Folly) (env : Env) (srcs : List CIDRNetwork)
    (dst : String) (held : Held lb realOf dstOf)
    (room : ∀ key, lb.realPool.refs key + srcs.length < 2 ^ 32) :
    Held (lb.addSrcRoutingRuleCidr folly env srcs dst).2.1 realOf
      ((folly.parse dst).elim dstOf fun addr => Traced.recordRules addr
        (lb.addSrcRoutingRuleCidr folly env srcs dst).2.2 dstOf) := by
  unfold KatranLb.addSrcRoutingRuleCidr
  cases parsed : folly.parse dst with
  | none =>
      simp only [Option.elim_none]
      split
      · exact held
      · exact held.sameTables (validateAddress_sameTables folly lb dst false)
  | some addr =>
      simp only [Option.elim_some]
      split
      · exact held
      · exact installRules env addr srcs held (room addr.key)

private theorem length_collectNetworks (folly : Folly) (total : Nat) (srcs : List String)
    (numErrors : Int) (srcNetworks : List CIDRNetwork) (lb : KatranLb) :
    (collectNetworks folly total srcs numErrors srcNetworks lb).2.1.length ≤
      srcNetworks.length + srcs.length := by
  induction srcs generalizing numErrors srcNetworks lb with
  | nil => exact Nat.le_add_right _ _
  | cons src srcs ih =>
      rw [List.length_cons]
      unfold collectNetworks
      dsimp only
      split
      · split
        · exact Nat.le_add_right _ _
        · refine Nat.le_trans (ih _ _ _) ?_
          rw [List.length_append, List.length_singleton]
          omega
      · refine Nat.le_trans (ih _ _ _) ?_
        omega

private theorem addSrcRoutingRule (folly : Folly) (env : Env) (srcs : List String) (dst : String)
    (held : Held lb realOf dstOf) (room : ∀ key, lb.realPool.refs key + srcs.length < 2 ^ 32) :
    Held (lb.addSrcRoutingRule folly env srcs dst).2.1 realOf
      ((folly.parse dst).elim dstOf fun addr => Traced.recordRules addr
        (lb.addSrcRoutingRule folly env srcs dst).2.2 dstOf) := by
  unfold KatranLb.addSrcRoutingRule
  cases parsed : folly.parse dst with
  | none =>
      simp only [Option.elim_none]
      split
      · exact held
      · exact held.sameTables (validateAddress_sameTables folly lb dst false)
  | some addr =>
      simp only [Option.elim_some]
      split
      · exact held
      · have tables := collectNetworks_sameTables folly srcs.length srcs 0 [] lb
        have short := length_collectNetworks folly srcs.length srcs 0 [] lb
        rw [List.length_nil, Nat.zero_add] at short
        have added := addSrcRoutingRuleCidr folly env
          (collectNetworks folly srcs.length srcs 0 [] lb).2.1 dst (held.sameTables tables) (by
            intro key
            have fits := room key
            rw [tables.realPool]
            omega)
        rw [parsed] at added
        exact added

private theorem removeRules (env : Env) (srcs : List CIDRNetwork) (held : Held lb realOf dstOf) :
    Held (srcs.foldl (KatranLb.removeRule env) lb) realOf dstOf := by
  induction srcs generalizing lb with
  | nil => exact held
  | cons src srcs ih => exact ih (removeRule env src held)

private theorem delSrcRoutingRuleCidr (env : Env) (srcs : List CIDRNetwork)
    (held : Held lb realOf dstOf) : Held (lb.delSrcRoutingRuleCidr env srcs).2 realOf dstOf := by
  unfold KatranLb.delSrcRoutingRuleCidr
  split
  · exact held
  · exact removeRules env srcs held

private theorem delSrcRoutingRule (folly : Folly) (env : Env) (srcs : List String)
    (held : Held lb realOf dstOf) :
    Held (lb.delSrcRoutingRule folly env srcs).2 realOf dstOf := by
  unfold KatranLb.delSrcRoutingRule
  split
  · exact held
  · exact delSrcRoutingRuleCidr env _ held

end Held

/-! ## No dangling real -/

/-- No count overflows if it grows by this much. -/
def HasRoom (lb : KatranLb) (count : Nat) : Prop :=
  count < 2 ^ 32 ∧ ∀ rmeta ∈ values lb.reals, rmeta.refCount + count < 2 ^ 32

instance (lb : KatranLb) (count : Nat) : Decidable (lb.HasRoom count) :=
  inferInstanceAs (Decidable (_ ∧ _))

private theorem HasRoom.refs {lb : KatranLb} {count : Nat} (room : lb.HasRoom count)
    (key : IPAddress) :
    lb.realPool.refs key + count < 2 ^ 32 := by
  cases known : lb.reals.lookup key with
  | none =>
      simp only [RefPool.refs, realPool_table, known, Option.elim_none, Nat.zero_add]
      exact room.1
  | some rmeta =>
      rw [RefPool.refs_of_lookup known]
      exact room.2 rmeta (mem_values.mpr ⟨key, mem_entries.mpr known⟩)

/-- A removal lists an address of the VIP twice only if nobody else holds it, and
no count overflows. -/
def ReleasesOnce (folly : Folly) (lb : KatranLb) : Op → Prop
  | .addRealForVip _ _ => lb.HasRoom 1
  | .modifyRealsForVip .add _ _ => lb.HasRoom 1
  | .modifyRealsForVip .del reals vip => ∀ current ∈ lb.vips.lookup vip,
      DelsOnce lb.realPool current.reals.keys (listedKeys folly reals)
  | .modifyQuicRealsMapping .add _ => lb.HasRoom 1
  | .addSrcRoutingRule srcs _ => lb.HasRoom srcs.length
  | .addSrcRoutingRuleCidr srcs _ => lb.HasRoom srcs.length
  | _ => True

instance (pool : RefPool IPAddress IPAddress) (nums : List Nat) (keys : List IPAddress) :
    Decidable (DelsOnce pool nums keys) :=
  inferInstanceAs (Decidable (∀ key ∈ keys, ∀ num ∈ nums, _ → _))

instance (folly : Folly) (lb : KatranLb) : DecidablePred (lb.ReleasesOnce folly) :=
  Op.Decides.decidablePred {
    addRealForVip := fun _ _ => inferInstanceAs (Decidable (lb.HasRoom _))
    addRealsForVip := fun _ _ => inferInstanceAs (Decidable (lb.HasRoom _))
    delRealsForVip := fun _ vip =>
      inferInstanceAs (Decidable (∀ current ∈ lb.vips.lookup vip, DelsOnce _ _ _))
    addQuicReals := fun _ => inferInstanceAs (Decidable (lb.HasRoom _))
    addSrcRoutingRule := fun _ _ => inferInstanceAs (Decidable (lb.HasRoom _))
    addSrcRoutingRuleCidr := fun _ _ => inferInstanceAs (Decidable (lb.HasRoom _)) }

/-- A batch of one address lists nothing twice. -/
theorem delsOnce_singleton (folly : Folly) (pool : RefPool IPAddress IPAddress) (nums : List Nat)
    (real : NewReal) : DelsOnce pool nums (listedKeys folly [real]) := by
  intro key member num _ _
  have short : (listedKeys folly [real]).length ≤ 1 := by
    unfold listedKeys
    exact List.length_filterMap_le _ [real]
  have positive := List.count_pos_iff.mpr member
  have bounded : (listedKeys folly [real]).count key ≤ (listedKeys folly [real]).length :=
    List.count_le_length
  exact .inr (by omega)

/-- What an operation needs to keep the holders: room for the references it takes,
and removals that release once. -/
def Permits (folly : Folly) (lb : KatranLb) : Op → Prop
  | .addRealForVip _ vip => lb.RoomFor vip
  | .modifyRealsForVip .add _ vip => lb.RoomFor vip
  | .modifyRealsForVip .del reals vip => ∀ current ∈ lb.vips.lookup vip,
      DelsOnce lb.realPool current.reals.keys (listedKeys folly reals)
  | .modifyQuicRealsMapping .add _ => ∀ key ∉ lb.quicMapping, lb.realPool.refs key + 1 < 2 ^ 32
  | .addSrcRoutingRule srcs _ => ∀ key, lb.realPool.refs key + srcs.length < 2 ^ 32
  | .addSrcRoutingRuleCidr srcs _ => ∀ key, lb.realPool.refs key + srcs.length < 2 ^ 32
  | _ => True

private theorem ReleasesOnce.permits {folly : Folly} {lb : KatranLb} {op : Op}
    (careful : lb.ReleasesOnce folly op) : lb.Permits folly op := by
  cases op with
  | addRealForVip real vip => exact fun _ _ key _ _ _ => HasRoom.refs careful key
  | modifyRealsForVip action reals vip =>
      cases action with
      | add => exact fun _ _ key _ _ _ => HasRoom.refs careful key
      | del => exact careful
  | modifyQuicRealsMapping action reals =>
      cases action with
      | add => exact fun key _ => HasRoom.refs careful key
      | del => trivial
  | addSrcRoutingRule srcs dst => exact HasRoom.refs careful
  | addSrcRoutingRuleCidr srcs dst => exact HasRoom.refs careful
  | _ => trivial

/-- Every permitted operation keeps the holders. -/
theorem Held.step {folly : Folly} {state after : Traced} {op : Op}
    (held : Held state.lb state.realOf state.dstOf) (taken : Traced.Step folly state op after)
    (permitted : state.lb.Permits folly op) : Held after.lb after.realOf after.dstOf := by
  have pools := (held.pools.step taken.lb).1
  obtain ⟨env, performed⟩ := taken
  obtain ⟨lb, stepped, rfl⟩ := Option.map_eq_some_iff.mp performed
  cases op with
  | addVip vip flags =>
      obtain ⟨⟨done, _⟩, returned, rfl⟩ := Option.map_eq_some_iff.mp stepped
      exact held.addVip pools returned
  | delVip vip =>
      obtain ⟨⟨done, _⟩, returned, rfl⟩ := Option.map_eq_some_iff.mp stepped
      exact held.delVip pools returned
  | modifyVip vip flag set =>
      obtain ⟨⟨done, _⟩, returned, rfl⟩ := Option.map_eq_some_iff.mp stepped
      exact held.modifyVip pools returned
  | addRealForVip real vip =>
      obtain ⟨⟨done, _⟩, returned, rfl⟩ := Option.map_eq_some_iff.mp stepped
      rw [addRealForVip_eq] at returned
      exact held.addReals pools permitted returned
  | delRealForVip real vip =>
      obtain ⟨⟨done, _⟩, returned, rfl⟩ := Option.map_eq_some_iff.mp stepped
      rw [delRealForVip_eq] at returned
      exact held.delReals pools (fun _ _ => delsOnce_singleton folly _ _ real) returned
  | modifyRealsForVip action reals vip =>
      obtain ⟨⟨done, _⟩, returned, rfl⟩ := Option.map_eq_some_iff.mp stepped
      cases action with
      | add => exact held.addReals pools permitted returned
      | del => exact held.delReals pools permitted returned
  | modifyQuicRealsMapping action reals =>
      obtain rfl := Option.some.inj stepped
      cases action with
      | add => exact held.modifyQuicRealsMapping folly env .add reals fun _ => permitted
      | del =>
          apply held.modifyQuicRealsMapping folly env .del reals
          intro adding
          cases adding
  | addSrcRoutingRule srcs dst =>
      obtain rfl := Option.some.inj stepped
      exact held.addSrcRoutingRule folly env srcs dst permitted
  | addSrcRoutingRuleCidr srcs dst =>
      obtain rfl := Option.some.inj stepped
      exact held.addSrcRoutingRuleCidr folly env srcs dst permitted
  | delSrcRoutingRule srcs =>
      obtain rfl := Option.some.inj stepped
      exact held.delSrcRoutingRule folly env srcs
  | delSrcRoutingRuleCidr srcs =>
      obtain rfl := Option.some.inj stepped
      exact held.delSrcRoutingRuleCidr env srcs
  | clearAllSrcRoutingRules =>
      obtain ⟨⟨done, _⟩, returned, rfl⟩ := Option.map_eq_some_iff.mp stepped
      exact held.clearAllSrcRoutingRules returned

/-- **No dangling real.** In every run whose removals list an address of the VIP
twice only if nobody else holds it, and in which no count overflows, every number
of a VIP and of a rule is in use for the address for which it was added, and every
mapped address is a real. -/
theorem no_dangling_real {folly : Folly} {config : KatranConfig} {features : KatranFeatures}
    {kernel : ConfigMaps} {ops : List Op} {state : Traced}
    (run : Run (fun before op after => Traced.Step folly before op after ∧
      before.lb.ReleasesOnce folly op) (Traced.new config features kernel) ops state) :
    state.NoDangling := by
  have held : Held state.lb state.realOf state.dstOf := by
    apply Run.invariant (fun state : Traced => Held state.lb state.realOf state.dstOf) _ run
    · exact .new config features kernel
    · intro before op after earlier taken
      exact earlier.step taken.1 taken.2.permits
  exact held.noDangling

/-- Make calls one after the other, checking each. -/
def tracedAll (check : Traced → Op → Bool) (state : Traced) (ops : List Op) : Option Traced :=
  Run.execAll (fun state op =>
    if check state op then state.perform .small (.plain 20) op else none) state ops

private theorem run_of_tracedAll {check : Traced → Op → Bool} {state after : Traced} {ops : List Op}
    (traced : tracedAll check state ops = some after) :
    Run (fun before op after => Traced.Step .small before op after ∧ check before op = true)
      state ops after := by
  apply Run.of_execAll _ traced
  intro before op next computed
  split at computed
  next checked => exact ⟨⟨.plain 20, computed⟩, checked⟩
  next => cases computed

/-- The tiny balancer without any record. -/
def tinyTraced : Traced :=
  .new { maxVips := 2, maxReals := 3, chRingSize := 3 } {} (.fresh [2, 0, 0, 0, 0, 1] fun _ => true)

/-- Two VIPs share a real, and one of them removes it. -/
def shared : List Op :=
  [.addVip ⟨"10.200.1.1", 80, 6⟩ 0, .addVip ⟨"10.200.1.2", 80, 6⟩ 0,
    .modifyRealsForVip .add [⟨"10.0.0.1", 1⟩, ⟨"10.0.0.2", 1⟩] ⟨"10.200.1.1", 80, 6⟩,
    .addRealForVip ⟨"10.0.0.1", 1⟩ ⟨"10.200.1.2", 80, 6⟩,
    .modifyRealsForVip .del [⟨"10.0.0.1", 1⟩, ⟨"10.0.0.2", 1⟩, ⟨"10.0.0.2", 1⟩]
      ⟨"10.200.1.1", 80, 6⟩]

private theorem shared_returns :
    (tracedAll (fun state op => decide (state.lb.ReleasesOnce .small op))
    tinyTraced shared).isSome = true := by
  decide +kernel

/-- A real that two VIPs share is still held by one of them. -/
theorem no_dangling_real_shared :
    ∃ state, tracedAll (fun state op => decide (state.lb.ReleasesOnce .small op))
      tinyTraced shared = some state ∧ state.lb.realNums = [2, 1] ∧ state.NoDangling := by
  have returned := (Option.some_get shared_returns).symm
  refine ⟨_, returned, by decide +kernel, ?_⟩
  exact no_dangling_real ((run_of_tracedAll returned).mono fun _ _ _ taken =>
    ⟨taken.1, of_decide_eq_true taken.2⟩)

private theorem sharedTwice_returns :
    (tracedAll (fun _ _ => true) tinyTraced (overReleased.take 5)).isSome = true := by
  decide +kernel

/-- Two VIPs share a real. One removes it in a batch that lists it twice, and the
number of the other is free. -/
theorem dangling_after_repeated_removal :
    ∃ state, Run (Traced.Step .small) tinyTraced (overReleased.take 5) state ∧
      ¬ state.NoDangling := by
  have returned := (Option.some_get sharedTwice_returns).symm
  refine ⟨_, (run_of_tracedAll returned).mono fun _ _ _ taken => taken.1, ?_⟩
  intro sound
  have found : ((tracedAll (fun _ _ => true) tinyTraced (overReleased.take 5)).get
      sharedTwice_returns).lb.vips.lookup ⟨"10.200.1.2", 80, 6⟩ ≠ none := by decide +kernel
  obtain ⟨current, read⟩ := Option.ne_none_iff_exists'.mp found
  have member : ∀ current ∈ ((tracedAll (fun _ _ => true) tinyTraced (overReleased.take 5)).get
      sharedTwice_returns).lb.vips.lookup ⟨"10.200.1.2", 80, 6⟩, 0 ∈ current.reals := by
    decide +kernel
  apply (sound.vips _ current 0 read (member current read)).1
  decide +kernel

end KatranLb

end Katran
