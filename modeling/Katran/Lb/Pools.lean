import Katran.Lb.Effects

/-! # The pools of VIP and real numbers

Nine operations take numbers from two queues and give them back. Every one of
them is, for the pool of real numbers, a sequence of acquisitions, releases and
lookups of `RefPool`, which keep the pool sound even when a count has been
released once too often. VIP numbers are handed out and taken back together with
the entry of `vips_`. So in every reachable state every number is free or in
use, once (`pools_never_duplicate_or_lose`).
-/

namespace Katran

open Foundation UnorderedMap

namespace KatranLb

/-- What the operations of the library do to the numbers of the reals. -/
abbrev PoolMoves := RefPool.Moves IPAddress.key (2 ^ 32)

/-- The VIPs are untouched, and the pool of real numbers changes only by its own
operations. -/
structure Frame (before after : KatranLb) : Prop where
  config : after.config = before.config
  vipNums : after.vipNums = before.vipNums
  vips : after.vips = before.vips
  moves : PoolMoves before.realPool after.realPool

namespace Frame

private theorem refl (lb : KatranLb) : Frame lb lb := ⟨rfl, rfl, rfl, .refl _⟩

private theorem trans {first middle last : KatranLb} (left : Frame first middle)
    (right : Frame middle last) : Frame first last :=
  ⟨right.config.trans left.config, right.vipNums.trans left.vipNums,
    right.vips.trans left.vips, left.moves.trans right.moves⟩

private theorem of_sameRest {before after : KatranLb} (same : SameRest before after)
    (moves : PoolMoves before.realPool after.realPool) : Frame before after :=
  ⟨same.config, same.vipNums, same.vips, moves⟩

/-- What changes no table frames everything. -/
theorem of_sameTables {before after : KatranLb} (same : SameTables before after) :
    Frame before after :=
  of_sameRest same.toSameRest (same.realPool ▸ .refl _)

/-- A loop whose body stays within the frame stays within it. -/
theorem foldl {State Item : Type} {body : State → Item → State} (view : State → KatranLb)
    (kept : ∀ state item, Frame (view state) (view (body state item))) (items : List Item)
    (state : State) : Frame (view state) (view (items.foldl body state)) := by
  induction items generalizing state with
  | nil => exact .refl _
  | cons item items ih => exact (kept state item).trans (ih (body state item))

end Frame

/-- Taking a reference leaves the VIPs and the configuration alone. -/
theorem increaseRefCountForReal_frame (env : Env) (lb : KatranLb) (real : IPAddress) :
    Frame lb (lb.increaseRefCountForReal env real).2 := by
  apply Frame.of_sameRest (increaseRefCountForReal_sameRest env lb real)
  rw [increaseRefCountForReal_realPool]
  exact .acquire real (.refl _)

private theorem decreaseRefCountForReal_frame (lb : KatranLb) (real : Option IPAddress) :
    Frame lb (lb.decreaseRefCountForReal real) := by
  cases real with
  | none => exact .refl lb
  | some real =>
      apply Frame.of_sameRest (decreaseRefCountForReal_sameRest lb (some real))
      rw [decreaseRefCountForReal_realPool]
      exact .release real.key (.refl _)

private theorem realOfNum_frame (lb : KatranLb) (num : Nat) : Frame lb (lb.realOfNum num).2 := by
  apply Frame.of_sameRest (realOfNum_sameRest lb num)
  rw [(realOfNum_realPool lb num).2]
  exact .touch num (.refl _)

private theorem releaseNum_frame (lb : KatranLb) (num : Nat) : Frame lb (lb.releaseNum num) :=
  (realOfNum_frame lb num).trans (decreaseRefCountForReal_frame _ _)

/-- A real of a batch leaves the VIPs and the configuration alone. -/
theorem modifyReal_frame (folly : Folly) (env : Env) (action : ModifyAction) (batch : RealsBatch)
    (real : NewReal) : Frame batch.lb (modifyReal folly env action batch real).lb := by
  unfold modifyReal
  split
  · exact .of_sameTables (validateAddress_sameTables folly batch.lb real.address false)
  next raddr parsed =>
    cases action with
    | del =>
        dsimp only
        unfold delReal
        split
        · exact .refl _
        · split
          · exact decreaseRefCountForReal_frame batch.lb (some raddr)
          · exact .refl _
    | add =>
        dsimp only
        unfold addReal
        split
        · split
          · exact .refl _
          · exact increaseRefCountForReal_frame env batch.lb raddr
        · dsimp only
          split
          · exact increaseRefCountForReal_frame env batch.lb raddr
          · exact increaseRefCountForReal_frame env batch.lb raddr

private theorem modifyRealsBatch_frame (folly : Folly) (env : Env) (lb : KatranLb)
    (action : ModifyAction) (reals : List NewReal) (current : Vip) :
    Frame lb (lb.modifyRealsBatch folly env action reals current).lb :=
  Frame.foldl RealsBatch.lb (modifyReal_frame folly env action) reals
    { lb := lb, curReals := current.getReals env.listing, ureals := [], owners := [] }

/-- An id leaves the VIPs and the configuration alone. -/
theorem modifyQuicReal_frame (folly : Folly) (env : Env) (action : ModifyAction)
    (state : KatranLb × UnorderedMap UInt32 Nat) (real : QuicReal) :
    Frame state.1 (modifyQuicReal folly env action state real).1 := by
  obtain ⟨lb, toUpdate⟩ := state
  unfold modifyQuicReal
  dsimp only
  split
  · exact .of_sameTables (validateAddress_sameTables folly lb real.address false)
  next raddr parsed =>
    split
    · exact .refl lb
    · cases action with
      | del =>
          dsimp only
          split
          · have kept := decreaseRefCountForReal_frame lb (some raddr)
            exact ⟨kept.config, kept.vipNums, kept.vips, kept.moves⟩
          · exact .refl lb
      | add =>
          have kept := increaseRefCountForReal_frame env lb raddr
          dsimp only
          split
          · exact .refl lb
          · split
            · exact kept
            · exact ⟨kept.config, kept.vipNums, kept.vips, kept.moves⟩

/-- A change of ids leaves the VIPs and the configuration alone. -/
theorem modifyQuicRealsMapping_frame (folly : Folly) (env : Env) (lb : KatranLb)
    (action : ModifyAction) (reals : List QuicReal) :
    Frame lb (lb.modifyQuicRealsMapping folly env action reals) := by
  unfold modifyQuicRealsMapping
  split
  · exact .refl lb
  · have looped := Frame.foldl Prod.fst (modifyQuicReal_frame folly env action) reals (lb, ∅)
    dsimp only
    split
    · exact looped
    · exact looped.trans (.of_sameTables (SameTables.foldl
        (fun lb mapping => bpfCall_sameTables env lb _) _ _))

/-- Writing a rule changes none of the library's tables. -/
theorem modifyLpmSrcRule_sameTables (env : Env) (lb : KatranLb) (action : ModifyAction)
    (src : CIDRNetwork) (rnum : Nat) :
    SameTables lb (lb.modifyLpmSrcRule env action src rnum).2 :=
  bpfCall_sameTables env lb _

private theorem installRules_frame (env : Env) (dst : IPAddress) (srcs : List CIDRNetwork)
    (lb : KatranLb) : Frame lb (installRules env dst srcs lb).2.1 := by
  induction srcs generalizing lb with
  | nil => exact .refl lb
  | cons src srcs ih =>
      have kept := increaseRefCountForReal_frame env lb dst
      unfold installRules
      split
      · exact .refl lb
      · dsimp only
        split
        · exact kept
        · refine Frame.trans ?_ (ih _)
          split
          · exact ⟨kept.config, kept.vipNums, kept.vips, kept.moves⟩
          · refine Frame.trans ?_ (.of_sameTables (modifyLpmSrcRule_sameTables env _ .add src _))
            exact ⟨kept.config, kept.vipNums, kept.vips, kept.moves⟩

private theorem addSrcRoutingRuleCidr_frame (folly : Folly) (env : Env) (lb : KatranLb)
    (srcs : List CIDRNetwork) (dst : String) :
    Frame lb (lb.addSrcRoutingRuleCidr folly env srcs dst).2.1 := by
  unfold addSrcRoutingRuleCidr
  split
  · exact .refl lb
  · split
    · exact .of_sameTables (validateAddress_sameTables folly lb dst false)
    · exact installRules_frame env _ srcs lb

/-- Parsing networks changes none of the library's tables. -/
theorem collectNetworks_sameTables (folly : Folly) (total : Nat) (srcs : List String)
    (numErrors : Int) (srcNetworks : List CIDRNetwork) (lb : KatranLb) :
    SameTables lb (collectNetworks folly total srcs numErrors srcNetworks lb).2.2 := by
  induction srcs generalizing numErrors srcNetworks lb with
  | nil => exact .refl lb
  | cons src srcs ih =>
      have quiet := validateAddress_sameTables folly lb src true
      unfold collectNetworks
      dsimp only
      split
      · split
        · exact quiet
        · exact quiet.trans (ih _ _ _)
      · exact quiet.trans (ih _ _ _)

private theorem addSrcRoutingRule_frame (folly : Folly) (env : Env) (lb : KatranLb)
    (srcs : List String)
    (dst : String) : Frame lb (lb.addSrcRoutingRule folly env srcs dst).2.1 := by
  unfold addSrcRoutingRule
  split
  · exact .refl lb
  · split
    · exact .of_sameTables (validateAddress_sameTables folly lb dst false)
    · exact (Frame.of_sameTables (collectNetworks_sameTables folly srcs.length srcs 0 [] lb)).trans
        (addSrcRoutingRuleCidr_frame folly env _ _ dst)

/-- Removing a rule leaves the VIPs and the configuration alone. -/
theorem removeRule_frame (env : Env) (lb : KatranLb) (src : CIDRNetwork) :
    Frame lb (lb.removeRule env src) := by
  unfold removeRule
  split
  · exact .refl lb
  next rule found =>
    have kept : Frame lb ((lb.realOfNum rule.rnum).2.decreaseRefCountForReal
        (lb.realOfNum rule.rnum).1) :=
      (realOfNum_frame lb rule.rnum).trans (decreaseRefCountForReal_frame _ _)
    dsimp only
    split
    · exact ⟨kept.config, kept.vipNums, kept.vips, kept.moves⟩
    · have written := kept.trans
        (.of_sameTables (modifyLpmSrcRule_sameTables env _ .del src rule.rnum))
      exact ⟨written.config, written.vipNums, written.vips, written.moves⟩

private theorem delSrcRoutingRuleCidr_frame (env : Env) (lb : KatranLb) (srcs : List CIDRNetwork) :
    Frame lb (lb.delSrcRoutingRuleCidr env srcs).2 := by
  unfold delSrcRoutingRuleCidr
  split
  · exact .refl lb
  · exact Frame.foldl id (removeRule_frame env) srcs lb

private theorem delSrcRoutingRule_frame (folly : Folly) (env : Env) (lb : KatranLb)
    (srcs : List String) :
    Frame lb (lb.delSrcRoutingRule folly env srcs).2 := by
  unfold delSrcRoutingRule
  split
  · exact .refl lb
  · exact delSrcRoutingRuleCidr_frame env lb _

/-- Clearing a rule leaves the VIPs and the configuration alone. -/
theorem clearRule_frame {env : Env} {lb after : KatranLb} {rule : SrcRule}
    (cleared : clearRule env lb rule = some after) : Frame lb after := by
  obtain ⟨dst, _, rfl⟩ := Option.map_eq_some_iff.mp cleared
  dsimp only
  split
  · exact decreaseRefCountForReal_frame lb dst
  · exact (decreaseRefCountForReal_frame lb dst).trans
      (.of_sameTables (modifyLpmSrcRule_sameTables env _ .del rule.src rule.rnum))

private theorem foldlM_clearRule_frame {env : Env} {lb after : KatranLb}
    {entries : List (Sigma fun _ : CIDRNetwork => SrcRule)}
    (looped : entries.foldlM (fun lb entry => clearRule env lb entry.2) lb = some after) :
    Frame lb after := by
  induction entries generalizing lb with
  | nil =>
      obtain rfl := Option.some.inj looped
      exact .refl _
  | cons entry entries ih =>
      obtain ⟨next, stepped, rest⟩ := Option.bind_eq_some_iff.mp looped
      exact (clearRule_frame stepped).trans (ih rest)

/-- Clearing all rules leaves the VIPs and the configuration alone. -/
theorem clearAllSrcRoutingRules_frame {env : Env} {lb after : KatranLb} {done : Bool}
    (returned : lb.clearAllSrcRoutingRules env = some (done, after)) : Frame lb after := by
  rcases clearAllSrcRoutingRules_cases returned with rfl | ⟨cleared, rfl, looped⟩
  · exact .refl _
  · have kept := foldlM_clearRule_frame looped
    exact ⟨kept.config, kept.vipNums, kept.vips, kept.moves⟩

/-! ## Both pools -/

/-- Every real number and every VIP number is free or in use, once. -/
structure PoolsSound (lb : KatranLb) : Prop where
  reals : lb.realPool.Sound IPAddress.key lb.config.maxReals.toNat
  vips : (lb.vipNums ++ (values lb.vips).map Vip.vipNum).Perm
    (List.range lb.config.maxVips.toNat)

namespace PoolsSound

/-- A new balancer has all numbers free. -/
theorem new (config : KatranConfig) (features : KatranFeatures) (kernel : ConfigMaps) :
    (KatranLb.new config features kernel).PoolsSound where
  reals := RefPool.Sound.fresh config.maxReals.toNat
  vips := by
    simp only [KatranLb.new, values_empty, List.map_nil, List.append_nil, List.Perm.refl]

/-- What leaves the VIPs alone and moves the pool of reals keeps the pools sound. -/
theorem frame {before after : KatranLb} (sound : before.PoolsSound) (kept : Frame before after) :
    after.PoolsSound where
  reals := by
    rw [kept.config]
    exact kept.moves.sound sound.reals
  vips := by
    rw [kept.config, kept.vipNums, kept.vips]
    exact sound.vips

/-- A VIP number that is handed out goes to the new VIP. -/
theorem addVip {lb : KatranLb} {vip : VipKey} {added : Vip} {vipNums : List Nat}
    (sound : lb.PoolsSound) (absent : vip ∉ lb.vips) (free : lb.vipNums = added.vipNum :: vipNums) :
    PoolsSound { lb with vipNums := vipNums, vips := lb.vips.insert vip added } where
  reals := sound.reals
  vips := by
    have split := sound.vips
    rw [free] at split
    change (vipNums ++ added.vipNum :: (values (lb.vips.erase vip)).map Vip.vipNum).Perm _
    rw [erase_of_lookup_none (AList.lookup_eq_none.mpr absent)]
    exact List.perm_middle.trans split

/-- The number of a removed VIP is free again. -/
theorem delVip {lb : KatranLb} {vip : VipKey} {current : Vip} (sound : lb.PoolsSound)
    (found : lb.vips.lookup vip = some current) :
    PoolsSound
    { lb with vipNums := lb.vipNums ++ [current.vipNum], vips := lb.vips.erase vip } where
  reals := sound.reals
  vips := by
    have split := ((values_perm_cons_erase found).map Vip.vipNum).append_left lb.vipNums
    change ((lb.vipNums ++ [current.vipNum]) ++ (values (lb.vips.erase vip)).map Vip.vipNum).Perm _
    rw [List.append_assoc, List.singleton_append]
    exact split.symm.trans sound.vips

/-- Changing a VIP without renumbering it. -/
theorem modify {lb : KatranLb} {vip : VipKey} {current updated : Vip} (sound : lb.PoolsSound)
    (found : lb.vips.lookup vip = some current) (same : updated.vipNum = current.vipNum) :
    PoolsSound { lb with vips := lb.vips.insert vip updated } where
  reals := sound.reals
  vips := by
    have split := ((values_perm_cons_erase found).map Vip.vipNum).append_left lb.vipNums
    change (lb.vipNums ++ updated.vipNum :: (values (lb.vips.erase vip)).map Vip.vipNum).Perm _
    rw [same]
    exact split.symm.trans sound.vips

end PoolsSound

private theorem foldl_releaseNum_frame (lb : KatranLb) (nums : List Nat) :
    Frame lb (nums.foldl releaseNum lb) :=
  Frame.foldl id releaseNum_frame nums lb

/-- Changing the reals of a VIP keeps the pools sound. -/
theorem PoolsSound.modifyRealsForVip {folly : Folly} {env : Env} {lb after : KatranLb}
    {action : ModifyAction} {reals : List NewReal} {vip : VipKey} {done : Bool}
    (sound : lb.PoolsSound)
    (returned : lb.modifyRealsForVip folly env action reals vip = some (done, after)) :
    after.PoolsSound ∧ after.config = lb.config := by
  rcases modifyRealsForVip_cases returned with
    ⟨_, rfl, _⟩ | ⟨_, _, current, chPositions, updated, found, ring, same⟩
  · exact ⟨sound, rfl⟩
  · have kept := modifyRealsBatch_frame folly env lb action reals current
    have found' := found
    rw [← kept.vips] at found'
    obtain ⟨_, vipNum, _, _⟩ := Vip.reals_of_batchRealsUpdate ring
    exact ⟨((sound.frame kept).modify found' vipNum).frame (.of_sameTables same),
      same.config.trans kept.config⟩

/-- A call that is not about VIPs leaves them. -/
theorem Step.frame_of_other {folly : Folly} {lb after : KatranLb} {op : Op}
    (taken : Step folly lb op after) (other : ¬ op.OfVips) : Frame lb after := by
  obtain ⟨env, performed⟩ := taken
  cases op with
  | modifyQuicRealsMapping action reals =>
      obtain rfl := Option.some.inj performed
      exact modifyQuicRealsMapping_frame folly env lb action reals
  | addSrcRoutingRule srcs dst =>
      obtain rfl := Option.some.inj performed
      exact addSrcRoutingRule_frame folly env lb srcs dst
  | addSrcRoutingRuleCidr srcs dst =>
      obtain rfl := Option.some.inj performed
      exact addSrcRoutingRuleCidr_frame folly env lb srcs dst
  | delSrcRoutingRule srcs =>
      obtain rfl := Option.some.inj performed
      exact delSrcRoutingRule_frame folly env lb srcs
  | delSrcRoutingRuleCidr srcs =>
      obtain rfl := Option.some.inj performed
      exact delSrcRoutingRuleCidr_frame env lb srcs
  | clearAllSrcRoutingRules =>
      obtain ⟨⟨done, _⟩, returned, rfl⟩ := Option.map_eq_some_iff.mp performed
      exact clearAllSrcRoutingRules_frame returned
  | _ => exact (other trivial).elim

/-- Every operation keeps both pools sound. -/
theorem PoolsSound.step {folly : Folly} {lb after : KatranLb} {op : Op} (sound : lb.PoolsSound)
    (taken : Step folly lb op after) : after.PoolsSound ∧ after.config = lb.config := by
  obtain ⟨env, performed⟩ := taken
  have framed (kept : Frame lb after) : after.PoolsSound ∧ after.config = lb.config :=
    ⟨sound.frame kept, kept.config⟩
  cases op with
  | addVip vip flags =>
      obtain ⟨⟨done, _⟩, returned, rfl⟩ := Option.map_eq_some_iff.mp performed
      rcases addVip_cases returned with
        ⟨_, same⟩ | ⟨_, _, absent, _, vipNum, vipNums, _, free, same⟩
      · exact framed (.of_sameTables same)
      · exact ⟨(sound.addVip absent free).frame (.of_sameTables same), same.config⟩
  | delVip vip =>
      obtain ⟨⟨done, _⟩, returned, rfl⟩ := Option.map_eq_some_iff.mp performed
      rcases delVip_cases returned with ⟨_, rfl, _⟩ | ⟨_, _, current, found, same⟩
      · exact ⟨sound, rfl⟩
      · have kept := foldl_releaseNum_frame lb (current.getReals env.listing)
        rw [← kept.vips] at found
        rw [← kept.vips, ← kept.vipNums] at same
        exact ⟨((sound.frame kept).delVip found).frame (.of_sameTables same),
          same.config.trans kept.config⟩
  | modifyVip vip flag set =>
      obtain ⟨⟨done, _⟩, returned, rfl⟩ := Option.map_eq_some_iff.mp performed
      rcases modifyVip_cases returned with ⟨_, rfl⟩ | ⟨current, vipFlags, found, same⟩
      · exact ⟨sound, rfl⟩
      · refine ⟨PoolsSound.frame ?_ (.of_sameTables same), same.config⟩
        exact sound.modify found rfl
  | addRealForVip real vip =>
      obtain ⟨⟨done, _⟩, returned, rfl⟩ := Option.map_eq_some_iff.mp performed
      rw [addRealForVip_eq] at returned
      exact sound.modifyRealsForVip returned
  | delRealForVip real vip =>
      obtain ⟨⟨done, _⟩, returned, rfl⟩ := Option.map_eq_some_iff.mp performed
      rw [delRealForVip_eq] at returned
      exact sound.modifyRealsForVip returned
  | modifyRealsForVip action reals vip =>
      obtain ⟨⟨done, _⟩, returned, rfl⟩ := Option.map_eq_some_iff.mp performed
      exact sound.modifyRealsForVip returned
  | _ => exact framed (Step.frame_of_other ⟨env, performed⟩ not_false)

/-- A run keeps both pools sound and never changes the configuration. -/
theorem PoolsSound.run {folly : Folly} {lb after : KatranLb} {ops : List Op}
    (run : Run (Step folly) lb ops after) (sound : lb.PoolsSound) :
    after.PoolsSound ∧ after.config = lb.config := by
  apply Run.invariant (fun state => state.PoolsSound ∧ state.config = lb.config) _ run
  · exact ⟨sound, rfl⟩
  · rintro before op next ⟨held, same⟩ taken
    obtain ⟨kept, unchanged⟩ := held.step taken
    exact ⟨kept, unchanged.trans same⟩

/-- Every VIP was added by a forwarding balancer, under a valid address. -/
def VipsValid (folly : Folly) (lb : KatranLb) : Prop :=
  ∀ vip ∈ lb.vips, lb.config.disableForwarding = false ∧ ∃ addr, folly.parse vip.address = some addr

private theorem VipsValid.modifyRealsForVip {folly : Folly} {env : Env} {lb after : KatranLb}
    {action : ModifyAction} {reals : List NewReal} {vip : VipKey} {done : Bool}
    (valid : lb.VipsValid folly)
    (returned : lb.modifyRealsForVip folly env action reals vip = some (done, after)) :
    after.VipsValid folly := by
  rcases modifyRealsForVip_cases returned with
    ⟨_, rfl, _⟩ | ⟨_, _, current, chPositions, updated, found, ring, same⟩
  · exact valid
  · have kept := modifyRealsBatch_frame folly env lb action reals current
    intro other member
    rw [same.config, kept.config]
    rw [same.vips, AList.mem_insert, kept.vips] at member
    rcases member with rfl | earlier
    · exact valid other (mem_of_lookup found)
    · exact valid other earlier

/-- Every VIP stays valid. -/
theorem VipsValid.step {folly : Folly} {lb after : KatranLb} {op : Op} (valid : lb.VipsValid folly)
    (taken : Step folly lb op after) : after.VipsValid folly := by
  obtain ⟨env, performed⟩ := taken
  have framed (kept : Frame lb after) : after.VipsValid folly := by
    intro vip member
    rw [kept.config]
    exact valid vip (kept.vips ▸ member)
  cases op with
  | addVip vip flags =>
      obtain ⟨⟨done, _⟩, returned, rfl⟩ := Option.map_eq_some_iff.mp performed
      rcases addVip_cases returned with
        ⟨_, same⟩ | ⟨_, forwards, absent, addr, vipNum, vipNums, parsed, free, same⟩
      · exact framed (.of_sameTables same)
      · intro other member
        rw [same.config]
        rw [same.vips, AList.mem_insert] at member
        rcases member with rfl | earlier
        · exact ⟨forwards, addr, parsed⟩
        · exact valid other earlier
  | delVip vip =>
      obtain ⟨⟨done, _⟩, returned, rfl⟩ := Option.map_eq_some_iff.mp performed
      rcases delVip_cases returned with ⟨_, rfl, _⟩ | ⟨_, _, current, found, same⟩
      · exact valid
      · have kept := foldl_releaseNum_frame lb (current.getReals env.listing)
        intro other member
        rw [same.config, kept.config]
        rw [same.vips, AList.mem_erase] at member
        exact valid other member.2
  | modifyVip vip flag set =>
      obtain ⟨⟨done, _⟩, returned, rfl⟩ := Option.map_eq_some_iff.mp performed
      rcases modifyVip_cases returned with ⟨_, rfl⟩ | ⟨current, vipFlags, found, same⟩
      · exact valid
      · intro other member
        rw [same.config]
        rw [same.vips, AList.mem_insert] at member
        rcases member with rfl | earlier
        · exact valid other (mem_of_lookup found)
        · exact valid other earlier
  | addRealForVip real vip =>
      obtain ⟨⟨done, _⟩, returned, rfl⟩ := Option.map_eq_some_iff.mp performed
      rw [addRealForVip_eq] at returned
      exact valid.modifyRealsForVip returned
  | delRealForVip real vip =>
      obtain ⟨⟨done, _⟩, returned, rfl⟩ := Option.map_eq_some_iff.mp performed
      rw [delRealForVip_eq] at returned
      exact valid.modifyRealsForVip returned
  | modifyRealsForVip action reals vip =>
      obtain ⟨⟨done, _⟩, returned, rfl⟩ := Option.map_eq_some_iff.mp performed
      exact valid.modifyRealsForVip returned
  | modifyQuicRealsMapping action reals =>
      obtain rfl := Option.some.inj performed
      exact framed (modifyQuicRealsMapping_frame folly env lb action reals)
  | addSrcRoutingRule srcs dst =>
      obtain rfl := Option.some.inj performed
      exact framed (addSrcRoutingRule_frame folly env lb srcs dst)
  | addSrcRoutingRuleCidr srcs dst =>
      obtain rfl := Option.some.inj performed
      exact framed (addSrcRoutingRuleCidr_frame folly env lb srcs dst)
  | delSrcRoutingRule srcs =>
      obtain rfl := Option.some.inj performed
      exact framed (delSrcRoutingRule_frame folly env lb srcs)
  | delSrcRoutingRuleCidr srcs =>
      obtain rfl := Option.some.inj performed
      exact framed (delSrcRoutingRuleCidr_frame env lb srcs)
  | clearAllSrcRoutingRules =>
      obtain ⟨⟨done, _⟩, returned, rfl⟩ := Option.map_eq_some_iff.mp performed
      exact framed (clearAllSrcRoutingRules_frame returned)

/-- **Pools never duplicate or lose a number.** In every state reached by any
calls with any arguments, the free real numbers and those of `reals_` are the
numbers below `maxReals`, each once; so are the free VIP numbers and those of
`vips_`; and `numToReals_` names the owner of every real number in use. -/
theorem pools_never_duplicate_or_lose {folly : Folly} {config : KatranConfig}
    {features : KatranFeatures} {kernel : ConfigMaps} {ops : List Op} {lb : KatranLb}
    (run : Run (Step folly) (KatranLb.new config features kernel) ops lb) :
    (lb.realNums ++ (values lb.reals).map RefPool.Slot.num).Perm
        (List.range config.maxReals.toNat) ∧
      (lb.vipNums ++ (values lb.vips).map Vip.vipNum).Perm (List.range config.maxVips.toNat) ∧
      ∀ addr rmeta, lb.reals.lookup addr = some rmeta →
        ∃ owner, lb.numToReals.lookup rmeta.num = some (some owner) ∧ owner.key = addr := by
  obtain ⟨sound, same⟩ := PoolsSound.run run (.new config features kernel)
  have unchanged : lb.config = config := same
  rw [← unchanged]
  exact ⟨sound.reals.partitioned, sound.vips, sound.reals.named⟩

/-- Two VIPs share a real, which one of them removes twice in one batch. -/
def overReleased : List Op :=
  [.addVip ⟨"10.200.1.1", 80, 6⟩ 0, .addVip ⟨"10.200.1.2", 80, 6⟩ 0,
    .addRealForVip ⟨"10.0.0.1", 1⟩ ⟨"10.200.1.1", 80, 6⟩,
    .addRealForVip ⟨"10.0.0.1", 1⟩ ⟨"10.200.1.2", 80, 6⟩,
    .modifyRealsForVip .del [⟨"10.0.0.1", 1⟩, ⟨"10.0.0.1", 1⟩] ⟨"10.200.1.1", 80, 6⟩,
    .delVip ⟨"10.200.1.2", 80, 6⟩]

/-- A balancer for two VIPs and three reals. -/
def tiny : KatranLb :=
  .new { maxVips := 2, maxReals := 3, chRingSize := 3 } {} (.fresh [2, 0, 0, 0, 0, 1] fun _ => true)

private theorem overReleased_returns :
    (tiny.performAll .small (.plain 20) overReleased).isSome = true := by
  decide +kernel

/-- The numbers are all there after a real has been released too often. -/
theorem pools_never_duplicate_or_lose_overReleased :
    ∃ lb, tiny.performAll .small (.plain 20) overReleased = some lb ∧
      lb.numToReals.lookup 0 = some none ∧
      (lb.realNums ++ (values lb.reals).map RefPool.Slot.num).Perm (List.range 3) := by
  have returned := (Option.some_get overReleased_returns).symm
  exact ⟨_, returned, by decide +kernel,
    (pools_never_duplicate_or_lose (run_of_performAll returned)).1⟩

end KatranLb

end Katran
