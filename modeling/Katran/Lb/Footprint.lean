import Katran.Lb.Kernel

/-! # Which of the kernel's maps an operation may write

Whether or not bpf calls succeed, an operation on VIPs writes `vip_map` only, one on the
reals of a VIP writes `reals` and `ch_rings`, one on QUIC ids `reals` and `quic_mapping`,
and one on source routing rules `reals` and the two tries.
-/

namespace Katran

open Foundation UnorderedMap

namespace KatranLb

variable {folly : Folly} {env : Env} {lb after : KatranLb} {vip : VipKey} {done : Bool}

/-- Nothing in the kernel but `vip_map` differs. -/
def OnlyVips (before after : ConfigMaps) : Prop := after = { before with vipMap := after.vipMap }

/-- Nothing in the kernel but `reals` and `ch_rings` differs. -/
def OnlyRings (before after : ConfigMaps) : Prop :=
  after = { before with reals := after.reals, chRings := after.chRings }

/-- Nothing in the kernel but `reals` and `quic_mapping` differs. -/
def OnlyQuic (before after : ConfigMaps) : Prop :=
  after = { before with reals := after.reals, quicMapping := after.quicMapping }

/-- Nothing in the kernel but `reals` and the tries differs. -/
def OnlyRules (before after : ConfigMaps) : Prop :=
  after = { before with
    reals := after.reals, lpmSrcV4 := after.lpmSrcV4, lpmSrcV6 := after.lpmSrcV6 }

/-- A bpf call does nothing to the kernel, or what it was made for. -/
theorem bpfCall_kernel_cases (env : Env) (lb : KatranLb) (change : ConfigMaps → ConfigMaps) :
    (lb.bpfCall env change).2.kernel = lb.kernel ∨
      (lb.bpfCall env change).2.kernel = change lb.kernel := by
  unfold bpfCall
  split
  · exact .inr rfl
  · exact .inl rfl

/-! ## VIPs -/

private theorem updateVipMap_onlyVips {action : ModifyAction} {vipMeta : VipMeta}
    {updated : Bool × KatranLb}
    (returned : lb.updateVipMap folly env action vip vipMeta = some updated) :
    OnlyVips lb.kernel updated.2.kernel := by
  obtain ⟨addr, _, kernel⟩ := updateVipMap_tries returned
  rw [kernel.2, ConfigMaps.trySetVip]
  split <;> rfl

/-- Adding a VIP writes only `vip_map`. -/
theorem addVip_onlyVips {flags : UInt32}
    (returned : lb.addVip folly env vip flags = some (done, after)) :
    OnlyVips lb.kernel after.kernel := by
  have valid := validateAddress_kernel folly lb vip.address false
  unfold addVip at returned
  split at returned
  · obtain ⟨_, rfl⟩ := Prod.mk.inj (Option.some.inj returned)
    rfl
  dsimp only at returned
  split at returned
  · obtain ⟨_, rfl⟩ := Prod.mk.inj (Option.some.inj returned)
    rw [valid]
    rfl
  split at returned
  · obtain ⟨_, rfl⟩ := Prod.mk.inj (Option.some.inj returned)
    rw [valid]
    rfl
  split at returned
  · obtain ⟨_, rfl⟩ := Prod.mk.inj (Option.some.inj returned)
    rw [valid]
    rfl
  split at returned
  · obtain ⟨_, rfl⟩ := Prod.mk.inj (Option.some.inj returned)
    dsimp only
    rw [valid]
    rfl
  · obtain ⟨updated, written, same⟩ := Option.map_eq_some_iff.mp returned
    obtain ⟨_, rfl⟩ := Prod.mk.inj same
    have only := updateVipMap_onlyVips written
    rw [← valid]
    exact only

/-- Removing a VIP writes only `vip_map`. -/
theorem delVip_onlyVips (returned : lb.delVip folly env vip = some (done, after)) :
    OnlyVips lb.kernel after.kernel := by
  unfold delVip at returned
  split at returned
  · obtain ⟨_, rfl⟩ := Prod.mk.inj (Option.some.inj returned)
    rfl
  split at returned
  · obtain ⟨_, rfl⟩ := Prod.mk.inj (Option.some.inj returned)
    rfl
  next current found =>
    have released := foldl_releaseNum_kernel lb (current.getReals env.listing)
    dsimp only at returned
    split at returned
    · obtain ⟨_, rfl⟩ := Prod.mk.inj (Option.some.inj returned)
      dsimp only
      rw [released]
      rfl
    · obtain ⟨updated, written, same⟩ := Option.map_eq_some_iff.mp returned
      obtain ⟨_, rfl⟩ := Prod.mk.inj same
      have only := updateVipMap_onlyVips written
      rw [← released]
      exact only

/-- Changing the flags of a VIP writes only `vip_map`. -/
theorem modifyVip_onlyVips {flag : UInt32} {set : Bool}
    (returned : lb.modifyVip folly env vip flag set = some (done, after)) :
    OnlyVips lb.kernel after.kernel := by
  unfold modifyVip at returned
  split at returned
  · obtain ⟨_, rfl⟩ := Prod.mk.inj (Option.some.inj returned)
    rfl
  · dsimp only at returned
    split at returned
    · obtain ⟨_, rfl⟩ := Prod.mk.inj (Option.some.inj returned)
      rfl
    · exact updateVipMap_onlyVips returned

/-! ## Reals of a VIP -/

private theorem OnlyRings.trans {first middle last : ConfigMaps} (left : OnlyRings first middle)
    (right : OnlyRings middle last) : OnlyRings first last := by
  unfold OnlyRings at *
  rw [right, left]

private theorem OnlyReals.onlyRings {before after : ConfigMaps} (only : OnlyReals before after) :
    OnlyRings before after := by
  unfold OnlyRings
  rw [only]

private theorem foldl_writePosition_onlyRings (env : Env) (vipNum : Nat) (positions : List RealPos)
    (lb : KatranLb) :
    OnlyRings lb.kernel (positions.foldl (writePosition env vipNum) lb).kernel := by
  induction positions generalizing lb with
  | nil => rfl
  | cons pos positions ih =>
      refine OnlyRings.trans ?_ (ih _)
      unfold writePosition bpfCall
      split <;> rfl

/-- Changing the reals of a VIP writes only rings and reals. -/
theorem modifyRealsForVip_onlyRings {action : ModifyAction} {reals : List NewReal}
    (returned : lb.modifyRealsForVip folly env action reals vip = some (done, after)) :
    OnlyRings lb.kernel after.kernel := by
  unfold modifyRealsForVip at returned
  split at returned
  · obtain ⟨_, rfl⟩ := Prod.mk.inj (Option.some.inj returned)
    rfl
  split at returned
  · obtain ⟨_, rfl⟩ := Prod.mk.inj (Option.some.inj returned)
    rfl
  next current found =>
    have looped := (modifyRealsBatch_onlyReals folly env lb action reals current).onlyRings
    obtain ⟨⟨chPositions, updated⟩, ring, same⟩ := Option.map_eq_some_iff.mp returned
    obtain ⟨_, rfl⟩ := Prod.mk.inj same
    split
    · exact looped
    · exact looped.trans (foldl_writePosition_onlyRings env updated.vipNum chPositions _)

/-! ## QUIC ids -/

private theorem OnlyQuic.trans {first middle last : ConfigMaps} (left : OnlyQuic first middle)
    (right : OnlyQuic middle last) : OnlyQuic first last := by
  unfold OnlyQuic at *
  rw [right, left]

private theorem OnlyReals.onlyQuic {before after : ConfigMaps} (only : OnlyReals before after) :
    OnlyQuic before after := by
  unfold OnlyQuic
  rw [only]

private theorem modifyQuicReal_onlyReals (folly : Folly) (env : Env) (action : ModifyAction)
    (state : KatranLb × UnorderedMap UInt32 Nat) (real : QuicReal) :
    OnlyReals state.1.kernel (modifyQuicReal folly env action state real).1.kernel := by
  obtain ⟨lb, toUpdate⟩ := state
  unfold modifyQuicReal
  dsimp only
  split
  · dsimp only
    rw [validateAddress_kernel]
    exact .refl _
  next raddr parsed =>
    split
    · exact .refl _
    cases action with
    | del =>
        dsimp only
        split
        · dsimp only
          rw [decreaseRefCountForReal_kernel]
          exact .refl _
        · exact .refl _
    | add =>
        have kept := increaseRefCountForReal_onlyReals env lb raddr
        dsimp only
        split
        · exact .refl _
        · split
          · exact kept
          · exact kept

/-- The loop over the ids writes only reals. -/
theorem foldl_modifyQuicReal_onlyReals (folly : Folly) (env : Env) (action : ModifyAction)
    (reals : List QuicReal) (state : KatranLb × UnorderedMap UInt32 Nat) :
    OnlyReals state.1.kernel (reals.foldl (modifyQuicReal folly env action) state).1.kernel := by
  induction reals generalizing state with
  | nil => exact .refl _
  | cons real reals ih =>
      exact (modifyQuicReal_onlyReals folly env action state real).trans (ih _)

private theorem foldl_writeQuicMapping_onlyQuic (env : Env)
    (mappings : List (Sigma fun _ : UInt32 => Nat)) (lb : KatranLb) :
    OnlyQuic lb.kernel (mappings.foldl (writeQuicMapping env) lb).kernel := by
  induction mappings generalizing lb with
  | nil => rfl
  | cons mapping mappings ih =>
      refine OnlyQuic.trans ?_ (ih _)
      unfold writeQuicMapping bpfCall
      split <;> rfl

/-- Writing ids does not write reals. -/
theorem foldl_writeQuicMapping_reals (env : Env) (mappings : List (Sigma fun _ : UInt32 => Nat))
    (lb : KatranLb) :
    (mappings.foldl (writeQuicMapping env) lb).kernel.reals = lb.kernel.reals := by
  induction mappings generalizing lb with
  | nil => rfl
  | cons mapping mappings ih =>
      rw [List.foldl_cons, ih]
      unfold writeQuicMapping
      rcases bpfCall_kernel_cases env lb _ with same | written
      · rw [same]
      · rw [written]

private theorem modifyQuicRealsMapping_onlyQuic (folly : Folly) (env : Env) (lb : KatranLb)
    (action : ModifyAction) (reals : List QuicReal) :
    OnlyQuic lb.kernel (lb.modifyQuicRealsMapping folly env action reals).kernel := by
  unfold modifyQuicRealsMapping
  split
  · rfl
  · have looped := (foldl_modifyQuicReal_onlyReals folly env action reals (lb, ∅)).onlyQuic
    dsimp only
    split
    · exact looped
    · exact looped.trans (foldl_writeQuicMapping_onlyQuic env _ _)

/-! ## Source routing rules -/

private theorem OnlyRules.trans {first middle last : ConfigMaps} (left : OnlyRules first middle)
    (right : OnlyRules middle last) : OnlyRules first last := by
  unfold OnlyRules at *
  rw [right, left]

private theorem OnlyReals.onlyRules {before after : ConfigMaps} (only : OnlyReals before after) :
    OnlyRules before after := by
  unfold OnlyRules
  rw [only]

private theorem modifyLpmSrcRule_onlyRules (env : Env) (lb : KatranLb) (action : ModifyAction)
    (src : CIDRNetwork) (rnum : Nat) :
    OnlyRules lb.kernel (lb.modifyLpmSrcRule env action src rnum).2.kernel := by
  unfold modifyLpmSrcRule
  rcases bpfCall_kernel_cases env lb _ with same | written
  · rw [same]
    rfl
  · rw [written]
    split <;> rfl

/-- Writing a rule does not write reals. -/
theorem modifyLpmSrcRule_reals (env : Env) (lb : KatranLb) (action : ModifyAction)
    (src : CIDRNetwork) (rnum : Nat) :
    (lb.modifyLpmSrcRule env action src rnum).2.kernel.reals = lb.kernel.reals := by
  unfold modifyLpmSrcRule
  rcases bpfCall_kernel_cases env lb _ with same | written
  · rw [same]
  · rw [written]
    split <;> rfl

private theorem installRules_onlyRules (env : Env) (dst : IPAddress) (srcs : List CIDRNetwork)
    (lb : KatranLb) : OnlyRules lb.kernel (installRules env dst srcs lb).2.1.kernel := by
  induction srcs generalizing lb with
  | nil => rfl
  | cons src srcs ih =>
      have taken := (increaseRefCountForReal_onlyReals env lb dst).onlyRules
      unfold installRules
      split
      · rfl
      · dsimp only
        split
        · exact taken
        · refine OnlyRules.trans ?_ (ih _)
          split
          · exact taken
          · exact taken.trans (modifyLpmSrcRule_onlyRules env _ .add src _)

private theorem addSrcRoutingRuleCidr_onlyRules (folly : Folly) (env : Env) (lb : KatranLb)
    (srcs : List CIDRNetwork) (dst : String) :
    OnlyRules lb.kernel (lb.addSrcRoutingRuleCidr folly env srcs dst).2.1.kernel := by
  unfold addSrcRoutingRuleCidr
  split
  · rfl
  · split
    · dsimp only
      rw [validateAddress_kernel]
      rfl
    · exact installRules_onlyRules env _ srcs lb

/-- Parsing networks writes nothing. -/
theorem collectNetworks_kernel (folly : Folly) (total : Nat) (srcs : List String)
    (numErrors : Int) (srcNetworks : List CIDRNetwork) (lb : KatranLb) :
    (collectNetworks folly total srcs numErrors srcNetworks lb).2.2.kernel = lb.kernel := by
  induction srcs generalizing numErrors srcNetworks lb with
  | nil => rfl
  | cons src srcs ih =>
      have valid := validateAddress_kernel folly lb src true
      unfold collectNetworks
      dsimp only
      split
      · split
        · exact valid
        · rw [ih, valid]
      · rw [ih, valid]

private theorem addSrcRoutingRule_onlyRules (folly : Folly) (env : Env) (lb : KatranLb)
    (srcs : List String) (dst : String) :
    OnlyRules lb.kernel (lb.addSrcRoutingRule folly env srcs dst).2.1.kernel := by
  unfold addSrcRoutingRule
  split
  · rfl
  · split
    · dsimp only
      rw [validateAddress_kernel]
      rfl
    · dsimp only
      rw [← collectNetworks_kernel folly srcs.length srcs 0 [] lb]
      exact addSrcRoutingRuleCidr_onlyRules folly env _ _ dst

/-- Looking up the owner of a number writes nothing. -/
theorem realOfNum_kernel (lb : KatranLb) (num : Nat) : (lb.realOfNum num).2.kernel = lb.kernel := by
  unfold realOfNum
  split <;> rfl

private theorem removeRule_onlyRules (env : Env) (lb : KatranLb) (src : CIDRNetwork) :
    OnlyRules lb.kernel (lb.removeRule env src).kernel := by
  unfold removeRule
  split
  · rfl
  next rule found =>
    have released : ((lb.realOfNum rule.rnum).2.decreaseRefCountForReal
        (lb.realOfNum rule.rnum).1).kernel = lb.kernel := by
      rw [decreaseRefCountForReal_kernel, realOfNum_kernel]
    dsimp only
    rw [← released]
    split
    · rfl
    · exact modifyLpmSrcRule_onlyRules env _ .del src rule.rnum

private theorem foldl_removeRule_onlyRules (env : Env) (srcs : List CIDRNetwork) (lb : KatranLb) :
    OnlyRules lb.kernel (srcs.foldl (removeRule env) lb).kernel := by
  induction srcs generalizing lb with
  | nil => rfl
  | cons src srcs ih => exact (removeRule_onlyRules env lb src).trans (ih _)

private theorem delSrcRoutingRuleCidr_onlyRules (env : Env) (lb : KatranLb)
    (srcs : List CIDRNetwork) :
    OnlyRules lb.kernel (lb.delSrcRoutingRuleCidr env srcs).2.kernel := by
  unfold delSrcRoutingRuleCidr
  split
  · rfl
  · exact foldl_removeRule_onlyRules env srcs lb

private theorem delSrcRoutingRule_onlyRules (folly : Folly) (env : Env) (lb : KatranLb)
    (srcs : List String) : OnlyRules lb.kernel (lb.delSrcRoutingRule folly env srcs).2.kernel := by
  unfold delSrcRoutingRule
  split
  · rfl
  · exact delSrcRoutingRuleCidr_onlyRules env lb _

private theorem clearRule_onlyRules {rule : SrcRule}
    (cleared : clearRule env lb rule = some after) :
    OnlyRules lb.kernel after.kernel := by
  obtain ⟨dst, _, rfl⟩ := Option.map_eq_some_iff.mp cleared
  have released := decreaseRefCountForReal_kernel lb dst
  dsimp only
  rw [← released]
  split
  · rfl
  · exact modifyLpmSrcRule_onlyRules env _ .del rule.src rule.rnum

private theorem foldlM_clearRule_onlyRules {entries : List (Sigma fun _ : CIDRNetwork => SrcRule)}
    (looped : entries.foldlM (fun lb entry => clearRule env lb entry.2) lb = some after) :
    OnlyRules lb.kernel after.kernel := by
  induction entries generalizing lb with
  | nil =>
      obtain rfl := Option.some.inj looped
      rfl
  | cons entry entries ih =>
      obtain ⟨next, stepped, rest⟩ := Option.bind_eq_some_iff.mp looped
      exact (clearRule_onlyRules stepped).trans (ih rest)

private theorem clearAllSrcRoutingRules_onlyRules
    (returned : lb.clearAllSrcRoutingRules env = some (done, after)) :
    OnlyRules lb.kernel after.kernel := by
  rcases clearAllSrcRoutingRules_cases returned with rfl | ⟨cleared, rfl, looped⟩
  · rfl
  · have only := foldlM_clearRule_onlyRules looped
    exact only

/-! ## All operations -/

/-- What an operation may write. -/
def Writes : Op → ConfigMaps → ConfigMaps → Prop
  | .addVip _ _ => OnlyVips
  | .delVip _ => OnlyVips
  | .modifyVip _ _ _ => OnlyVips
  | .addRealForVip _ _ => OnlyRings
  | .delRealForVip _ _ => OnlyRings
  | .modifyRealsForVip _ _ _ => OnlyRings
  | .modifyQuicRealsMapping _ _ => OnlyQuic
  | .addSrcRoutingRule _ _ => OnlyRules
  | .addSrcRoutingRuleCidr _ _ => OnlyRules
  | .delSrcRoutingRule _ => OnlyRules
  | .delSrcRoutingRuleCidr _ => OnlyRules
  | .clearAllSrcRoutingRules => OnlyRules

/-- A step writes no other map. -/
theorem Step.writes {op : Op} (taken : Step folly lb op after) :
    Writes op lb.kernel after.kernel := by
  obtain ⟨env, performed⟩ := taken
  cases op with
  | addVip vip flags =>
      obtain ⟨⟨done, _⟩, returned, rfl⟩ := Option.map_eq_some_iff.mp performed
      exact addVip_onlyVips returned
  | delVip vip =>
      obtain ⟨⟨done, _⟩, returned, rfl⟩ := Option.map_eq_some_iff.mp performed
      exact delVip_onlyVips returned
  | modifyVip vip flag set =>
      obtain ⟨⟨done, _⟩, returned, rfl⟩ := Option.map_eq_some_iff.mp performed
      exact modifyVip_onlyVips returned
  | addRealForVip real vip =>
      obtain ⟨⟨done, _⟩, returned, rfl⟩ := Option.map_eq_some_iff.mp performed
      rw [addRealForVip_eq] at returned
      exact modifyRealsForVip_onlyRings returned
  | delRealForVip real vip =>
      obtain ⟨⟨done, _⟩, returned, rfl⟩ := Option.map_eq_some_iff.mp performed
      rw [delRealForVip_eq] at returned
      exact modifyRealsForVip_onlyRings returned
  | modifyRealsForVip action reals vip =>
      obtain ⟨⟨done, _⟩, returned, rfl⟩ := Option.map_eq_some_iff.mp performed
      exact modifyRealsForVip_onlyRings returned
  | modifyQuicRealsMapping action reals =>
      obtain rfl := Option.some.inj performed
      exact modifyQuicRealsMapping_onlyQuic folly env lb action reals
  | addSrcRoutingRule srcs dst =>
      obtain rfl := Option.some.inj performed
      exact addSrcRoutingRule_onlyRules folly env lb srcs dst
  | addSrcRoutingRuleCidr srcs dst =>
      obtain rfl := Option.some.inj performed
      exact addSrcRoutingRuleCidr_onlyRules folly env lb srcs dst
  | delSrcRoutingRule srcs =>
      obtain rfl := Option.some.inj performed
      exact delSrcRoutingRule_onlyRules folly env lb srcs
  | delSrcRoutingRuleCidr srcs =>
      obtain rfl := Option.some.inj performed
      exact delSrcRoutingRuleCidr_onlyRules env lb srcs
  | clearAllSrcRoutingRules =>
      obtain ⟨⟨done, _⟩, returned, rfl⟩ := Option.map_eq_some_iff.mp performed
      exact clearAllSrcRoutingRules_onlyRules returned

/-- Only QUIC operations write `quic_mapping`. -/
theorem Writes.quicMapping {op : Op} {before after : ConfigMaps} (writes : Writes op before after)
    (other : ∀ action reals, op ≠ .modifyQuicRealsMapping action reals) :
    after.quicMapping = before.quicMapping := by
  cases op with
  | modifyQuicRealsMapping action reals => exact (other action reals rfl).elim
  | _ => rw [show after = _ from writes]

end KatranLb

end Katran
