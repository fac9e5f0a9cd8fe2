import Katran.Lb.Footprint
import Katran.Lb.Rings

/-! # What is written in every state reached

In every state that operations reach whose bpf calls succeed, the kernel has the address
of every real in use under its number (`RealsWritten`), and every entry of `vip_map` has
the number of a VIP (`VipNumsKnown`).
-/

namespace Katran

open Foundation UnorderedMap

namespace KatranLb

variable {folly : Folly} {env : Env} {lb after : KatranLb} {vip : VipKey} {done : Bool}

/-! ## Reals in use -/

namespace RealsWritten

private theorem foldl_releaseNum (written : lb.RealsWritten) (nums : List Nat) :
    (nums.foldl KatranLb.releaseNum lb).RealsWritten := by
  induction nums generalizing lb with
  | nil => exact written
  | cons num nums ih => exact ih (written.releaseNum num)

private theorem realOfNum (written : lb.RealsWritten) (num : Nat) :
    (lb.realOfNum num).2.RealsWritten := by
  unfold KatranLb.realOfNum
  split
  · exact written
  · refine written.of_names rfl ?_
    intro other owner named
    rw [lookup_insert_eq_ite] at named
    split at named
    · cases named
    · exact named

private theorem addVip {flags : UInt32} (written : lb.RealsWritten)
    (returned : lb.addVip folly env vip flags = some (done, after)) : after.RealsWritten := by
  have only := addVip_onlyVips returned
  rcases addVip_cases returned with ⟨_, same⟩ | ⟨_, _, _, _, _, _, _, _, same⟩
  · exact written.sameTables same (by rw [only])
  · apply written.of_names (by rw [only])
    intro num real named
    rwa [same.numToReals] at named

private theorem delVip (written : lb.RealsWritten)
    (returned : lb.delVip folly env vip = some (done, after)) : after.RealsWritten := by
  have only := delVip_onlyVips returned
  rcases delVip_cases returned with ⟨_, rfl, _⟩ | ⟨_, _, current, _, same⟩
  · exact written
  · have released := written.foldl_releaseNum (current.getReals env.listing)
    apply released.of_names (by rw [foldl_releaseNum_kernel, only])
    intro num real named
    rwa [same.numToReals] at named

private theorem modifyVip {flag : UInt32} {set : Bool} (written : lb.RealsWritten)
    (returned : lb.modifyVip folly env vip flag set = some (done, after)) :
    after.RealsWritten := by
  have only := modifyVip_onlyVips returned
  rcases modifyVip_cases returned with ⟨_, rfl⟩ | ⟨current, vipFlags, _, same⟩
  · exact written
  · apply written.of_names (by rw [only])
    intro num real named
    rwa [same.numToReals] at named

private theorem modifyQuicReal {action : ModifyAction} {toUpdate : UnorderedMap UInt32 Nat}
    (written : lb.RealsWritten) (reliable : env.Reliable) (live : lb.config.testing = false)
    (real : QuicReal) :
    (KatranLb.modifyQuicReal folly env action (lb, toUpdate) real).1.RealsWritten := by
  unfold KatranLb.modifyQuicReal
  dsimp only
  split
  · exact written.sameTables (validateAddress_sameTables folly lb real.address false)
      (by rw [validateAddress_kernel])
  next raddr parsed =>
    split
    · exact written
    cases action with
    | del =>
        dsimp only
        split
        · exact written.decreaseRefCountForReal (some raddr)
        · exact written
    | add =>
        have later := written.increaseRefCountForReal reliable live raddr
        dsimp only
        split
        · exact written
        · split
          · exact later
          · exact later

private theorem foldl_modifyQuicReal {action : ModifyAction} {reals : List QuicReal}
    {state : KatranLb × UnorderedMap UInt32 Nat} (written : state.1.RealsWritten)
    (reliable : env.Reliable) (live : state.1.config.testing = false) :
    (reals.foldl (KatranLb.modifyQuicReal folly env action) state).1.RealsWritten := by
  induction reals generalizing state with
  | nil => exact written
  | cons real reals ih =>
      apply ih (written.modifyQuicReal reliable live real)
      rw [(modifyQuicReal_frame folly env action state real).config]
      exact live

private theorem modifyQuicRealsMapping (written : lb.RealsWritten) (reliable : env.Reliable)
    (live : lb.config.testing = false) (action : ModifyAction) (reals : List QuicReal) :
    (lb.modifyQuicRealsMapping folly env action reals).RealsWritten := by
  unfold KatranLb.modifyQuicRealsMapping
  split
  · exact written
  have looped : (reals.foldl (KatranLb.modifyQuicReal folly env action) (lb, ∅)).1.RealsWritten :=
    foldl_modifyQuicReal written reliable live
  dsimp only
  split
  · exact looped
  · exact looped.sameTables (SameTables.foldl (fun lb mapping => bpfCall_sameTables env lb _) _ _)
      (foldl_writeQuicMapping_reals env _ _)

private theorem modifyLpmSrcRule (written : lb.RealsWritten) (env : Env) (action : ModifyAction)
    (src : CIDRNetwork) (rnum : Nat) :
    (lb.modifyLpmSrcRule env action src rnum).2.RealsWritten :=
  written.sameTables (modifyLpmSrcRule_sameTables env lb action src rnum)
    (modifyLpmSrcRule_reals env lb action src rnum)

private theorem installRules {dst : IPAddress} {srcs : List CIDRNetwork} (written : lb.RealsWritten)
    (reliable : env.Reliable) (live : lb.config.testing = false) :
    (KatranLb.installRules env dst srcs lb).2.1.RealsWritten := by
  induction srcs generalizing lb with
  | nil => exact written
  | cons src srcs ih =>
      have taken := written.increaseRefCountForReal reliable live dst
      have rest := increaseRefCountForReal_sameRest env lb dst
      unfold KatranLb.installRules
      split
      · exact written
      · dsimp only
        split
        · exact taken
        · rw [rest.config, live, if_neg Bool.false_ne_true]
          apply ih
          · refine RealsWritten.modifyLpmSrcRule ?_ env .add src _
            exact taken
          · rw [(modifyLpmSrcRule_sameTables env _ .add src _).config]
            exact live

private theorem addSrcRoutingRuleCidr (written : lb.RealsWritten) (reliable : env.Reliable)
    (live : lb.config.testing = false) (folly : Folly) (srcs : List CIDRNetwork) (dst : String) :
    (lb.addSrcRoutingRuleCidr folly env srcs dst).2.1.RealsWritten := by
  unfold KatranLb.addSrcRoutingRuleCidr
  split
  · exact written
  · split
    · exact written.sameTables (validateAddress_sameTables folly lb dst false)
        (by rw [validateAddress_kernel])
    · exact written.installRules reliable live

private theorem addSrcRoutingRule (written : lb.RealsWritten) (reliable : env.Reliable)
    (live : lb.config.testing = false) (folly : Folly) (srcs : List String) (dst : String) :
    (lb.addSrcRoutingRule folly env srcs dst).2.1.RealsWritten := by
  unfold KatranLb.addSrcRoutingRule
  split
  · exact written
  · split
    · exact written.sameTables (validateAddress_sameTables folly lb dst false)
        (by rw [validateAddress_kernel])
    · have same := collectNetworks_sameTables folly srcs.length srcs 0 [] lb
      apply addSrcRoutingRuleCidr _ reliable
      · rw [same.config]
        exact live
      · exact written.sameTables same (by rw [collectNetworks_kernel])

private theorem removeRule (written : lb.RealsWritten) (env : Env) (src : CIDRNetwork) :
    (lb.removeRule env src).RealsWritten := by
  unfold KatranLb.removeRule
  split
  · exact written
  next rule found =>
    have released := (written.realOfNum rule.rnum).decreaseRefCountForReal
      (lb.realOfNum rule.rnum).1
    dsimp only
    split
    · exact released
    · exact RealsWritten.modifyLpmSrcRule released env .del src rule.rnum

private theorem foldl_removeRule (written : lb.RealsWritten) (env : Env) (srcs : List CIDRNetwork) :
    (srcs.foldl (KatranLb.removeRule env) lb).RealsWritten := by
  induction srcs generalizing lb with
  | nil => exact written
  | cons src srcs ih => exact ih (written.removeRule env src)

private theorem delSrcRoutingRuleCidr (written : lb.RealsWritten) (env : Env)
    (srcs : List CIDRNetwork) :
    (lb.delSrcRoutingRuleCidr env srcs).2.RealsWritten := by
  unfold KatranLb.delSrcRoutingRuleCidr
  split
  · exact written
  · exact written.foldl_removeRule env srcs

private theorem delSrcRoutingRule (written : lb.RealsWritten) (folly : Folly) (env : Env)
    (srcs : List String) : (lb.delSrcRoutingRule folly env srcs).2.RealsWritten := by
  unfold KatranLb.delSrcRoutingRule
  split
  · exact written
  · exact written.delSrcRoutingRuleCidr env _

private theorem clearRule {rule : SrcRule} (written : lb.RealsWritten)
    (cleared : KatranLb.clearRule env lb rule = some after) : after.RealsWritten := by
  obtain ⟨dst, _, rfl⟩ := Option.map_eq_some_iff.mp cleared
  have released := written.decreaseRefCountForReal dst
  dsimp only
  split
  · exact released
  · exact released.modifyLpmSrcRule env .del rule.src rule.rnum

private theorem foldlM_clearRule {entries : List (Sigma fun _ : CIDRNetwork => SrcRule)}
    (written : lb.RealsWritten)
    (looped : entries.foldlM (fun lb entry => KatranLb.clearRule env lb entry.2) lb = some after) :
    after.RealsWritten := by
  induction entries generalizing lb with
  | nil =>
      obtain rfl := Option.some.inj looped
      exact written
  | cons entry entries ih =>
      obtain ⟨next, stepped, rest⟩ := Option.bind_eq_some_iff.mp looped
      exact ih (written.clearRule stepped) rest

private theorem clearAllSrcRoutingRules (written : lb.RealsWritten)
    (returned : lb.clearAllSrcRoutingRules env = some (done, after)) : after.RealsWritten := by
  rcases clearAllSrcRoutingRules_cases returned with rfl | ⟨cleared, rfl, looped⟩
  · exact written
  · have cleared := written.foldlM_clearRule looped
    exact cleared

/-- Every operation writes the numbers that it hands out. -/
theorem step {op : Op} (written : lb.RealsWritten) (live : lb.config.testing = false)
    (taken : ReliableStep folly lb op after) : after.RealsWritten := by
  obtain ⟨env, reliable, performed⟩ := taken
  cases op with
  | addVip vip flags =>
      obtain ⟨⟨done, _⟩, returned, rfl⟩ := Option.map_eq_some_iff.mp performed
      exact written.addVip returned
  | delVip vip =>
      obtain ⟨⟨done, _⟩, returned, rfl⟩ := Option.map_eq_some_iff.mp performed
      exact written.delVip returned
  | modifyVip vip flag set =>
      obtain ⟨⟨done, _⟩, returned, rfl⟩ := Option.map_eq_some_iff.mp performed
      exact written.modifyVip returned
  | addRealForVip real vip =>
      obtain ⟨⟨done, _⟩, returned, rfl⟩ := Option.map_eq_some_iff.mp performed
      rw [addRealForVip_eq] at returned
      exact written.modifyRealsForVip reliable live returned
  | delRealForVip real vip =>
      obtain ⟨⟨done, _⟩, returned, rfl⟩ := Option.map_eq_some_iff.mp performed
      rw [delRealForVip_eq] at returned
      exact written.modifyRealsForVip reliable live returned
  | modifyRealsForVip action reals vip =>
      obtain ⟨⟨done, _⟩, returned, rfl⟩ := Option.map_eq_some_iff.mp performed
      exact written.modifyRealsForVip reliable live returned
  | modifyQuicRealsMapping action reals =>
      obtain rfl := Option.some.inj performed
      exact written.modifyQuicRealsMapping reliable live action reals
  | addSrcRoutingRule srcs dst =>
      obtain rfl := Option.some.inj performed
      exact written.addSrcRoutingRule reliable live folly srcs dst
  | addSrcRoutingRuleCidr srcs dst =>
      obtain rfl := Option.some.inj performed
      exact written.addSrcRoutingRuleCidr reliable live folly srcs dst
  | delSrcRoutingRule srcs =>
      obtain rfl := Option.some.inj performed
      exact written.delSrcRoutingRule folly env srcs
  | delSrcRoutingRuleCidr srcs =>
      obtain rfl := Option.some.inj performed
      exact written.delSrcRoutingRuleCidr env srcs
  | clearAllSrcRoutingRules =>
      obtain ⟨⟨done, _⟩, returned, rfl⟩ := Option.map_eq_some_iff.mp performed
      exact written.clearAllSrcRoutingRules returned

end RealsWritten

/-! ## Numbers of VIPs -/

/-- Every entry of `vip_map` has the number of a VIP. -/
def VipNumsKnown (lb : KatranLb) : Prop :=
  ∀ key info, lb.kernel.vipMap key = some info → info.vipNum < lb.config.maxVips.toNat

namespace VipNumsKnown

/-- An entry is written with a known number, or removed. -/
theorem trySetVip {succeeds : Bool} {key : VipDefinition} {entry : Option VipMeta}
    (known : lb.VipNumsKnown) (config : after.config = lb.config)
    (numbered : ∀ info ∈ entry, info.vipNum < lb.config.maxVips.toNat)
    (kernel : after.kernel = lb.kernel.trySetVip succeeds key entry) : after.VipNumsKnown := by
  intro other info found
  rw [config]
  rw [kernel, ConfigMaps.trySetVip] at found
  split at found
  · change Function.update lb.kernel.vipMap key entry other = some info at found
    by_cases same : other = key
    · rw [same, Function.update_self] at found
      exact numbered info found
    · rw [Function.update_of_ne same] at found
      exact known other info found
  · exact known other info found

/-- The numbers of VIPs are those of the configuration after a call. -/
theorem step {op : Op} (known : lb.VipNumsKnown) (pools : lb.PoolsSound)
    (live : lb.config.testing = false) (taken : Step folly lb op after) : after.VipNumsKnown := by
  have config := (pools.step taken).2
  have writes := taken.writes
  have kept (same : after.kernel.vipMap = lb.kernel.vipMap) : after.VipNumsKnown := by
    intro key info found
    rw [config]
    rw [same] at found
    exact known key info found
  obtain ⟨env, performed⟩ := taken
  cases op with
  | addVip vip flags =>
      obtain ⟨⟨done, _⟩, returned, rfl⟩ := Option.map_eq_some_iff.mp performed
      rcases addVip_tries live returned with ⟨_, same⟩ | ⟨rfl, kernel⟩
      · exact kept (by rw [same])
      · rcases addVip_cases returned with
          ⟨failed, _⟩ | ⟨_, _, _, addr, vipNum, vipNums, parsed, free, _⟩
        · cases failed
        · apply known.trySetVip config _ (kernel addr vipNum vipNums parsed free)
          intro info same
          obtain rfl := Option.some.inj same
          apply List.mem_range.mp
          apply pools.vips.subset
          rw [free]
          exact List.mem_append_left _ List.mem_cons_self
  | delVip vip =>
      obtain ⟨⟨done, _⟩, returned, rfl⟩ := Option.map_eq_some_iff.mp performed
      rcases delVip_tries live returned with ⟨_, rfl⟩ | ⟨_, addr, _, kernel⟩
      · exact known
      · exact known.trySetVip config (fun info missing => by cases missing) kernel
  | modifyVip vip flag set =>
      obtain ⟨⟨done, _⟩, returned, rfl⟩ := Option.map_eq_some_iff.mp performed
      rcases modifyVip_tries live returned with
        ⟨_, rfl, _⟩ | ⟨addr, current, _, found, _, _, kernel⟩
      · exact known
      · apply known.trySetVip config _ kernel
        intro info same
        obtain rfl := Option.some.inj same
        have number : (flagged current flag set).vipNum = current.vipNum := by cases set <;> rfl
        dsimp only
        rw [number]
        exact pools.vipNum_lt found
  | _ => exact kept (by rw [show after.kernel = _ from writes])

end VipNumsKnown

/-- What a run whose bpf calls succeed keeps. -/
theorem written_of_run {config : KatranConfig} {features : KatranFeatures} {kernel : ConfigMaps}
    {ops : List Op} (live : config.testing = false) (noVips : kernel.vipMap = fun _ => none)
    (run : Run (ReliableStep folly) (.new config features kernel) ops lb) :
    lb.PoolsSound ∧ lb.RealsWritten ∧ lb.VipNumsKnown ∧ lb.config = config := by
  apply Run.invariant (fun lb => lb.PoolsSound ∧ lb.RealsWritten ∧ lb.VipNumsKnown ∧
    lb.config = config) _ run
  · refine ⟨.new config features kernel, .new config features kernel, ?_, rfl⟩
    intro key info found
    change kernel.vipMap key = some info at found
    rw [noVips] at found
    cases found
  · rintro before op after ⟨pools, written, known, same⟩ taken
    have live : before.config.testing = false := same ▸ live
    obtain ⟨later, config⟩ := pools.step taken.step
    exact ⟨later, written.step live taken, known.step pools live taken.step, config.trans same⟩

end KatranLb

end Katran
