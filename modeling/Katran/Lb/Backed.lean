import Katran.Lb.Footprint
import Katran.Lb.VipMap

/-! # The VIPs behind the entries of the kernel

Every entry of `vip_map` is that of a configured VIP, with its number (`Backed`), whatever
other spellings of the VIP are configured. All calls keep this, and the rings in the kernel
(`RingsMirrored.step_any`).
-/

namespace Katran

open Foundation UnorderedMap

namespace KatranLb

variable {folly : Folly} {config : KatranConfig} {lb after : KatranLb} {op : Op}

/-- A VIP is still configured, with the number that it had. -/
def StillNumbered (lb after : KatranLb) (vip : VipKey) : Prop :=
  ∀ current, lb.vips.lookup vip = some current →
    ∃ later, after.vips.lookup vip = some later ∧ later.vipNum = current.vipNum

/-- What a call does to the VIPs and to their entries in the kernel. -/
inductive MovesVips (folly : Folly) (lb after : KatranLb) : Prop
  | kept (still : ∀ vip, StillNumbered lb after vip)
      (vipMap : after.kernel.vipMap = lb.kernel.vipMap)
  | written {vip : VipKey} {current : Vip} {definition : VipDefinition} {info : VipMeta}
      (still : ∀ vip, StillNumbered lb after vip) (coded : vip.encode folly = some definition)
      (found : after.vips.lookup vip = some current) (number : current.vipNum = info.vipNum)
      (vipMap : after.kernel.vipMap = Function.update lb.kernel.vipMap definition (some info))
  | erased {vip : VipKey} {definition : VipDefinition}
      (still : ∀ other, other ≠ vip → StillNumbered lb after other)
      (coded : vip.encode folly = some definition)
      (vipMap : after.kernel.vipMap = Function.update lb.kernel.vipMap definition none)

/-- VIPs that stay as they are keep their numbers. -/
theorem stillNumbered_of_vips (same : after.vips = lb.vips) (vip : VipKey) :
    StillNumbered lb after vip := by
  intro current found
  rw [same]
  exact ⟨current, found, rfl⟩

/-- A VIP that is changed keeps its number. -/
theorem stillNumbered_of_insert {vip : VipKey} {updated : Vip}
    (same : after.vips = lb.vips.insert vip updated)
    (number : ∀ current, lb.vips.lookup vip = some current → updated.vipNum = current.vipNum)
    (other : VipKey) : StillNumbered lb after other := by
  intro current found
  rw [same, lookup_insert_eq_ite]
  split
  next equal =>
    subst equal
    exact ⟨updated, rfl, number current found⟩
  next => exact ⟨current, found, rfl⟩

private theorem modifyRealsForVip_movesVips {env : Env} {action : ModifyAction}
    {reals : List NewReal} {vip : VipKey} {done : Bool}
    (returned : lb.modifyRealsForVip folly env action reals vip = some (done, after)) :
    MovesVips folly lb after := by
  have only := modifyRealsForVip_onlyRings returned
  rcases modifyRealsForVip_cases returned with
    ⟨_, rfl, _⟩ | ⟨_, _, current, chPositions, updated, found, ring, same⟩
  · exact .kept (stillNumbered_of_vips rfl) rfl
  · have rest := modifyRealsBatch_sameRest folly env lb action reals current
    refine .kept (stillNumbered_of_insert (same.vips.trans (by rw [rest.vips])) ?_) ?_
    · intro other read
      obtain rfl := Option.some.inj (found.symm.trans read)
      exact (Vip.reals_of_batchRealsUpdate ring).2.1
    · rw [show after.kernel = _ from only]

private theorem ReliableStep.movesVips (live : lb.config.testing = false)
    (taken : ReliableStep folly lb op after) : MovesVips folly lb after := by
  have step := taken.step
  obtain ⟨env, reliable, performed⟩ := taken
  cases op with
  | addVip vip flags =>
      obtain ⟨⟨done, later⟩, returned, rfl⟩ := Option.map_eq_some_iff.mp performed
      rcases addVip_cases returned with
        ⟨rfl, same⟩ | ⟨rfl, _, absent, addr, vipNum, vipNums, parsed, free, same⟩
      · rcases addVip_kernel reliable live returned with ⟨_, kernel⟩ | ⟨wrong, _⟩
        · exact .kept (stillNumbered_of_vips same.vips) (by rw [kernel])
        · cases wrong
      · rcases addVip_kernel reliable live returned with ⟨wrong, _⟩ | ⟨_, written⟩
        · cases wrong
        · have coded := vip.encode_of_parsed parsed
          have configured : later.vips.lookup vip =
              some (Vip.new vipNum flags lb.config.chRingSize.toNat) := by
            rw [same.vips]
            exact AList.lookup_insert _
          refine .written (stillNumbered_of_insert same.vips ?_) coded configured rfl
            (congrArg ConfigMaps.vipMap (written addr vipNum vipNums parsed free))
          intro current found
          exact (absent (mem_of_lookup found)).elim
  | delVip vip =>
      obtain ⟨⟨done, _⟩, returned, rfl⟩ := Option.map_eq_some_iff.mp performed
      rcases delVip_kernel reliable live returned with ⟨_, rfl⟩ | ⟨rfl, addr, parsed, kernel⟩
      · exact .kept (stillNumbered_of_vips rfl) rfl
      · rcases delVip_cases returned with ⟨wrong, _⟩ | ⟨_, _, current, found, same⟩
        · cases wrong
        · have coded := vip.encode_of_parsed parsed
          refine .erased ?_ coded (congrArg ConfigMaps.vipMap kernel)
          intro other different another read
          refine ⟨another, ?_, rfl⟩
          rw [same.vips, AList.lookup_erase_ne different]
          exact read
  | modifyVip vip flag set =>
      obtain ⟨⟨done, _⟩, returned, rfl⟩ := Option.map_eq_some_iff.mp performed
      rcases modifyVip_kernel reliable live returned with
        rfl | ⟨addr, current, parsed, read, kernel⟩
      · exact .kept (stillNumbered_of_vips rfl) rfl
      · have coded := vip.encode_of_parsed parsed
        refine .written ?_ coded read rfl (congrArg ConfigMaps.vipMap kernel)
        rcases modifyVip_cases returned with ⟨_, rfl⟩ | ⟨earlier, vipFlags, found, same⟩
        · exact stillNumbered_of_vips rfl
        · apply stillNumbered_of_insert same.vips
          intro other held
          obtain rfl := Option.some.inj (found.symm.trans held)
          rfl
  | addRealForVip real vip =>
      obtain ⟨⟨done, _⟩, returned, rfl⟩ := Option.map_eq_some_iff.mp performed
      rw [addRealForVip_eq] at returned
      exact modifyRealsForVip_movesVips returned
  | delRealForVip real vip =>
      obtain ⟨⟨done, _⟩, returned, rfl⟩ := Option.map_eq_some_iff.mp performed
      rw [delRealForVip_eq] at returned
      exact modifyRealsForVip_movesVips returned
  | modifyRealsForVip action reals vip =>
      obtain ⟨⟨done, _⟩, returned, rfl⟩ := Option.map_eq_some_iff.mp performed
      exact modifyRealsForVip_movesVips returned
  | _ =>
      refine .kept (stillNumbered_of_vips (step.frame_of_other not_false).vips) ?_
      rw [show after.kernel = _ from step.writes]

/-! ## The invariants -/

/-- Every entry of `vip_map` is that of a configured VIP. -/
def Backed (folly : Folly) (lb : KatranLb) : Prop :=
  ∀ definition info, lb.kernel.vipMap definition = some info → ∃ vip current,
    lb.vips.lookup vip = some current ∧ vip.encode folly = some definition ∧
      current.vipNum = info.vipNum

/-- A new balancer has no entries, so all of them are backed. -/
theorem Backed.new (features : KatranFeatures) {kernel : ConfigMaps}
    (empty : kernel.vipMap = fun _ => none) :
    (KatranLb.new config features kernel).Backed folly := by
  intro definition info stored
  change kernel.vipMap definition = some info at stored
  rw [empty] at stored
  cases stored

/-- An entry that is not touched stays backed as long as its VIP keeps its number. -/
theorem Backed.keeps (backed : lb.Backed folly) {definition : VipDefinition} {info : VipMeta}
    (stored : lb.kernel.vipMap definition = some info)
    (still : ∀ vip, vip.encode folly = some definition → StillNumbered lb after vip) :
    ∃ vip current, after.vips.lookup vip = some current ∧ vip.encode folly = some definition ∧
      current.vipNum = info.vipNum := by
  obtain ⟨vip, current, found, coded, number⟩ := backed definition info stored
  obtain ⟨later, read, same⟩ := still vip coded current found
  exact ⟨vip, later, read, coded, same.trans number⟩

/-- Every entry is backed after a call. -/
theorem Backed.step (backed : lb.Backed folly) (live : lb.config.testing = false)
    (taken : ReliableStep folly lb op after) : after.Backed folly := by
  intro definition info stored
  cases taken.movesVips live with
  | kept still vipMap =>
      rw [vipMap] at stored
      exact backed.keeps stored fun vip _ => still vip
  | @written vip current own fresh still coded found number vipMap =>
      rw [vipMap, Function.update_apply] at stored
      split at stored
      next same =>
        subst same
        obtain rfl := Option.some.inj stored
        exact ⟨vip, current, found, coded, number⟩
      next => exact backed.keeps stored fun vip _ => still vip
  | @erased vip gone still coded vipMap =>
      rw [vipMap, Function.update_apply] at stored
      split at stored
      · cases stored
      next different =>
        refine backed.keeps stored fun other otherCoded => still other ?_
        rintro rfl
        exact different (Option.some.inj (otherCoded.symm.trans coded))

/-- Every call keeps the rings. -/
theorem RingsMirrored.step_any (rings : lb.RingsMirrored) (live : lb.config.testing = false)
    (fits : lb.config.maxVips.toNat * lb.config.chRingSize.toNat < 2 ^ 32)
    (few : lb.config.maxReals.toNat < 2 ^ 31) (taken : ReliableStep folly lb op after) :
    after.RingsMirrored := by
  by_cases ofVips : op.OfVips
  · exact rings.step live fits few ofVips taken
  · have frame := taken.step.frame_of_other ofVips
    have writes := taken.step.writes
    refine rings.keepsRings (rings.pools.step taken.step).1 ⟨frame.config, ?_, ?_⟩
    · cases op with
      | modifyQuicRealsMapping _ _ => rw [show after.kernel = _ from writes]
      | addSrcRoutingRule _ _ => rw [show after.kernel = _ from writes]
      | addSrcRoutingRuleCidr _ _ => rw [show after.kernel = _ from writes]
      | delSrcRoutingRule _ => rw [show after.kernel = _ from writes]
      | delSrcRoutingRuleCidr _ => rw [show after.kernel = _ from writes]
      | clearAllSrcRoutingRules => rw [show after.kernel = _ from writes]
      | _ => exact (ofVips trivial).elim
    · intro vip current found
      rw [frame.vips] at found
      exact .inr ⟨current, current.vipFlags, found, rfl⟩

end KatranLb

end Katran
