import Katran.Lb.KatranLb

/-! # What the operations do to the tables

Seen from the pool of real numbers (`realPool`), taking and giving up references
are the operations of `RefPool`. Every operation is described by what it does to
the tables of the library, leaving aside counters and the kernel's maps
(`SameTables`): the VIP operations by one equation each, the loops over a batch
by what their body does.
-/

namespace Katran

open Foundation UnorderedMap

namespace KatranLb

/-- The pool of real numbers. -/
def realPool (lb : KatranLb) : RefPool IPAddress IPAddress :=
  ⟨lb.realNums, lb.reals, lb.numToReals⟩

@[simp] theorem realPool_free (lb : KatranLb) : lb.realPool.free = lb.realNums := rfl

@[simp] theorem realPool_table (lb : KatranLb) : lb.realPool.table = lb.reals := rfl

@[simp] theorem realPool_names (lb : KatranLb) : lb.realPool.names = lb.numToReals := rfl

/-- Taking a reference is an acquisition of the pool. -/
theorem increaseRefCountForReal_realPool (env : Env) (lb : KatranLb) (real : IPAddress) :
    (lb.increaseRefCountForReal env real).2.realPool =
      (lb.realPool.acquire IPAddress.key (2 ^ 32) real).2 := by
  cases known : lb.reals.lookup real.key with
  | some rmeta =>
      simp only [increaseRefCountForReal, RefPool.acquire, realPool_table, known]
      rfl
  | none =>
      cases free : lb.realNums with
      | nil =>
          simp only [increaseRefCountForReal, RefPool.acquire, realPool_table, realPool_free, known,
            free]
      | cons rnum realNums =>
          simp only [increaseRefCountForReal, RefPool.acquire, realPool_table, realPool_free, known,
            free]
          split
          · rfl
          · unfold updateRealsMap bpfCall
            split <;> rfl

/-- The number that taking a reference returns. -/
theorem increaseRefCountForReal_fst (env : Env) (lb : KatranLb) (real : IPAddress) :
    (lb.increaseRefCountForReal env real).1 =
      (lb.realPool.acquire IPAddress.key (2 ^ 32) real).1.getD lb.config.maxReals.toNat := by
  cases known : lb.reals.lookup real.key with
  | some rmeta =>
      simp only [increaseRefCountForReal, RefPool.acquire, realPool_table, known, Option.getD_some]
  | none =>
      cases free : lb.realNums with
      | nil =>
          simp only [increaseRefCountForReal, RefPool.acquire, realPool_table, realPool_free, known,
            free, Option.getD_none]
      | cons rnum realNums =>
          simp only [increaseRefCountForReal, RefPool.acquire, realPool_table, realPool_free, known,
            free, Option.getD_some]

/-- Releasing a reference is a release of the pool. -/
theorem decreaseRefCountForReal_realPool (lb : KatranLb) (real : IPAddress) :
    (lb.decreaseRefCountForReal (some real)).realPool =
      lb.realPool.release (2 ^ 32) real.key := by
  cases known : lb.reals.lookup real.key with
  | none => simp only [decreaseRefCountForReal, RefPool.release, realPool_table, known]
  | some rmeta =>
      simp only [decreaseRefCountForReal, RefPool.release, realPool_table, known]
      split <;> rfl

/-- Reading the owner of a number is a lookup in the reverse index. -/
theorem realOfNum_realPool (lb : KatranLb) (num : Nat) :
    (lb.realOfNum num).1 = (lb.realPool.touch num).1 ∧
      (lb.realOfNum num).2.realPool = (lb.realPool.touch num).2 := by
  cases known : lb.numToReals.lookup num with
  | none =>
      simp only [realOfNum, RefPool.touch, realPool_names, known, true_and]
      rfl
  | some name => simp only [realOfNum, RefPool.touch, realPool_names, known, and_self]

/-! ## Frames -/

/-- Nothing but the pool of real numbers, the counters and the kernel differs. -/
structure SameRest (before after : KatranLb) : Prop where
  config : after.config = before.config
  features : after.features = before.features
  vipNums : after.vipNums = before.vipNums
  quicMapping : after.quicMapping = before.quicMapping
  vips : after.vips = before.vips
  lpmSrcMapping : after.lpmSrcMapping = before.lpmSrcMapping

/-- Nothing but the counters and the kernel differs. -/
structure SameTables (before after : KatranLb) : Prop extends SameRest before after where
  realPool : after.realPool = before.realPool

theorem SameRest.refl (lb : KatranLb) : SameRest lb lb := ⟨rfl, rfl, rfl, rfl, rfl, rfl⟩

theorem SameTables.refl (lb : KatranLb) : SameTables lb lb := ⟨.refl lb, rfl⟩

theorem SameRest.trans {first middle last : KatranLb} (left : SameRest first middle)
    (right : SameRest middle last) : SameRest first last :=
  ⟨right.config.trans left.config, right.features.trans left.features,
    right.vipNums.trans left.vipNums, right.quicMapping.trans left.quicMapping,
    right.vips.trans left.vips, right.lpmSrcMapping.trans left.lpmSrcMapping⟩

theorem SameTables.trans {first middle last : KatranLb} (left : SameTables first middle)
    (right : SameTables middle last) : SameTables first last :=
  ⟨left.toSameRest.trans right.toSameRest, right.realPool.trans left.realPool⟩

theorem SameTables.reals {before after : KatranLb} (same : SameTables before after) :
    after.reals = before.reals := congrArg RefPool.table same.realPool

theorem SameTables.realNums {before after : KatranLb} (same : SameTables before after) :
    after.realNums = before.realNums := congrArg RefPool.free same.realPool

theorem SameTables.numToReals {before after : KatranLb} (same : SameTables before after) :
    after.numToReals = before.numToReals := congrArg RefPool.names same.realPool

/-- A loop whose body leaves the tables alone leaves them alone. -/
theorem SameTables.foldl {Item : Type} {body : KatranLb → Item → KatranLb}
    (kept : ∀ lb item, SameTables lb (body lb item)) (items : List Item) (lb : KatranLb) :
    SameTables lb (items.foldl body lb) := by
  induction items generalizing lb with
  | nil => exact .refl lb
  | cons item items ih => exact (kept lb item).trans (ih (body lb item))

/-- A bpf call changes none of the library's tables. -/
theorem bpfCall_sameTables (env : Env) (lb : KatranLb) (change : ConfigMaps → ConfigMaps) :
    SameTables lb (lb.bpfCall env change).2 := by
  unfold bpfCall
  split <;> exact ⟨⟨rfl, rfl, rfl, rfl, rfl, rfl⟩, rfl⟩

/-- The validation of an address changes none of the library's tables. -/
theorem validateAddress_sameTables (folly : Folly) (lb : KatranLb) (addr : String)
    (allowNetAddr : Bool) : SameTables lb (lb.validateAddress folly addr allowNetAddr).2 := by
  unfold validateAddress
  split
  · exact .refl lb
  · split <;> exact ⟨⟨rfl, rfl, rfl, rfl, rfl, rfl⟩, rfl⟩

/-- Writing `vip_map` changes none of the library's tables. -/
theorem updateVipMap_sameTables {folly : Folly} {env : Env} {lb : KatranLb} {action : ModifyAction}
    {vip : VipKey} {vipMeta : VipMeta} {updated : Bool × KatranLb}
    (returned : lb.updateVipMap folly env action vip vipMeta = some updated) :
    SameTables lb updated.2 := by
  obtain ⟨addr, _, rfl⟩ := Option.map_eq_some_iff.mp returned
  cases action <;> exact bpfCall_sameTables env lb _

/-- Writing `reals` changes none of the library's tables. -/
theorem updateRealsMap_sameTables (env : Env) (lb : KatranLb) (real : IPAddress) (num : Nat) :
    SameTables lb (lb.updateRealsMap env real num).2 :=
  bpfCall_sameTables env lb _

/-- Taking a reference changes only the pool of reals. -/
theorem increaseRefCountForReal_sameRest (env : Env) (lb : KatranLb) (real : IPAddress) :
    SameRest lb (lb.increaseRefCountForReal env real).2 := by
  unfold increaseRefCountForReal
  split
  · exact ⟨rfl, rfl, rfl, rfl, rfl, rfl⟩
  · split
    · exact .refl lb
    · dsimp only
      split
      · exact ⟨rfl, rfl, rfl, rfl, rfl, rfl⟩
      · refine SameRest.trans ?_ (updateRealsMap_sameTables env _ real _).toSameRest
        exact ⟨rfl, rfl, rfl, rfl, rfl, rfl⟩

/-- Releasing a reference changes only the pool of reals. -/
theorem decreaseRefCountForReal_sameRest (lb : KatranLb) (real : Option IPAddress) :
    SameRest lb (lb.decreaseRefCountForReal real) := by
  unfold decreaseRefCountForReal
  split
  · exact .refl lb
  · split
    · exact .refl lb
    · dsimp only
      split <;> exact ⟨rfl, rfl, rfl, rfl, rfl, rfl⟩

/-- Looking up the owner of a number changes only the pool of reals. -/
theorem realOfNum_sameRest (lb : KatranLb) (num : Nat) : SameRest lb (lb.realOfNum num).2 := by
  unfold realOfNum
  split
  · exact .refl lb
  · exact ⟨rfl, rfl, rfl, rfl, rfl, rfl⟩

private theorem releaseNum_sameRest (lb : KatranLb) (num : Nat) : SameRest lb (lb.releaseNum num) :=
  (realOfNum_sameRest lb num).trans (decreaseRefCountForReal_sameRest _ _)

/-- Releasing several numbers changes only the pool of reals. -/
theorem foldl_releaseNum_sameRest (lb : KatranLb) (nums : List Nat) :
    SameRest lb (nums.foldl releaseNum lb) := by
  induction nums generalizing lb with
  | nil => exact .refl lb
  | cons num nums ih => exact (releaseNum_sameRest lb num).trans (ih _)

/-! ## VIP operations -/

/-- `addVip` fails without touching a table, or takes the first free number for
a VIP that is not configured. -/
theorem addVip_cases {folly : Folly} {env : Env} {lb after : KatranLb} {vip : VipKey}
    {flags : UInt32} {done : Bool} (returned : lb.addVip folly env vip flags = some (done, after)) :
    (done = false ∧ SameTables lb after) ∨
    (done = true ∧ lb.config.disableForwarding = false ∧ vip ∉ lb.vips ∧
      ∃ addr vipNum vipNums, folly.parse vip.address = some addr ∧
        lb.vipNums = vipNum :: vipNums ∧
        SameTables { lb with
          vipNums := vipNums
          vips := lb.vips.insert vip (Vip.new vipNum flags lb.config.chRingSize.toNat) }
            after) := by
  unfold addVip at returned
  split at returned
  next =>
    obtain ⟨rfl, rfl⟩ := Prod.mk.inj (Option.some.inj returned)
    exact .inl ⟨rfl, .refl _⟩
  next forwarding =>
    have quiet := validateAddress_sameTables folly lb vip.address false
    cases parsed : folly.parse vip.address with
    | none =>
        simp only [validateAddress, parsed, Bool.false_eq_true, false_and, ↓reduceIte,
          Option.some.injEq, Prod.mk.injEq] at returned
        obtain ⟨rfl, rfl⟩ := returned
        exact .inl ⟨rfl, ⟨⟨rfl, rfl, rfl, rfl, rfl, rfl⟩, rfl⟩⟩
    | some addr =>
        simp only [validateAddress, parsed, reduceCtorEq, ↓reduceIte] at returned
        split at returned
        next =>
          obtain ⟨rfl, rfl⟩ := Prod.mk.inj (Option.some.inj returned)
          exact .inl ⟨rfl, .refl _⟩
        next vipNum vipNums free =>
          split at returned
          next =>
            obtain ⟨rfl, rfl⟩ := Prod.mk.inj (Option.some.inj returned)
            exact .inl ⟨rfl, .refl _⟩
          next absent =>
            have forwards : lb.config.disableForwarding = false := by simpa using forwarding
            split at returned
            next =>
              obtain ⟨rfl, rfl⟩ := Prod.mk.inj (Option.some.inj returned)
              exact .inr ⟨rfl, forwards, absent, addr, vipNum, vipNums, rfl, free, .refl _⟩
            next =>
              obtain ⟨updated, written, same⟩ := Option.map_eq_some_iff.mp returned
              obtain ⟨rfl, rfl⟩ := Prod.mk.inj same
              exact .inr ⟨rfl, forwards, absent, addr, vipNum, vipNums, rfl, free,
                updateVipMap_sameTables written⟩

/-- `delVip` gives up the VIP's reals one by one and then the VIP. -/
theorem delVip_cases {folly : Folly} {env : Env} {lb after : KatranLb} {vip : VipKey}
    {done : Bool} (returned : lb.delVip folly env vip = some (done, after)) :
    (done = false ∧ after = lb ∧
      (lb.config.disableForwarding = true ∨ lb.vips.lookup vip = none)) ∨
    (done = true ∧ lb.config.disableForwarding = false ∧
      ∃ current, lb.vips.lookup vip = some current ∧
        SameTables { (current.getReals env.listing).foldl releaseNum lb with
          vipNums := lb.vipNums ++ [current.vipNum]
          vips := lb.vips.erase vip } after) := by
  unfold delVip at returned
  split at returned
  next disabled =>
    obtain ⟨rfl, rfl⟩ := Prod.mk.inj (Option.some.inj returned)
    exact .inl ⟨rfl, rfl, .inl disabled⟩
  next forwarding =>
    have forwards : lb.config.disableForwarding = false := by simpa using forwarding
    split at returned
    next absent =>
      obtain ⟨rfl, rfl⟩ := Prod.mk.inj (Option.some.inj returned)
      exact .inl ⟨rfl, rfl, .inr absent⟩
    next current found =>
      have kept := foldl_releaseNum_sameRest lb (current.getReals env.listing)
      refine .inr ?_
      dsimp only at returned
      split at returned
      next =>
        obtain ⟨rfl, rfl⟩ := Prod.mk.inj (Option.some.inj returned)
        refine ⟨rfl, forwards, current, found, ?_⟩
        rw [kept.vipNums, kept.vips]
        exact .refl _
      next =>
        obtain ⟨updated, written, same⟩ := Option.map_eq_some_iff.mp returned
        obtain ⟨rfl, rfl⟩ := Prod.mk.inj same
        refine ⟨rfl, forwards, current, found, ?_⟩
        have quiet := updateVipMap_sameTables written
        rw [← kept.vipNums, ← kept.vips]
        refine ⟨⟨quiet.config, quiet.features, quiet.vipNums, quiet.quicMapping, ?_,
          quiet.lpmSrcMapping⟩, quiet.realPool⟩
        exact congrArg (fun vips => AList.erase vip vips) quiet.vips

/-- `modifyVip` changes the flags of a configured VIP. -/
theorem modifyVip_cases {folly : Folly} {env : Env} {lb after : KatranLb} {vip : VipKey}
    {flag : UInt32} {set done : Bool}
    (returned : lb.modifyVip folly env vip flag set = some (done, after)) :
    (done = false ∧ after = lb) ∨
    ∃ current vipFlags, lb.vips.lookup vip = some current ∧
      SameTables { lb with
        vips := lb.vips.insert vip { current with vipFlags := vipFlags } } after := by
  unfold modifyVip at returned
  split at returned
  next =>
    obtain ⟨rfl, rfl⟩ := Prod.mk.inj (Option.some.inj returned)
    exact .inl ⟨rfl, rfl⟩
  next current found =>
    refine .inr ⟨current, (if set then current.setVipFlags flag
      else current.unsetVipFlags flag).vipFlags, found, ?_⟩
    have updatedVip : (if set then current.setVipFlags flag else current.unsetVipFlags flag) =
        { current with vipFlags := (if set then current.setVipFlags flag
          else current.unsetVipFlags flag).vipFlags } := by
      cases set <;> rfl
    rw [← updatedVip]
    dsimp only at returned
    split at returned
    next =>
      obtain ⟨rfl, rfl⟩ := Prod.mk.inj (Option.some.inj returned)
      exact .refl _
    next => exact updateVipMap_sameTables returned

/-- A real that is added is a batch of one. -/
theorem addRealForVip_eq (folly : Folly) (env : Env) (lb : KatranLb) (real : NewReal)
    (vip : VipKey) :
    lb.addRealForVip folly env real vip = lb.modifyRealsForVip folly env .add [real] vip := by
  unfold addRealForVip modifyRealsForVip
  split <;> rfl

/-- A real that is removed is a batch of one. -/
theorem delRealForVip_eq (folly : Folly) (env : Env) (lb : KatranLb) (real : NewReal)
    (vip : VipKey) :
    lb.delRealForVip folly env real vip = lb.modifyRealsForVip folly env .del [real] vip := by
  unfold delRealForVip modifyRealsForVip
  split <;> rfl

/-- Writing a slot changes none of the library's tables. -/
theorem writePosition_sameTables (env : Env) (vipNum : Nat) (lb : KatranLb) (pos : RealPos) :
    SameTables lb (writePosition env vipNum lb pos) :=
  bpfCall_sameTables env lb _

/-- `modifyRealsForVip` runs its loop and then updates the VIP. -/
theorem modifyRealsForVip_cases {folly : Folly} {env : Env} {lb after : KatranLb}
    {action : ModifyAction} {reals : List NewReal} {vip : VipKey} {done : Bool}
    (returned : lb.modifyRealsForVip folly env action reals vip = some (done, after)) :
    (done = false ∧ after = lb ∧
      (lb.config.disableForwarding = true ∨ lb.vips.lookup vip = none)) ∨
    (done = true ∧ lb.config.disableForwarding = false ∧
      ∃ current chPositions updated, lb.vips.lookup vip = some current ∧
        current.batchRealsUpdate env.fuel env.sorting
          (lb.modifyRealsBatch folly env action reals current).ureals =
            some (chPositions, updated) ∧
        SameTables { (lb.modifyRealsBatch folly env action reals current).lb with
          vips := (lb.modifyRealsBatch folly env action reals current).lb.vips.insert vip updated }
          after) := by
  unfold modifyRealsForVip at returned
  split at returned
  next disabled =>
    obtain ⟨rfl, rfl⟩ := Prod.mk.inj (Option.some.inj returned)
    exact .inl ⟨rfl, rfl, .inl disabled⟩
  next forwarding =>
    have forwards : lb.config.disableForwarding = false := by simpa using forwarding
    split at returned
    next absent =>
      obtain ⟨rfl, rfl⟩ := Prod.mk.inj (Option.some.inj returned)
      exact .inl ⟨rfl, rfl, .inr absent⟩
    next current found =>
      obtain ⟨⟨chPositions, updated⟩, ring, same⟩ := Option.map_eq_some_iff.mp returned
      obtain ⟨rfl, rfl⟩ := Prod.mk.inj same
      refine .inr ⟨rfl, forwards, current, chPositions, updated, found, ring, ?_⟩
      split
      · exact .refl _
      · exact SameTables.foldl (writePosition_sameTables env updated.vipNum) _ _

/-! ## Rules -/

/-- After all rules have been cleared there is no rule, or source routing is disabled. -/
theorem clearAllSrcRoutingRules_cases {env : Env} {lb after : KatranLb} {done : Bool}
    (returned : lb.clearAllSrcRoutingRules env = some (done, after)) :
    after = lb ∨ ∃ cleared, after = { cleared with lpmSrcMapping := ∅ } ∧
      (env.listing.visit lb.lpmSrcMapping.entries).foldlM
        (fun lb entry => clearRule env lb entry.2) lb = some cleared := by
  unfold clearAllSrcRoutingRules at returned
  split at returned
  · obtain ⟨_, rfl⟩ := Prod.mk.inj (Option.some.inj returned)
    exact .inl rfl
  · obtain ⟨cleared, looped, same⟩ := Option.map_eq_some_iff.mp returned
    obtain ⟨_, rfl⟩ := Prod.mk.inj same
    exact .inr ⟨cleared, rfl, looped⟩

end KatranLb

end Katran
