import Katran.Lb.RealsBatch

/-! # What the operations write to the kernel

As long as every bpf call succeeds, `addVip`, `delVip` and `modifyVip` write one
entry of `vip_map`, and `modifyRealsForVip` writes the reals it hands numbers to
and the changed positions of one ring. Nothing else in the kernel changes.
-/

namespace Katran

open Foundation UnorderedMap

/-- Every bpf call succeeds. -/
def Env.Reliable (env : Env) : Prop := ∀ call, env.succeeds call = true

theorem Env.plain_reliable (fuel : Nat) : (Env.plain fuel).Reliable := fun _ => rfl

/-- Write or remove an entry of `vip_map`. -/
def ConfigMaps.setVip (maps : ConfigMaps) (key : VipDefinition) (entry : Option VipMeta) :
    ConfigMaps :=
  { maps with vipMap := Function.update maps.vipMap key entry }

/-- The same by a call that may fail. -/
def ConfigMaps.trySetVip (maps : ConfigMaps) (succeeds : Bool) (key : VipDefinition)
    (entry : Option VipMeta) : ConfigMaps :=
  if succeeds then maps.setVip key entry else maps

namespace KatranLb

variable {folly : Folly} {env : Env} {lb after : KatranLb} {vip : VipKey} {done : Bool}

/-- A call that returns although it depends on bpf calls, which all succeed. -/
def ReliableStep (folly : Folly) (lb : KatranLb) (op : Op) (after : KatranLb) : Prop :=
  ∃ env : Env, env.Reliable ∧ lb.perform folly env op = some after

/-- A call whose bpf calls succeed is a call. -/
theorem ReliableStep.step {op : Op} (taken : ReliableStep folly lb op after) :
    Step folly lb op after := by
  obtain ⟨env, _, performed⟩ := taken
  exact ⟨env, performed⟩

/-- A bpf call that succeeds changes the maps. -/
theorem bpfCall_kernel (reliable : env.Reliable) (lb : KatranLb)
    (change : ConfigMaps → ConfigMaps) : (lb.bpfCall env change).2.kernel = change lb.kernel := by
  simp only [bpfCall, reliable lb.bpfCalls, ↓reduceIte]

private theorem bpfCall_tries (env : Env) (lb : KatranLb) (change : ConfigMaps → ConfigMaps) :
    (lb.bpfCall env change).1 = env.succeeds lb.bpfCalls ∧
      (lb.bpfCall env change).2.kernel =
        if env.succeeds lb.bpfCalls then change lb.kernel else lb.kernel := by
  unfold bpfCall
  cases env.succeeds lb.bpfCalls with
  | true => exact ⟨rfl, rfl⟩
  | false => exact ⟨rfl, rfl⟩

/-- The validation of an address writes nothing. -/
theorem validateAddress_kernel (folly : Folly) (lb : KatranLb) (addr : String)
    (allowNetAddr : Bool) : (lb.validateAddress folly addr allowNetAddr).2.kernel = lb.kernel := by
  unfold validateAddress
  split
  · rfl
  · split <;> rfl

/-- The entry of a VIP is written or removed, if the call succeeds. -/
theorem updateVipMap_tries {action : ModifyAction} {vipMeta : VipMeta} {updated : Bool × KatranLb}
    (returned : lb.updateVipMap folly env action vip vipMeta = some updated) :
    ∃ addr, folly.parse vip.address = some addr ∧ updated.1 = env.succeeds lb.bpfCalls ∧
      updated.2.kernel = lb.kernel.trySetVip (env.succeeds lb.bpfCalls) (vipDefinition addr vip)
        (if action = .add then some vipMeta else none) := by
  obtain ⟨addr, parsed, rfl⟩ := Option.map_eq_some_iff.mp returned
  refine ⟨addr, parsed, ?_⟩
  cases action with
  | add => exact bpfCall_tries env lb _
  | del => exact bpfCall_tries env lb _

/-- Releasing a reference writes nothing. -/
theorem decreaseRefCountForReal_kernel (lb : KatranLb) (real : Option IPAddress) :
    (lb.decreaseRefCountForReal real).kernel = lb.kernel := by
  cases real with
  | none => rfl
  | some real =>
      simp only [decreaseRefCountForReal]
      split
      · rfl
      · split
        · rfl
        · rfl

private theorem releaseNum_kernel (lb : KatranLb) (num : Nat) :
    (lb.releaseNum num).kernel = lb.kernel := by
  unfold releaseNum
  dsimp only
  rw [decreaseRefCountForReal_kernel]
  unfold realOfNum
  split <;> rfl

/-- Releasing several numbers writes nothing. -/
theorem foldl_releaseNum_kernel (lb : KatranLb) (nums : List Nat) :
    (nums.foldl releaseNum lb).kernel = lb.kernel := by
  induction nums generalizing lb with
  | nil => rfl
  | cons num nums ih => exact (ih _).trans (releaseNum_kernel lb num)

private theorem validateAddress_bpfCalls (folly : Folly) (lb : KatranLb) (addr : String)
    (allowNetAddr : Bool) :
    (lb.validateAddress folly addr allowNetAddr).2.bpfCalls = lb.bpfCalls := by
  unfold validateAddress
  split
  · rfl
  · split <;> rfl

private theorem decreaseRefCountForReal_bpfCalls (lb : KatranLb) (real : Option IPAddress) :
    (lb.decreaseRefCountForReal real).bpfCalls = lb.bpfCalls := by
  cases real with
  | none => rfl
  | some real =>
      simp only [decreaseRefCountForReal]
      split
      · rfl
      · split
        · rfl
        · rfl

private theorem releaseNum_bpfCalls (lb : KatranLb) (num : Nat) :
    (lb.releaseNum num).bpfCalls = lb.bpfCalls := by
  unfold releaseNum
  dsimp only
  rw [decreaseRefCountForReal_bpfCalls]
  unfold realOfNum
  split <;> rfl

private theorem foldl_releaseNum_bpfCalls (lb : KatranLb) (nums : List Nat) :
    (nums.foldl releaseNum lb).bpfCalls = lb.bpfCalls := by
  induction nums generalizing lb with
  | nil => rfl
  | cons num nums ih => exact (ih _).trans (releaseNum_bpfCalls lb num)

/-- A new VIP gets an entry of `vip_map`, if the call succeeds. -/
theorem addVip_tries {flags : UInt32} (live : lb.config.testing = false)
    (returned : lb.addVip folly env vip flags = some (done, after)) :
    (done = false ∧ after.kernel = lb.kernel) ∨
    (done = true ∧ ∀ addr vipNum vipNums, folly.parse vip.address = some addr →
      lb.vipNums = vipNum :: vipNums → after.kernel =
        lb.kernel.trySetVip (env.succeeds lb.bpfCalls) (vipDefinition addr vip)
          (some { flags := flags, vipNum := vipNum })) := by
  unfold addVip at returned
  split at returned
  next =>
    obtain ⟨rfl, rfl⟩ := Prod.mk.inj (Option.some.inj returned)
    exact .inl ⟨rfl, rfl⟩
  next =>
    have quiet := validateAddress_kernel folly lb vip.address false
    have same := validateAddress_sameTables folly lb vip.address false
    dsimp only at returned
    split at returned
    next =>
      obtain ⟨rfl, rfl⟩ := Prod.mk.inj (Option.some.inj returned)
      exact .inl ⟨rfl, quiet⟩
    next =>
      split at returned
      next =>
        obtain ⟨rfl, rfl⟩ := Prod.mk.inj (Option.some.inj returned)
        exact .inl ⟨rfl, quiet⟩
      next vipNum vipNums free =>
        split at returned
        next =>
          obtain ⟨rfl, rfl⟩ := Prod.mk.inj (Option.some.inj returned)
          exact .inl ⟨rfl, quiet⟩
        next =>
          rw [same.config, live, if_neg Bool.false_ne_true] at returned
          obtain ⟨updated, written, result⟩ := Option.map_eq_some_iff.mp returned
          obtain ⟨rfl, rfl⟩ := Prod.mk.inj result
          obtain ⟨addr, parsed, _, kernel⟩ := updateVipMap_tries written
          refine .inr ⟨rfl, ?_⟩
          intro addr' vipNum' vipNums' parsed' free'
          rw [same.vipNums, free'] at free
          obtain ⟨rfl, rfl⟩ := List.cons.inj free
          obtain rfl := Option.some.inj (parsed.symm.trans parsed')
          rw [kernel, if_pos rfl]
          change (lb.validateAddress folly vip.address false).2.kernel.trySetVip
            (env.succeeds (lb.validateAddress folly vip.address false).2.bpfCalls) _ _ = _
          rw [quiet, validateAddress_bpfCalls]

/-- A deleted VIP loses its entry of `vip_map`, if the call succeeds. -/
theorem delVip_tries (live : lb.config.testing = false)
    (returned : lb.delVip folly env vip = some (done, after)) :
    (done = false ∧ after = lb) ∨
    (done = true ∧ ∃ addr, folly.parse vip.address = some addr ∧
      after.kernel =
        lb.kernel.trySetVip (env.succeeds lb.bpfCalls) (vipDefinition addr vip) none) := by
  unfold delVip at returned
  split at returned
  next =>
    obtain ⟨rfl, rfl⟩ := Prod.mk.inj (Option.some.inj returned)
    exact .inl ⟨rfl, rfl⟩
  next =>
    split at returned
    next =>
      obtain ⟨rfl, rfl⟩ := Prod.mk.inj (Option.some.inj returned)
      exact .inl ⟨rfl, rfl⟩
    next current found =>
      have kept := foldl_releaseNum_sameRest lb (current.getReals env.listing)
      dsimp only at returned
      rw [kept.config, live, if_neg Bool.false_ne_true] at returned
      obtain ⟨updated, written, result⟩ := Option.map_eq_some_iff.mp returned
      obtain ⟨rfl, rfl⟩ := Prod.mk.inj result
      obtain ⟨addr, parsed, _, kernel⟩ := updateVipMap_tries written
      refine .inr ⟨rfl, addr, parsed, ?_⟩
      change updated.2.kernel = _
      rw [kernel, if_neg nofun]
      change ((current.getReals env.listing).foldl releaseNum lb).kernel.trySetVip
        (env.succeeds ((current.getReals env.listing).foldl releaseNum lb).bpfCalls) _ none = _
      rw [foldl_releaseNum_kernel, foldl_releaseNum_bpfCalls]

/-- The VIP with some flags set or cleared. -/
def flagged (current : Vip) (flag : UInt32) (set : Bool) : Vip :=
  if set then current.setVipFlags flag else current.unsetVipFlags flag

/-- The entry of `vip_map` follows the flags of the VIP, if the call succeeds, and the
result says whether it did. -/
theorem modifyVip_tries {flag : UInt32} {set : Bool} (live : lb.config.testing = false)
    (returned : lb.modifyVip folly env vip flag set = some (done, after)) :
    (done = false ∧ after = lb ∧ lb.vips.lookup vip = none) ∨
    ∃ addr current, folly.parse vip.address = some addr ∧ lb.vips.lookup vip = some current ∧
      done = env.succeeds lb.bpfCalls ∧
      SameTables { lb with vips := lb.vips.insert vip (flagged current flag set) } after ∧
      after.kernel = lb.kernel.trySetVip (env.succeeds lb.bpfCalls) (vipDefinition addr vip)
        (some { flags := (flagged current flag set).vipFlags,
                vipNum := (flagged current flag set).vipNum }) := by
  unfold modifyVip at returned
  split at returned
  next absent =>
    obtain ⟨rfl, rfl⟩ := Prod.mk.inj (Option.some.inj returned)
    exact .inl ⟨rfl, rfl, absent⟩
  next current found =>
    dsimp only at returned
    rw [live, if_neg Bool.false_ne_true] at returned
    obtain ⟨addr, parsed, told, kernel⟩ := updateVipMap_tries returned
    exact .inr ⟨addr, current, parsed, found, told, updateVipMap_sameTables returned, kernel⟩

/-- A new VIP gets an entry of `vip_map`. -/
theorem addVip_kernel {flags : UInt32} (reliable : env.Reliable)
    (live : lb.config.testing = false)
    (returned : lb.addVip folly env vip flags = some (done, after)) :
    (done = false ∧ after.kernel = lb.kernel) ∨
    (done = true ∧ ∀ addr vipNum vipNums, folly.parse vip.address = some addr →
      lb.vipNums = vipNum :: vipNums → after.kernel =
        lb.kernel.setVip (vipDefinition addr vip) (some { flags := flags, vipNum := vipNum })) := by
  have tried := addVip_tries live returned
  rw [reliable lb.bpfCalls] at tried
  exact tried

/-- A deleted VIP loses its entry of `vip_map`. -/
theorem delVip_kernel (reliable : env.Reliable) (live : lb.config.testing = false)
    (returned : lb.delVip folly env vip = some (done, after)) :
    (done = false ∧ after = lb) ∨
    (done = true ∧ ∃ addr, folly.parse vip.address = some addr ∧
      after.kernel = lb.kernel.setVip (vipDefinition addr vip) none) := by
  have tried := delVip_tries live returned
  rw [reliable lb.bpfCalls] at tried
  exact tried

/-- The entry of `vip_map` follows the flags of the VIP. -/
theorem modifyVip_kernel {flag : UInt32} {set : Bool} (reliable : env.Reliable)
    (live : lb.config.testing = false)
    (returned : lb.modifyVip folly env vip flag set = some (done, after)) :
    after = lb ∨
    ∃ addr current, folly.parse vip.address = some addr ∧ after.vips.lookup vip = some current ∧
      after.kernel = lb.kernel.setVip (vipDefinition addr vip)
        (some { flags := current.vipFlags, vipNum := current.vipNum }) := by
  rcases modifyVip_tries live returned with
    ⟨_, same, _⟩ | ⟨addr, current, parsed, _, _, same, kernel⟩
  · exact .inl same
  · rw [reliable lb.bpfCalls] at kernel
    refine .inr ⟨addr, flagged current flag set, parsed, ?_, kernel⟩
    rw [same.vips, AList.lookup_insert]

/-! ## Reals -/

/-- Nothing in the kernel but the array of reals differs. -/
def OnlyReals (before after : ConfigMaps) : Prop := after = { before with reals := after.reals }

theorem OnlyReals.refl (maps : ConfigMaps) : OnlyReals maps maps := rfl

theorem OnlyReals.trans {first middle last : ConfigMaps} (left : OnlyReals first middle)
    (right : OnlyReals middle last) : OnlyReals first last := by
  unfold OnlyReals at *
  rw [right, left]

/-- A number that is handed out is written with its address. -/
theorem increaseRefCountForReal_kernel (reliable : env.Reliable) (live : lb.config.testing = false)
    (real : IPAddress) :
    (lb.increaseRefCountForReal env real).2.kernel = { lb.kernel with
      reals := if lb.reals.lookup real.key = none then
          match lb.realNums with
          | [] => lb.kernel.reals
          | rnum :: _ => Function.update lb.kernel.reals rnum (parseAddrToBe real)
        else lb.kernel.reals } := by
  cases known : lb.reals.lookup real.key with
  | some rmeta => simp only [increaseRefCountForReal, known, reduceCtorEq, ↓reduceIte]
  | none =>
      cases free : lb.realNums with
      | nil => simp only [increaseRefCountForReal, known, free, ↓reduceIte]
      | cons rnum realNums =>
          simp only [increaseRefCountForReal, known, free, live, Bool.false_eq_true, ↓reduceIte]
          exact bpfCall_kernel reliable _ _

/-- Taking a reference writes only reals. -/
theorem increaseRefCountForReal_onlyReals (env : Env) (lb : KatranLb) (real : IPAddress) :
    OnlyReals lb.kernel (lb.increaseRefCountForReal env real).2.kernel := by
  unfold increaseRefCountForReal
  split
  · exact .refl _
  · split
    · exact .refl _
    · dsimp only
      split
      · exact .refl _
      · unfold updateRealsMap bpfCall
        split <;> rfl

private theorem modifyReal_onlyReals (folly : Folly) (env : Env) (action : ModifyAction)
    (batch : RealsBatch) (real : NewReal) :
    OnlyReals batch.lb.kernel (modifyReal folly env action batch real).lb.kernel := by
  unfold modifyReal
  split
  · dsimp only
    rw [validateAddress_kernel]
    exact .refl _
  next raddr parsed =>
    cases action with
    | del =>
        dsimp only
        unfold delReal
        split
        · exact .refl _
        · split
          · dsimp only
            rw [decreaseRefCountForReal_kernel]
            exact .refl _
          · exact .refl _
    | add =>
        have kept := increaseRefCountForReal_onlyReals env batch.lb raddr
        dsimp only
        unfold addReal
        split
        · split
          · exact .refl _
          · exact kept
        · dsimp only
          split
          · exact kept
          · exact kept

/-- A batch of reals writes only reals before the ring is computed. -/
theorem modifyRealsBatch_onlyReals (folly : Folly) (env : Env) (lb : KatranLb)
    (action : ModifyAction) (reals : List NewReal) (current : Vip) :
    OnlyReals lb.kernel (lb.modifyRealsBatch folly env action reals current).lb.kernel := by
  unfold modifyRealsBatch
  generalize start : RealsBatch.mk lb (current.getReals env.listing) [] [] = batch
  have first : batch.lb = lb := by rw [← start]
  rw [← first]
  clear start first
  induction reals generalizing batch with
  | nil => exact .refl _
  | cons real reals ih => exact (modifyReal_onlyReals folly env action batch real).trans (ih _)

private theorem foldl_writePosition_kernel (reliable : env.Reliable) (vipNum : Nat)
    (positions : List RealPos) (lb : KatranLb) :
    (positions.foldl (writePosition env vipNum) lb).kernel = { lb.kernel with
      chRings := writeAll lb.kernel.chRings (positions.map fun pos =>
        ((vipNum * lb.config.chRingSize.toNat + pos.pos) % 2 ^ 32, pos.real)) } := by
  induction positions generalizing lb with
  | nil => rfl
  | cons pos positions ih =>
      rw [List.foldl_cons, ih, (writePosition_sameTables env vipNum lb pos).config]
      have written : (writePosition env vipNum lb pos).kernel = { lb.kernel with
          chRings := Function.update lb.kernel.chRings
            ((vipNum * lb.config.chRingSize.toNat + pos.pos) % 2 ^ 32) pos.real } :=
        bpfCall_kernel reliable lb _
      rw [written]
      rfl

/-- The changed positions of the ring are written after the reals. -/
theorem modifyRealsForVip_kernel {action : ModifyAction} {reals : List NewReal}
    {current updated : Vip}
    {chPositions : List RealPos} (reliable : env.Reliable) (live : lb.config.testing = false)
    (forwards : lb.config.disableForwarding = false) (found : lb.vips.lookup vip = some current)
    (ring : current.batchRealsUpdate env.fuel env.sorting
      (lb.modifyRealsBatch folly env action reals current).ureals = some (chPositions, updated))
    (returned : lb.modifyRealsForVip folly env action reals vip = some (done, after)) :
    after.kernel = { (lb.modifyRealsBatch folly env action reals current).lb.kernel with
      chRings := writeAll lb.kernel.chRings (chPositions.map fun pos =>
        ((updated.vipNum * lb.config.chRingSize.toNat + pos.pos) % 2 ^ 32, pos.real)) } := by
  have rest := modifyRealsBatch_sameRest folly env lb action reals current
  have only := modifyRealsBatch_onlyReals folly env lb action reals current
  have rings : (lb.modifyRealsBatch folly env action reals current).lb.kernel.chRings =
      lb.kernel.chRings := by rw [only]
  simp only [modifyRealsForVip, forwards, found, ring, Bool.false_eq_true, ↓reduceIte,
    Option.map_some, Option.some.injEq, Prod.mk.injEq, rest.config, live] at returned
  rw [← returned.2, foldl_writePosition_kernel reliable]
  dsimp only
  rw [rings]

/-! ## Reals in use are written -/

/-- Every number in use is written with the address it was handed out for. -/
def RealsWritten (lb : KatranLb) : Prop :=
  ∀ num real, lb.numToReals.lookup num = some (some real) → lb.kernel.reals num = parseAddrToBe real

namespace RealsWritten

/-- In a new balancer no real is in use. -/
theorem new (config : KatranConfig) (features : KatranFeatures) (kernel : ConfigMaps) :
    (KatranLb.new config features kernel).RealsWritten := by
  intro num real named
  simp only [KatranLb.new, AList.lookup_empty, reduceCtorEq] at named

/-- Names may be forgotten. -/
theorem of_names (written : lb.RealsWritten) (reals : after.kernel.reals = lb.kernel.reals)
    (fewer : ∀ num real, after.numToReals.lookup num = some (some real) →
      lb.numToReals.lookup num = some (some real)) : after.RealsWritten := by
  intro num real named
  rw [reals]
  exact written num real (fewer num real named)

/-- What changes no table keeps the reals written. -/
theorem sameTables (written : lb.RealsWritten) (same : SameTables lb after)
    (reals : after.kernel.reals = lb.kernel.reals) : after.RealsWritten := by
  apply written.of_names reals
  intro num real named
  rwa [same.numToReals] at named

/-- Releasing a reference keeps the reals written. -/
theorem decreaseRefCountForReal (written : lb.RealsWritten) (real : Option IPAddress) :
    (lb.decreaseRefCountForReal real).RealsWritten := by
  apply written.of_names (by rw [decreaseRefCountForReal_kernel])
  intro num owner named
  cases real with
  | none => exact named
  | some real =>
      cases known : lb.reals.lookup real.key with
      | none =>
          simp only [KatranLb.decreaseRefCountForReal, known] at named
          exact named
      | some rmeta =>
          simp only [KatranLb.decreaseRefCountForReal, known] at named
          split at named
          · rw [lookup_erase_eq_ite] at named
            split at named
            · cases named
            · exact named
          · exact named

/-- Releasing a number keeps the reals written. -/
theorem releaseNum (written : lb.RealsWritten) (num : Nat) : (lb.releaseNum num).RealsWritten := by
  apply RealsWritten.decreaseRefCountForReal
  split
  · exact written
  next unknown =>
    refine written.of_names ?_ ?_
    · rfl
    · intro other owner named
      rw [lookup_insert_eq_ite] at named
      split at named
      · cases named
      · exact named

/-- Taking a reference keeps the reals written. -/
theorem increaseRefCountForReal (written : lb.RealsWritten) (reliable : env.Reliable)
    (live : lb.config.testing = false) (real : IPAddress) :
    (lb.increaseRefCountForReal env real).2.RealsWritten := by
  have kernel := increaseRefCountForReal_kernel reliable live real
  cases known : lb.reals.lookup real.key with
  | some rmeta =>
      simp only [known, reduceCtorEq, ↓reduceIte] at kernel
      apply written.of_names (by rw [kernel])
      intro num owner named
      simp only [KatranLb.increaseRefCountForReal, known] at named
      exact named
  | none =>
      cases free : lb.realNums with
      | nil =>
          simp only [known, free, ↓reduceIte] at kernel
          apply written.of_names (by rw [kernel])
          intro num owner named
          simp only [KatranLb.increaseRefCountForReal, known, free] at named
          exact named
      | cons rnum realNums =>
          simp only [known, free, ↓reduceIte] at kernel
          intro num owner named
          have names : (lb.increaseRefCountForReal env real).2.numToReals =
              lb.numToReals.insert rnum (some real) := by
            simp only [KatranLb.increaseRefCountForReal, known, free, live, Bool.false_eq_true,
              ↓reduceIte]
            exact (updateRealsMap_sameTables env _ real rnum).numToReals
          rw [names, lookup_insert_eq_ite] at named
          rw [kernel]
          dsimp only
          split at named
          next same =>
            obtain rfl := Option.some.inj (Option.some.inj named)
            rw [same, Function.update_self]
          next other =>
            rw [Function.update_of_ne other]
            exact written num owner named

private theorem modifyReal {action : ModifyAction} {batch : RealsBatch}
    (written : batch.lb.RealsWritten)
    (reliable : env.Reliable) (live : batch.lb.config.testing = false) (real : NewReal) :
    (modifyReal folly env action batch real).lb.RealsWritten := by
  unfold KatranLb.modifyReal
  split
  · exact written.sameTables (validateAddress_sameTables folly batch.lb real.address false)
      (by rw [validateAddress_kernel])
  next raddr parsed =>
    cases action with
    | del =>
        dsimp only
        unfold delReal
        split
        · exact written
        · split
          · exact written.decreaseRefCountForReal (some raddr)
          · exact written
    | add =>
        have later := written.increaseRefCountForReal reliable live raddr
        dsimp only
        unfold addReal
        split
        · split
          · exact written
          · exact later
        · dsimp only
          split
          · exact later
          · exact later

private theorem modifyRealsBatch (written : lb.RealsWritten) (reliable : env.Reliable)
    (live : lb.config.testing = false) (action : ModifyAction) (reals : List NewReal)
    (current : Vip) : (lb.modifyRealsBatch folly env action reals current).lb.RealsWritten := by
  unfold KatranLb.modifyRealsBatch
  generalize start : RealsBatch.mk lb (current.getReals env.listing) [] [] = batch
  have first : batch.lb = lb := by rw [← start]
  rw [← first] at written live
  clear start first
  induction reals generalizing batch with
  | nil => exact written
  | cons real reals ih =>
      apply ih _ _ (written.modifyReal reliable live real)
      rw [(modifyReal_sameRest folly env action batch real).config]
      exact live

/-- Changing the reals of a VIP keeps the reals written. -/
theorem modifyRealsForVip {action : ModifyAction} {reals : List NewReal} (written : lb.RealsWritten)
    (reliable : env.Reliable) (live : lb.config.testing = false)
    (returned : lb.modifyRealsForVip folly env action reals vip = some (done, after)) :
    after.RealsWritten := by
  rcases modifyRealsForVip_cases returned with
    ⟨_, rfl, _⟩ | ⟨_, forwards, current, chPositions, updated, found, ring, same⟩
  · exact written
  · have kernel := modifyRealsForVip_kernel reliable live forwards found ring returned
    have later : (lb.modifyRealsBatch folly env action reals current).lb.RealsWritten :=
      written.modifyRealsBatch reliable live action reals current
    apply later.of_names (by rw [kernel])
    intro num real named
    rwa [same.numToReals] at named

end RealsWritten

end KatranLb

end Katran
