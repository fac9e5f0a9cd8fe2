import Katran.Lb.HandedOut
import Katran.System.Concord

/-! # Restoring what is listed

A client lists the VIPs of a balancer with their flags, reals and weights, as the services do it
(`getAllVips`, `getVipFlags`, `getRealsForVip`), and gives them to another balancer that has just
been started. The numbers of VIPs and reals, the leftovers of earlier operations and the order in
which the hash maps are listed are not part of what is listed.

Restoring never fails for lack of numbers, and the restored balancer reports what the first one
does. Both are then managed alike, so packets of one flow that both forward go to one address.
-/

namespace Katran

open Foundation UnorderedMap

namespace KatranLb

variable {folly : Folly} {cfg : BpfConfig} {lb first second after : KatranLb} {vip : VipKey}

/-! ## Listing -/

/-- The VIPs that are configured. -/
def getAllVips (env : Env) (lb : KatranLb) : List VipKey :=
  if lb.config.disableForwarding then [] else env.listing.visit lb.vips.keys

/-- The flags of a VIP; throws for an unknown VIP. -/
def getVipFlags (lb : KatranLb) (vip : VipKey) : Option UInt32 :=
  if lb.config.disableForwarding then none else (lb.vips.lookup vip).map Vip.vipFlags

/-- A real as it is given back, with the text of its address. -/
def listedReal (str : Option IPAddress → String) (real : Option IPAddress × Nat) : NewReal :=
  ⟨str real.1, real.2.toUInt32⟩

/-- The calls that make a VIP what it is. -/
def listVip (str : Option IPAddress → String) (env : Env) (lb : KatranLb) (vip : VipKey) :
    Option (List Op) := do
  let flags ← lb.getVipFlags vip
  let (reals, _) ← lb.getRealsForVip env vip
  some [.addVip vip flags, .modifyRealsForVip .add (reals.map (listedReal str)) vip]

/-- The calls that make a balancer what it is. -/
def listAll (str : Option IPAddress → String) (env : Env) (lb : KatranLb) : Option (List Op) :=
  ((lb.getAllVips env).mapM (lb.listVip str env)).map List.flatten

/-- The texts of the addresses that are reported can be read back. -/
def Readable (folly : Folly) (str : Option IPAddress → String) (env : Env) (lb : KatranLb) :
    Prop :=
  ∀ vip ∈ lb.vips, ∀ reported ∈ lb.getRealsForVip env vip, ∀ real ∈ reported.1,
    folly.parse (str real.1) = real.1

/-! ## Batches without repetition -/

/-- Addresses that are known or find a number are all accepted. -/
theorem acceptedReals_eq {str : Option IPAddress → String} {entries : List (IPAddress × Nat)}
    (readable : ∀ entry ∈ entries, folly.parse (str (some entry.1)) = some entry.1)
    (fits : ∀ entry ∈ entries, entry.2 < 2 ^ 32)
    (distinct : (entries.map fun entry => entry.1.key).Nodup) {known : List IPAddress} {free : Nat}
    (room : (entries.filter fun entry => entry.1.key ∉ known).length ≤ free) :
    acceptedReals folly known free
        (entries.map fun entry => listedReal str (some entry.1, entry.2)) =
      entries.map fun entry => (entry.1.key, entry.2) := by
  induction entries generalizing known free with
  | nil => rfl
  | cons entry entries ih =>
      have later := ih (fun other member => readable other (List.mem_cons_of_mem _ member))
        (fun other member => fits other (List.mem_cons_of_mem _ member))
      rw [List.map_cons, List.nodup_cons] at distinct
      have weight : (listedReal str (some entry.1, entry.2)).weight.toNat = entry.2 :=
        Nat.mod_eq_of_lt (fits entry List.mem_cons_self)
      have parsed : folly.parse (listedReal str (some entry.1, entry.2)).address = some entry.1 :=
        readable entry List.mem_cons_self
      rw [List.filter_cons] at room
      rw [List.map_cons, List.map_cons, acceptedReals, parsed]
      dsimp only
      rw [weight]
      by_cases old : entry.1.key ∈ known
      · simp only [old, not_true_eq_false, decide_false, Bool.false_eq_true, ↓reduceIte] at room
        rw [if_pos old, later distinct.2 room]
      · simp only [old, not_false_eq_true, decide_true, ↓reduceIte, List.length_cons] at room
        rw [if_neg old]
        cases free with
        | zero => exact absurd room (Nat.not_succ_le_zero _)
        | succ free =>
            dsimp only
            have same : (entries.filter fun other => other.1.key ∉ entry.1.key :: known) =
                entries.filter fun other => other.1.key ∉ known := by
              apply List.filter_congr
              intro other member
              have different : other.1.key ≠ entry.1.key := by
                intro equal
                exact distinct.1 (List.mem_map.mpr ⟨other, member, equal⟩)
              simp only [List.mem_cons, different, false_or]
            rw [later distinct.2 (same ▸ Nat.le_of_succ_le_succ room)]

/-- What entries with distinct keys overwrite. -/
theorem overwrite_eq_some {entries : List (IPAddress × Nat)}
    (distinct : (entries.map Prod.fst).Nodup) (weightOf : IPAddress → Option Nat)
    (key : IPAddress) (weight : Nat) :
    overwrite weightOf entries key = some weight ↔
      (key, weight) ∈ entries ∨ (key ∉ entries.map Prod.fst ∧ weightOf key = some weight) := by
  induction entries generalizing weightOf with
  | nil =>
      simp only [overwrite, List.foldl_nil, List.not_mem_nil, List.map_nil, not_false_eq_true,
        true_and, false_or]
  | cons entry entries ih =>
      rw [List.map_cons, List.nodup_cons] at distinct
      have step : overwrite weightOf (entry :: entries) =
        overwrite (Function.update weightOf entry.1 (some entry.2)) entries := rfl
      rw [step, ih distinct.2, List.mem_cons, List.map_cons, List.mem_cons, Function.update_apply,
        not_or]
      by_cases own : key = entry.1
      · subst own
        have once : (entry.1, weight) ∉ entries := by
          intro member
          exact distinct.1 (List.mem_map.mpr ⟨_, member, rfl⟩)
        simp only [distinct.1, once, not_false_eq_true, ↓reduceIte, Option.some.injEq, true_and,
          false_or, not_true_eq_false, false_and, or_false]
        constructor
        · rintro rfl
          rfl
        · intro equal
          exact (congrArg Prod.snd equal).symm
      · have different : (key, weight) ≠ entry := by
          rintro rfl
          exact own rfl
        simp only [own, different, ↓reduceIte, not_false_eq_true, true_and, false_or]

/-- Writing what is reported gives what is reported. -/
theorem overwrite_none {entries : List (IPAddress × Nat)} {weightOf : IPAddress → Option Nat}
    (distinct : (entries.map fun entry => entry.1.key).Nodup)
    (weights : ∀ key weight, weightOf key = some weight ↔
      ∃ addr, (addr, weight) ∈ entries ∧ addr.key = key) :
    overwrite (fun _ => none) (entries.map fun entry => (entry.1.key, entry.2)) = weightOf := by
  have keys : ((entries.map fun entry => (entry.1.key, entry.2)).map Prod.fst).Nodup := by
    rw [List.map_map]
    exact distinct
  funext key
  apply Option.ext
  intro weight
  rw [overwrite_eq_some keys, weights]
  simp only [List.mem_map, Prod.mk.injEq, reduceCtorEq, and_false, or_false, Prod.exists]
  constructor
  · rintro ⟨addr, _, inside, rfl, rfl⟩
    exact ⟨addr, inside, rfl⟩
  · rintro ⟨addr, inside, rfl⟩
    exact ⟨addr, weight, inside, rfl, rfl⟩

/-! ## Weights -/

/-- Weights fit in the field that they are given in. -/
def WeightsFit (realsOf : VipKey → IPAddress → Option Nat) : Prop :=
  ∀ vip key weight, realsOf vip key = some weight → weight < 2 ^ 32

private theorem fits_acceptedReals (folly : Folly) (known : List IPAddress) (free : Nat)
    (reals : List NewReal) {entry : IPAddress × Nat}
    (member : entry ∈ acceptedReals folly known free reals) : entry.2 < 2 ^ 32 := by
  induction reals generalizing known free with
  | nil => cases member
  | cons real reals ih =>
      rw [acceptedReals] at member
      split at member
      · exact ih known free member
      · split at member
        · rcases List.mem_cons.mp member with rfl | later
          · exact real.weight.toNat_lt
          · exact ih known free later
        · split at member
          · exact ih known 0 member
          · rcases List.mem_cons.mp member with rfl | later
            · exact real.weight.toNat_lt
            · exact ih _ _ later

private theorem fits_overwrite {entries : List (IPAddress × Nat)}
    {weightOf : IPAddress → Option Nat} (new : ∀ entry ∈ entries, entry.2 < 2 ^ 32)
    (old : ∀ key weight, weightOf key = some weight → weight < 2 ^ 32) :
    ∀ key weight, overwrite weightOf entries key = some weight → weight < 2 ^ 32 := by
  induction entries generalizing weightOf with
  | nil => exact old
  | cons entry entries ih =>
      refine @ih (Function.update weightOf entry.1 (some entry.2))
        (fun other member => new other (List.mem_cons_of_mem _ member)) ?_
      intro key weight written
      rw [Function.update_apply] at written
      split at written
      · obtain rfl := Option.some.inj written
        exact new entry List.mem_cons_self
      · exact old key weight written

/-- The weights fit after a call. -/
theorem WeightsFit.replay {realsOf : VipKey → IPAddress → Option Nat} (fits : WeightsFit realsOf)
    (folly : Folly) (lb : KatranLb) (op : Op) : WeightsFit (lb.replay folly op realsOf) := by
  have update : ∀ {vip weightOf}, (∀ key weight, weightOf key = some weight → weight < 2 ^ 32) →
      WeightsFit (Function.update realsOf vip weightOf) := by
    intro vip weightOf own other key weight written
    rw [Function.update_apply] at written
    split at written
    · exact own key weight written
    · exact fits other key weight written
  have batch : ∀ action reals vip, WeightsFit (if vip ∈ lb.vips then
      Function.update realsOf vip (replayBatch folly lb action reals (realsOf vip))
    else realsOf) := by
    intro action reals vip
    split
    · apply update
      cases action with
      | add => exact fits_overwrite (fun _ => fits_acceptedReals folly _ _ reals) (fits vip)
      | del =>
          intro key weight written
          change (if _ then none else realsOf vip key) = some weight at written
          split at written
          · cases written
          · exact fits vip key weight written
    · exact fits
  cases op with
  | delVip vip => exact update nofun
  | addRealForVip real vip => exact batch .add [real] vip
  | delRealForVip real vip => exact batch .del [real] vip
  | modifyRealsForVip action reals vip => exact batch action reals vip
  | _ => exact fits

/-- The weights of a managed balancer fit. -/
theorem Managed.weightsFit (hashes : folly.HashesKeys) (managed : lb.Managed folly cfg) :
    ∃ realsOf, lb.Mapped realsOf ∧ WeightsFit realsOf := by
  have service : lb.InService folly cfg ∧ ∃ realsOf, lb.Mapped realsOf ∧ WeightsFit realsOf := by
    obtain ⟨config, features, kernel, ops, live, agrees, few, empty, run⟩ := managed
    apply Run.invariant
      (fun lb => lb.InService folly cfg ∧ ∃ realsOf, lb.Mapped realsOf ∧ WeightsFit realsOf) _ run
    · exact ⟨Managed.inService hashes
          ⟨config, features, kernel, [], live, agrees, few, empty, .nil _⟩,
        _, .new config features kernel, nofun⟩
    · rintro before op next ⟨service, realsOf, mapped, fits⟩ taken
      exact ⟨service.step hashes taken, _, mapped.step service.valid taken.2.1 taken.1.step,
        fits.replay folly before op⟩
  exact service.2

private theorem InService.weightsOf_eq (service : lb.InService folly cfg)
    {realsOf : VipKey → IPAddress → Option Nat} (mapped : lb.Mapped realsOf)
    (member : vip ∈ lb.vips) : lb.weightsOf vip = realsOf vip := by
  obtain ⟨current, found⟩ := exists_lookup_of_mem member
  exact (service.reports_weightsOf member).unique ((mapped.vips vip current found).reports
    mapped.pools.reals (service.valid vip member).1 found)

/-! ## Numbers -/

/-- Additions make listed addresses known, and no others. -/
theorem known_of_foldl_modifyReal {env : Env} (reliable : env.Reliable) {batch : RealsBatch}
    (live : batch.lb.config.testing = false) (reals : List NewReal) {key : IPAddress}
    (known : key ∈ (reals.foldl (modifyReal folly env .add) batch).lb.reals) :
    key ∈ batch.lb.reals ∨ key ∈ listedKeys folly reals := by
  induction reals generalizing batch with
  | nil => exact .inl known
  | cons real reals ih =>
      have still : (modifyReal folly env .add batch real).lb.config.testing = false := by
        rw [(modifyReal_sameRest folly env .add batch real).config]
        exact live
      rw [List.foldl_cons] at known
      cases parsed : folly.parse real.address with
      | none =>
          obtain ⟨pool, _⟩ := modifyReal_of_invalid parsed env .add batch
          have table : (modifyReal folly env .add batch real).lb.reals = batch.lb.reals :=
            congrArg RefPool.table pool
          rw [listedKeys_cons_none parsed, ← table]
          exact ih still known
      | some raddr =>
          have body : modifyReal folly env .add batch real =
              addReal folly env batch raddr real.weight := by
            simp only [modifyReal, parsed]
          rw [body] at still known
          rw [listedKeys_cons_some parsed]
          rcases ih still known with earlier | later
          · rw [mem_reals_iff] at earlier
            obtain ⟨num, numbered⟩ := earlier
            rcases addReal_hands folly reliable live raddr real.weight with
              ⟨_, _, _, pool⟩ | ⟨_, fresh, _, _, _, _, pool⟩
            · rw [pool] at numbered
              exact .inl ((mem_reals_iff _ _).mpr ⟨num, numbered⟩)
            · rw [pool] at numbered
              split at numbered
              next same => exact .inr (same ▸ List.mem_cons_self)
              next => exact .inl ((mem_reals_iff _ _).mpr ⟨num, numbered⟩)
          · exact .inr (List.mem_cons_of_mem _ later)

/-- Every number of a real is free or in use. -/
theorem PoolsSound.length_reals (sound : lb.PoolsSound) :
    lb.realNums.length + lb.reals.keys.length = lb.config.maxReals.toNat := by
  have total := sound.reals.partitioned.length_eq
  simp only [List.length_append, List.length_map, values, List.length_range, realPool_free,
    realPool_table] at total
  rw [← total, AList.keys, List.keys, List.length_map]

private theorem PoolsSound.length_vips (sound : lb.PoolsSound) :
    lb.vipNums.length + lb.vips.keys.length = lb.config.maxVips.toNat := by
  have total := sound.vips.length_eq
  simp only [List.length_append, List.length_map, values, List.length_range] at total
  rw [← total, AList.keys, List.keys, List.length_map]

/-- A managed balancer is managed after a call. -/
theorem Managed.step {op : Op} (managed : lb.Managed folly cfg)
    (taken : ManagedStep folly lb op after) : after.Managed folly cfg := by
  obtain ⟨config, features, kernel, ops, live, agrees, few, empty, run⟩ := managed
  exact ⟨config, features, kernel, ops ++ [op], live, agrees, few, empty,
    run.append (.cons taken (.nil after))⟩

/-! ## Restoring -/

/-- Some of the VIPs of a balancer have been restored, and the reals of some of these. -/
structure Restored (folly : Folly) (cfg : BpfConfig) (first : KatranLb)
    (vips filled : List VipKey) (lb : KatranLb) : Prop where
  managed : lb.Managed folly cfg
  config : lb.config = first.config
  listed : ∀ vip ∈ vips, vip ∈ first.vips
  flags : ∀ vip, (lb.vips.lookup vip).map Vip.vipFlags =
    if vip ∈ vips then (first.vips.lookup vip).map Vip.vipFlags else none
  mapped : lb.Mapped fun vip => if vip ∈ filled then first.weightsOf vip else fun _ => none
  known : ∀ key ∈ lb.reals, key ∈ first.reals

namespace Restored

variable {vips filled : List VipKey} {current : Vip}

private theorem mem_vips (restored : Restored folly cfg first vips filled lb) :
    vip ∈ lb.vips ↔ vip ∈ vips := by
  have flags := restored.flags vip
  rw [← AList.lookup_isSome, ← Option.isSome_map (f := Vip.vipFlags), flags]
  split
  next member =>
    rw [Option.isSome_map, AList.lookup_isSome]
    exact ⟨fun _ => member, fun _ => restored.listed vip member⟩
  next absent =>
    simp only [Option.isSome_none, Bool.false_eq_true, absent]

/-- There is a number for every VIP. -/
theorem vipNums_ne_nil (restored : Restored folly cfg first vips filled lb)
    (hashes : folly.HashesKeys) (service : first.InService folly cfg) (member : vip ∈ first.vips)
    (new : vip ∉ vips) : lb.vipNums ≠ [] := by
  have own := (restored.managed.inService hashes).rings.pools.length_vips
  have all := service.rings.pools.length_vips
  rw [restored.config] at own
  have distinct : (vip :: lb.vips.keys).Nodup :=
    List.nodup_cons.mpr ⟨new ∘ restored.mem_vips.mp, lb.vips.keys_nodup⟩
  have among : vip :: lb.vips.keys ⊆ first.vips.keys := by
    intro other known
    rcases List.mem_cons.mp known with rfl | known
    · exact member
    · exact restored.listed other (restored.mem_vips.mp known)
  have fewer := (distinct.subperm among).length_le
  rw [List.length_cons] at fewer
  intro empty
  rw [empty, List.length_nil] at own
  omega

private theorem addVip (restored : Restored folly cfg first vips filled lb)
    (hashes : folly.HashesKeys)
    (service : first.InService folly cfg) (found : first.vips.lookup vip = some current)
    (new : vip ∉ vips) (taken : ReliableStep folly lb (.addVip vip current.vipFlags) after) :
    Restored folly cfg first (vip :: vips) filled after := by
  have own := restored.managed.inService hashes
  obtain ⟨forwards, addr, parsed⟩ := service.valid vip (mem_of_lookup found)
  have coded := vip.encode_of_parsed parsed
  rw [← restored.config] at forwards
  have absent : vip ∉ lb.vips := new ∘ restored.mem_vips.mp
  have free := restored.vipNums_ne_nil hashes service (mem_of_lookup found) new
  have spelled : lb.SpelledOnce folly (.addVip vip current.vipFlags) := by
    intro _ _ other configured same
    exact service.encoded.injective other vip _ (same.trans coded) coded
      (vipMetas_ne_none.mpr (restored.listed other (restored.mem_vips.mp configured)))
      (vipMetas_ne_none.mpr (mem_of_lookup found))
  have once : (Op.addVip vip current.vipFlags).RemovesOnce folly := trivial
  have managed := restored.managed.step ⟨taken, once, spelled⟩
  have mapped := restored.mapped.step own.valid once taken.step
  obtain ⟨env, reliable, performed⟩ := taken
  obtain ⟨⟨done, later⟩, returned, rfl⟩ := Option.map_eq_some_iff.mp performed
  obtain ⟨vipNum, vipNums, nums⟩ := List.exists_cons_of_ne_nil free
  obtain rfl := addVip_done forwards absent nums coded returned
  rcases addVip_cases returned with ⟨wrong, _⟩ | ⟨_, _, _, _, fresh, _, _, _, same⟩
  · cases wrong
  · refine ⟨managed, same.config.trans restored.config, ?_, ?_, mapped, ?_⟩
    · intro other member
      rcases List.mem_cons.mp member with rfl | earlier
      · exact mem_of_lookup found
      · exact restored.listed other earlier
    · intro other
      rw [same.vips, lookup_insert_eq_ite]
      by_cases equal : other = vip
      · subst equal
        simp only [↓reduceIte, Option.map_some, List.mem_cons, true_or, found]
        rfl
      · simp only [equal, ↓reduceIte, List.mem_cons, false_or]
        exact restored.flags other
    · intro key member
      apply restored.known key
      have table : later.reals = lb.reals := congrArg RefPool.table same.realPool
      rwa [table] at member

/-- There is a number for every real. -/
theorem room (restored : Restored folly cfg first vips filled lb) (hashes : folly.HashesKeys)
    (service : first.InService folly cfg) {entries : List (IPAddress × Nat)}
    (distinct : (entries.map fun entry => entry.1.key).Nodup)
    (listed : ∀ entry ∈ entries, entry.1.key ∈ first.reals) :
    (entries.filter fun entry => entry.1.key ∉ lb.reals.keys).length ≤ lb.realNums.length := by
  have own := (restored.managed.inService hashes).rings.pools.length_reals
  have all := service.rings.pools.length_reals
  rw [restored.config] at own
  generalize news : (entries.filter fun entry => entry.1.key ∉ lb.reals.keys) = added
  have new : ∀ entry ∈ added, entry ∈ entries ∧ entry.1.key ∉ lb.reals.keys := by
    intro entry member
    rw [← news, List.mem_filter, decide_eq_true_eq] at member
    exact member
  have part : (added.map fun entry => entry.1.key).Nodup := by
    rw [← news]
    exact distinct.sublist (List.filter_sublist.map _)
  have together : ((added.map fun entry => entry.1.key) ++ lb.reals.keys).Nodup := by
    refine part.append lb.reals.keys_nodup ?_
    intro key among known
    obtain ⟨entry, member, rfl⟩ := List.mem_map.mp among
    exact (new entry member).2 known
  have among : (added.map fun entry => entry.1.key) ++ lb.reals.keys ⊆ first.reals.keys := by
    intro key member
    rcases List.mem_append.mp member with among | known
    · obtain ⟨entry, inside, rfl⟩ := List.mem_map.mp among
      exact listed entry (new entry inside).1
    · exact restored.known key known
  have fewer := (together.subperm among).length_le
  rw [List.length_append, List.length_map] at fewer
  omega

/-- The reals that are listed for a VIP are all accepted. -/
theorem accepts (restored : Restored folly cfg first vips filled lb) (hashes : folly.HashesKeys)
    (managed : first.Managed folly cfg) (listed : vip ∈ first.vips)
    {str : Option IPAddress → String} {entries : List (IPAddress × Nat)}
    (texts : ∀ entry ∈ entries, folly.parse (str (some entry.1)) = some entry.1)
    (distinct : (entries.map fun entry => entry.1.key).Nodup)
    (weigh : ∀ entry ∈ entries, first.weightsOf vip entry.1.key = some entry.2) :
    acceptedReals folly lb.reals.keys lb.realNums.length
        (entries.map fun entry => listedReal str (some entry.1, entry.2)) =
      entries.map fun entry => (entry.1.key, entry.2) := by
  have service := managed.inService hashes
  obtain ⟨realsOf, mapped, fits⟩ := managed.weightsFit hashes
  apply acceptedReals_eq texts _ distinct
  · exact restored.room hashes service distinct fun entry inside =>
      mem_of_weightsOf (weigh entry inside)
  · intro entry inside
    apply fits vip entry.1.key
    rw [← service.weightsOf_eq mapped listed]
    exact weigh entry inside

/-- The reals of a VIP are restored with their weights. -/
theorem fill (restored : Restored folly cfg first vips filled lb) (hashes : folly.HashesKeys)
    (managed : first.Managed folly cfg) {str : Option IPAddress → String} {env : Env}
    (readable : first.Readable folly str env) (member : vip ∈ vips) (new : vip ∉ filled)
    {reported : List (Option IPAddress × Nat) × KatranLb}
    (read : first.getRealsForVip env vip = some reported)
    (taken : ReliableStep folly lb
      (.modifyRealsForVip .add (reported.1.map (listedReal str)) vip) after) :
    Restored folly cfg first vips (vip :: filled) after := by
  have service := managed.inService hashes
  have own := restored.managed.inService hashes
  have listed := restored.listed vip member
  have present := restored.mem_vips.mpr member
  obtain ⟨entries, reports, distinct, weights⟩ := service.reports_weightsOf listed env
  obtain rfl := Option.some.inj (read.symm.trans reports)
  have texts := readable vip listed _ read
  generalize batch : (entries.map fun entry => (some entry.1, entry.2)).map (listedReal str) =
    reals at taken
  rw [List.map_map] at batch
  have once : (Op.modifyRealsForVip .add reals vip).RemovesOnce folly := trivial
  have kept := restored.managed.step ⟨taken, once, trivial⟩
  have mapped := restored.mapped.step own.valid once taken.step
  -- the batch gives the VIP what was reported
  have given : lb.replay folly (.modifyRealsForVip .add reals vip)
        (fun vip => if vip ∈ filled then first.weightsOf vip else fun _ => none) =
      fun other => if other ∈ vip :: filled then first.weightsOf other else fun _ => none := by
    have accepted := restored.accepts hashes managed listed
      (fun entry inside => texts _ (List.mem_map_of_mem inside)) distinct
      fun entry inside => (weights _ _).mpr ⟨entry.1, inside, rfl⟩
    funext other
    rw [replay]
    dsimp only
    rw [if_pos present, Function.update_apply, replayBatch, if_neg new, ← batch]
    by_cases equal : other = vip
    · subst equal
      rw [if_pos rfl, if_pos List.mem_cons_self]
      refine (congrArg (overwrite _) accepted).trans ?_
      exact overwrite_none distinct weights
    · simp only [equal, ↓reduceIte, List.mem_cons, false_or]
  rw [given] at mapped
  obtain ⟨other, reliable, performed⟩ := taken
  obtain ⟨⟨done, later⟩, returned, rfl⟩ := Option.map_eq_some_iff.mp performed
  rcases modifyRealsForVip_cases returned with
    ⟨_, _, disabled | absent⟩ | ⟨_, _, current, _, updated, found, ring, same⟩
  · rw [(own.valid vip present).1] at disabled
    cases disabled
  · exact absurd present (AList.lookup_eq_none.mp absent)
  · have rest := modifyRealsBatch_sameRest folly other lb .add reals current
    refine ⟨kept, ?_, restored.listed, ?_, mapped, ?_⟩
    · rw [same.config]
      exact rest.config.trans restored.config
    · intro another
      rw [same.vips, rest.vips, lookup_insert_eq_ite, ← restored.flags another]
      split
      next equal =>
        rw [equal, found, Option.map_some, Option.map_some,
          (Vip.reals_of_batchRealsUpdate ring).2.2.1]
      next => rfl
    · intro key known
      rw [same.reals] at known
      rcases known_of_foldl_modifyReal reliable own.live reals known with earlier | added
      · exact restored.known key earlier
      · rw [← batch] at added
        obtain ⟨real, inside, parsed⟩ := List.mem_filterMap.mp added
        obtain ⟨entry, among, rfl⟩ := List.mem_map.mp inside
        have text : folly.parse (str (some entry.1)) = some entry.1 :=
          texts _ (List.mem_map_of_mem among)
        have own : (some entry.1).map IPAddress.key = some key := text ▸ parsed
        obtain rfl := Option.some.inj own
        exact mem_of_weightsOf ((weights _ _).mpr ⟨entry.1, among, rfl⟩)

/-- A balancer that has just been started. -/
theorem new (managed : first.Managed folly cfg) (hashes : folly.HashesKeys)
    (features : KatranFeatures) {kernel : ConfigMaps} (empty : kernel.vipMap = fun _ => none) :
    Restored folly cfg first [] [] (.new first.config features kernel) where
  managed :=
    have service := managed.inService hashes
    ⟨first.config, features, kernel, [], service.live, service.agrees, service.few, empty, .nil _⟩
  config := rfl
  listed := nofun
  flags := fun _ => rfl
  mapped := .new first.config features kernel
  known := nofun

/-- One VIP is restored. -/
theorem restoreVip (restored : Restored folly cfg first vips vips lb) (hashes : folly.HashesKeys)
    (managed : first.Managed folly cfg) {str : Option IPAddress → String} {env : Env}
    (readable : first.Readable folly str env) (new : vip ∉ vips) {ops : List Op}
    (listed : first.listVip str env vip = some ops) {rest : List Op}
    (run : Run (ReliableStep folly) lb (ops ++ rest) after) :
    ∃ next, Restored folly cfg first (vip :: vips) (vip :: vips) next ∧
      Run (ReliableStep folly) next rest after := by
  obtain ⟨flags, flagged, reals⟩ := Option.bind_eq_some_iff.mp listed
  obtain ⟨reported, read, same⟩ := Option.bind_eq_some_iff.mp reals
  obtain rfl := Option.some.inj same
  rw [getVipFlags] at flagged
  split at flagged
  · cases flagged
  · obtain ⟨current, found, rfl⟩ := Option.map_eq_some_iff.mp flagged
    cases run with
    | cons added run =>
        cases run with
        | cons filled run =>
            have configured :=
              restored.addVip hashes (managed.inService hashes) found new added
            exact ⟨_, configured.fill hashes managed readable List.mem_cons_self new read filled,
              run⟩

/-- So all of them are. -/
theorem restoreVips (hashes : folly.HashesKeys) (managed : first.Managed folly cfg)
    {str : Option IPAddress → String} {env : Env} (readable : first.Readable folly str env)
    {todo : List VipKey} (distinct : (todo ++ vips).Nodup) {ops : List (List Op)}
    (listed : todo.mapM (first.listVip str env) = some ops)
    (restored : Restored folly cfg first vips vips lb)
    (run : Run (ReliableStep folly) lb ops.flatten after) :
    ∃ all, (∀ vip, vip ∈ all ↔ vip ∈ todo ∨ vip ∈ vips) ∧
      Restored folly cfg first all all after := by
  induction todo generalizing vips ops lb with
  | nil =>
      obtain rfl := Option.some.inj listed
      cases run
      exact ⟨vips, fun vip => (or_iff_right List.not_mem_nil).symm, restored⟩
  | cons vip todo ih =>
      rw [List.mapM_cons] at listed
      obtain ⟨own, listedOwn, others⟩ := Option.bind_eq_some_iff.mp listed
      obtain ⟨rest, listedRest, same⟩ := Option.bind_eq_some_iff.mp others
      obtain rfl := Option.some.inj same
      rw [List.cons_append, List.nodup_cons, List.mem_append, not_or] at distinct
      obtain ⟨next, further, later⟩ :=
        restored.restoreVip hashes managed readable distinct.1.2 listedOwn run
      have apart : (todo ++ vip :: vips).Nodup := by
        rw [List.nodup_middle, List.nodup_cons, List.mem_append, not_or]
        exact distinct
      obtain ⟨all, members, restored⟩ := ih apart listedRest further later
      refine ⟨all, ?_, restored⟩
      intro other
      rw [members, List.mem_cons, List.mem_cons, or_left_comm, or_assoc]

/-- A balancer with all VIPs restored serves what the first one does. -/
theorem sameService (restored : Restored folly cfg first vips vips second)
    (hashes : folly.HashesKeys) (service : first.InService folly cfg)
    (all : ∀ vip ∈ first.vips, vip ∈ vips) : SameService first second first.weightsOf where
  flags := by
    intro vip
    rw [restored.flags vip]
    split
    next => rfl
    next absent =>
      rw [AList.lookup_eq_none.mpr (absent ∘ all vip), Option.map_none]
  reals := by
    intro vip member
    have own := restored.managed.inService hashes
    have present := restored.mem_vips.mpr (all vip member)
    have reports := own.reports_weightsOf present
    rw [own.weightsOf_eq restored.mapped present, if_pos (all vip member)] at reports
    exact ⟨service.reports_weightsOf member, reports⟩

end Restored

/-- Every VIP of a balancer in service can be listed. -/
theorem InService.exists_listVips (service : lb.InService folly cfg)
    (str : Option IPAddress → String) (env : Env) {vips : List VipKey}
    (listed : ∀ vip ∈ vips, vip ∈ lb.vips) : ∃ ops, vips.mapM (lb.listVip str env) = some ops := by
  induction vips with
  | nil => exact ⟨[], rfl⟩
  | cons vip vips ih =>
      have member := listed vip List.mem_cons_self
      obtain ⟨ops, rest⟩ := ih fun other later => listed other (List.mem_cons_of_mem _ later)
      obtain ⟨current, found⟩ := exists_lookup_of_mem member
      obtain ⟨entries, read, _⟩ := service.reports_weightsOf member env
      rw [List.mapM_cons, rest]
      simp only [listVip, getVipFlags, (service.valid vip member).1, found, read,
        Bool.false_eq_true, ↓reduceIte, Option.map_some, Option.bind_eq_bind, Option.bind_some,
        Option.pure_def, Option.some.injEq, exists_eq']

/-- The VIPs are all listed, each once. -/
theorem InService.getAllVips_perm (service : lb.InService folly cfg) (env : Env) :
    (lb.getAllVips env).Perm lb.vips.keys := by
  rw [getAllVips]
  split
  next disabled =>
    have none : lb.vips.keys = [] := by
      apply List.eq_nil_iff_forall_not_mem.mpr
      intro vip member
      rw [(service.valid vip member).1] at disabled
      cases disabled
    rw [none]
  next => exact env.listing.visit_perm _

/-- **What is listed is all there is to restore.** The VIPs of a managed balancer, with their
flags, reals and weights, can always be listed, and given in that order to a balancer with the
same configuration that was just started they are all taken: numbers do not run out, and
whatever numbers they get, the restored balancer reports the same VIPs, flags, reals and
weights as the first one. -/
theorem restored_agrees (hashes : folly.HashesKeys) (managed : first.Managed folly cfg)
    {str : Option IPAddress → String} {env : Env} (readable : first.Readable folly str env) :
    ∃ ops, first.listAll str env = some ops ∧ ∀ features (kernel : ConfigMaps) second,
      kernel.vipMap = (fun _ => none) →
      Run (ReliableStep folly) (.new first.config features kernel) ops second →
        second.Managed folly cfg ∧ SameService first second first.weightsOf := by
  have service := managed.inService hashes
  have listing := service.getAllVips_perm env
  obtain ⟨ops, listed⟩ :=
    service.exists_listVips str env fun vip member => listing.mem_iff.mp member
  refine ⟨ops.flatten, by rw [listAll, listed, Option.map_some], ?_⟩
  intro features kernel second empty run
  have distinct : (first.getAllVips env ++ []).Nodup := by
    rw [List.append_nil, listing.nodup_iff]
    exact first.vips.keys_nodup
  obtain ⟨all, members, restored⟩ := Restored.restoreVips hashes managed readable distinct listed
    (.new managed hashes features empty) run
  refine ⟨restored.managed, restored.sameService hashes service ?_⟩
  intro vip member
  exact (members vip).mpr (.inl (listing.mem_iff.mpr member))

/-- The texts of a few addresses. -/
def smallText (addr : Option IPAddress) : String :=
  if addr = some (.v4 0x0100000a) then "10.0.0.1"
  else if addr = some (.v4 0x0200000a) then "10.0.0.2"
  else ""

/-- Start a balancer and give it what another one lists. -/
def restore (first : KatranLb) : Option KatranLb :=
  (first.listAll smallText (.plain 20)).bind fun ops =>
    (KatranLb.new first.config first.features tiny.kernel).performAll .small (.plain 20) ops

private theorem restore_returns :
    (((tiny.managedAll inOrder).get inOrder_returns).restore).isSome = true := by
  decide +kernel

/-- A balancer that is restored serves the same VIPs with the same reals. -/
theorem restored_agrees_inOrder :
    let first := (tiny.managedAll inOrder).get inOrder_returns
    SameService first (first.restore.get restore_returns) first.weightsOf := by
  intro first
  have managed := managed_of_managedAll (Option.some_get inOrder_returns).symm
  have readable : first.Readable .small smallText (.plain 20) := by
    have listed : ∀ vip ∈ first.vips.keys, ∀ reported ∈ first.getRealsForVip (.plain 20) vip,
        ∀ real ∈ reported.1, Folly.small.parse (smallText real.1) = real.1 := by
      decide +kernel
    exact listed
  obtain ⟨ops, listed, agrees⟩ := restored_agrees small_hashesKeys managed readable
  obtain ⟨calls, again, performed⟩ :=
    Option.bind_eq_some_iff.mp (Option.some_get restore_returns).symm
  obtain rfl := Option.some.inj (listed.symm.trans again)
  refine (agrees first.features tiny.kernel _ rfl ?_).2
  exact Run.of_execAll (fun _ _ _ computed => ⟨.plain 20, Env.plain_reliable 20, computed⟩)
    performed

end KatranLb

end Katran
