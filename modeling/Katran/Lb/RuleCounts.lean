import Katran.Lb.RefCounts
import Katran.Lb.SrcRules

/-! # References of source routing rules

On a balancer without VIPs and QUIC ids, every reference is one of a rule. Installing a
network takes a reference of the destination whether or not the network has a rule already,
and then overwrites the rule, so the reference of the rule that is replaced is never given
up. In runs whose additions only install networks that have no rule, every real has exactly
as many references as rules, and clearing the rules frees all numbers.
-/

namespace Katran

open Foundation UnorderedMap

namespace KatranLb

variable {folly : Folly} {env : Env} {lb after : KatranLb}

/-- Only rules hold reals, and no real has more references than rules. -/
structure CountedByRules (lb : KatranLb) : Prop where
  vips : lb.vips = ∅
  quic : lb.quicMapping = ∅
  held : ∃ realOf dstOf, Held lb realOf dstOf
  exact : ∀ key num, lb.realPool.numOf key = some num → lb.realPool.refs key ≤ lb.ruleClaims num
  indexed : lb.realPool.Indexed

namespace CountedByRules

/-- In a new balancer no rule holds a real. -/
theorem new (config : KatranConfig) (features : KatranFeatures) (kernel : ConfigMaps) :
    (KatranLb.new config features kernel).CountedByRules where
  vips := rfl
  quic := rfl
  held := ⟨_, _, .new config features kernel⟩
  exact := by
    intro key num numbered
    obtain ⟨slot, found, _⟩ := RefPool.numOf_eq_some.mp numbered
    simp only [KatranLb.new, realPool_table, AList.lookup_empty, reduceCtorEq] at found
  indexed := RefPool.Indexed.fresh config.maxReals.toNat

/-- Counters and the kernel do not matter. -/
theorem sameTables (counted : lb.CountedByRules) (same : SameTables lb after) :
    after.CountedByRules where
  vips := same.vips.trans counted.vips
  quic := same.quicMapping.trans counted.quic
  held := by
    obtain ⟨realOf, dstOf, held⟩ := counted.held
    exact ⟨realOf, dstOf, held.sameTables same⟩
  exact := by
    intro key num numbered
    rw [same.realPool] at numbered ⊢
    rw [ruleClaims, same.lpmSrcMapping]
    exact counted.exact key num numbered
  indexed := same.realPool ▸ counted.indexed

/-- References and rules are the same number. -/
theorem refs_eq (counted : lb.CountedByRules) {key : IPAddress} {num : Nat}
    (numbered : lb.realPool.numOf key = some num) :
    lb.realPool.refs key = lb.ruleClaims num := by
  obtain ⟨realOf, dstOf, held⟩ := counted.held
  have atLeast := held.backed key num numbered
  have atMost := counted.exact key num numbered
  have noVip : lb.vipClaims num = 0 := by
    simp only [vipClaims, counted.vips, values_empty, List.countP_nil]
  have noMapping : lb.quicClaims key = 0 := by
    simp only [quicClaims, counted.quic, AList.notMem_empty, ↓reduceIte]
  unfold claims at atLeast
  omega

/-- There is room for a further reference as long as there is room for a further rule. -/
theorem room (counted : lb.CountedByRules) (key : IPAddress)
    (fits : lb.lpmSrcMapping.entries.length < lb.config.maxLpmSrcSize.toNat) :
    lb.realPool.refs key + 1 < 2 ^ 32 := by
  have limit := lb.config.maxLpmSrcSize.toNat_lt
  cases numbered : lb.realPool.numOf key with
  | none =>
      rw [RefPool.refs_of_numOf_none numbered]
      omega
  | some num =>
      have atMost := counted.exact key num numbered
      have fewer : lb.ruleClaims num ≤ (values lb.lpmSrcMapping).length := List.countP_le_length
      rw [values, List.length_map] at fewer
      omega

/-- A real loses a rule and a reference. -/
theorem release (counted : lb.CountedByRules) (vips : after.vips = lb.vips)
    (quic : after.quicMapping = lb.quicMapping) (held : ∃ realOf dstOf, Held after realOf dstOf)
    {released : IPAddress} {num : Nat} (numbered : lb.realPool.numOf released = some num)
    (pool : after.realPool = lb.realPool.release (2 ^ 32) released)
    (fewer : ∀ other, lb.ruleClaims other =
      after.ruleClaims other + if num = other then 1 else 0) : after.CountedByRules where
  vips := vips.trans counted.vips
  quic := quic.trans counted.quic
  held := held
  exact := by
    intro key other owned
    obtain ⟨_, _, before⟩ := counted.held
    rw [pool, RefPool.numOf_release before.live] at owned
    split at owned
    · cases owned
    · have atMost := counted.exact key other owned
      have rules := fewer other
      rw [pool, RefPool.refs_release before.live]
      by_cases same : key = released
      · rw [same, numbered] at owned
        simp only [same, Option.some.inj owned, ↓reduceIte] at atMost rules ⊢
        omega
      · have apart : num ≠ other := by
          rintro rfl
          exact same (before.pools.reals.numOf_inj owned numbered)
        simp only [same, apart, ↓reduceIte] at rules ⊢
        omega
  indexed := pool ▸ counted.indexed.release released

/-- A network that has no rule is installed. -/
theorem installRule (counted : lb.CountedByRules) {dst : IPAddress} {src : CIDRNetwork}
    (absent : src.key ∉ lb.lpmSrcMapping)
    (fits : lb.lpmSrcMapping.entries.length < lb.config.maxLpmSrcSize.toNat)
    (taken : (lb.increaseRefCountForReal env dst).1 ≠ lb.config.maxReals.toNat) :
    (lb.installRule env dst src).CountedByRules := by
  obtain ⟨realOf, dstOf, held⟩ := counted.held
  have room := counted.room dst.key fits
  have rest := increaseRefCountForReal_sameRest env lb dst
  have acquired := increaseRefCountForReal_realPool env lb dst
  have first := increaseRefCountForReal_fst env lb dst
  have frame := increaseRefCountForReal_frame env lb dst
  have tables := installRule_tables env dst src lb
  cases got : (lb.realPool.acquire IPAddress.key (2 ^ 32) dst).1 with
  | none =>
      rw [got, Option.getD_none] at first
      exact (taken first).elim
  | some num =>
      rw [got, Option.getD_some] at first
      have pool := tables.realPool.trans acquired
      have pools : (lb.installRule env dst src).PoolsSound := by
        refine PoolsSound.frame ?_ (.of_sameTables tables)
        exact held.pools.frame ⟨frame.config, frame.vipNums, frame.vips, frame.moves⟩
      have later := held.installRule pools room got pool (tables.vips.trans rest.vips)
        (tables.quicMapping.trans rest.quicMapping) tables.lpmSrcMapping first
      have more (other : Nat) : (lb.installRule env dst src).ruleClaims other =
          lb.ruleClaims other + if num = other then 1 else 0 := by
        rw [ruleClaims, tables.lpmSrcMapping, countP_values_insert,
          erase_of_lookup_none (AList.lookup_eq_none.mpr absent), first]
        simp only [decide_eq_true_eq, ruleClaims]
      refine ⟨(tables.vips.trans rest.vips).trans counted.vips,
        (tables.quicMapping.trans rest.quicMapping).trans counted.quic, ⟨_, _, later⟩, ?_,
        pool ▸ counted.indexed.acquire dst⟩
      intro key other owned
      rw [pool] at owned ⊢
      rw [RefPool.refs_acquire room got, more]
      rw [RefPool.numOf_acquire got] at owned
      by_cases same : key = dst.key
      · rw [if_pos same] at owned
        obtain rfl := Option.some.inj owned
        simp only [same, ↓reduceIte]
        cases known : lb.realPool.numOf dst.key with
        | none =>
            rw [RefPool.refs_of_numOf_none known]
            omega
        | some earlier =>
            have equal := RefPool.acquire_of_numOf known got
            rw [equal]
            exact Nat.add_le_add_right (counted.exact dst.key earlier known) 1
      · rw [if_neg same] at owned
        have atMost := counted.exact key other owned
        simp only [same, ↓reduceIte]
        omega

private theorem removeRule (counted : lb.CountedByRules) (env : Env) (src : CIDRNetwork) :
    (lb.removeRule env src).CountedByRules := by
  obtain ⟨realOf, dstOf, held⟩ := counted.held
  cases found : lb.lpmSrcMapping.lookup src.key with
  | none =>
      have same : lb.removeRule env src = lb := by simp only [KatranLb.removeRule, found]
      rw [same]
      exact counted
  | some rule =>
      obtain ⟨added, _, numbered⟩ := held.rules src.key rule found
      obtain ⟨pool, rules, vips, quic⟩ := held.removeRule_pool env found numbered
      apply counted.release vips quic ⟨realOf, dstOf, held.removeRule env src⟩ numbered pool
      intro other
      have erased := countP_values_erase found fun rule => decide (rule.rnum = other)
      simp only [decide_eq_true_eq] at erased
      rw [ruleClaims, ruleClaims, rules]
      exact erased.symm

private theorem removeRules (counted : lb.CountedByRules) (env : Env) (srcs : List CIDRNetwork) :
    (srcs.foldl (KatranLb.removeRule env) lb).CountedByRules := by
  induction srcs generalizing lb with
  | nil => exact counted
  | cons src srcs ih => exact ih (counted.removeRule env src)

private theorem delSrcRoutingRuleCidr (counted : lb.CountedByRules) (env : Env)
    (srcs : List CIDRNetwork) : (lb.delSrcRoutingRuleCidr env srcs).2.CountedByRules := by
  unfold KatranLb.delSrcRoutingRuleCidr
  split
  · exact counted
  · exact counted.removeRules env srcs

/-- Clearing the rules returns, where the rules not yet visited still count. -/
theorem clearRules (env : Env) {entries : List (Sigma fun _ : CIDRNetwork => SrcRule)}
    (distinct : entries.NodupKeys)
    (counted : CountedByRules { lb with lpmSrcMapping := ⟨entries, distinct⟩ }) :
    ∃ cleared, entries.foldlM (fun lb entry => clearRule env lb entry.2) lb = some cleared ∧
      CountedByRules { cleared with lpmSrcMapping := ∅ } := by
  induction entries generalizing lb with
  | nil => exact ⟨lb, rfl, counted⟩
  | cons entry entries ih =>
      obtain ⟨realOf, dstOf, held⟩ := counted.held
      have later : entries.NodupKeys := (List.nodupKeys_cons.mp distinct).2
      obtain ⟨key, next, numbered, cleared, rest, pool, kept⟩ :=
        Held.clearRule env distinct later held
      have remaining : CountedByRules { next with lpmSrcMapping := ⟨entries, later⟩ } := by
        refine CountedByRules.release counted rest.vips rest.quicMapping ⟨realOf, dstOf, kept⟩
          numbered pool ?_
        exact fun other => Held.ruleClaims_cons lb distinct later other
      obtain ⟨last, looped, final⟩ := ih later remaining
      exact ⟨last, by rw [List.foldlM_cons, cleared]; exact looped, final⟩

/-- Clearing all rules returns. -/
theorem clearAllSrcRoutingRules (counted : lb.CountedByRules) (env : Env) :
    ∃ done after, lb.clearAllSrcRoutingRules env = some (done, after) ∧ after.CountedByRules ∧
      (lb.srcRoutingDisabled = false → after.lpmSrcMapping = ∅) ∧
      (lb.srcRoutingDisabled = true → after = lb) := by
  unfold KatranLb.clearAllSrcRoutingRules
  split
  next disabled =>
    refine ⟨false, lb, rfl, counted, ?_, fun _ => rfl⟩
    intro enabled
    rw [enabled] at disabled
    cases disabled
  next enabled =>
    have distinct : (env.listing.visit lb.lpmSrcMapping.entries).NodupKeys :=
      (List.perm_nodupKeys (env.listing.visit_perm _)).mpr lb.lpmSrcMapping.nodupKeys
    obtain ⟨realOf, dstOf, held⟩ := counted.held
    have visited : CountedByRules { lb with
        lpmSrcMapping := ⟨env.listing.visit lb.lpmSrcMapping.entries, distinct⟩ } := by
      refine ⟨counted.vips, counted.quic, ⟨realOf, dstOf, held.visit env.listing distinct⟩, ?_,
        counted.indexed⟩
      intro key num numbered
      rw [Held.ruleClaims_visit]
      exact counted.exact key num numbered
    obtain ⟨cleared, looped, final⟩ := visited.clearRules env distinct
    refine ⟨true, _, by rw [looped, Option.map_some], final, fun _ => rfl, ?_⟩
    intro disabled
    exact (enabled disabled).elim

/-- Without rules every number is free. -/
theorem full (counted : lb.CountedByRules) (empty : lb.lpmSrcMapping = ∅) :
    lb.reals = ∅ ∧ lb.numToReals = ∅ ∧ lb.realNums.Perm (List.range lb.config.maxReals.toNat) := by
  obtain ⟨realOf, dstOf, held⟩ := counted.held
  apply counted.indexed.full held.pools.reals
  intro key
  cases numbered : lb.realPool.numOf key with
  | none => rfl
  | some num =>
      have atMost := counted.exact key num numbered
      have positive := held.live.refs_pos numbered
      have none : lb.ruleClaims num = 0 := by
        simp only [ruleClaims, empty, values_empty, List.countP_nil]
      omega

/-- Additions of networks that have no rule keep the counts. -/
theorem keptByInstalls (env : Env) (limit : UInt32) :
    KeptByInstalls env limit.toNat (fun known src => ∀ other ∈ known, other.key ≠ src.key)
      fun lb => lb.CountedByRules ∧ lb.config.maxLpmSrcSize = limit where
  stable := by
    intro before after start tables _
    refine ⟨start.1.sameTables tables, ?_⟩
    rw [tables.config]
    exact start.2
  refused := by
    intro lb dst start exhausted
    obtain ⟨_, _, held⟩ := start.1.held
    have rest := increaseRefCountForReal_sameRest env lb dst
    have pool := increaseRefCountForReal_realPool env lb dst
    have first := increaseRefCountForReal_fst env lb dst
    cases got : (lb.realPool.acquire IPAddress.key (2 ^ 32) dst).1 with
    | none =>
        have same : SameTables lb (lb.increaseRefCountForReal env dst).2 :=
          ⟨rest, pool.trans (RefPool.acquire_none got).1⟩
        refine ⟨start.1.sameTables same, ?_⟩
        rw [rest.config]
        exact start.2
    | some num =>
        rw [got, Option.getD_some, exhausted] at first
        have numbered := RefPool.numOf_acquire got dst.key
        rw [if_pos rfl] at numbered
        obtain ⟨slot, stored, equal⟩ := RefPool.numOf_eq_some.mp numbered
        have bounded := (held.pools.reals.acquire dst).num_lt stored
        omega
  installed := by
    intro lb dst src known start keyed all allowed fits taken
    have absent : src.key ∉ lb.lpmSrcMapping := by
      intro member
      obtain ⟨other, listed, same⟩ := keyed.mem_iff.mpr member
      exact allowed other (all.mem_iff.mpr listed) same
    refine ⟨start.1.installRule absent (by rw [start.2]; exact fits) taken, ?_⟩
    rw [installRule_config]
    exact start.2

end CountedByRules

/-! ## Features -/

private theorem installRules_features (env : Env) (dst : IPAddress) (srcs : List CIDRNetwork)
    (lb : KatranLb) : (installRules env dst srcs lb).2.1.features = lb.features := by
  induction srcs generalizing lb with
  | nil => rfl
  | cons src srcs ih =>
      have rest := increaseRefCountForReal_sameRest env lb dst
      rw [installRules_cons]
      split
      · rfl
      · split
        · exact rest.features
        · rw [ih, (installRule_tables env dst src lb).features]
          exact rest.features

private theorem addSrcRoutingRuleCidr_features (folly : Folly) (env : Env) (lb : KatranLb)
    (srcs : List CIDRNetwork) (dst : String) :
    (lb.addSrcRoutingRuleCidr folly env srcs dst).2.1.features = lb.features := by
  unfold addSrcRoutingRuleCidr
  split
  · rfl
  · split
    · exact (validateAddress_sameTables folly lb dst false).features
    · exact installRules_features env _ srcs lb

private theorem removeRule_features (env : Env) (lb : KatranLb) (src : CIDRNetwork) :
    (lb.removeRule env src).features = lb.features := by
  unfold removeRule
  split
  · rfl
  next rule found =>
    have rest := (realOfNum_sameRest lb rule.rnum).trans
      (decreaseRefCountForReal_sameRest (lb.realOfNum rule.rnum).2 (lb.realOfNum rule.rnum).1)
    dsimp only
    split
    · exact rest.features
    · exact (modifyLpmSrcRule_sameTables env _ .del src rule.rnum).features.trans rest.features

private theorem delSrcRoutingRuleCidr_features (env : Env) (lb : KatranLb)
    (srcs : List CIDRNetwork) :
    (lb.delSrcRoutingRuleCidr env srcs).2.features = lb.features := by
  have looped : (srcs.foldl (removeRule env) lb).features = lb.features := by
    induction srcs generalizing lb with
    | nil => rfl
    | cons src srcs ih => exact (ih _).trans (removeRule_features env lb src)
  unfold delSrcRoutingRuleCidr
  split
  · rfl
  · exact looped

private theorem foldlM_clearRule_features {entries : List (Sigma fun _ : CIDRNetwork => SrcRule)}
    (looped : entries.foldlM (fun lb entry => clearRule env lb entry.2) lb = some after) :
    after.features = lb.features := by
  induction entries generalizing lb with
  | nil =>
      obtain rfl := Option.some.inj looped
      rfl
  | cons entry entries ih =>
      obtain ⟨next, cleared, rest⟩ := Option.bind_eq_some_iff.mp looped
      rw [ih rest]
      obtain ⟨dst, _, rfl⟩ := Option.map_eq_some_iff.mp cleared
      have released := (decreaseRefCountForReal_sameRest lb dst).features
      dsimp only
      split
      · exact released
      · exact (modifyLpmSrcRule_sameTables env _ .del _ _).features.trans released

/-- The operations on rules do not change the features. -/
theorem Step.features {op : Op} (ofRules : op.OfRules) (taken : Step folly lb op after) :
    after.features = lb.features := by
  obtain ⟨env, performed⟩ := taken
  cases ofRules using Op.OfRules.cases with
  | addSrcRoutingRule srcs dst =>
      obtain rfl := Option.some.inj performed
      unfold addSrcRoutingRule
      split
      · rfl
      · split
        · exact (validateAddress_sameTables folly lb dst false).features
        · exact (addSrcRoutingRuleCidr_features folly env _ _ dst).trans
            (collectNetworks_sameTables folly srcs.length srcs 0 [] lb).features
  | addSrcRoutingRuleCidr srcs dst =>
      obtain rfl := Option.some.inj performed
      exact addSrcRoutingRuleCidr_features folly env lb srcs dst
  | delSrcRoutingRule srcs =>
      obtain rfl := Option.some.inj performed
      unfold delSrcRoutingRule
      split
      · rfl
      · exact delSrcRoutingRuleCidr_features env lb _
  | delSrcRoutingRuleCidr srcs =>
      obtain rfl := Option.some.inj performed
      exact delSrcRoutingRuleCidr_features env lb srcs
  | clearAllSrcRoutingRules =>
      obtain ⟨⟨done, _⟩, returned, rfl⟩ := Option.map_eq_some_iff.mp performed
      rcases clearAllSrcRoutingRules_cases returned with rfl | ⟨cleared, rfl, looped⟩
      · rfl
      · have kept := foldlM_clearRule_features looped
        exact kept

/-- Where source routing is disabled, the operations on rules do nothing. -/
theorem Step.of_disabled {op : Op} (ofRules : op.OfRules)
    (disabled : lb.srcRoutingDisabled = true) (taken : Step folly lb op after) : after = lb := by
  obtain ⟨env, performed⟩ := taken
  cases ofRules using Op.OfRules.cases with
  | addSrcRoutingRule srcs dst =>
      simp only [perform, addSrcRoutingRule, disabled, ↓reduceIte] at performed
      exact (Option.some.inj performed).symm
  | addSrcRoutingRuleCidr srcs dst =>
      simp only [perform, addSrcRoutingRuleCidr, disabled, ↓reduceIte] at performed
      exact (Option.some.inj performed).symm
  | delSrcRoutingRule srcs =>
      simp only [perform, delSrcRoutingRule, disabled, ↓reduceIte] at performed
      exact (Option.some.inj performed).symm
  | delSrcRoutingRuleCidr srcs =>
      simp only [perform, delSrcRoutingRuleCidr, disabled, ↓reduceIte] at performed
      exact (Option.some.inj performed).symm
  | clearAllSrcRoutingRules =>
      simp only [perform, clearAllSrcRoutingRules, disabled, ↓reduceIte] at performed
      exact (Option.some.inj performed).symm

/-! ## Runs -/

/-- An addition only installs networks that have no rule. -/
def InstallsNew (folly : Folly) (lb : KatranLb) : Op → Prop
  | .addSrcRoutingRule srcs dst => lb.InstallsAllowed folly
      (fun known src => ∀ other ∈ known, other.key ≠ src.key) (lb.networksFor folly srcs) dst
  | .addSrcRoutingRuleCidr srcs dst => lb.InstallsAllowed folly
      (fun known src => ∀ other ∈ known, other.key ≠ src.key) srcs dst
  | _ => True

instance (folly : Folly) (lb : KatranLb) : DecidablePred (lb.InstallsNew folly) :=
  Op.Decides.decidablePred {
    addSrcRoutingRule := fun _ _ => inferInstanceAs (Decidable (lb.InstallsAllowed _ _ _ _))
    addSrcRoutingRuleCidr := fun _ _ => inferInstanceAs (Decidable (lb.InstallsAllowed _ _ _ _)) }

/-- Every rule holds one reference after a call that installs only new rules. -/
theorem CountedByRules.step {op : Op} (counted : lb.CountedByRules) (keyed : lb.RulesKeyed)
    (ofRules : op.OfRules) (careful : lb.InstallsNew folly op) (taken : Step folly lb op after) :
    after.CountedByRules ∧ after.RulesKeyed := by
  obtain ⟨env, performed⟩ := taken
  have keeps := keptByInstalls env lb.config.maxLpmSrcSize
  cases ofRules using Op.OfRules.cases with
  | addSrcRoutingRule srcs dst =>
      obtain rfl := Option.some.inj performed
      have added := keeps.addSrcRoutingRule ⟨counted, rfl⟩ keyed rfl careful
      exact ⟨added.1.1, added.2⟩
  | addSrcRoutingRuleCidr srcs dst =>
      obtain rfl := Option.some.inj performed
      have added := keeps.addSrcRoutingRuleCidr ⟨counted, rfl⟩ keyed rfl careful
      exact ⟨added.1.1, added.2⟩
  | delSrcRoutingRule srcs =>
      obtain rfl := Option.some.inj performed
      unfold KatranLb.delSrcRoutingRule
      split
      · exact ⟨counted, keyed⟩
      · exact ⟨counted.delSrcRoutingRuleCidr env _, keyed.delSrcRoutingRuleCidr env _⟩
  | delSrcRoutingRuleCidr srcs =>
      obtain rfl := Option.some.inj performed
      exact ⟨counted.delSrcRoutingRuleCidr env srcs, keyed.delSrcRoutingRuleCidr env srcs⟩
  | clearAllSrcRoutingRules =>
      obtain ⟨⟨done, _⟩, returned, rfl⟩ := Option.map_eq_some_iff.mp performed
      obtain ⟨_, _, cleared, kept, _⟩ := counted.clearAllSrcRoutingRules env
      obtain ⟨rfl, rfl⟩ := Prod.mk.inj (Option.some.inj (cleared.symm.trans returned))
      exact ⟨kept, keyed.clearAllSrcRoutingRules returned⟩

/-- Every real has as many references as rules, at least one, every rule has a real, and
clearing the rules returns and leaves every number free. -/
structure OneReferenceEach (lb : KatranLb) : Prop where
  counts : ∀ key rmeta, lb.reals.lookup key = some rmeta →
    rmeta.refCount = lb.ruleClaims rmeta.num ∧ 0 < rmeta.refCount
  rules : ∀ src rule, lb.lpmSrcMapping.lookup src = some rule →
    ∃ key rmeta, lb.reals.lookup key = some rmeta ∧ rmeta.num = rule.rnum
  cleared : ∀ env, ∃ done after, lb.clearAllSrcRoutingRules env = some (done, after) ∧
    after.lpmSrcMapping = ∅ ∧ after.reals = ∅ ∧ after.numToReals = ∅ ∧
    after.realNums.Perm (List.range lb.config.maxReals.toNat)

private theorem CountedByRules.oneReferenceEach (counted : lb.CountedByRules)
    (idle : lb.srcRoutingDisabled = true → lb.lpmSrcMapping = ∅) : lb.OneReferenceEach where
  counts := by
    intro key rmeta found
    obtain ⟨_, _, held⟩ := counted.held
    have numbered : lb.realPool.numOf key = some rmeta.num :=
      RefPool.numOf_eq_some.mpr ⟨rmeta, found, rfl⟩
    have equal := counted.refs_eq numbered
    have positive := held.live.refs_pos numbered
    have refs : lb.realPool.refs key = rmeta.refCount := RefPool.refs_of_lookup found
    rw [refs] at equal positive
    exact ⟨equal, positive⟩
  rules := by
    intro src rule found
    obtain ⟨_, _, held⟩ := counted.held
    obtain ⟨added, _, numbered⟩ := held.rules src rule found
    obtain ⟨rmeta, stored, same⟩ := RefPool.numOf_eq_some.mp numbered
    exact ⟨added.key, rmeta, stored, same⟩
  cleared := by
    intro env
    obtain ⟨done, after, returned, kept, emptied, unchanged⟩ :=
      counted.clearAllSrcRoutingRules env
    have empty : after.lpmSrcMapping = ∅ := by
      cases disabled : lb.srcRoutingDisabled with
      | false => exact emptied disabled
      | true =>
          rw [unchanged disabled]
          exact idle disabled
    obtain ⟨noReals, noNames, free⟩ := kept.full empty
    rw [(clearAllSrcRoutingRules_frame returned).config] at free
    exact ⟨done, after, returned, empty, noReals, noNames, free⟩

/-- **Every rule holds one reference.** In every run of operations on rules whose additions
only install networks that have no rule, every real has as many references as rules, and
clearing the rules frees all numbers. -/
theorem rules_hold_one_reference {config : KatranConfig} {features : KatranFeatures}
    {kernel : ConfigMaps} {ops : List Op}
    (run : Run (fun before op after => Step folly before op after ∧ op.OfRules ∧
      before.InstallsNew folly op) (.new config features kernel) ops lb) :
    lb.OneReferenceEach := by
  have reached : lb.CountedByRules ∧ lb.RulesKeyed ∧
      (lb.srcRoutingDisabled = true → lb.lpmSrcMapping = ∅) := by
    apply Run.invariant (fun lb => lb.CountedByRules ∧ lb.RulesKeyed ∧
      (lb.srcRoutingDisabled = true → lb.lpmSrcMapping = ∅)) _ run
    · refine ⟨.new config features kernel, ?_, fun _ => rfl⟩
      intro key rule found
      rw [KatranLb.new, AList.lookup_empty] at found
      cases found
    · intro before op after kept step
      obtain ⟨counted, keyed, idle⟩ := kept
      obtain ⟨taken, ofRules, careful⟩ := step
      obtain ⟨later, laterKeyed⟩ := counted.step keyed ofRules careful taken
      refine ⟨later, laterKeyed, ?_⟩
      intro disabled
      obtain ⟨_, _, held⟩ := counted.held
      have still : before.srcRoutingDisabled = true := by
        rw [srcRoutingDisabled, (held.pools.step taken).2, taken.features ofRules] at disabled
        exact disabled
      rw [taken.of_disabled ofRules still]
      exact idle still
  exact reached.1.oneReferenceEach reached.2.2

/-- Rules are added for two reals, one call lists a network twice after the table is full,
a rule is removed and added again for another real. -/
def movedRule : List Op :=
  [.addSrcRoutingRuleCidr [⟨.v4 0x0100000a, 24⟩, ⟨.v4 0x0200000a, 24⟩] "10.0.0.1",
    .addSrcRoutingRule ["10.0.0.0/24", "nowhere", "10.0.0.0/24"] "10.0.0.2",
    .delSrcRoutingRuleCidr [⟨.v4 0x0200000a, 24⟩, ⟨.v4 0x0200000a, 24⟩],
    .addSrcRoutingRuleCidr [⟨.v4 0x0200000a, 24⟩] "10.0.0.2"]

private theorem movedRule_returns :
    (checkedAll (fun lb op => decide (op.OfRules ∧ lb.InstallsNew .small op)) tinyRules
      movedRule).isSome = true := by
  decide +kernel

/-- A rule that has been removed and added again holds one reference. -/
theorem rules_hold_one_reference_moved :
    ∃ lb, checkedAll (fun lb op => decide (op.OfRules ∧ lb.InstallsNew .small op)) tinyRules
        movedRule = some lb ∧
      (values lb.reals).map RefPool.Slot.refCount = [2, 1] ∧ lb.OneReferenceEach := by
  have returned := (Option.some_get movedRule_returns).symm
  have run := (run_of_checkedAll returned).mono fun _ _ _ taken =>
    (⟨taken.1.step, of_decide_eq_true taken.2⟩ :
      Step .small _ _ _ ∧ Op.OfRules _ ∧ KatranLb.InstallsNew .small _ _)
  exact ⟨_, returned, by decide +kernel, rules_hold_one_reference run⟩

/-- A rule is added, added again for the same real, and all rules are cleared. -/
def addedAgain : List Op :=
  [.addSrcRoutingRuleCidr [⟨.v4 0x0100000a, 24⟩] "10.0.0.1",
    .addSrcRoutingRuleCidr [⟨.v4 0x0100000a, 24⟩] "10.0.0.1"]

private theorem addedAgain_returns :
    (checkedAll (fun _ _ => true) tinyRules addedAgain).isSome = true := by
  decide +kernel

private theorem addedAgain_counts :
    ((checkedAll (fun _ _ => true) tinyRules addedAgain).get addedAgain_returns).reals.lookup
        (.v4 0x0100000a) = some ⟨0, 2⟩ ∧
      ((checkedAll (fun _ _ => true) tinyRules addedAgain).get addedAgain_returns).ruleClaims 0 =
        1 ∧
      (((checkedAll (fun _ _ => true) tinyRules addedAgain).get
        addedAgain_returns).clearAllSrcRoutingRules (.plain 20)).map
          (fun cleared => cleared.2.realNums) = some [1, 2] := by
  decide +kernel

/-- One rule is there and its real has two references, so clearing the rules leaves its
number in use. -/
theorem rule_leaks_reference :
    ∃ lb, Run (Step .small) tinyRules addedAgain lb ∧
      lb.reals.lookup (.v4 0x0100000a) = some ⟨0, 2⟩ ∧ lb.ruleClaims 0 = 1 ∧
      (lb.clearAllSrcRoutingRules (.plain 20)).map (fun cleared => cleared.2.realNums) =
        some [1, 2] ∧ ¬ lb.OneReferenceEach := by
  have returned := (Option.some_get addedAgain_returns).symm
  obtain ⟨twice, once, kept⟩ := addedAgain_counts
  refine ⟨_, (run_of_checkedAll returned).mono fun _ _ _ taken => taken.1.step, twice, once, kept,
    ?_⟩
  intro counted
  have equal := (counted.counts _ _ twice).1
  rw [once] at equal
  cases equal

end KatranLb

end Katran
