import Katran.Foundation.Nodes
import Katran.Lb.Footprint
import Katran.Lb.Pools

/-! # Source routing rules and the tries

`lpmSrcMapping_` is keyed by an address and a prefix length, compared as the address
library compares them, while a trie of the kernel is keyed by the first bits of the
address. So several rules may have one node of a trie (`CIDRNetwork.node`), and one key may
be given as an IPv4 network or as its mapped IPv6 form, which belong to different tries.

The networks of a call are installed one after the other until the table is full
(`EachInstalled`) and removed one after the other (`EachRemoved`). In runs whose additions
keep to the family of a rule that is there, and whose removals leave no rule behind that has
the node of a removed one (`NodesKept`), the tries hold the rules (`RulesMirrored`).
-/

namespace Katran

open Foundation UnorderedMap

/-! ## Nodes -/

namespace CIDRNetwork

/-- The trie of a network and the bits under which it is stored there. -/
def node (network : CIDRNetwork) : Bool × List Bool :=
  (network.address.isV4, network.prefixBits)

end CIDRNetwork

/-- Addresses of one family are equal if they are equal as keys. -/
theorem IPAddress.eq_of_key {left right : IPAddress} (same : left.key = right.key)
    (family : left.isV4 = right.isV4) : left = right := by
  cases left with
  | v4 addr =>
      cases right with
      | v4 other => exact same
      | v6 other => cases family
  | v6 addr =>
      cases right with
      | v4 other => cases family
      | v6 other =>
          simp only [IPAddress.key] at same
          split at same
          next mapped =>
            split at same
            next otherMapped =>
              obtain ⟨first, second, third⟩ := mapped
              obtain ⟨otherFirst, otherSecond, otherThird⟩ := otherMapped
              cases addr
              cases other
              simp_all only [IPAddress.v4.injEq]
            next => cases same
          next =>
            split at same
            · cases same
            · exact same

private theorem CIDRNetwork.eq_of_key {left right : CIDRNetwork} (same : left.key = right.key)
    (family : left.address.isV4 = right.address.isV4) : left = right := by
  obtain ⟨address, prefixLength⟩ := left
  obtain ⟨otherAddress, otherLength⟩ := right
  obtain ⟨keys, lengths⟩ := CIDRNetwork.mk.inj same
  exact CIDRNetwork.mk.injEq .. ▸ ⟨IPAddress.eq_of_key keys family, lengths⟩

/-- The two tries as one store of nodes. -/
def ConfigMaps.srcRoutes (maps : ConfigMaps) (node : Bool × List Bool) : Option Nat :=
  if node.1 then maps.lpmSrcV4 node.2 else maps.lpmSrcV6 node.2

namespace KatranLb

variable {folly : Folly} {env : Env} {lb after : KatranLb}

/-- A call that succeeds writes the node of the network. -/
theorem modifyLpmSrcRule_srcRoutes (reliable : env.Reliable) (lb : KatranLb)
    (action : ModifyAction) (src : CIDRNetwork) (rnum : Nat) :
    (lb.modifyLpmSrcRule env action src rnum).2.kernel.srcRoutes =
      Function.update lb.kernel.srcRoutes src.node
        (match action with | .add => some rnum | .del => none) := by
  funext ⟨family, bits⟩
  unfold modifyLpmSrcRule
  rw [bpfCall_kernel reliable]
  cases ofV4 : src.address.isV4 with
  | true =>
      cases family <;> cases action <;>
        simp [ConfigMaps.srcRoutes, CIDRNetwork.node, ofV4, Function.update_apply]
  | false =>
      cases family <;> cases action <;>
        simp [ConfigMaps.srcRoutes, CIDRNetwork.node, ofV4, Function.update_apply]

/-- Operations on the pool of reals leave the tries alone. -/
theorem increaseRefCountForReal_srcRoutes (env : Env) (lb : KatranLb) (real : IPAddress) :
    (lb.increaseRefCountForReal env real).2.kernel.srcRoutes = lb.kernel.srcRoutes := by
  have only : _ = _ := increaseRefCountForReal_onlyReals env lb real
  rw [only]
  rfl

/-! ## The table of rules -/

/-- The networks of the rules, as they were first given. -/
def ruleSources (lb : KatranLb) : List CIDRNetwork := (values lb.lpmSrcMapping).map SrcRule.src

/-- Every rule is stored under the key of its network. -/
def RulesKeyed (lb : KatranLb) : Prop :=
  ∀ key rule, lb.lpmSrcMapping.lookup key = some rule → rule.src.key = key

private theorem mem_ruleSources {network : CIDRNetwork} :
    network ∈ lb.ruleSources ↔
      ∃ key rule, lb.lpmSrcMapping.lookup key = some rule ∧ rule.src = network := by
  unfold ruleSources
  rw [List.mem_map]
  constructor
  · intro listed
    obtain ⟨rule, member, same⟩ := listed
    obtain ⟨key, entry⟩ := mem_values.mp member
    exact ⟨key, rule, mem_entries.mp entry, same⟩
  · intro listed
    obtain ⟨key, rule, found, same⟩ := listed
    exact ⟨rule, mem_values.mpr ⟨key, mem_entries.mpr found⟩, same⟩

private theorem length_ruleSources (lb : KatranLb) :
    lb.ruleSources.length = lb.lpmSrcMapping.entries.length := by
  simp only [ruleSources, values, List.length_map]

namespace RulesKeyed

/-- A network has a rule if its key is in the table. -/
theorem mem_iff (keyed : lb.RulesKeyed) {key : CIDRNetwork} :
    (∃ network ∈ lb.ruleSources, network.key = key) ↔ key ∈ lb.lpmSrcMapping := by
  constructor
  · intro listed
    obtain ⟨network, member, same⟩ := listed
    obtain ⟨other, rule, found, rfl⟩ := mem_ruleSources.mp member
    rw [← same, keyed other rule found]
    exact mem_of_lookup found
  · intro member
    obtain ⟨rule, found⟩ := exists_lookup_of_mem member
    exact ⟨rule.src, mem_ruleSources.mpr ⟨key, rule, found, rfl⟩, keyed key rule found⟩

private theorem congr (keyed : lb.RulesKeyed) (same : after.lpmSrcMapping = lb.lpmSrcMapping) :
    after.RulesKeyed := by
  unfold RulesKeyed
  rw [same]
  exact keyed

private theorem insert (keyed : lb.RulesKeyed) {src : CIDRNetwork} {rnum : Nat}
    (rules : after.lpmSrcMapping = lb.lpmSrcMapping.insert src.key
      ⟨((lb.lpmSrcMapping.lookup src.key).map SrcRule.src).getD src, rnum⟩) :
    after.RulesKeyed := by
  intro key rule found
  rw [rules, lookup_insert_eq_ite] at found
  split at found
  next same =>
    obtain rfl := Option.some.inj found
    cases there : lb.lpmSrcMapping.lookup src.key with
    | none => exact same.symm
    | some old => exact (keyed _ old there).trans same.symm
  next => exact keyed key rule found

private theorem erase (keyed : lb.RulesKeyed) {src : CIDRNetwork}
    (rules : after.lpmSrcMapping = lb.lpmSrcMapping.erase src.key) : after.RulesKeyed := by
  intro key rule found
  rw [rules, lookup_erase_eq_ite] at found
  split at found
  · cases found
  · exact keyed key rule found

end RulesKeyed

/-- The networks of the rules after one has been installed. -/
theorem ruleSources_insert (keyed : lb.RulesKeyed) {src : CIDRNetwork} {rnum : Nat}
    (rules : after.lpmSrcMapping = lb.lpmSrcMapping.insert src.key
      ⟨((lb.lpmSrcMapping.lookup src.key).map SrcRule.src).getD src, rnum⟩)
    {known : List CIDRNetwork} (all : known.Perm lb.ruleSources) :
    (if ∃ other ∈ known, other.key = src.key then known else src :: known).Perm
      after.ruleSources := by
  have present : (∃ other ∈ known, other.key = src.key) ↔ src.key ∈ lb.lpmSrcMapping := by
    rw [← keyed.mem_iff]
    simp only [all.mem_iff]
  rw [ruleSources, rules, values_insert_eq, List.map_cons]
  cases found : lb.lpmSrcMapping.lookup src.key with
  | none =>
      have absent : src.key ∉ lb.lpmSrcMapping := AList.lookup_eq_none.mp found
      rw [if_neg (present.not.mpr absent), erase_of_lookup_none found]
      exact all.cons src
  | some old =>
      rw [if_pos (present.mpr (mem_of_lookup found))]
      exact all.trans ((values_perm_cons_erase found).map SrcRule.src)

/-! ## Installing networks -/

/-- Networks are installed one after the other as long as fewer than `room` are known. Each
is allowed beside those known before it, and known from then on unless one with its key
is. -/
def EachInstalled (allowed : List CIDRNetwork → CIDRNetwork → Prop) (room : Nat) :
    List CIDRNetwork → List CIDRNetwork → Prop
  | _, [] => True
  | known, src :: srcs =>
      known.length < room → allowed known src ∧
        EachInstalled allowed room
          (if ∃ other ∈ known, other.key = src.key then known else src :: known) srcs

instance EachInstalled.decidable (allowed : List CIDRNetwork → CIDRNetwork → Prop)
    [∀ known src, Decidable (allowed known src)] (room : Nat) :
    (known srcs : List CIDRNetwork) → Decidable (EachInstalled allowed room known srcs)
  | _, [] => inferInstanceAs (Decidable True)
  | known, src :: srcs =>
      have := EachInstalled.decidable allowed room
        (if ∃ other ∈ known, other.key = src.key then known else src :: known) srcs
      inferInstanceAs (Decidable (known.length < room → allowed known src ∧ EachInstalled _ _ _ _))

/-- There is a number for an address, its own or a free one. -/
def Allocates (lb : KatranLb) (addr : IPAddress) : Prop := addr.key ∈ lb.reals ∨ lb.realNums ≠ []

instance (lb : KatranLb) (addr : IPAddress) : Decidable (lb.Allocates addr) :=
  inferInstanceAs (Decidable (addr.key ∈ lb.reals ∨ lb.realNums ≠ []))

/-- The body of the loop that installs networks, for a network that gets a rule. -/
def installRule (env : Env) (dst : IPAddress) (src : CIDRNetwork) (lb : KatranLb) : KatranLb :=
  let (rnum, lb) := lb.increaseRefCountForReal env dst
  let first := ((lb.lpmSrcMapping.lookup src.key).map SrcRule.src).getD src
  let lb := { lb with lpmSrcMapping := lb.lpmSrcMapping.insert src.key ⟨first, rnum⟩ }
  if lb.config.testing then lb else (lb.modifyLpmSrcRule env .add src rnum).2

/-- The first of several rules is installed, and then the others, until there is no room. -/
theorem installRules_cons (env : Env) (dst : IPAddress) (src : CIDRNetwork)
    (srcs : List CIDRNetwork) (lb : KatranLb) :
    (installRules env dst (src :: srcs) lb).2.1 =
      if lb.lpmSrcMapping.entries.length + 1 > lb.config.maxLpmSrcSize.toNat then lb
      else if (lb.increaseRefCountForReal env dst).1 =
          (lb.increaseRefCountForReal env dst).2.config.maxReals.toNat then
        (lb.increaseRefCountForReal env dst).2
      else (installRules env dst srcs (lb.installRule env dst src)).2.1 := by
  rw [installRules]
  split
  · rfl
  · dsimp only
    split <;> rfl

/-- Installing a network takes a reference for the destination and writes the rule. -/
theorem installRule_tables (env : Env) (dst : IPAddress) (src : CIDRNetwork) (lb : KatranLb) :
    SameTables { (lb.increaseRefCountForReal env dst).2 with
      lpmSrcMapping := lb.lpmSrcMapping.insert src.key
        ⟨((lb.lpmSrcMapping.lookup src.key).map SrcRule.src).getD src,
          (lb.increaseRefCountForReal env dst).1⟩ } (lb.installRule env dst src) := by
  have rest := increaseRefCountForReal_sameRest env lb dst
  unfold installRule
  dsimp only
  rw [rest.lpmSrcMapping]
  split
  · exact .refl _
  · exact modifyLpmSrcRule_sameTables env _ .add src _

/-- Installing a rule keeps the configuration. -/
theorem installRule_config (env : Env) (dst : IPAddress) (src : CIDRNetwork) (lb : KatranLb) :
    (lb.installRule env dst src).config = lb.config :=
  (installRule_tables env dst src lb).config.trans
    (increaseRefCountForReal_sameRest env lb dst).config

/-- Installing a network writes its node. -/
theorem installRule_srcRoutes (reliable : env.Reliable) (live : lb.config.testing = false)
    (dst : IPAddress) (src : CIDRNetwork) :
    (lb.installRule env dst src).kernel.srcRoutes =
      Function.update lb.kernel.srcRoutes src.node
        (some (lb.increaseRefCountForReal env dst).1) := by
  have rest := increaseRefCountForReal_sameRest env lb dst
  unfold installRule
  simp only [rest.config, live, Bool.false_eq_true, ↓reduceIte]
  rw [modifyLpmSrcRule_srcRoutes reliable, ← increaseRefCountForReal_srcRoutes env lb dst]

/-- An address without a number, when none is free, gets the number past the last. -/
theorem increaseRefCountForReal_of_not_allocates {dst : IPAddress} (none : ¬ lb.Allocates dst) :
    (lb.increaseRefCountForReal env dst).1 = lb.config.maxReals.toNat := by
  have unknown : lb.reals.lookup dst.key = Option.none :=
    AList.lookup_eq_none.mpr fun member => none (.inl member)
  have empty : lb.realNums = [] := by
    by_contra free
    exact none (.inr free)
  simp only [increaseRefCountForReal, unknown, empty]

/-- The network that a string names, which must not be an address. -/
def namedNetwork (folly : Folly) (src : String) : Option CIDRNetwork :=
  if (folly.parse src).isSome then none else folly.tryCreateNetwork src

/-- An entry that is no network is counted as an error. -/
theorem collectNetworks_cons_none {total : Nat} {src : String}
    (unnamed : namedNetwork folly src = none) (srcs : List String) (numErrors : Int)
    (srcNetworks : List CIDRNetwork) (lb : KatranLb) :
    collectNetworks folly total (src :: srcs) numErrors srcNetworks lb =
      collectNetworks folly total srcs (numErrors + 1) srcNetworks
        (lb.validateAddress folly src true).2 := by
  rw [collectNetworks]
  dsimp only
  split
  next network valid named =>
    cases parsed : folly.parse src with
    | some addr =>
        simp only [validateAddress, parsed, reduceCtorEq] at valid
    | none =>
        rw [namedNetwork, parsed, named] at unnamed
        cases unnamed
  next => rfl

/-- A network is collected if there is room for it. -/
theorem collectNetworks_cons_some {total : Nat} {src : String} {network : CIDRNetwork}
    (named : namedNetwork folly src = some network) (enabled : lb.srcRoutingDisabled = false)
    (srcs : List String) (numErrors : Int) (srcNetworks : List CIDRNetwork) :
    collectNetworks folly total (src :: srcs) numErrors srcNetworks lb =
      if lb.lpmSrcMapping.entries.length + srcNetworks.length + 1 >
          lb.config.maxLpmSrcSize.toNat then
        (numErrors + (total - srcNetworks.length : Nat), srcNetworks, lb)
      else collectNetworks folly total srcs numErrors (srcNetworks ++ [network]) lb := by
  have unparsed : folly.parse src = none ∧ folly.tryCreateNetwork src = some network := by
    cases parsed : folly.parse src with
    | some addr =>
        rw [namedNetwork, parsed] at named
        cases named
    | none =>
        rw [namedNetwork, parsed] at named
        exact ⟨rfl, named⟩
  have allowed : lb.features.srcRouting = true ∨ lb.config.testing = true := by
    rw [srcRoutingDisabled, Bool.or_eq_false_iff, Bool.and_eq_false_iff] at enabled
    rcases enabled.2 with routing | testing
    · exact .inl (Bool.not_eq_false' .. ▸ routing)
    · exact .inr (Bool.not_eq_false' .. ▸ testing)
  have valid : lb.validateAddress folly src true = (.network, lb) := by
    simp only [validateAddress, unparsed.1, unparsed.2, Option.isSome_some, allowed, and_self,
      ↓reduceIte]
  rw [collectNetworks, valid, unparsed.2]

/-- The validation of an address does not turn rules on. -/
theorem validateAddress_srcRoutingDisabled (folly : Folly) (lb : KatranLb) (src : String) :
    (lb.validateAddress folly src true).2.srcRoutingDisabled = lb.srcRoutingDisabled := by
  have tables := validateAddress_sameTables folly lb src true
  rw [srcRoutingDisabled, tables.config, tables.features, srcRoutingDisabled]

/-- The networks of a call are collected as long as there is room for further rules. -/
theorem collectNetworks_networks (folly : Folly) (total : Nat) (srcs : List String)
    (numErrors : Int) (srcNetworks : List CIDRNetwork) {lb : KatranLb}
    (enabled : lb.srcRoutingDisabled = false) :
    (collectNetworks folly total srcs numErrors srcNetworks lb).2.1 = srcNetworks ++
      (srcs.filterMap (namedNetwork folly)).take (lb.config.maxLpmSrcSize.toNat -
        (lb.lpmSrcMapping.entries.length + srcNetworks.length)) := by
  induction srcs generalizing numErrors srcNetworks lb with
  | nil => simp only [collectNetworks, List.filterMap_nil, List.take_nil, List.append_nil]
  | cons src srcs ih =>
      cases named : namedNetwork folly src with
      | none =>
          have tables := validateAddress_sameTables folly lb src true
          have still := (validateAddress_srcRoutingDisabled folly lb src).trans enabled
          rw [collectNetworks_cons_none named, List.filterMap_cons_none named, ih _ _ still,
            tables.config, tables.lpmSrcMapping]
      | some network =>
          rw [collectNetworks_cons_some named enabled, List.filterMap_cons_some named]
          split
          next full =>
            have none : lb.config.maxLpmSrcSize.toNat -
                (lb.lpmSrcMapping.entries.length + srcNetworks.length) = 0 := by
              omega
            rw [none, List.take_zero, List.append_nil]
          next fits =>
            have more : lb.config.maxLpmSrcSize.toNat -
                (lb.lpmSrcMapping.entries.length + srcNetworks.length) =
                lb.config.maxLpmSrcSize.toNat - (lb.lpmSrcMapping.entries.length +
                  (srcNetworks ++ [network]).length) + 1 := by
              rw [List.length_append, List.length_singleton]
              omega
            rw [ih _ _ enabled, more, List.take_succ_cons, List.append_assoc,
              List.singleton_append]

/-- Every network that a call installs is allowed beside the rules that are there. -/
def InstallsAllowed (folly : Folly) (lb : KatranLb)
    (allowed : List CIDRNetwork → CIDRNetwork → Prop) (srcs : List CIDRNetwork) (dst : String) :
    Prop :=
  lb.srcRoutingDisabled = false → ∀ addr, folly.parse dst = some addr → lb.Allocates addr →
    EachInstalled allowed lb.config.maxLpmSrcSize.toNat lb.ruleSources srcs

instance (lb : KatranLb) (allowed : List CIDRNetwork → CIDRNetwork → Prop)
    [∀ known src, Decidable (allowed known src)] (srcs : List CIDRNetwork) (dst : String) :
    Decidable (lb.InstallsAllowed folly allowed srcs dst) :=
  inferInstanceAs (Decidable (lb.srcRoutingDisabled = false → ∀ addr ∈ folly.parse dst,
    lb.Allocates addr → EachInstalled allowed _ _ _))

/-- The networks that `addSrcRoutingRule` installs for strings, if there is room for rules. -/
def networksFor (folly : Folly) (lb : KatranLb) (srcs : List String) : List CIDRNetwork :=
  (srcs.filterMap (namedNetwork folly)).take
    (lb.config.maxLpmSrcSize.toNat - lb.lpmSrcMapping.entries.length)

/-- What is kept by taking a number that is refused and by installing an allowed network,
and does not depend on counters. -/
structure KeptByInstalls (env : Env) (room : Nat)
    (allowed : List CIDRNetwork → CIDRNetwork → Prop) (kept : KatranLb → Prop) : Prop where
  stable : ∀ before after, kept before → SameTables before after →
    after.kernel = before.kernel → kept after
  refused : ∀ lb dst, kept lb →
    (lb.increaseRefCountForReal env dst).1 = lb.config.maxReals.toNat →
    kept (lb.increaseRefCountForReal env dst).2
  installed : ∀ lb dst src known, kept lb → lb.RulesKeyed → known.Perm lb.ruleSources →
    allowed known src → lb.lpmSrcMapping.entries.length < room →
    (lb.increaseRefCountForReal env dst).1 ≠ lb.config.maxReals.toNat →
    kept (lb.installRule env dst src)

namespace KeptByInstalls

variable {room : Nat} {allowed : List CIDRNetwork → CIDRNetwork → Prop} {kept : KatranLb → Prop}

private theorem installRules (keeps : KeptByInstalls env room allowed kept) {dst : IPAddress}
    {srcs known : List CIDRNetwork} (start : kept lb) (keyed : lb.RulesKeyed)
    (limit : lb.config.maxLpmSrcSize.toNat = room) (all : known.Perm lb.ruleSources)
    (each : lb.Allocates dst → EachInstalled allowed room known srcs) :
    kept (KatranLb.installRules env dst srcs lb).2.1 ∧
      (KatranLb.installRules env dst srcs lb).2.1.RulesKeyed := by
  induction srcs generalizing lb known with
  | nil => exact ⟨start, keyed⟩
  | cons src srcs ih =>
      have rest := increaseRefCountForReal_sameRest env lb dst
      rw [installRules_cons, rest.config, limit]
      split
      · exact ⟨start, keyed⟩
      next fits =>
        split
        next exhausted =>
          exact ⟨keeps.refused lb dst start exhausted, keyed.congr rest.lpmSrcMapping⟩
        next taken =>
          have allocates : lb.Allocates dst := by
            by_contra none
            exact taken (increaseRefCountForReal_of_not_allocates none)
          have short : known.length < room := by
            rw [all.length_eq, length_ruleSources]
            omega
          obtain ⟨permitted, later⟩ := each allocates short
          have tables := installRule_tables env dst src lb
          apply ih
          · exact keeps.installed lb dst src known start keyed all permitted (by omega) taken
          · exact keyed.insert tables.lpmSrcMapping
          · rw [installRule_config, limit]
          · exact ruleSources_insert keyed tables.lpmSrcMapping all
          · exact fun _ => later

/-- What every installation keeps is kept by a call with networks. -/
theorem addSrcRoutingRuleCidr (keeps : KeptByInstalls env room allowed kept)
    {srcs : List CIDRNetwork} {dst : String} (start : kept lb) (keyed : lb.RulesKeyed)
    (limit : lb.config.maxLpmSrcSize.toNat = room)
    (each : lb.InstallsAllowed folly allowed srcs dst) :
    kept (lb.addSrcRoutingRuleCidr folly env srcs dst).2.1 ∧
      (lb.addSrcRoutingRuleCidr folly env srcs dst).2.1.RulesKeyed := by
  unfold KatranLb.addSrcRoutingRuleCidr
  split
  · exact ⟨start, keyed⟩
  next enabled =>
    split
    · have tables := validateAddress_sameTables folly lb dst false
      exact ⟨keeps.stable _ _ start tables (validateAddress_kernel folly lb dst false),
        keyed.congr tables.lpmSrcMapping⟩
    next addr parsed =>
      apply keeps.installRules start keyed limit (.refl _)
      intro allocates
      exact limit ▸ each (Bool.eq_false_of_not_eq_true enabled) addr parsed allocates

/-- What every installation keeps is kept by a call with texts. -/
theorem addSrcRoutingRule (keeps : KeptByInstalls env room allowed kept) {srcs : List String}
    {dst : String} (start : kept lb) (keyed : lb.RulesKeyed)
    (limit : lb.config.maxLpmSrcSize.toNat = room)
    (each : lb.InstallsAllowed folly allowed (lb.networksFor folly srcs) dst) :
    kept (lb.addSrcRoutingRule folly env srcs dst).2.1 ∧
      (lb.addSrcRoutingRule folly env srcs dst).2.1.RulesKeyed := by
  unfold KatranLb.addSrcRoutingRule
  split
  · exact ⟨start, keyed⟩
  next enabled =>
    split
    · have tables := validateAddress_sameTables folly lb dst false
      exact ⟨keeps.stable _ _ start tables (validateAddress_kernel folly lb dst false),
        keyed.congr tables.lpmSrcMapping⟩
    next =>
      have tables := collectNetworks_sameTables folly srcs.length srcs 0 [] lb
      have collected := collectNetworks_networks folly srcs.length srcs 0 []
        (Bool.eq_false_of_not_eq_true enabled)
      rw [List.nil_append, List.length_nil, Nat.add_zero] at collected
      dsimp only
      rw [collected]
      apply keeps.addSrcRoutingRuleCidr
      · exact keeps.stable _ _ start tables (collectNetworks_kernel folly srcs.length srcs 0 [] lb)
      · exact keyed.congr tables.lpmSrcMapping
      · rw [tables.config, limit]
      · unfold InstallsAllowed at each ⊢
        unfold srcRoutingDisabled Allocates ruleSources at *
        rw [tables.config, tables.features, tables.reals, tables.realNums, tables.lpmSrcMapping]
        exact each

end KeptByInstalls

/-! ## Removing networks -/

/-- Networks are removed one after the other. Each is allowed for the known one with its
key, which is not known any more after that. -/
def EachRemoved (allowed : CIDRNetwork → CIDRNetwork → Prop) :
    List CIDRNetwork → List CIDRNetwork → Prop
  | _, [] => True
  | known, src :: srcs =>
      (∀ found ∈ known, found.key = src.key → allowed found src) ∧
        EachRemoved allowed (known.filter fun other => other.key ≠ src.key) srcs

instance EachRemoved.decidable (allowed : CIDRNetwork → CIDRNetwork → Prop)
    [∀ found src, Decidable (allowed found src)] :
    (known srcs : List CIDRNetwork) → Decidable (EachRemoved allowed known srcs)
  | _, [] => inferInstanceAs (Decidable True)
  | known, src :: srcs =>
      have := EachRemoved.decidable allowed (known.filter fun other => other.key ≠ src.key) srcs
      inferInstanceAs (Decidable ((∀ found ∈ known, found.key = src.key → allowed found src) ∧
        EachRemoved _ _ _))

private theorem removeRule_mapping (env : Env) (lb : KatranLb) (src : CIDRNetwork) :
    (lb.removeRule env src).lpmSrcMapping = lb.lpmSrcMapping.erase src.key := by
  unfold removeRule
  split
  next absent => exact (erase_of_lookup_none absent).symm
  next rule found =>
    have rest := (realOfNum_sameRest lb rule.rnum).trans
      (decreaseRefCountForReal_sameRest (lb.realOfNum rule.rnum).2 (lb.realOfNum rule.rnum).1)
    dsimp only
    split
    · rw [rest.lpmSrcMapping]
    · rw [(modifyLpmSrcRule_sameTables env _ .del src rule.rnum).lpmSrcMapping, rest.lpmSrcMapping]

private theorem foldl_removeRule_lookup (env : Env) (srcs : List CIDRNetwork) (lb : KatranLb)
    (key : CIDRNetwork) :
    (srcs.foldl (removeRule env) lb).lpmSrcMapping.lookup key =
      if key ∈ srcs.map CIDRNetwork.key then none else lb.lpmSrcMapping.lookup key := by
  induction srcs generalizing lb with
  | nil => rfl
  | cons src srcs ih =>
      rw [List.foldl_cons, ih, removeRule_mapping, lookup_erase_eq_ite, List.map_cons]
      simp only [List.mem_cons]
      by_cases later : key ∈ srcs.map CIDRNetwork.key
      · simp only [later, or_true, ↓reduceIte]
      · simp only [later, or_false, ↓reduceIte]

/-- The networks of the rules after one has been removed. -/
theorem mem_ruleSources_removeRule (keyed : lb.RulesKeyed) (env : Env) (src : CIDRNetwork)
    {known : List CIDRNetwork} (all : ∀ network, network ∈ known ↔ network ∈ lb.ruleSources)
    (network : CIDRNetwork) :
    network ∈ known.filter (fun other => other.key ≠ src.key) ↔
      network ∈ (lb.removeRule env src).ruleSources := by
  rw [List.mem_filter, all, decide_eq_true_eq, mem_ruleSources, mem_ruleSources,
    removeRule_mapping]
  constructor
  · intro listed
    obtain ⟨⟨key, rule, found, rfl⟩, apart⟩ := listed
    rw [keyed key rule found] at apart
    exact ⟨key, rule, by rw [AList.lookup_erase_ne apart, found], rfl⟩
  · intro listed
    obtain ⟨key, rule, found, rfl⟩ := listed
    rw [lookup_erase_eq_ite] at found
    split at found
    · cases found
    next apart =>
      refine ⟨⟨key, rule, found, rfl⟩, ?_⟩
      rw [keyed key rule found]
      exact apart

/-- A removed network loses its node. -/
theorem removeRule_srcRoutes (reliable : env.Reliable) (live : lb.config.testing = false)
    {src : CIDRNetwork} {rule : SrcRule} (found : lb.lpmSrcMapping.lookup src.key = some rule) :
    (lb.removeRule env src).kernel.srcRoutes =
      Function.update lb.kernel.srcRoutes src.node none := by
  have rest := (realOfNum_sameRest lb rule.rnum).trans
    (decreaseRefCountForReal_sameRest (lb.realOfNum rule.rnum).2 (lb.realOfNum rule.rnum).1)
  unfold removeRule
  simp only [found, rest.config, live, Bool.false_eq_true, ↓reduceIte]
  rw [modifyLpmSrcRule_srcRoutes reliable, decreaseRefCountForReal_kernel, realOfNum_kernel]

/-- Removing a rule keeps the configuration. -/
theorem removeRule_config (env : Env) (lb : KatranLb) (src : CIDRNetwork) :
    (lb.removeRule env src).config = lb.config :=
  (removeRule_frame env lb src).config

/-! ## The tries hold the rules -/

/-- Every filled node of the tries has the real of a rule with that node, and the node of
every rule that is not doomed is filled. -/
def RulesMirrored (doomed : CIDRNetwork → Prop) (lb : KatranLb) : Prop :=
  Covers (fun rule : SrcRule => rule.src.node) SrcRule.rnum doomed lb.lpmSrcMapping
    lb.kernel.srcRoutes

/-- A network whose key a rule has is of the family of that rule. -/
def KeepsFamily (known : List CIDRNetwork) (src : CIDRNetwork) : Prop :=
  ∀ other ∈ known, other.key = src.key → other.address.isV4 = src.address.isV4

/-- A network is removed by its family, and no rule that stays has its node. -/
def KeepsNodes (staying : List CIDRNetwork) (found src : CIDRNetwork) : Prop :=
  found.address.isV4 = src.address.isV4 ∧ ∀ other ∈ staying, other.node ≠ found.node

instance (known : List CIDRNetwork) (src : CIDRNetwork) : Decidable (KeepsFamily known src) :=
  inferInstanceAs (Decidable (∀ other ∈ known, other.key = src.key → _))

instance (staying : List CIDRNetwork) (found src : CIDRNetwork) :
    Decidable (KeepsNodes staying found src) :=
  inferInstanceAs (Decidable (_ ∧ ∀ other ∈ staying, other.node ≠ found.node))

/-- The networks of the rules that stay when networks are removed. -/
def stayingSources (lb : KatranLb) (srcs : List CIDRNetwork) : List CIDRNetwork :=
  lb.ruleSources.filter fun other => other.key ∉ srcs.map CIDRNetwork.key

namespace RulesMirrored

private theorem congr {doomed : CIDRNetwork → Prop} (mirrored : lb.RulesMirrored doomed)
    (rules : after.lpmSrcMapping = lb.lpmSrcMapping)
    (routes : after.kernel.srcRoutes = lb.kernel.srcRoutes) : after.RulesMirrored doomed := by
  unfold RulesMirrored
  rw [rules, routes]
  exact mirrored

private theorem installRule (mirrored : lb.RulesMirrored fun _ => False) (reliable : env.Reliable)
    (live : lb.config.testing = false) (keyed : lb.RulesKeyed) (dst : IPAddress)
    {src : CIDRNetwork} (family : KeepsFamily lb.ruleSources src) :
    (lb.installRule env dst src).RulesMirrored fun _ => False := by
  have tables := installRule_tables env dst src lb
  have first : ((lb.lpmSrcMapping.lookup src.key).map SrcRule.src).getD src = src := by
    cases found : lb.lpmSrcMapping.lookup src.key with
    | none => rfl
    | some old =>
        have member : old.src ∈ lb.ruleSources := mem_ruleSources.mpr ⟨_, old, found, rfl⟩
        have same := keyed src.key old found
        exact CIDRNetwork.eq_of_key same (family old.src member same)
  unfold RulesMirrored
  rw [tables.lpmSrcMapping, installRule_srcRoutes reliable live, first]
  apply Covers.insert mirrored
  intro old found
  have member : old.src ∈ lb.ruleSources := mem_ruleSources.mpr ⟨_, old, found, rfl⟩
  have same := keyed src.key old found
  exact congrArg CIDRNetwork.node (CIDRNetwork.eq_of_key same (family old.src member same))

/-- Additions that keep to the family of the rules that are there keep the tries right. -/
theorem keptByInstalls (reliable : env.Reliable) (room : Nat) :
    KeptByInstalls env room KeepsFamily fun lb =>
      (lb.RulesMirrored fun _ => False) ∧ lb.config.testing = false where
  stable := by
    intro before after start tables kernel
    refine ⟨start.1.congr tables.lpmSrcMapping (by rw [kernel]), ?_⟩
    rw [tables.config]
    exact start.2
  refused := by
    intro lb dst start _
    have rest := increaseRefCountForReal_sameRest env lb dst
    refine ⟨start.1.congr rest.lpmSrcMapping (increaseRefCountForReal_srcRoutes env lb dst), ?_⟩
    rw [rest.config]
    exact start.2
  installed := by
    intro lb dst src known start keyed all allowed _ _
    refine ⟨start.1.installRule reliable start.2 keyed dst ?_, ?_⟩
    · intro other member same
      exact allowed other (all.mem_iff.mpr member) same
    · rw [installRule_config]
      exact start.2

/-- Removing networks one after the other. The rules that are still to be removed are
doomed, and the others keep their nodes. -/
theorem removeRules {doomed : CIDRNetwork → Prop} {staying srcs known : List CIDRNetwork}
    (mirrored : lb.RulesMirrored doomed) (reliable : env.Reliable)
    (live : lb.config.testing = false) (keyed : lb.RulesKeyed)
    (all : ∀ network, network ∈ known ↔ network ∈ lb.ruleSources)
    (spared : ∀ network ∈ lb.ruleSources, ¬ doomed network.key → network ∈ staying)
    (each : EachRemoved (KeepsNodes staying) known srcs) :
    (srcs.foldl (removeRule env) lb).RulesMirrored doomed := by
  induction srcs generalizing lb known with
  | nil => exact mirrored
  | cons src srcs ih =>
      obtain ⟨allowed, later⟩ := each
      have members := mem_ruleSources_removeRule keyed env src all
      apply ih _ _ (keyed.erase (removeRule_mapping env lb src)) members _ later
      · cases found : lb.lpmSrcMapping.lookup src.key with
        | none =>
            have same : lb.removeRule env src = lb := by simp only [removeRule, found]
            rw [same]
            exact mirrored
        | some rule =>
            have member : rule.src ∈ lb.ruleSources := mem_ruleSources.mpr ⟨_, rule, found, rfl⟩
            have same := keyed src.key rule found
            obtain ⟨family, alone⟩ := allowed rule.src ((all rule.src).mpr member) same
            have equal := CIDRNetwork.eq_of_key same family
            unfold RulesMirrored
            rw [removeRule_mapping, removeRule_srcRoutes reliable live found, ← equal]
            refine Covers.erase mirrored (equal ▸ found) ?_
            intro other held read stays
            apply alone held.src
            apply spared held.src (mem_ruleSources.mpr ⟨other, held, read, rfl⟩)
            rw [keyed other held read]
            exact stays
      · rw [removeRule_config]
        exact live
      · intro network member
        exact spared network
          ((all network).mp (List.mem_of_mem_filter ((members network).mpr member)))

private theorem delSrcRoutingRuleCidr (mirrored : lb.RulesMirrored fun _ => False)
    (reliable : env.Reliable) (live : lb.config.testing = false) (keyed : lb.RulesKeyed)
    {srcs : List CIDRNetwork}
    (each : lb.srcRoutingDisabled = false →
      EachRemoved (KeepsNodes (lb.stayingSources srcs)) lb.ruleSources srcs) :
    (lb.delSrcRoutingRuleCidr env srcs).2.RulesMirrored fun _ => False := by
  unfold KatranLb.delSrcRoutingRuleCidr
  split
  · exact mirrored
  next enabled =>
    have doomed : lb.RulesMirrored fun key => key ∈ srcs.map CIDRNetwork.key :=
      Covers.doom mirrored fun _ never => never.elim
    have removed := doomed.removeRules reliable live keyed (fun _ => Iff.rfl)
      (fun network member stays => List.mem_filter.mpr ⟨member, decide_eq_true stays⟩)
      (each (Bool.eq_false_of_not_eq_true enabled))
    apply Covers.settle removed
    intro key gone
    rw [foldl_removeRule_lookup, if_pos gone]

end RulesMirrored

/-- Removing rules keeps the table keyed. -/
theorem RulesKeyed.delSrcRoutingRuleCidr (keyed : lb.RulesKeyed) (env : Env)
    (srcs : List CIDRNetwork) : (lb.delSrcRoutingRuleCidr env srcs).2.RulesKeyed := by
  unfold KatranLb.delSrcRoutingRuleCidr
  split
  · exact keyed
  · intro key rule found
    rw [foldl_removeRule_lookup] at found
    split at found
    · cases found
    · exact keyed key rule found

/-- Clearing the rules clears their nodes. -/
theorem foldlM_clearRule_srcRoutes {entries : List (Sigma fun _ : CIDRNetwork => SrcRule)}
    (reliable : env.Reliable) (live : lb.config.testing = false)
    (looped : entries.foldlM (fun lb entry => clearRule env lb entry.2) lb = some after)
    (node : Bool × List Bool) :
    after.kernel.srcRoutes node =
      if node ∈ entries.map (fun entry => entry.2.src.node) then none
      else lb.kernel.srcRoutes node := by
  induction entries generalizing lb with
  | nil =>
      obtain rfl := Option.some.inj looped
      rfl
  | cons entry entries ih =>
      obtain ⟨next, cleared, rest⟩ := Option.bind_eq_some_iff.mp looped
      have config : next.config = lb.config := (clearRule_frame cleared).config
      have routes : next.kernel.srcRoutes =
          Function.update lb.kernel.srcRoutes entry.2.src.node none := by
        obtain ⟨dst, _, rfl⟩ := Option.map_eq_some_iff.mp cleared
        have released := decreaseRefCountForReal_sameRest lb dst
        simp only [released.config, live, Bool.false_eq_true, ↓reduceIte]
        rw [modifyLpmSrcRule_srcRoutes reliable, decreaseRefCountForReal_kernel]
      rw [ih (by rw [config, live]) rest, routes, List.map_cons]
      simp only [List.mem_cons, Function.update_apply]
      by_cases later : node ∈ entries.map fun entry => entry.2.src.node
      · simp only [later, or_true, ↓reduceIte]
      · simp only [later, or_false, ↓reduceIte]

/-- Clearing all rules keeps the table keyed. -/
theorem RulesKeyed.clearAllSrcRoutingRules {done : Bool} (keyed : lb.RulesKeyed)
    (returned : lb.clearAllSrcRoutingRules env = some (done, after)) : after.RulesKeyed := by
  rcases clearAllSrcRoutingRules_cases returned with rfl | ⟨cleared, rfl, _⟩
  · exact keyed
  · intro key rule found
    rw [AList.lookup_empty] at found
    cases found

private theorem RulesMirrored.clearAllSrcRoutingRules {done : Bool}
    (mirrored : lb.RulesMirrored fun _ => False) (reliable : env.Reliable)
    (live : lb.config.testing = false)
    (returned : lb.clearAllSrcRoutingRules env = some (done, after)) :
    after.RulesMirrored fun _ => False := by
  rcases clearAllSrcRoutingRules_cases returned with rfl | ⟨cleared, rfl, looped⟩
  · exact mirrored
  · have routes := foldlM_clearRule_srcRoutes reliable live looped
    have none : cleared.kernel.srcRoutes = fun _ => none := by
      funext node
      rw [routes]
      split
      · rfl
      next unused =>
        cases filled : lb.kernel.srcRoutes node with
        | none => rfl
        | some value =>
            obtain ⟨key, rule, found, same, _⟩ := mirrored.holder node value filled
            have visited := (env.listing.mem_visit _ _).mpr (mem_entries.mpr found)
            exact (unused (List.mem_map.mpr ⟨_, visited, same⟩)).elim
    unfold RulesMirrored
    change Covers _ _ _ _ cleared.kernel.srcRoutes
    rw [none]
    exact .empty

/-! ## Operations -/

end KatranLb

/-- The operations on source routing rules. -/
def Op.OfRules : Op → Prop
  | .addSrcRoutingRule _ _ => True
  | .addSrcRoutingRuleCidr _ _ => True
  | .delSrcRoutingRule _ => True
  | .delSrcRoutingRuleCidr _ => True
  | .clearAllSrcRoutingRules => True
  | _ => False

instance : DecidablePred Op.OfRules := Op.Decides.decidablePred {}

/-- A case for each of the operations on rules. -/
@[elab_as_elim]
theorem Op.OfRules.cases {motive : (op : Op) → op.OfRules → Prop} {op : Op} (ofRules : op.OfRules)
    (addSrcRoutingRule : ∀ srcs dst, motive (.addSrcRoutingRule srcs dst) trivial)
    (addSrcRoutingRuleCidr : ∀ srcs dst, motive (.addSrcRoutingRuleCidr srcs dst) trivial)
    (delSrcRoutingRule : ∀ srcs, motive (.delSrcRoutingRule srcs) trivial)
    (delSrcRoutingRuleCidr : ∀ srcs, motive (.delSrcRoutingRuleCidr srcs) trivial)
    (clearAllSrcRoutingRules : motive .clearAllSrcRoutingRules trivial) : motive op ofRules := by
  cases op with
  | addSrcRoutingRule srcs dst => exact addSrcRoutingRule srcs dst
  | addSrcRoutingRuleCidr srcs dst => exact addSrcRoutingRuleCidr srcs dst
  | delSrcRoutingRule srcs => exact delSrcRoutingRule srcs
  | delSrcRoutingRuleCidr srcs => exact delSrcRoutingRuleCidr srcs
  | clearAllSrcRoutingRules => exact clearAllSrcRoutingRules
  | addVip _ _ => exact ofRules.elim
  | delVip _ => exact ofRules.elim
  | modifyVip _ _ _ => exact ofRules.elim
  | addRealForVip _ _ => exact ofRules.elim
  | delRealForVip _ _ => exact ofRules.elim
  | modifyRealsForVip _ _ _ => exact ofRules.elim
  | modifyQuicRealsMapping _ _ => exact ofRules.elim

namespace KatranLb

variable {folly : Folly} {env : Env} {lb after : KatranLb}

/-- An addition keeps to the family of a rule that has the key of one of its networks, and a
removal does too and leaves no rule behind with a node that it clears. -/
def NodesKept (folly : Folly) (lb : KatranLb) : Op → Prop
  | .addSrcRoutingRule srcs dst =>
      lb.InstallsAllowed folly KeepsFamily (lb.networksFor folly srcs) dst
  | .addSrcRoutingRuleCidr srcs dst => lb.InstallsAllowed folly KeepsFamily srcs dst
  | .delSrcRoutingRule srcs => lb.srcRoutingDisabled = false →
      EachRemoved (KeepsNodes (lb.stayingSources (srcs.filterMap folly.tryCreateNetwork)))
        lb.ruleSources (srcs.filterMap folly.tryCreateNetwork)
  | .delSrcRoutingRuleCidr srcs => lb.srcRoutingDisabled = false →
      EachRemoved (KeepsNodes (lb.stayingSources srcs)) lb.ruleSources srcs
  | _ => True

instance (folly : Folly) (lb : KatranLb) : DecidablePred (lb.NodesKept folly) :=
  Op.Decides.decidablePred {
    addSrcRoutingRule := fun _ _ => inferInstanceAs (Decidable (lb.InstallsAllowed _ _ _ _))
    addSrcRoutingRuleCidr := fun _ _ => inferInstanceAs (Decidable (lb.InstallsAllowed _ _ _ _))
    delSrcRoutingRule := fun _ => inferInstanceAs (Decidable (_ = _ → EachRemoved _ _ _))
    delSrcRoutingRuleCidr := fun _ => inferInstanceAs (Decidable (_ = _ → EachRemoved _ _ _)) }

/-- What the operations on rules keep if they keep the nodes. -/
theorem RulesMirrored.step {op : Op} (mirrored : lb.RulesMirrored fun _ => False)
    (keyed : lb.RulesKeyed) (live : lb.config.testing = false) (ofRules : op.OfRules)
    (careful : lb.NodesKept folly op) (taken : ReliableStep folly lb op after) :
    (after.RulesMirrored fun _ => False) ∧ after.RulesKeyed := by
  obtain ⟨env, reliable, performed⟩ := taken
  have keeps := keptByInstalls reliable lb.config.maxLpmSrcSize.toNat
  cases ofRules using Op.OfRules.cases with
  | addSrcRoutingRule srcs dst =>
      obtain rfl := Option.some.inj performed
      have added := keeps.addSrcRoutingRule ⟨mirrored, live⟩ keyed rfl careful
      exact ⟨added.1.1, added.2⟩
  | addSrcRoutingRuleCidr srcs dst =>
      obtain rfl := Option.some.inj performed
      have added := keeps.addSrcRoutingRuleCidr ⟨mirrored, live⟩ keyed rfl careful
      exact ⟨added.1.1, added.2⟩
  | delSrcRoutingRule srcs =>
      obtain rfl := Option.some.inj performed
      unfold KatranLb.delSrcRoutingRule
      split
      · exact ⟨mirrored, keyed⟩
      · exact ⟨mirrored.delSrcRoutingRuleCidr reliable live keyed careful,
          keyed.delSrcRoutingRuleCidr env _⟩
  | delSrcRoutingRuleCidr srcs =>
      obtain rfl := Option.some.inj performed
      exact ⟨mirrored.delSrcRoutingRuleCidr reliable live keyed careful,
        keyed.delSrcRoutingRuleCidr env srcs⟩
  | clearAllSrcRoutingRules =>
      obtain ⟨⟨done, _⟩, returned, rfl⟩ := Option.map_eq_some_iff.mp performed
      exact ⟨mirrored.clearAllSrcRoutingRules reliable live returned,
        keyed.clearAllSrcRoutingRules returned⟩

/-- Make calls one after the other, checking each. -/
def checkedAll (check : KatranLb → Op → Bool) (lb : KatranLb) (ops : List Op) : Option KatranLb :=
  Run.execAll (fun lb op => if check lb op then lb.perform .small (.plain 20) op else none) lb ops

/-- Calls that pass a check, performed one after the other, are a run. -/
theorem run_of_checkedAll {check : KatranLb → Op → Bool} {ops : List Op}
    (performed : checkedAll check lb ops = some after) :
    Run (fun before op after => ReliableStep .small before op after ∧ check before op = true)
      lb ops after := by
  apply Run.of_execAll _ performed
  intro before op next computed
  split at computed
  next checked => exact ⟨⟨.plain 20, Env.plain_reliable 20, computed⟩, checked⟩
  next => cases computed

/-- A balancer for three reals and three source routing rules. -/
def tinyRules : KatranLb :=
  .new { maxVips := 2, maxReals := 3, chRingSize := 3, maxLpmSrcSize := 3 } { srcRouting := true }
    (.fresh [2, 0, 0, 0, 0, 1] fun _ => true)

end KatranLb

end Katran
