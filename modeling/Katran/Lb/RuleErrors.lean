import Katran.Lb.SrcRules

/-! # The errors that adding source routing rules counts

`addSrcRoutingRule` counts a string that names no network as an error when it meets it. When
it meets a network that finds no room, it counts all strings but those it has collected,
and among them the strings without a network once more. So the count is right if all networks
find room, or if no string without a network comes before the first that does not.
-/

namespace Katran.KatranLb

open Foundation UnorderedMap

variable {folly : Folly} {env : Env} {lb : KatranLb}

/-- The string names a network that has a rule. -/
def HasRule (folly : Folly) (lb : KatranLb) (src : String) : Prop :=
  ∃ network ∈ namedNetwork folly src, network.key ∈ lb.lpmSrcMapping

instance (lb : KatranLb) (src : String) : Decidable (lb.HasRule folly src) :=
  inferInstanceAs (Decidable (∃ network ∈ namedNetwork folly src, network.key ∈ lb.lpmSrcMapping))

/-- The number of rules for which there is room. -/
def ruleRoom (lb : KatranLb) : Nat :=
  lb.config.maxLpmSrcSize.toNat - lb.lpmSrcMapping.entries.length

/-- The result is the number of strings that have no rule afterwards, and the rules are those
from before and those of the first networks, as many as there is room for. -/
structure CountsFailures (folly : Folly) (before : KatranLb) (srcs : List String) (result : Int)
    (after : KatranLb) : Prop where
  failures : result = (srcs.countP fun src => ¬ after.HasRule folly src : Nat)
  rules : ∀ key, key ∈ after.lpmSrcMapping ↔
    key ∈ before.lpmSrcMapping ∨
      key ∈ ((srcs.filterMap (namedNetwork folly)).take before.ruleRoom).map CIDRNetwork.key

/-- The strings without a network before the first network that finds no room. -/
def unnamedBefore (folly : Folly) : (room : Nat) → List String → Nat
  | _, [] => 0
  | room, src :: srcs =>
      match namedNetwork folly src, room with
      | none, room => unnamedBefore folly room srcs + 1
      | some _, 0 => 0
      | some _, room + 1 => unnamedBefore folly room srcs

/-- The strings name networks for which there is room, and the others are all that remain. -/
theorem unnamedBefore_of_le {room : Nat} {srcs : List String}
    (fits : (srcs.filterMap (namedNetwork folly)).length ≤ room) :
    unnamedBefore folly room srcs + (srcs.filterMap (namedNetwork folly)).length = srcs.length := by
  induction srcs generalizing room with
  | nil => rfl
  | cons src srcs ih =>
      cases named : namedNetwork folly src with
      | none =>
          rw [List.filterMap_cons_none named] at fits ⊢
          simp only [unnamedBefore, named]
          rw [List.length_cons, ← ih fits]
          omega
      | some network =>
          rw [List.filterMap_cons_some named, List.length_cons] at fits ⊢
          cases room with
          | zero => exact absurd fits (Nat.not_succ_le_zero _)
          | succ room =>
              simp only [unnamedBefore, named]
              rw [List.length_cons, ← ih (Nat.le_of_succ_le_succ fits), Nat.add_assoc]

private theorem unnamedBefore_eq_zero_iff {room : Nat} {srcs : List String}
    (exceeds : room < (srcs.filterMap (namedNetwork folly)).length) :
    unnamedBefore folly room srcs = 0 ↔
      ∀ src ∈ srcs.take (room + 1), (namedNetwork folly src).isSome := by
  induction srcs generalizing room with
  | nil => exact absurd exceeds (Nat.not_lt_zero room)
  | cons src srcs ih =>
      rw [List.take_succ_cons, List.forall_mem_cons]
      cases named : namedNetwork folly src with
      | none =>
          simp only [unnamedBefore, named, Nat.add_eq_zero_iff, Nat.succ_ne_self, and_false,
            Option.isSome_none, Bool.false_eq_true, false_and]
      | some network =>
          rw [List.filterMap_cons_some named, List.length_cons] at exceeds
          cases room with
          | zero =>
              simp only [unnamedBefore, named, Option.isSome_some, List.take_zero, true_and,
                List.not_mem_nil, false_implies, implies_true]
          | succ room =>
              simp only [unnamedBefore, named, Option.isSome_some, true_and]
              exact ih (Nat.lt_of_succ_lt_succ exceeds)

/-- The errors that are counted while networks are collected. -/
theorem collectNetworks_errors (folly : Folly) (total : Nat) (srcs : List String)
    (numErrors : Int) (srcNetworks : List CIDRNetwork) {lb : KatranLb}
    (enabled : lb.srcRoutingDisabled = false) (room : Nat)
    (left : lb.config.maxLpmSrcSize.toNat -
      (lb.lpmSrcMapping.entries.length + srcNetworks.length) = room) :
    (collectNetworks folly total srcs numErrors srcNetworks lb).1 =
      numErrors + (unnamedBefore folly room srcs +
        if (srcs.filterMap (namedNetwork folly)).length ≤ room then 0
        else total - (srcNetworks.length + room) : Nat) := by
  induction srcs generalizing numErrors srcNetworks lb room with
  | nil =>
      simp only [collectNetworks, unnamedBefore, List.filterMap_nil, List.length_nil, Nat.zero_le,
        ↓reduceIte, Nat.add_zero, Nat.cast_zero, Int.add_zero]
  | cons src srcs ih =>
      cases named : namedNetwork folly src with
      | none =>
          have tables := validateAddress_sameTables folly lb src true
          have still := (validateAddress_srcRoutingDisabled folly lb src).trans enabled
          rw [← tables.config, ← tables.lpmSrcMapping] at left
          rw [collectNetworks_cons_none named, List.filterMap_cons_none named,
            ih _ _ still room left]
          simp only [unnamedBefore, named]
          push_cast
          omega
      | some network =>
          rw [collectNetworks_cons_some named enabled, List.filterMap_cons_some named,
            List.length_cons]
          cases room with
          | zero =>
              rw [if_pos (by omega), if_neg (Nat.not_succ_le_zero _)]
              simp only [unnamedBefore, named, Nat.zero_add, Nat.add_zero]
          | succ room =>
              rw [if_neg (by omega), ih _ _ enabled room (by
                rw [List.length_append, List.length_singleton]
                omega)]
              simp only [unnamedBefore, named, Nat.succ_le_succ_iff, List.length_append,
                List.length_singleton, Nat.add_assoc, Nat.add_comm 1 room]

/-- Networks that are all installed have rules, besides those that had them. -/
theorem mem_installRules {dst : IPAddress} {srcs : List CIDRNetwork}
    (done : (installRules env dst srcs lb).1 ≠ kError) (key : CIDRNetwork) :
    key ∈ (installRules env dst srcs lb).2.1.lpmSrcMapping ↔
      key ∈ lb.lpmSrcMapping ∨ key ∈ srcs.map CIDRNetwork.key := by
  induction srcs generalizing lb with
  | nil =>
      rw [List.map_nil]
      exact ⟨.inl, fun either => either.resolve_right List.not_mem_nil⟩
  | cons src srcs ih =>
      have tables := installRule_tables env dst src lb
      have recursive : (installRules env dst (src :: srcs) lb).1 ≠ kError →
          (installRules env dst (src :: srcs) lb).2.1 =
            (installRules env dst srcs (lb.installRule env dst src)).2.1 ∧
          (installRules env dst srcs (lb.installRule env dst src)).1 ≠ kError := by
        rw [installRules]
        split
        · exact fun failed => (failed rfl).elim
        · dsimp only
          split
          · exact fun failed => (failed rfl).elim
          · exact fun done => ⟨rfl, done⟩
      obtain ⟨same, later⟩ := recursive done
      rw [same, ih later, tables.lpmSrcMapping, AList.mem_insert, List.map_cons, List.mem_cons]
      tauto

/-- A call that does not fail altogether. -/
theorem addSrcRoutingRule_returned {srcs : List String} {dst : String}
    (returned : (lb.addSrcRoutingRule folly env srcs dst).1 ≠ kError) :
    (lb.addSrcRoutingRule folly env srcs dst).1 =
      (unnamedBefore folly lb.ruleRoom srcs +
        if (srcs.filterMap (namedNetwork folly)).length ≤ lb.ruleRoom then 0
        else srcs.length - lb.ruleRoom : Nat) ∧
    ∀ key, key ∈ (lb.addSrcRoutingRule folly env srcs dst).2.1.lpmSrcMapping ↔
      key ∈ lb.lpmSrcMapping ∨
        key ∈ ((srcs.filterMap (namedNetwork folly)).take lb.ruleRoom).map CIDRNetwork.key := by
  unfold addSrcRoutingRule at returned ⊢
  split at returned
  · exact (returned rfl).elim
  next enabled =>
    rw [if_neg enabled]
    have enabled := Bool.eq_false_of_not_eq_true enabled
    cases parsed : folly.parse dst with
    | none =>
        rw [parsed] at returned
        exact (returned rfl).elim
    | some addr =>
        have tables := collectNetworks_sameTables folly srcs.length srcs 0 [] lb
        have networks := collectNetworks_networks folly srcs.length srcs 0 [] enabled
        have errors := collectNetworks_errors folly srcs.length srcs 0 [] enabled lb.ruleRoom rfl
        rw [List.nil_append, List.length_nil, Nat.add_zero] at networks
        rw [parsed] at returned
        dsimp only at returned ⊢
        unfold addSrcRoutingRuleCidr at returned ⊢
        have still : (collectNetworks folly srcs.length srcs 0 [] lb).2.2.srcRoutingDisabled =
            false := by
          rw [srcRoutingDisabled, tables.config, tables.features]
          exact enabled
        simp only [still, parsed, Bool.false_eq_true, ↓reduceIte] at returned ⊢
        split at returned
        next failed => exact (returned failed).elim
        next done =>
          rw [if_neg done, errors]
          refine ⟨by rw [Int.zero_add, List.length_nil, Nat.zero_add], ?_⟩
          intro key
          rw [mem_installRules done, tables.lpmSrcMapping, networks]
          rfl

/-- The strings without a rule, if the networks that have got one are new and different. -/
theorem countP_not_hasRule {after : KatranLb} {srcs : List String} {room : Nat}
    (fresh : ∀ network ∈ srcs.filterMap (namedNetwork folly), network.key ∉ lb.lpmSrcMapping)
    (distinct : ((srcs.filterMap (namedNetwork folly)).map CIDRNetwork.key).Nodup)
    (rules : ∀ key, key ∈ after.lpmSrcMapping ↔ key ∈ lb.lpmSrcMapping ∨
      key ∈ ((srcs.filterMap (namedNetwork folly)).take room).map CIDRNetwork.key) :
    (srcs.countP fun src => ¬ after.HasRule folly src) +
      min room (srcs.filterMap (namedNetwork folly)).length = srcs.length := by
  have installed : (srcs.filterMap (namedNetwork folly)).countP
      (fun network => network.key ∈ after.lpmSrcMapping) =
        min room (srcs.filterMap (namedNetwork folly)).length := by
    generalize srcs.filterMap (namedNetwork folly) = networks at *
    rw [← List.take_append_drop room networks, List.map_append, List.nodup_append] at distinct
    have first : (networks.take room).countP (fun network => network.key ∈ after.lpmSrcMapping) =
        (networks.take room).length :=
      List.countP_eq_length.mpr fun network listed =>
        decide_eq_true ((rules _).mpr (.inr (List.mem_map_of_mem listed)))
    have others : (networks.drop room).countP (fun network => network.key ∈ after.lpmSrcMapping) =
        0 := by
      refine List.countP_eq_zero.mpr fun network listed ruled => ?_
      rcases (rules _).mp (of_decide_eq_true ruled) with old | new
      · exact fresh network (List.mem_of_mem_drop listed) old
      · exact distinct.2.2 _ new _ (List.mem_map_of_mem listed) rfl
    conv_lhs => rw [← List.take_append_drop room networks]
    rw [List.countP_append, first, others, List.length_take, Nat.add_zero]
  have named : srcs.countP (fun src => after.HasRule folly src) =
      (srcs.filterMap (namedNetwork folly)).countP
        (fun network => network.key ∈ after.lpmSrcMapping) := by
    rw [List.countP_filterMap]
    refine List.countP_congr fun src _ => ?_
    cases found : namedNetwork folly src with
    | none => simp only [HasRule, found, Option.mem_def, reduceCtorEq, false_and, exists_false,
        decide_false, Option.map_none, Option.getD_none]
    | some network => simp only [HasRule, found, Option.mem_def, Option.some.injEq,
        exists_eq_left', Option.map_some, Option.getD_some]
  have all := List.length_eq_countP_add_countP (l := srcs) fun src =>
    decide (after.HasRule folly src)
  simp only [decide_eq_true_eq] at all
  rw [← installed, ← named, Nat.add_comm]
  exact all.symm

/-- **The errors of `addSrcRoutingRule` are counted right** for strings that name new and
different networks exactly if all networks find room, or no string without a network comes
before the first that does not. -/
theorem addSrcRoutingRule_countsFailures_iff {srcs : List String} {dst : String}
    (fresh : ∀ network ∈ srcs.filterMap (namedNetwork folly), network.key ∉ lb.lpmSrcMapping)
    (distinct : ((srcs.filterMap (namedNetwork folly)).map CIDRNetwork.key).Nodup)
    (returned : (lb.addSrcRoutingRule folly env srcs dst).1 ≠ kError) :
    CountsFailures folly lb srcs (lb.addSrcRoutingRule folly env srcs dst).1
        (lb.addSrcRoutingRule folly env srcs dst).2.1 ↔
      (srcs.filterMap (namedNetwork folly)).length ≤ lb.ruleRoom ∨
        ∀ src ∈ srcs.take (lb.ruleRoom + 1), (namedNetwork folly src).isSome := by
  obtain ⟨counted, rules⟩ := addSrcRoutingRule_returned returned
  have missing := countP_not_hasRule fresh distinct rules
  have right : CountsFailures folly lb srcs (lb.addSrcRoutingRule folly env srcs dst).1
      (lb.addSrcRoutingRule folly env srcs dst).2.1 ↔
      (lb.addSrcRoutingRule folly env srcs dst).1 = (srcs.countP fun src =>
        ¬ (lb.addSrcRoutingRule folly env srcs dst).2.1.HasRule folly src : Nat) :=
    ⟨fun correct => correct.failures, fun failures => ⟨failures, rules⟩⟩
  rw [right, counted, Nat.cast_inj]
  by_cases fits : (srcs.filterMap (namedNetwork folly)).length ≤ lb.ruleRoom
  · have all := unnamedBefore_of_le fits
    rw [if_pos fits]
    simp only [fits, true_or, iff_true]
    omega
  · have some := unnamedBefore_eq_zero_iff (Nat.lt_of_not_le fits)
    rw [if_neg fits, ← some]
    simp only [fits, false_or]
    omega

/-- A library that knows two networks. -/
def twoNetworks : Folly :=
  { Folly.small with
    tryCreateNetwork := fun text =>
      if text = "10.0.0.0/24" then some ⟨.v4 0x0000000a, 24⟩
      else if text = "10.0.1.0/24" then some ⟨.v4 0x0001000a, 24⟩
      else none }

/-- A balancer for one source routing rule. -/
def oneRule : KatranLb :=
  .new { maxVips := 2, maxReals := 3, chRingSize := 3, maxLpmSrcSize := 1 } { srcRouting := true }
    (.fresh [2, 0, 0, 0, 0, 1] fun _ => true)

/-- The string without a network comes last. -/
theorem addSrcRoutingRule_countsFailures_last :
    let srcs := ["10.0.0.0/24", "10.0.1.0/24", "aaa"]
    let result := oneRule.addSrcRoutingRule twoNetworks (.plain 20) srcs "10.0.0.1"
    result.1 = 2 ∧ CountsFailures twoNetworks oneRule srcs result.1 result.2.1 :=
  ⟨by decide +kernel, (addSrcRoutingRule_countsFailures_iff (by decide +kernel) (by decide +kernel)
    (by decide +kernel)).mpr (.inr (by decide +kernel))⟩

/-- The string without a network comes first, and three errors are counted for the two
strings that get no rule. -/
theorem addSrcRoutingRule_counts_twice :
    let srcs := ["aaa", "10.0.0.0/24", "10.0.1.0/24"]
    let result := oneRule.addSrcRoutingRule twoNetworks (.plain 20) srcs "10.0.0.1"
    (∀ network ∈ srcs.filterMap (namedNetwork twoNetworks), network.key ∉ oneRule.lpmSrcMapping) ∧
      ((srcs.filterMap (namedNetwork twoNetworks)).map CIDRNetwork.key).Nodup ∧
      (twoNetworks.parse "10.0.0.1").isSome ∧ oneRule.Allocates (.v4 0x0100000a) ∧
      result.1 = 3 ∧ (srcs.countP fun src => ¬ result.2.1.HasRule twoNetworks src) = 2 ∧
      ¬ CountsFailures twoNetworks oneRule srcs result.1 result.2.1 := by
  intro srcs result
  have three : result.1 = 3 := by decide +kernel
  have two : (srcs.countP fun src => ¬ result.2.1.HasRule twoNetworks src) = 2 := by
    decide +kernel
  refine ⟨by decide +kernel, by decide +kernel, by decide +kernel, by decide +kernel, three, two,
    ?_⟩
  intro correct
  have same := correct.failures
  rw [three, two] at same
  exact absurd same (by decide)

end Katran.KatranLb
