import Katran.Bpf.Balancer
import Katran.Lb.SrcRules

/-! # Routing by source address

The forwarding plane looks the source address of a packet up in the trie of its family. It
should find the real of a longest rule that contains the address, and nothing if no rule
does. This fails after a rule has been removed whose bits before the prefix length are those
of another rule: the table keeps two rules and the trie had one node for them. The overload
for strings masks the other bits of a network, the one for networks does not.
-/

namespace Katran

open Foundation UnorderedMap KatranLb

/-! ## The longest prefix -/

/-- Looking up from the end, nothing behind the one that is found has a value. -/
theorem findSome_reverse_range {f : Nat → Option Nat} {count value : Nat}
    (found : (List.range count).reverse.findSome? f = some value) :
    ∃ index < count, f index = some value ∧ ∀ later, index < later → later < count →
      f later = none := by
  induction count with
  | zero => cases found
  | succ count ih =>
      rw [List.range_succ, List.reverse_append, List.reverse_singleton, List.singleton_append,
        List.findSome?_cons] at found
      cases last : f count with
      | some other =>
          rw [last] at found
          refine ⟨count, Nat.lt_succ_self count, last.trans found, ?_⟩
          intro later after before
          omega
      | none =>
          rw [last] at found
          obtain ⟨index, bounded, here, behind⟩ := ih found
          refine ⟨index, Nat.lt_succ_of_lt bounded, here, ?_⟩
          intro later after before
          rcases Nat.lt_succ_iff_lt_or_eq.mp before with earlier | rfl
          · exact behind later after earlier
          · exact last

namespace LpmTrie

variable {trie : LpmTrie} {key : List Bool}

/-- The longest prefix with a node is found. -/
theorem lookup_eq_some {value : Nat} (found : trie.lookup key = some value) :
    ∃ length ≤ key.length, trie (key.take length) = some value ∧
      ∀ longer, length < longer → longer ≤ key.length → trie (key.take longer) = none := by
  obtain ⟨length, bounded, here, behind⟩ := findSome_reverse_range found
  refine ⟨length, Nat.lt_succ_iff.mp bounded, here, ?_⟩
  intro longer after before
  exact behind longer after (Nat.lt_succ_of_le before)

private theorem lookup_eq_none :
    trie.lookup key = none ↔ ∀ length ≤ key.length, trie (key.take length) = none := by
  unfold lookup
  rw [List.findSome?_eq_none_iff]
  simp only [List.mem_reverse, List.mem_range, Nat.lt_succ_iff]

end LpmTrie

/-! ## Rules that contain an address -/

/-- The bits of the source address that is looked up. -/
def sourceBits (isIpv6 : Bool) (flow : FlowKey) : List Bool :=
  if isIpv6 then flow.srcv6.bits else wordBits flow.srcv6.w0

/-- A network contains an address of its family that begins with its prefix. -/
def CIDRNetwork.Contains (network : CIDRNetwork) (isIpv6 : Bool) (bits : List Bool) : Prop :=
  network.address.isV4 = !isIpv6 ∧ network.prefixBits <+: bits

/-- The lookup finds the real of a longest rule that contains the source address, and
nothing exactly if none does. -/
structure RoutedBySource (lb : KatranLb) (isIpv6 : Bool) (flow : FlowKey) : Prop where
  longest : ∀ num, lpmSrcLookup lb.kernel isIpv6 flow = some num →
    ∃ key rule, lb.lpmSrcMapping.lookup key = some rule ∧ rule.rnum = num ∧
      rule.src.Contains isIpv6 (sourceBits isIpv6 flow) ∧
      ∀ other held, lb.lpmSrcMapping.lookup other = some held →
        held.src.Contains isIpv6 (sourceBits isIpv6 flow) →
        held.src.prefixBits.length ≤ rule.src.prefixBits.length
  none : lpmSrcLookup lb.kernel isIpv6 flow = none ↔
    ∀ key rule, lb.lpmSrcMapping.lookup key = some rule →
      ¬ rule.src.Contains isIpv6 (sourceBits isIpv6 flow)

/-- The lookup is one in the nodes of a family. -/
theorem lpmSrcLookup_eq (maps : ConfigMaps) (isIpv6 : Bool) (flow : FlowKey) :
    lpmSrcLookup maps isIpv6 flow =
      LpmTrie.lookup (fun bits => maps.srcRoutes (!isIpv6, bits)) (sourceBits isIpv6 flow) := by
  cases isIpv6 <;> rfl

namespace KatranLb.RulesMirrored

variable {lb : KatranLb} {isIpv6 : Bool} {bits : List Bool}

/-- A rule that contains an address has a filled node at its length. -/
theorem filled (mirrored : lb.RulesMirrored fun _ => False) {key : CIDRNetwork} {rule : SrcRule}
    (found : lb.lpmSrcMapping.lookup key = some rule) (contains : rule.src.Contains isIpv6 bits) :
    rule.src.prefixBits.length ≤ bits.length ∧
      ∃ value, lb.kernel.srcRoutes (!isIpv6, bits.take rule.src.prefixBits.length) =
        some value := by
  obtain ⟨value, stored⟩ := mirrored.covered key rule found not_false
  have node : rule.src.node = (!isIpv6, bits.take rule.src.prefixBits.length) := by
    rw [CIDRNetwork.node, contains.1, ← List.prefix_iff_eq_take.mp contains.2]
  rw [node] at stored
  exact ⟨contains.2.length_le, value, stored⟩

/-- A filled node at a length is one of a rule of that length that contains the address. -/
theorem ruled (mirrored : lb.RulesMirrored fun _ => False) {length value : Nat}
    (within : length ≤ bits.length)
    (stored : lb.kernel.srcRoutes (!isIpv6, bits.take length) = some value) :
    ∃ key rule, lb.lpmSrcMapping.lookup key = some rule ∧ rule.rnum = value ∧
      rule.src.Contains isIpv6 bits ∧ rule.src.prefixBits.length = length := by
  obtain ⟨key, rule, found, node, numbered⟩ := mirrored.holder _ value stored
  have family : rule.src.address.isV4 = !isIpv6 := congrArg Prod.fst node
  have stem : rule.src.prefixBits = bits.take length := congrArg Prod.snd node
  refine ⟨key, rule, found, numbered, ⟨family, ?_⟩, ?_⟩
  · rw [stem]
    exact List.take_prefix length bits
  · rw [stem, List.length_take, Nat.min_eq_left within]

private theorem routedBySource (mirrored : lb.RulesMirrored fun _ => False) (isIpv6 : Bool)
    (flow : FlowKey) : RoutedBySource lb isIpv6 flow where
  longest := by
    intro num found
    rw [lpmSrcLookup_eq] at found
    obtain ⟨length, within, stored, behind⟩ := LpmTrie.lookup_eq_some found
    obtain ⟨key, rule, read, numbered, contains, exactly⟩ := mirrored.ruled within stored
    refine ⟨key, rule, read, numbered, contains, ?_⟩
    intro other held there also
    obtain ⟨bounded, value, filled⟩ := mirrored.filled there also
    by_contra longer
    rw [behind _ (by omega) bounded] at filled
    cases filled
  none := by
    rw [lpmSrcLookup_eq, LpmTrie.lookup_eq_none]
    constructor
    · intro empty key rule found contains
      obtain ⟨bounded, value, filled⟩ := mirrored.filled found contains
      rw [empty _ bounded] at filled
      cases filled
    · intro unruled length within
      cases stored : lb.kernel.srcRoutes (!isIpv6, (sourceBits isIpv6 flow).take length) with
      | none => rfl
      | some value =>
          obtain ⟨key, rule, found, _, contains, _⟩ := mirrored.ruled within stored
          exact (unruled key rule found contains).elim

/-- A new balancer has no rules. -/
theorem new (config : KatranConfig) (features : KatranFeatures) (mac : List UInt8)
    (cores : Nat → Bool) :
    (KatranLb.new config features (.fresh mac cores)).RulesMirrored fun _ => False := by
  have none : (ConfigMaps.fresh mac cores).srcRoutes = fun _ => none := by
    funext ⟨family, bits⟩
    cases family <;> rfl
  unfold RulesMirrored
  change Covers _ _ _ _ (ConfigMaps.fresh mac cores).srcRoutes
  rw [none]
  exact .empty

end KatranLb.RulesMirrored

/-- **Source routing follows the rules.** In every run of operations on rules that keep the
nodes of the rules that stay, every source address is routed by a longest rule that
contains it. -/
theorem source_routing_mirrored {folly : Folly} {config : KatranConfig}
    {features : KatranFeatures} {mac : List UInt8} {cores : Nat → Bool} {ops : List Op}
    {lb : KatranLb} (live : config.testing = false)
    (run : Run (fun before op after => ReliableStep folly before op after ∧ op.OfRules ∧
      before.NodesKept folly op) (.new config features (.fresh mac cores)) ops lb)
    (isIpv6 : Bool) (flow : FlowKey) : RoutedBySource lb isIpv6 flow := by
  have reached : (lb.RulesMirrored fun _ => False) ∧ lb.RulesKeyed ∧ lb.PoolsSound ∧
      lb.config = config := by
    apply Run.invariant (fun lb => (lb.RulesMirrored fun _ => False) ∧ lb.RulesKeyed ∧
      lb.PoolsSound ∧ lb.config = config) _ run
    · refine ⟨.new config features mac cores, ?_, .new config features _, rfl⟩
      intro key rule found
      rw [KatranLb.new, AList.lookup_empty] at found
      cases found
    · intro before op after held step
      obtain ⟨mirrored, keyed, pools, same⟩ := held
      obtain ⟨taken, ofRules, careful⟩ := step
      obtain ⟨sound, unchanged⟩ := pools.step taken.step
      obtain ⟨later, laterKeyed⟩ :=
        mirrored.step keyed (by rw [same, live]) ofRules careful taken
      exact ⟨later, laterKeyed, sound, unchanged.trans same⟩
  exact reached.1.routedBySource isIpv6 flow

/-- A packet from 10.0.0.3. -/
def fromThree : FlowKey := { srcv6 := .ofV4 0x0300000a }

/-- Three rules get one node, which leaves no room for a fourth, and are removed together;
then two rules of different lengths are added. -/
def replaced : List Op :=
  [.addSrcRoutingRuleCidr [⟨.v4 0x0100000a, 24⟩, ⟨.v4 0x0200000a, 24⟩] "10.0.0.1",
    .addSrcRoutingRule ["10.0.0.0/24"] "10.0.0.2",
    .addSrcRoutingRuleCidr [⟨.v4 0x0300000a, 32⟩] "10.0.0.3",
    .delSrcRoutingRuleCidr [⟨.v4 0x0200000a, 24⟩, ⟨.v4 0x0100000a, 24⟩, ⟨.v4 0x0000000a, 24⟩],
    .addSrcRoutingRuleCidr [⟨.v4 0x0300000a, 32⟩, ⟨.v4 0x0300000a, 8⟩] "10.0.0.3",
    .addSrcRoutingRuleCidr [⟨.v4 0x0300000a, 8⟩] "10.0.0.1"]

private theorem replaced_returns :
    (checkedAll (fun lb op => decide (op.OfRules ∧ lb.NodesKept .small op)) tinyRules
      replaced).isSome = true := by
  decide +kernel

/-- A rule that replaces another one routes its packets. -/
theorem source_routing_mirrored_replaced :
    ∃ lb, checkedAll (fun lb op => decide (op.OfRules ∧ lb.NodesKept .small op)) tinyRules
        replaced = some lb ∧
      lpmSrcLookup lb.kernel false fromThree = some 2 ∧ RoutedBySource lb false fromThree := by
  have returned := (Option.some_get replaced_returns).symm
  have run := (run_of_checkedAll returned).mono fun _ _ _ taken =>
    (⟨taken.1, of_decide_eq_true taken.2⟩ :
      ReliableStep .small _ _ _ ∧ Op.OfRules _ ∧ KatranLb.NodesKept .small _ _)
  exact ⟨_, returned, by decide +kernel, source_routing_mirrored rfl run false fromThree⟩

/-- Two rules with one node are added, and one of them is removed. -/
def nodeLost : List Op :=
  [.addSrcRoutingRuleCidr [⟨.v4 0x0100000a, 24⟩, ⟨.v4 0x0200000a, 24⟩] "10.0.0.1",
    .delSrcRoutingRuleCidr [⟨.v4 0x0100000a, 24⟩]]

private theorem nodeLost_returns :
    (checkedAll (fun _ _ => true) tinyRules nodeLost).isSome = true := by
  decide +kernel

/-- The rule for 10.0.0.2/24 is left, and a packet from 10.0.0.3 finds nothing. -/
theorem source_routing_loses_node :
    ∃ lb, Run (ReliableStep .small) tinyRules nodeLost lb ∧
      lb.ruleSources = [⟨.v4 0x0200000a, 24⟩] ∧ lpmSrcLookup lb.kernel false fromThree = none ∧
      ¬ RoutedBySource lb false fromThree := by
  have returned := (Option.some_get nodeLost_returns).symm
  have lost : lpmSrcLookup ((checkedAll (fun _ _ => true) tinyRules nodeLost).get
      nodeLost_returns).kernel false fromThree = none := by
    decide +kernel
  refine ⟨_, (run_of_checkedAll returned).mono fun _ _ _ taken => taken.1, by decide +kernel, lost,
    ?_⟩
  intro routed
  have left : ((checkedAll (fun _ _ => true) tinyRules nodeLost).get
      nodeLost_returns).lpmSrcMapping.lookup ⟨.v4 0x0200000a, 24⟩ =
      some ⟨⟨.v4 0x0200000a, 24⟩, 0⟩ := by
    decide +kernel
  exact routed.none.mp lost _ _ left ⟨rfl, by decide +kernel⟩

end Katran
