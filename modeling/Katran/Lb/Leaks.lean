import Katran.Lb.RefCounts

/-! # No leaked real

A balancer that only has VIPs gives back every number once its VIPs are gone if
every real has exactly as many references as VIPs (`Exact`). An addition that
lists a new address twice takes two references for one VIP, because only the
path for known reals updates the copy of the VIP's numbers; a removal that lists
a shared address twice gives up two. In every run without such batches the
numbers all come back (`no_leaked_real`). Counts need not be bounded here: they
never exceed the number of VIPs.
-/

namespace Katran

open Foundation UnorderedMap

namespace KatranLb

/-- An addition lists no new address twice, as long as there are free numbers, and
a removal lists an address of the VIP twice only if nobody else holds it. -/
def CountsOnce (folly : Folly) (lb : KatranLb) : Op → Prop
  | .modifyRealsForVip .add reals vip => ∀ _current ∈ lb.vips.lookup vip,
      AddsOnce lb.reals lb.realNums.length (listedKeys folly reals)
  | .modifyRealsForVip .del reals vip => ∀ current ∈ lb.vips.lookup vip,
      DelsOnce lb.realPool current.reals.keys (listedKeys folly reals)
  | _ => True

instance (folly : Folly) (lb : KatranLb) : DecidablePred (lb.CountsOnce folly) :=
  Op.Decides.decidablePred {
    addRealsForVip := fun _ vip =>
      inferInstanceAs (Decidable (∀ _current ∈ lb.vips.lookup vip, AddsOnce _ _ _))
    delRealsForVip := fun _ vip =>
      inferInstanceAs (Decidable (∀ current ∈ lb.vips.lookup vip, DelsOnce _ _ _)) }

/-- Only VIPs hold reals, no real has more references than VIPs, and every entry
of `numToReals_` is a number in use. -/
structure Exact (lb : KatranLb) : Prop where
  quic : lb.quicMapping = ∅
  rules : lb.lpmSrcMapping = ∅
  exact : ∀ key num, lb.realPool.numOf key = some num → lb.realPool.refs key ≤ lb.vipClaims num
  indexed : lb.realPool.Indexed

namespace Exact

variable {lb after : KatranLb} {realOf : VipKey → Nat → Option IPAddress}
  {dstOf : CIDRNetwork → Option IPAddress}

/-- In a new balancer no real is held. -/
theorem new (config : KatranConfig) (features : KatranFeatures) (kernel : ConfigMaps) :
    (KatranLb.new config features kernel).Exact where
  quic := rfl
  rules := rfl
  exact := by
    intro key num numbered
    obtain ⟨slot, found, _⟩ := RefPool.numOf_eq_some.mp numbered
    simp only [KatranLb.new, realPool_table, AList.lookup_empty, reduceCtorEq] at found
  indexed := RefPool.Indexed.fresh config.maxReals.toNat

/-- The VIPs change, but not which numbers they hold. -/
theorem vipsOnly (exactly : lb.Exact) (pool : after.realPool = lb.realPool)
    (claimed : ∀ num, after.vipClaims num = lb.vipClaims num)
    (rules : after.lpmSrcMapping = lb.lpmSrcMapping) (quic : after.quicMapping = lb.quicMapping) :
    after.Exact where
  quic := quic.trans exactly.quic
  rules := rules.trans exactly.rules
  exact := by
    intro key num numbered
    rw [pool] at numbered ⊢
    rw [claimed]
    exact exactly.exact key num numbered
  indexed := pool ▸ exactly.indexed

/-- Distinct reals each lose a VIP and a reference. -/
theorem releaseAll (exactly : lb.Exact) (live : lb.realPool.Live (2 ^ 32)) {keys : List IPAddress}
    (distinct : keys.Nodup) (pool : after.realPool = lb.realPool.releaseAll (2 ^ 32) keys)
    (rules : after.lpmSrcMapping = lb.lpmSrcMapping) (quic : after.quicMapping = lb.quicMapping)
    (more : ∀ key num, lb.realPool.numOf key = some num →
      lb.vipClaims num ≤ after.vipClaims num + if key ∈ keys then 1 else 0) : after.Exact where
  quic := quic.trans exactly.quic
  rules := rules.trans exactly.rules
  exact := by
    intro key num numbered
    rw [pool, RefPool.numOf_releaseAll live distinct] at numbered
    split at numbered
    next => cases numbered
    next =>
      have before := exactly.exact key num numbered
      have atMost := more key num numbered
      rw [pool, RefPool.refs_releaseAll live distinct]
      omega
  indexed := pool ▸ exactly.indexed.releaseAll keys

/-- A real that a VIP does not hold has room for a further reference. -/
theorem room (exactly : lb.Exact) (pools : lb.PoolsSound) {vip : VipKey} {current : Vip}
    (found : lb.vips.lookup vip = some current) {key : IPAddress} {num : Nat}
    (numbered : lb.realPool.numOf key = some num) (outside : num ∉ current.reals) :
    lb.realPool.refs key + 1 < 2 ^ 32 := by
  have claimed := exactly.exact key num numbered
  have erased := vipClaims_erase found num
  rw [if_neg outside] at erased
  have bounded : vipClaims { lb with vips := lb.vips.erase vip } num ≤
      (values (lb.vips.erase vip)).length := List.countP_le_length
  have split := (values_perm_cons_erase found).length_eq
  rw [List.length_cons] at split
  have total := pools.vips.length_eq
  rw [List.length_append, List.length_map, List.length_range] at total
  have limit := lb.config.maxVips.toNat_lt
  omega

private theorem addVip {folly : Folly} {env : Env} {vip : VipKey} {flags : UInt32} {done : Bool}
    (exactly : lb.Exact) (returned : lb.addVip folly env vip flags = some (done, after)) :
    after.Exact := by
  rcases addVip_cases returned with ⟨_, same⟩ | ⟨_, _, absent, _, vipNum, vipNums, _, free, same⟩
  · exact exactly.vipsOnly same.realPool (vipClaims_congr same.vips) same.lpmSrcMapping
      same.quicMapping
  · apply exactly.vipsOnly same.realPool _ same.lpmSrcMapping same.quicMapping
    intro num
    have empty : num ∉ (Vip.new vipNum flags lb.config.chRingSize.toNat).reals :=
      AList.notMem_empty num
    have inserted := vipClaims_insert_new absent
      (Vip.new vipNum flags lb.config.chRingSize.toNat) num
    rw [if_neg empty, Nat.add_zero] at inserted
    rw [vipClaims_congr same.vips]
    exact inserted

private theorem modifyVip {folly : Folly} {env : Env} {vip : VipKey} {flag : UInt32}
    {set done : Bool}
    (exactly : lb.Exact) (returned : lb.modifyVip folly env vip flag set = some (done, after)) :
    after.Exact := by
  rcases modifyVip_cases returned with ⟨_, rfl⟩ | ⟨current, vipFlags, found, same⟩
  · exact exactly
  · apply exactly.vipsOnly same.realPool _ same.lpmSrcMapping same.quicMapping
    intro num
    rw [vipClaims_congr same.vips]
    exact Nat.add_right_cancel (vipClaims_insert found { current with vipFlags := vipFlags } num)

private theorem delVip {folly : Folly} {env : Env} {vip : VipKey} {done : Bool} (exactly : lb.Exact)
    (held : Held lb realOf dstOf) (returned : lb.delVip folly env vip = some (done, after)) :
    after.Exact := by
  rcases delVip_cases returned with ⟨_, rfl, _⟩ | ⟨_, _, current, found, same⟩
  · exact exactly
  · have rest := foldl_releaseNum_sameRest lb (current.getReals env.listing)
    obtain ⟨keys, distinct, pool, members⟩ := held.delVip_pool found env
    apply exactly.releaseAll held.live distinct (same.realPool.trans pool)
      (same.lpmSrcMapping.trans rest.lpmSrcMapping) (same.quicMapping.trans rest.quicMapping)
    intro key num numbered
    have erased := vipClaims_erase found num
    have vips : after.vipClaims num = vipClaims { lb with vips := lb.vips.erase vip } num :=
      vipClaims_congr same.vips num
    simp only [members key num numbered]
    omega

private theorem delReals {folly : Folly} {env : Env} {reals : List NewReal} {vip : VipKey}
    {done : Bool} (exactly : lb.Exact) (held : Held lb realOf dstOf)
    (once : ∀ current ∈ lb.vips.lookup vip,
      DelsOnce lb.realPool current.reals.keys (listedKeys folly reals))
    (returned : lb.modifyRealsForVip folly env .del reals vip = some (done, after)) :
    after.Exact := by
  rcases modifyRealsForVip_cases returned with
    ⟨_, rfl, _⟩ | ⟨_, _, current, chPositions, updated, found, ring, same⟩
  · exact exactly
  · have rest := modifyRealsBatch_sameRest folly env lb .del reals current
    obtain ⟨keys, distinct, pool, kept, members⟩ := held.delReals_pool (once current found) ring
    apply exactly.releaseAll held.live distinct (same.realPool.trans pool)
      (same.lpmSrcMapping.trans rest.lpmSrcMapping) (same.quicMapping.trans rest.quicMapping)
    intro key num numbered
    have inserted := vipClaims_insert found updated num
    have claimed : after.vipClaims num =
        vipClaims { lb with vips := lb.vips.insert vip updated } num := by
      apply vipClaims_congr
      rw [same.vips, ← rest.vips]
    simp only [members key num numbered]
    by_cases left : num ∈ updated.reals
    · simp only [kept num left, left, ↓reduceIte] at inserted
      omega
    · simp only [left, not_false_eq_true, and_true, ↓reduceIte] at inserted ⊢
      omega

private theorem addReals {folly : Folly} {env : Env} {reals : List NewReal} {vip : VipKey}
    {done : Bool} (exactly : lb.Exact) (held : Held lb realOf dstOf)
    (once : ∀ current ∈ lb.vips.lookup vip,
      AddsOnce lb.reals lb.realNums.length (listedKeys folly reals))
    (returned : lb.modifyRealsForVip folly env .add reals vip = some (done, after)) :
    after.Exact := by
  rcases modifyRealsForVip_cases returned with
    ⟨_, rfl, _⟩ | ⟨_, _, current, chPositions, updated, found, ring, same⟩
  · exact exactly
  · have rest := modifyRealsBatch_sameRest folly env lb .add reals current
    have start : Adding lb.realPool (current.getReals env.listing) lb.config.maxReals.toNat
        { lb := lb, curReals := current.getReals env.listing, ureals := [], owners := [] } :=
      held.adding fun key num numbered outside => exactly.room held.pools found numbered outside
    have adding : Adding lb.realPool (current.getReals env.listing) lb.config.maxReals.toNat
        (lb.modifyRealsBatch folly env .add reals current) := start.loop
    have owned : ∀ num ∈ current.getReals env.listing,
        ∃ key, lb.realPool.numOf key = some num := by
      intro num member
      obtain ⟨added, _, numbered⟩ := held.vips vip current num found (mem_getReals.mp member)
      exact ⟨added.key, numbered⟩
    have begun : AddingOnce lb.realPool (current.getReals env.listing) lb.reals
        { lb := lb, curReals := current.getReals env.listing, ureals := [], owners := [] }
        (listedKeys folly reals) := by
      refine ⟨?_, ?_, ?_, once current found, exactly.indexed⟩
      · exact fun key num _ => Nat.le_add_right _ _
      · exact fun _ _ _ _ _ => List.not_mem_nil
      · exact fun _ _ => Iff.rfl
    have counted : AddingOnce lb.realPool (current.getReals env.listing) lb.reals
        (lb.modifyRealsBatch folly env .add reals current) [] := begun.loop start owned
    have members := mem_reals_of_additions ring
      (modifyRealsBatch_action folly env lb .add reals current)
    have pool : after.realPool = (lb.modifyRealsBatch folly env .add reals current).lb.realPool :=
      same.realPool
    refine ⟨(same.quicMapping.trans rest.quicMapping).trans exactly.quic,
      (same.lpmSrcMapping.trans rest.lpmSrcMapping).trans exactly.rules, ?_,
      pool ▸ counted.indexed⟩
    intro key num numbered
    rw [pool] at numbered ⊢
    have atMost := counted.exact key num numbered
    have vips : after.vips = lb.vips.insert vip updated := by
      rw [same.vips, ← rest.vips]
    have claimed := vipClaims_of_additions found vips members env.listing num
    have before : lb.realPool.refs key ≤ lb.vipClaims num := by
      cases known : lb.realPool.numOf key with
      | none =>
          rw [RefPool.refs_of_numOf_none known]
          exact Nat.zero_le _
      | some other =>
          have equal := adding.kept key other known
          rw [numbered] at equal
          rw [Option.some.inj equal]
          exact exactly.exact key other known
    omega

/-- Without VIPs every number is free. -/
theorem full (exactly : lb.Exact) (held : Held lb realOf dstOf) (empty : lb.vips = ∅) :
    lb.reals = ∅ ∧ lb.numToReals = ∅ ∧ lb.realNums.Perm (List.range lb.config.maxReals.toNat) := by
  apply exactly.indexed.full held.pools.reals
  intro key
  cases numbered : lb.realPool.numOf key with
  | none => rfl
  | some num =>
      have atMost := exactly.exact key num numbered
      have positive := held.live.refs_pos numbered
      have none : lb.vipClaims num = 0 := by
        simp only [vipClaims, empty, values_empty, List.countP_nil]
      omega

end Exact

/-! ## Runs -/

/-- A run of the balancer can be recorded. -/
theorem Step.traced {folly : Folly} {lb after : KatranLb} {op : Op} (taken : Step folly lb op after)
    (realOf : VipKey → Nat → Option IPAddress) (dstOf : CIDRNetwork → Option IPAddress) :
    ∃ state, Traced.Step folly ⟨lb, realOf, dstOf⟩ op state ∧ state.lb = after := by
  obtain ⟨env, performed⟩ := taken
  refine ⟨_, ⟨env, by rw [Traced.perform, performed, Option.map_some]⟩, ?_⟩
  cases op with
  | modifyRealsForVip action reals vip => cases action <;> rfl
  | _ => rfl

/-- What the VIP operations keep. -/
structure Settled (folly : Folly) (lb : KatranLb) : Prop where
  held : ∃ realOf dstOf, Held lb realOf dstOf
  exactly : lb.Exact
  valid : lb.VipsValid folly

namespace Settled

variable {folly : Folly} {lb after : KatranLb}

/-- A new balancer is settled. -/
theorem new (config : KatranConfig) (features : KatranFeatures) (kernel : ConfigMaps) :
    (KatranLb.new config features kernel).Settled folly where
  held := ⟨_, _, .new config features kernel⟩
  exactly := .new config features kernel
  valid := fun vip member => (AList.notMem_empty vip member).elim

/-- In a settled state, an operation that counts once is permitted. -/
theorem permits {op : Op} {realOf : VipKey → Nat → Option IPAddress}
    {dstOf : CIDRNetwork → Option IPAddress} (exactly : lb.Exact) (held : Held lb realOf dstOf)
    (ofVips : op.OfVips) (once : lb.CountsOnce folly op) : lb.Permits folly op := by
  have room (vip : VipKey) : lb.RoomFor vip :=
    fun current found key num numbered outside => exactly.room held.pools found numbered outside
  cases ofVips using Op.OfVips.cases with
  | addRealForVip real vip => exact room vip
  | modifyRealsForVip action reals vip =>
      cases action with
      | add => exact room vip
      | del => exact once
  | addVip _ _ => trivial
  | delVip _ => trivial
  | modifyVip _ _ _ => trivial
  | delRealForVip _ _ => trivial

private theorem addsOnce_singleton (folly : Folly) (reals : UnorderedMap IPAddress RealMeta)
    (free : Nat) (real : NewReal) : AddsOnce reals free (listedKeys folly [real]) := by
  cases parsed : folly.parse real.address with
  | none =>
      rw [listedKeys_cons_none parsed]
      trivial
  | some raddr =>
      rw [listedKeys_cons_some parsed]
      unfold AddsOnce
      split
      · trivial
      · split
        · trivial
        · exact ⟨List.not_mem_nil, trivial⟩

private theorem exact_step {op : Op} {realOf : VipKey → Nat → Option IPAddress}
    {dstOf : CIDRNetwork → Option IPAddress} (exactly : lb.Exact) (held : Held lb realOf dstOf)
    (ofVips : op.OfVips) (once : lb.CountsOnce folly op) (taken : Step folly lb op after) :
    after.Exact := by
  obtain ⟨env, performed⟩ := taken
  cases ofVips using Op.OfVips.cases with
  | addVip vip flags =>
      obtain ⟨⟨done, _⟩, returned, rfl⟩ := Option.map_eq_some_iff.mp performed
      exact exactly.addVip returned
  | delVip vip =>
      obtain ⟨⟨done, _⟩, returned, rfl⟩ := Option.map_eq_some_iff.mp performed
      exact exactly.delVip held returned
  | modifyVip vip flag set =>
      obtain ⟨⟨done, _⟩, returned, rfl⟩ := Option.map_eq_some_iff.mp performed
      exact exactly.modifyVip returned
  | addRealForVip real vip =>
      obtain ⟨⟨done, _⟩, returned, rfl⟩ := Option.map_eq_some_iff.mp performed
      rw [addRealForVip_eq] at returned
      exact exactly.addReals held (fun _ _ => addsOnce_singleton folly _ _ real) returned
  | delRealForVip real vip =>
      obtain ⟨⟨done, _⟩, returned, rfl⟩ := Option.map_eq_some_iff.mp performed
      rw [delRealForVip_eq] at returned
      exact exactly.delReals held (fun _ _ => delsOnce_singleton folly _ _ real) returned
  | modifyRealsForVip action reals vip =>
      obtain ⟨⟨done, _⟩, returned, rfl⟩ := Option.map_eq_some_iff.mp performed
      cases action with
      | add => exact exactly.addReals held once returned
      | del => exact exactly.delReals held once returned

/-- A balancer is settled after a call that counts every address once. -/
theorem step {op : Op} (settled : lb.Settled folly) (ofVips : op.OfVips)
    (once : lb.CountsOnce folly op) (taken : Step folly lb op after) : after.Settled folly := by
  obtain ⟨realOf, dstOf, held⟩ := settled.held
  obtain ⟨state, traced, rfl⟩ := taken.traced realOf dstOf
  have later : Held state.lb state.realOf state.dstOf :=
    Held.step held traced (permits settled.exactly held ofVips once)
  exact ⟨⟨_, _, later⟩, exact_step settled.exactly held ofVips once taken,
    settled.valid.step taken⟩

/-- Deleting a configured VIP returns, and the VIP is gone. -/
theorem delVip (settled : lb.Settled folly) {vip : VipKey} (member : vip ∈ lb.vips) :
    (∀ env, ∃ after, lb.perform folly env (.delVip vip) = some after) ∧
      ∀ after, Step folly lb (.delVip vip) after → after.vips = lb.vips.erase vip := by
  obtain ⟨forwards, addr, parsed⟩ := settled.valid vip member
  obtain ⟨current, found⟩ := exists_lookup_of_mem member
  constructor
  · intro env
    simp only [perform, KatranLb.delVip, forwards, found, Bool.false_eq_true, ↓reduceIte]
    split
    · exact ⟨_, rfl⟩
    · rw [updateVipMap, parsed]
      exact ⟨_, rfl⟩
  · rintro after ⟨env, performed⟩
    obtain ⟨⟨done, _⟩, returned, rfl⟩ := Option.map_eq_some_iff.mp performed
    simp only [KatranLb.delVip, forwards, found, Bool.false_eq_true, ↓reduceIte] at returned
    have kept := foldl_releaseNum_sameRest lb (current.getReals env.listing)
    split at returned
    · obtain ⟨rfl, rfl⟩ := Prod.mk.inj (Option.some.inj returned)
      change ((current.getReals env.listing).foldl releaseNum lb).vips.erase vip = _
      rw [kept.vips]
    · obtain ⟨updated, written, same⟩ := Option.map_eq_some_iff.mp returned
      obtain ⟨rfl, rfl⟩ := Prod.mk.inj same
      change updated.2.vips.erase vip = _
      rw [(updateVipMap_sameTables written).vips]
      change ((current.getReals env.listing).foldl releaseNum lb).vips.erase vip = _
      rw [kept.vips]

/-- The configured VIPs can be deleted in any order, and then none is left. -/
theorem deleteAll {keys : List VipKey} (settled : lb.Settled folly)
    (all : keys.Perm lb.vips.keys) :
    (∃ after, Run (Step folly) lb (keys.map Op.delVip) after) ∧
      ∀ after, Run (Step folly) lb (keys.map Op.delVip) after →
        after.Settled folly ∧ after.vips = ∅ := by
  induction keys generalizing lb with
  | nil =>
      have empty : lb.vips = ∅ := by
        apply eq_empty_of_forall_notMem
        intro vip member
        rw [AList.mem_keys, ← all.mem_iff] at member
        cases member
      refine ⟨⟨lb, .nil lb⟩, ?_⟩
      intro after run
      cases run
      exact ⟨settled, empty⟩
  | cons vip keys ih =>
      have member : vip ∈ lb.vips := AList.mem_keys.mpr (all.mem_iff.mp List.mem_cons_self)
      obtain ⟨returns, gone⟩ := settled.delVip member
      have ofVips : (Op.delVip vip).OfVips := trivial
      have once : lb.CountsOnce folly (.delVip vip) := trivial
      have rest : ∀ after, Step folly lb (.delVip vip) after → keys.Perm after.vips.keys := by
        intro after taken
        rw [gone after taken, AList.keys_erase]
        have erased := all.erase vip
        rwa [List.erase_cons_head] at erased
      constructor
      · obtain ⟨next, performed⟩ := returns (.plain 0)
        have taken : Step folly lb (.delVip vip) next := ⟨_, performed⟩
        obtain ⟨⟨after, run⟩, _⟩ := ih (settled.step ofVips once taken) (rest next taken)
        exact ⟨after, .cons taken run⟩
      · intro after run
        cases run with
        | cons taken later =>
            exact (ih (settled.step ofVips once taken) (rest _ taken)).2 after later

end Settled

/-- **No leaked real.** After any run of the VIP operations whose additions list no
new address twice and whose removals list an address of the VIP twice only if
nobody else holds it, the configured VIPs can be deleted in any order, and then
no real is known and every number is free. -/
theorem no_leaked_real {folly : Folly} {config : KatranConfig} {features : KatranFeatures}
    {kernel : ConfigMaps} {ops : List Op} {lb : KatranLb} {keys : List VipKey}
    (run : Run (fun before op after => Step folly before op after ∧ op.OfVips ∧
      before.CountsOnce folly op) (KatranLb.new config features kernel) ops lb)
    (all : keys.Perm lb.vips.keys) :
    (∃ after, Run (Step folly) lb (keys.map Op.delVip) after) ∧
      ∀ after, Run (Step folly) lb (keys.map Op.delVip) after →
        after.vips = ∅ ∧ after.reals = ∅ ∧ after.numToReals = ∅ ∧
          after.realNums.Perm (List.range config.maxReals.toNat) := by
  have reached : lb.Settled folly ∧ lb.config = config := by
    apply Run.invariant (fun lb => lb.Settled folly ∧ lb.config = config) _ run
    · exact ⟨.new config features kernel, rfl⟩
    · rintro before op after ⟨settled, same⟩ ⟨taken, ofVips, once⟩
      obtain ⟨_, _, held⟩ := settled.held
      exact ⟨settled.step ofVips once taken, (held.pools.step taken).2.trans same⟩
  obtain ⟨settled, same⟩ := reached
  obtain ⟨returns, settles⟩ := settled.deleteAll all
  refine ⟨returns, ?_⟩
  intro after deleted
  obtain ⟨final, empty⟩ := settles after deleted
  obtain ⟨_, _, held⟩ := settled.held
  obtain ⟨_, _, finalHeld⟩ := final.held
  have unchanged : after.config = config := (held.pools.run deleted).2.trans same
  obtain ⟨noReals, noNames, full⟩ := final.exactly.full finalHeld empty
  rw [unchanged] at full
  exact ⟨empty, noReals, noNames, full⟩

/-- Make calls one after the other that all keep the counts exact. -/
def countedAll (lb : KatranLb) (ops : List Op) : Option KatranLb :=
  Run.execAll (fun lb op =>
    if op.OfVips ∧ lb.CountsOnce .small op then lb.perform .small (.plain 20) op else none) lb ops

private theorem run_of_countedAll {lb after : KatranLb} {ops : List Op}
    (counted : lb.countedAll ops = some after) :
    Run (fun before op after => Step .small before op after ∧ op.OfVips ∧
      before.CountsOnce .small op) lb ops after := by
  apply Run.of_execAll _ counted
  intro before op next computed
  split at computed
  next checked => exact ⟨⟨.plain 20, computed⟩, checked⟩
  next => cases computed

/-- Three free numbers, a batch with an invalid address, a known address listed
twice and more new addresses than there are numbers. -/
def exhausting : List Op :=
  [.addVip ⟨"10.200.1.1", 80, 6⟩ 0, .addVip ⟨"10.200.1.2", 80, 6⟩ 0,
    .addRealForVip ⟨"10.0.0.1", 1⟩ ⟨"10.200.1.1", 80, 6⟩,
    .modifyRealsForVip .add [⟨"10.0.0.1", 1⟩, ⟨"nowhere", 1⟩, ⟨"10.0.0.1", 2⟩, ⟨"10.0.0.2", 1⟩,
      ⟨"10.0.0.3", 1⟩, ⟨"10.0.0.4", 1⟩, ⟨"10.0.0.4", 1⟩] ⟨"10.200.1.2", 80, 6⟩,
    .delRealForVip ⟨"10.0.0.1", 1⟩ ⟨"10.200.1.1", 80, 6⟩]

private theorem exhausting_returns : (tiny.countedAll exhausting).isSome = true := by
  decide +kernel

/-- A balancer that has given out all its numbers has them back after its VIPs are removed. -/
theorem no_leaked_real_exhausting :
    ∃ lb after, tiny.countedAll exhausting = some lb ∧ lb.realNums = [] ∧
      Run (Step .small) lb [.delVip ⟨"10.200.1.2", 80, 6⟩, .delVip ⟨"10.200.1.1", 80, 6⟩] after ∧
      after.reals = ∅ ∧ after.numToReals = ∅ ∧ after.realNums.Perm (List.range 3) := by
  have returned := (Option.some_get exhausting_returns).symm
  have all : [⟨"10.200.1.2", 80, 6⟩, ⟨"10.200.1.1", 80, 6⟩].Perm
      ((tiny.countedAll exhausting).get exhausting_returns).vips.keys := by
    decide +kernel
  obtain ⟨⟨after, deleted⟩, returns⟩ := no_leaked_real (run_of_countedAll returned) all
  exact ⟨_, after, returned, by decide +kernel, deleted, (returns after deleted).2⟩

/-- A VIP is given a new address, listed twice, and deleted. -/
def addedTwice : List Op :=
  [.addVip ⟨"10.200.1.1", 80, 6⟩ 0,
    .modifyRealsForVip .add [⟨"10.0.0.1", 1⟩, ⟨"10.0.0.1", 1⟩] ⟨"10.200.1.1", 80, 6⟩,
    .delVip ⟨"10.200.1.1", 80, 6⟩]

private theorem addedTwice_returns :
    (tiny.performAll .small (.plain 20) addedTwice).isSome = true := by
  decide +kernel

/-- The only VIP is deleted, and its real is still known and keeps its number. -/
theorem leaked_after_repeated_addition :
    ∃ lb, Run (Step .small) tiny addedTwice lb ∧ lb.vips.keys = [] ∧ lb.reals ≠ ∅ ∧
      ¬ lb.realNums.Perm (List.range 3) := by
  have returned := (Option.some_get addedTwice_returns).symm
  refine ⟨_, run_of_performAll returned, by decide +kernel, ?_, by decide +kernel⟩
  intro empty
  have none := congrArg AList.keys empty
  revert none
  decide +kernel

end KatranLb

end Katran
