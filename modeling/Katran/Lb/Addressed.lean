import Katran.Lb.HandedOut
import Katran.Lb.QuicMap
import Katran.Lb.SrcRules
import Katran.Lb.Written

/-! # The addresses that calls write

Reals of VIPs, QUIC reals and destinations of source routing rules get their numbers from
one pool. The address of a real is written when it gets its number, and never again, so a
call changes the addresses of the numbers that it hands out and of no others
(`ReliableStep.onlyHanded`). Which address gets which number is known before the call
(`handsOut`).
-/

namespace Katran

open Foundation UnorderedMap

namespace KatranLb

variable {folly : Folly} {env : Env} {lb after : KatranLb}

/-- Addresses are written under the numbers that they get, and nowhere else. -/
def OnlyHanded (handed : List (Nat × IPAddress)) (before after : Nat → RealDefinition) : Prop :=
  ∀ pos, after pos = before pos ∨ ∃ addr, (pos, addr) ∈ handed ∧ after pos = parseAddrToBe addr

namespace OnlyHanded

variable {handed : List (Nat × IPAddress)} {before middle last : Nat → RealDefinition}

private theorem of_eq (same : last = before) : OnlyHanded handed before last :=
  fun pos => .inl (congrFun same pos)

/-- A number is handed out before the others. -/
theorem cons {num : Nat} {addr : IPAddress}
    (written : middle = Function.update before num (parseAddrToBe addr))
    (later : OnlyHanded handed middle last) : OnlyHanded ((num, addr) :: handed) before last := by
  intro pos
  rcases later pos with same | ⟨other, member, addressed⟩
  · rw [same, written]
    by_cases first : pos = num
    · subst first
      exact .inr ⟨addr, List.mem_cons_self, Function.update_self ..⟩
    · exact .inl (Function.update_of_ne first ..)
  · exact .inr ⟨other, List.mem_cons_of_mem _ member, addressed⟩

end OnlyHanded

/-! ## QUIC reals -/

/-- The addresses of a batch of QUIC reals that are asked a number for. -/
def quicListed (folly : Folly) (mapped : UnorderedMap IPAddress UInt32) (reals : List QuicReal) :
    List NewReal :=
  (reals.filter fun real => real.id ≤ kMaxQuicId ∧
    ∀ raddr ∈ folly.parse real.address, raddr.key ∉ mapped).map fun real => ⟨real.address, 0⟩

/-- An address without a number, when none is free, gets none. -/
theorem handedOut_cons_of_invalid {known : List IPAddress} {free : List Nat} {real : NewReal}
    {reals : List NewReal} (invalid : folly.parse real.address = none) :
    handedOut folly known free (real :: reals) = handedOut folly known free reals := by
  rw [handedOut, invalid]

private theorem handedOut_cons_of_known {known : List IPAddress} {free : List Nat} {real : NewReal}
    {reals : List NewReal} {raddr : IPAddress} (parsed : folly.parse real.address = some raddr)
    (listed : raddr.key ∈ known ∨ free = []) :
    handedOut folly known free (real :: reals) = handedOut folly known free reals := by
  rw [handedOut, parsed]
  dsimp only
  by_cases member : raddr.key ∈ known
  · rw [if_pos member]
  · obtain rfl := listed.resolve_left member
    rw [if_neg member]

private theorem handedOut_cons_of_new {known : List IPAddress} {num : Nat} {free : List Nat}
    {real : NewReal}
    {reals : List NewReal} {raddr : IPAddress} (parsed : folly.parse real.address = some raddr)
    (absent : raddr.key ∉ known) :
    handedOut folly known (num :: free) (real :: reals) =
      (num, raddr) :: handedOut folly (raddr.key :: known) free reals := by
  rw [handedOut, parsed]
  dsimp only
  rw [if_neg absent]

/-- An addition of a QUIC real either hands out no number, and writes nothing, or hands out
the first free one. -/
theorem modifyQuicReal_hands (reliable : env.Reliable) (sound : lb.PoolsSound)
    (live : lb.config.testing = false) (toUpdate : UnorderedMap UInt32 Nat) (real : QuicReal) :
    let after := (modifyQuicReal folly env .add (lb, toUpdate) real).1
    (after.kernel.reals = lb.kernel.reals ∧ after.realNums = lb.realNums ∧
      (∀ key, key ∈ after.reals ↔ key ∈ lb.reals) ∧
      (∀ key, key ∈ lb.quicMapping → key ∈ after.quicMapping) ∧
      (∀ key, key ∈ after.quicMapping → key ∈ lb.quicMapping ∨ key ∈ lb.reals) ∧
      ∀ raddr, folly.parse real.address = some raddr → real.id ≤ kMaxQuicId →
        raddr.key ∈ lb.quicMapping ∨ raddr.key ∈ lb.reals ∨ lb.realNums = []) ∨
    ∃ raddr num free, folly.parse real.address = some raddr ∧ real.id ≤ kMaxQuicId ∧
      raddr.key ∉ lb.quicMapping ∧ raddr.key ∉ lb.reals ∧ lb.realNums = num :: free ∧
      after.kernel.reals = Function.update lb.kernel.reals num (parseAddrToBe raddr) ∧
      after.realNums = free ∧ (∀ key, key ∈ after.reals ↔ key = raddr.key ∨ key ∈ lb.reals) ∧
      ∀ key, key ∈ after.quicMapping ↔ key = raddr.key ∨ key ∈ lb.quicMapping := by
  dsimp only
  by_cases refused : folly.parse real.address = none ∨ real.id > kMaxQuicId
  · obtain ⟨tables, kernel, _⟩ := modifyQuicReal_of_refused env lb .add toUpdate refused
    rw [kernel, tables.realNums, tables.reals, tables.quicMapping]
    refine .inl ⟨rfl, rfl, fun _ => Iff.rfl, fun _ => id, fun _ => .inl, ?_⟩
    intro raddr parsed low
    rcases refused with invalid | high
    · cases invalid.symm.trans parsed
    · exact (UInt32.not_lt.mpr low high).elim
  rw [not_or] at refused
  obtain ⟨raddr, parsed⟩ := Option.ne_none_iff_exists'.mp refused.1
  have low : real.id ≤ kMaxQuicId := UInt32.not_lt.mp refused.2
  rcases modifyQuicReal_add sound env toUpdate parsed refused.2 with
    ⟨skipped, reason⟩ | ⟨unmapped, num, taken, added⟩
  · rw [skipped]
    refine .inl ⟨rfl, rfl, fun _ => Iff.rfl, fun _ => id, fun _ => .inl, ?_⟩
    intro other alsoParsed _
    obtain rfl := Option.some.inj (parsed.symm.trans alsoParsed)
    rcases reason with held | ⟨_, empty⟩
    · exact .inl held
    · exact .inr (.inr empty)
  rw [added]
  dsimp only
  rcases increaseRefCountForReal_hands reliable live raddr with
    ⟨skipped, kernel, nums, pool⟩ | ⟨absent, first, free, queue, kernel, nums, pool⟩
  · -- An address that gets a number while none is handed out has one.
    have numbered := RefPool.numOf_acquire taken raddr.key
    rw [if_pos rfl, ← increaseRefCountForReal_realPool env lb raddr, pool] at numbered
    have member : raddr.key ∈ lb.reals := (mem_reals_iff _ _).mpr ⟨num, numbered⟩
    refine .inl ⟨kernel, nums, ?_, ?_, ?_, ?_⟩
    · intro key
      rw [mem_reals_iff, mem_reals_iff, pool]
    · intro key held
      exact (AList.mem_insert _).mpr (.inr held)
    · intro key held
      rcases (AList.mem_insert _).mp held with rfl | earlier
      · exact .inr member
      · exact .inl earlier
    · intro other alsoParsed _
      obtain rfl := Option.some.inj (parsed.symm.trans alsoParsed)
      exact .inr (.inl member)
  · refine .inr ⟨raddr, first, free, parsed, low, unmapped, absent, queue, kernel, nums, ?_, ?_⟩
    · intro key
      rw [mem_reals_iff, mem_reals_iff, pool]
      by_cases same : key = raddr.key
      · simp only [same, ↓reduceIte, Option.some.injEq, exists_eq', true_or]
      · simp only [same, ↓reduceIte, false_or]
    · intro key
      exact AList.mem_insert _

private theorem foldl_modifyQuicReal_onlyHanded (reliable : env.Reliable)
    {mapped : UnorderedMap IPAddress UInt32} {known : List IPAddress}
    {toUpdate : UnorderedMap UInt32 Nat} (sound : lb.PoolsSound) (live : lb.config.testing = false)
    (tracks : ∀ key, key ∈ known ↔ key ∈ lb.reals)
    (still : ∀ key, key ∈ mapped → key ∈ lb.quicMapping)
    (fresh : ∀ key, key ∈ lb.quicMapping → key ∈ mapped ∨ key ∈ lb.reals) (reals : List QuicReal) :
    OnlyHanded (handedOut folly known lb.realNums (quicListed folly mapped reals)) lb.kernel.reals
      (reals.foldl (modifyQuicReal folly env .add) (lb, toUpdate)).1.kernel.reals := by
  induction reals generalizing lb known toUpdate with
  | nil => exact .of_eq rfl
  | cons real reals ih =>
      have frame := modifyQuicReal_frame folly env .add (lb, toUpdate) real
      have next := sound.frame frame
      have running : (modifyQuicReal folly env .add (lb, toUpdate) real).1.config.testing =
          false := by
        rw [frame.config]
        exact live
      rw [List.foldl_cons, quicListed, List.filter_cons]
      rcases modifyQuicReal_hands reliable sound live toUpdate real with
        ⟨kernel, nums, held, kept, grown, skipped⟩ |
        ⟨raddr, num, free, parsed, low, unmapped, absent, queue, kernel, nums, held, grown⟩
      · have later : OnlyHanded
            (handedOut folly known lb.realNums (quicListed folly mapped reals)) lb.kernel.reals
            (reals.foldl (modifyQuicReal folly env .add)
              (modifyQuicReal folly env .add (lb, toUpdate) real)).1.kernel.reals := by
          rw [← nums, ← kernel]
          apply ih next running
          · intro key
            exact (tracks key).trans (held key).symm
          · intro key member
            exact kept key (still key member)
          · intro key member
            rcases grown key member with earlier | earlier
            · exact (fresh key earlier).imp_right (held key).mpr
            · exact .inr ((held key).mpr earlier)
        split
        next listed =>
          have conditions := of_decide_eq_true listed
          rw [List.map_cons]
          cases parsed : folly.parse real.address with
          | none =>
              rw [handedOut_cons_of_invalid parsed]
              exact later
          | some raddr =>
              rw [handedOut_cons_of_known parsed]
              · exact later
              · rcases skipped raddr parsed conditions.1 with earlier | known | empty
                · have either := fresh _ earlier
                  exact .inl ((tracks _).mpr (either.resolve_left (conditions.2 raddr parsed)))
                · exact .inl ((tracks _).mpr known)
                · exact .inr empty
        next => exact later
      · have listed : decide (real.id ≤ kMaxQuicId ∧
            ∀ raddr ∈ folly.parse real.address, raddr.key ∉ mapped) = true := by
          apply decide_eq_true
          refine ⟨low, ?_⟩
          intro other alsoParsed member
          obtain rfl := Option.some.inj (parsed.symm.trans alsoParsed)
          exact unmapped (still _ member)
        rw [if_pos listed, List.map_cons, queue,
          handedOut_cons_of_new parsed (absent ∘ (tracks _).mp)]
        apply OnlyHanded.cons kernel
        rw [← nums]
        apply ih next running
        · intro key
          rw [List.mem_cons, held, tracks]
        · intro key member
          exact (grown key).mpr (.inr (still key member))
        · intro key member
          rcases (grown key).mp member with rfl | earlier
          · exact .inr ((held _).mpr (.inl rfl))
          · exact (fresh key earlier).imp_right fun other => (held key).mpr (.inr other)

private theorem modifyQuicReal_del_reals (toUpdate : UnorderedMap UInt32 Nat) (lb : KatranLb)
    (real : QuicReal) :
    (modifyQuicReal folly env .del (lb, toUpdate) real).1.kernel = lb.kernel := by
  unfold modifyQuicReal
  dsimp only
  split
  · exact validateAddress_kernel folly lb real.address false
  · split
    · rfl
    · split
      · exact decreaseRefCountForReal_kernel lb _
      · rfl

private theorem foldl_modifyQuicReal_del_reals (reals : List QuicReal)
    (state : KatranLb × UnorderedMap UInt32 Nat) :
    (reals.foldl (modifyQuicReal folly env .del) state).1.kernel = state.1.kernel := by
  induction reals generalizing state with
  | nil => rfl
  | cons real reals ih =>
      rw [List.foldl_cons, ih]
      exact modifyQuicReal_del_reals state.2 state.1 real

/-! ## Destinations of rules -/

/-- A rule that is installed writes the reals that its destination does. -/
theorem installRule_reals (env : Env) (dst : IPAddress) (src : CIDRNetwork) (lb : KatranLb) :
    (lb.installRule env dst src).kernel.reals =
      (lb.increaseRefCountForReal env dst).2.kernel.reals := by
  unfold installRule
  dsimp only
  split
  · rfl
  · exact modifyLpmSrcRule_reals env _ .add src _

/-- The networks of a call get one number between them. -/
theorem installRules_onlyHanded (reliable : env.Reliable) {dst : IPAddress} {listed : NewReal}
    (parsed : folly.parse listed.address = some dst) {known : List IPAddress}
    (live : lb.config.testing = false) (tracks : ∀ key, key ∈ known ↔ key ∈ lb.reals)
    (srcs : List CIDRNetwork) :
    OnlyHanded (handedOut folly known lb.realNums [listed]) lb.kernel.reals
      (installRules env dst srcs lb).2.1.kernel.reals := by
  induction srcs generalizing lb known with
  | nil => exact .of_eq rfl
  | cons src srcs ih =>
      have tables := installRule_tables env dst src lb
      have reals := installRule_reals env dst src lb
      have running : (lb.installRule env dst src).config.testing = false := by
        rw [installRule_config]
        exact live
      have held : (lb.installRule env dst src).reals =
          (lb.increaseRefCountForReal env dst).2.reals :=
        tables.reals
      have queued : (lb.installRule env dst src).realNums =
          (lb.increaseRefCountForReal env dst).2.realNums := tables.realNums
      rw [installRules_cons]
      split
      · exact .of_eq rfl
      rcases increaseRefCountForReal_hands reliable live dst with
        ⟨skipped, kernel, nums, pool⟩ | ⟨absent, num, free, queue, kernel, nums, pool⟩
      · split
        · exact .of_eq kernel
        · rw [← kernel, ← reals, ← nums, ← queued]
          apply ih running
          intro key
          rw [held, tracks, mem_reals_iff, mem_reals_iff, pool]
      · rw [queue, handedOut_cons_of_new parsed (absent ∘ (tracks _).mp)]
        split
        · exact .cons kernel (.of_eq rfl)
        · apply OnlyHanded.cons (reals.trans kernel)
          have later : OnlyHanded (handedOut folly (dst.key :: known) free [listed])
              (lb.installRule env dst src).kernel.reals
              (installRules env dst srcs (lb.installRule env dst src)).2.1.kernel.reals := by
            rw [← nums, ← queued]
            apply ih running
            intro key
            rw [held, List.mem_cons, tracks, mem_reals_iff, mem_reals_iff, pool]
            by_cases same : key = dst.key
            · simp only [same, ↓reduceIte, Option.some.injEq, exists_eq', true_or]
            · simp only [same, ↓reduceIte, false_or]
          rw [handedOut_cons_of_known parsed (.inl List.mem_cons_self)] at later
          exact later

private theorem removeRule_reals (env : Env) (lb : KatranLb) (src : CIDRNetwork) :
    (lb.removeRule env src).kernel.reals = lb.kernel.reals := by
  unfold removeRule
  split
  · rfl
  next rule found =>
    dsimp only
    split
    · rw [decreaseRefCountForReal_kernel, realOfNum_kernel]
    · rw [modifyLpmSrcRule_reals, decreaseRefCountForReal_kernel, realOfNum_kernel]

private theorem foldl_removeRule_reals (env : Env) (srcs : List CIDRNetwork) (lb : KatranLb) :
    (srcs.foldl (removeRule env) lb).kernel.reals = lb.kernel.reals := by
  induction srcs generalizing lb with
  | nil => rfl
  | cons src srcs ih => rw [List.foldl_cons, ih, removeRule_reals]

private theorem delSrcRoutingRuleCidr_reals (env : Env) (lb : KatranLb) (srcs : List CIDRNetwork) :
    (lb.delSrcRoutingRuleCidr env srcs).2.kernel.reals = lb.kernel.reals := by
  unfold delSrcRoutingRuleCidr
  split
  · rfl
  · exact foldl_removeRule_reals env srcs lb

private theorem foldlM_clearRule_reals {entries : List (Sigma fun _ : CIDRNetwork => SrcRule)}
    (looped : entries.foldlM (fun lb entry => clearRule env lb entry.2) lb = some after) :
    after.kernel.reals = lb.kernel.reals := by
  induction entries generalizing lb with
  | nil =>
      obtain rfl := Option.some.inj looped
      rfl
  | cons entry entries ih =>
      obtain ⟨next, stepped, rest⟩ := Option.bind_eq_some_iff.mp looped
      rw [ih rest]
      obtain ⟨dst, _, rfl⟩ := Option.map_eq_some_iff.mp stepped
      dsimp only
      split
      · rw [decreaseRefCountForReal_kernel]
      · rw [modifyLpmSrcRule_reals, decreaseRefCountForReal_kernel]

/-! ## All calls -/

/-- Rules need a number for their destination, unless there is none to install or the table
is full. -/
def ruleListed (lb : KatranLb) : List CIDRNetwork → String → List NewReal
  | [], _ => []
  | _ :: _, dst =>
      if lb.srcRoutingDisabled ∨
        lb.lpmSrcMapping.entries.length + 1 > lb.config.maxLpmSrcSize.toNat then []
      else [⟨dst, 0⟩]

/-- The addresses for which a call needs numbers. -/
def listed (folly : Folly) (lb : KatranLb) : Op → List NewReal
  | .addRealForVip real vip => if vip ∈ lb.vips then [real] else []
  | .modifyRealsForVip .add reals vip => if vip ∈ lb.vips then reals else []
  | .modifyQuicRealsMapping .add reals => quicListed folly lb.quicMapping reals
  | .addSrcRoutingRule srcs dst => lb.ruleListed (lb.networksFor folly srcs) dst
  | .addSrcRoutingRuleCidr srcs dst => lb.ruleListed srcs dst
  | _ => []

/-- The numbers that a call hands out, with the addresses that get them. -/
def handsOut (folly : Folly) (lb : KatranLb) (op : Op) : List (Nat × IPAddress) :=
  if lb.config.disableForwarding then []
  else handedOut folly lb.reals.keys lb.realNums (lb.listed folly op)

private theorem modifyRealsForVip_onlyHanded {action : ModifyAction} {reals : List NewReal}
    {vip : VipKey} {done : Bool} (reliable : env.Reliable) (live : lb.config.testing = false)
    (returned : lb.modifyRealsForVip folly env action reals vip = some (done, after)) :
    OnlyHanded (lb.handsOut folly (.modifyRealsForVip action reals vip)) lb.kernel.reals
      after.kernel.reals := by
  rcases modifyRealsForVip_cases returned with
    ⟨_, rfl, _⟩ | ⟨_, forwards, current, chPositions, updated, found, ring, _⟩
  · exact .of_eq rfl
  have kernel : after.kernel.reals =
      (lb.modifyRealsBatch folly env action reals current).lb.kernel.reals := by
    rw [modifyRealsForVip_kernel reliable live forwards found ring returned]
  rw [kernel]
  cases action with
  | del => exact .of_eq (by rw [modifyRealsBatch, foldl_modifyReal_del_kernel])
  | add =>
      have hands : Hands
          { lb := lb, curReals := current.getReals env.listing, ureals := [], owners := [] }
          (lb.modifyRealsBatch folly env .add reals current)
          (handedOut folly lb.reals.keys lb.realNums reals) :=
        foldl_modifyReal_hands reliable live reals fun key => Iff.rfl
      rw [handsOut, forwards, if_neg Bool.false_ne_true, listed, if_pos (mem_of_lookup found)]
      exact hands.written

private theorem modifyQuicRealsMapping_onlyHanded (reliable : env.Reliable) (sound : lb.PoolsSound)
    (live : lb.config.testing = false) (action : ModifyAction) (reals : List QuicReal) :
    OnlyHanded (lb.handsOut folly (.modifyQuicRealsMapping action reals)) lb.kernel.reals
      (lb.modifyQuicRealsMapping folly env action reals).kernel.reals := by
  unfold modifyQuicRealsMapping
  split
  · exact .of_eq rfl
  next forwards =>
    have looped : OnlyHanded (lb.handsOut folly (.modifyQuicRealsMapping action reals))
        lb.kernel.reals
        (reals.foldl (modifyQuicReal folly env action) (lb, ∅)).1.kernel.reals := by
      cases action with
      | del => exact .of_eq (by rw [foldl_modifyQuicReal_del_reals])
      | add =>
          rw [handsOut, if_neg forwards, listed]
          exact foldl_modifyQuicReal_onlyHanded reliable sound live (fun _ => Iff.rfl) (fun _ => id)
            (fun _ => .inl) reals
    dsimp only
    split
    · exact looped
    · rw [foldl_writeQuicMapping_reals]
      exact looped

private theorem addSrcRoutingRuleCidr_onlyHanded (reliable : env.Reliable)
    (live : lb.config.testing = false) (srcs : List CIDRNetwork) (dst : String) :
    OnlyHanded (lb.handsOut folly (.addSrcRoutingRuleCidr srcs dst)) lb.kernel.reals
      (lb.addSrcRoutingRuleCidr folly env srcs dst).2.1.kernel.reals := by
  unfold addSrcRoutingRuleCidr
  split
  · exact .of_eq rfl
  next enabled =>
    split
    · exact .of_eq (by rw [validateAddress_kernel])
    next addr parsed =>
      cases srcs with
      | nil => exact .of_eq rfl
      | cons src srcs =>
          by_cases full : lb.lpmSrcMapping.entries.length + 1 > lb.config.maxLpmSrcSize.toNat
          · rw [installRules_cons, if_pos full]
            exact .of_eq rfl
          · have forwards : ¬ lb.config.disableForwarding = true := by
              intro off
              rw [srcRoutingDisabled, off, Bool.true_or] at enabled
              exact enabled rfl
            rw [handsOut, if_neg forwards, listed, ruleListed, if_neg (not_or.mpr ⟨enabled, full⟩)]
            exact installRules_onlyHanded reliable parsed live (fun _ => Iff.rfl) (src :: srcs)

/-- Strings are installed as the networks that they name. -/
theorem addSrcRoutingRule_eq (folly : Folly) (env : Env) (srcs : List String) (dst : String)
    (enabled : lb.srcRoutingDisabled = false) {addr : IPAddress}
    (parsed : folly.parse dst = some addr) :
    ∃ valid, SameTables lb valid ∧ valid.kernel = lb.kernel ∧
      (lb.addSrcRoutingRule folly env srcs dst).2.1 =
        (valid.addSrcRoutingRuleCidr folly env (lb.networksFor folly srcs) dst).2.1 := by
  have networks := collectNetworks_networks folly srcs.length srcs 0 [] enabled
  rw [List.nil_append, List.length_nil, Nat.add_zero] at networks
  refine ⟨(collectNetworks folly srcs.length srcs 0 [] lb).2.2,
    collectNetworks_sameTables folly srcs.length srcs 0 [] lb,
    collectNetworks_kernel folly srcs.length srcs 0 [] lb, ?_⟩
  simp only [addSrcRoutingRule, enabled, parsed, Bool.false_eq_true, ↓reduceIte]
  rw [networks, networksFor]

private theorem handsOut_rule_congr {valid : KatranLb} (tables : SameTables lb valid)
    (srcs : List CIDRNetwork) (dst : String) :
    valid.handsOut folly (.addSrcRoutingRuleCidr srcs dst) =
      lb.handsOut folly (.addSrcRoutingRuleCidr srcs dst) := by
  unfold handsOut listed
  cases srcs with
  | nil =>
      rw [tables.config, tables.reals, tables.realNums]
      rfl
  | cons src srcs =>
      unfold ruleListed srcRoutingDisabled
      rw [tables.config, tables.features, tables.reals, tables.realNums, tables.lpmSrcMapping]

private theorem addSrcRoutingRule_onlyHanded (reliable : env.Reliable)
    (live : lb.config.testing = false) (srcs : List String) (dst : String) :
    OnlyHanded (lb.handsOut folly (.addSrcRoutingRule srcs dst)) lb.kernel.reals
      (lb.addSrcRoutingRule folly env srcs dst).2.1.kernel.reals := by
  by_cases disabled : lb.srcRoutingDisabled = true
  · exact .of_eq (by rw [addSrcRoutingRule, if_pos disabled])
  cases parsed : folly.parse dst with
  | none =>
      apply OnlyHanded.of_eq
      rw [addSrcRoutingRule, if_neg disabled, parsed]
      exact congrArg ConfigMaps.reals (validateAddress_kernel folly lb dst false)
  | some addr =>
      obtain ⟨valid, tables, kernel, same⟩ := addSrcRoutingRule_eq folly env srcs dst
        (Bool.eq_false_of_not_eq_true disabled) parsed
      have running : valid.config.testing = false := by
        rw [tables.config]
        exact live
      have handed : OnlyHanded
          (valid.handsOut folly (.addSrcRoutingRuleCidr (lb.networksFor folly srcs) dst)) _ _ :=
        addSrcRoutingRuleCidr_onlyHanded reliable running (lb.networksFor folly srcs) dst
      rw [handsOut_rule_congr tables, kernel, ← same] at handed
      exact handed

/-- **Addresses are written when they get a number.** A call changes the addresses of the
numbers that it hands out, and no others. -/
theorem ReliableStep.onlyHanded {op : Op} (sound : lb.PoolsSound) (live : lb.config.testing = false)
    (taken : ReliableStep folly lb op after) :
    OnlyHanded (lb.handsOut folly op) lb.kernel.reals after.kernel.reals := by
  obtain ⟨env, reliable, performed⟩ := taken
  cases op with
  | addVip vip flags =>
      obtain ⟨⟨done, _⟩, returned, rfl⟩ := Option.map_eq_some_iff.mp performed
      exact .of_eq (by rw [addVip_onlyVips returned])
  | delVip vip =>
      obtain ⟨⟨done, _⟩, returned, rfl⟩ := Option.map_eq_some_iff.mp performed
      exact .of_eq (by rw [delVip_onlyVips returned])
  | modifyVip vip flag set =>
      obtain ⟨⟨done, _⟩, returned, rfl⟩ := Option.map_eq_some_iff.mp performed
      exact .of_eq (by rw [modifyVip_onlyVips returned])
  | addRealForVip real vip =>
      obtain ⟨⟨done, _⟩, returned, rfl⟩ := Option.map_eq_some_iff.mp performed
      rw [addRealForVip_eq] at returned
      exact modifyRealsForVip_onlyHanded reliable live returned
  | delRealForVip real vip =>
      obtain ⟨⟨done, _⟩, returned, rfl⟩ := Option.map_eq_some_iff.mp performed
      rw [delRealForVip_eq] at returned
      exact modifyRealsForVip_onlyHanded reliable live returned
  | modifyRealsForVip action reals vip =>
      obtain ⟨⟨done, _⟩, returned, rfl⟩ := Option.map_eq_some_iff.mp performed
      exact modifyRealsForVip_onlyHanded reliable live returned
  | modifyQuicRealsMapping action reals =>
      obtain rfl := Option.some.inj performed
      exact modifyQuicRealsMapping_onlyHanded reliable sound live action reals
  | addSrcRoutingRule srcs dst =>
      obtain rfl := Option.some.inj performed
      exact addSrcRoutingRule_onlyHanded reliable live srcs dst
  | addSrcRoutingRuleCidr srcs dst =>
      obtain rfl := Option.some.inj performed
      exact addSrcRoutingRuleCidr_onlyHanded reliable live srcs dst
  | delSrcRoutingRule srcs =>
      obtain rfl := Option.some.inj performed
      apply OnlyHanded.of_eq
      unfold delSrcRoutingRule
      split
      · rfl
      · exact delSrcRoutingRuleCidr_reals env lb _
  | delSrcRoutingRuleCidr srcs =>
      obtain rfl := Option.some.inj performed
      exact .of_eq (delSrcRoutingRuleCidr_reals env lb srcs)
  | clearAllSrcRoutingRules =>
      obtain ⟨⟨done, _⟩, returned, rfl⟩ := Option.map_eq_some_iff.mp performed
      rcases clearAllSrcRoutingRules_cases returned with rfl | ⟨cleared, rfl, looped⟩
      · exact .of_eq rfl
      · have same : cleared.kernel.reals = lb.kernel.reals := foldlM_clearRule_reals looped
        exact .of_eq same

end KatranLb

end Katran
