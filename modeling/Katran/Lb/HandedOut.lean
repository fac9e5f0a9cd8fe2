import Katran.Lb.Kernel
import Katran.Lb.Reports

/-! # The numbers that a batch hands out

A batch of additions gives a number to every valid address that is new to the
balancer, as long as there are free numbers, and writes the address under its number
in the kernel. Which address gets which number is known before the call
(`handedOut`). No other operation on VIPs writes an address.
-/

namespace Katran

open Foundation UnorderedMap

namespace KatranLb

variable {folly : Folly} {env : Env}

/-- The numbers that a batch of additions hands out, with the addresses that get them. -/
def handedOut (folly : Folly) : (known : List IPAddress) → (free : List Nat) → List NewReal →
    List (Nat × IPAddress)
  | _, _, [] => []
  | known, free, real :: reals =>
      match folly.parse real.address with
      | none => handedOut folly known free reals
      | some raddr =>
          if raddr.key ∈ known then handedOut folly known free reals
          else
            match free with
            | [] => handedOut folly known [] reals
            | num :: free => (num, raddr) :: handedOut folly (raddr.key :: known) free reals

/-- An address that gets a number is accepted. -/
theorem accepted_of_handedOut {known : List IPAddress} {free : List Nat} {reals : List NewReal}
    {num : Nat} {addr : IPAddress} (member : (num, addr) ∈ handedOut folly known free reals) :
    ∃ weight, (addr.key, weight) ∈ acceptedReals folly known free.length reals := by
  induction reals generalizing known free with
  | nil => cases member
  | cons real reals ih =>
      cases parsed : folly.parse real.address with
      | none =>
          rw [handedOut, parsed] at member
          rw [acceptedReals, parsed]
          exact ih member
      | some raddr =>
          rw [handedOut, parsed] at member
          rw [acceptedReals, parsed]
          dsimp only at member ⊢
          by_cases listed : raddr.key ∈ known
          · rw [if_pos listed] at member ⊢
            obtain ⟨weight, later⟩ := ih member
            exact ⟨weight, List.mem_cons_of_mem _ later⟩
          · rw [if_neg listed] at member ⊢
            cases free with
            | nil => exact ih member
            | cons first rest =>
                rcases List.mem_cons.mp member with same | later
                · obtain ⟨rfl, rfl⟩ := Prod.mk.inj same
                  exact ⟨_, List.mem_cons_self⟩
                · obtain ⟨weight, later⟩ := ih later
                  exact ⟨weight, List.mem_cons_of_mem _ later⟩

/-! ## What is written -/

/-- Taking a reference either hands out no number, and writes nothing, or hands out the
first free one. -/
theorem increaseRefCountForReal_hands {lb : KatranLb} (reliable : env.Reliable)
    (live : lb.config.testing = false) (raddr : IPAddress) :
    let after := (lb.increaseRefCountForReal env raddr).2
    ((raddr.key ∈ lb.reals ∨ lb.realNums = []) ∧ after.kernel.reals = lb.kernel.reals ∧
      after.realNums = lb.realNums ∧ ∀ key, after.realPool.numOf key = lb.realPool.numOf key) ∨
    (raddr.key ∉ lb.reals ∧ ∃ num free, lb.realNums = num :: free ∧
      after.kernel.reals = Function.update lb.kernel.reals num (parseAddrToBe raddr) ∧
      after.realNums = free ∧ ∀ key, after.realPool.numOf key =
        if key = raddr.key then some num else lb.realPool.numOf key) := by
  dsimp only
  have kernel := increaseRefCountForReal_kernel reliable live raddr
  cases known : lb.reals.lookup raddr.key with
  | some rmeta =>
      refine .inl ⟨.inl (mem_of_lookup known), ?_⟩
      simp only [known, reduceCtorEq, ↓reduceIte] at kernel
      rw [kernel]
      simp only [increaseRefCountForReal, known, true_and]
      intro key
      simp only [RefPool.numOf, realPool_table, lookup_insert_eq_ite]
      by_cases same : key = raddr.key
      · subst same
        simp only [↓reduceIte, known, Option.map_some]
      · simp only [same, ↓reduceIte]
  | none =>
      have absent : raddr.key ∉ lb.reals := AList.lookup_eq_none.mp known
      rw [kernel]
      cases free : lb.realNums with
      | nil =>
          refine .inl ⟨.inr rfl, ?_⟩
          simp only [increaseRefCountForReal, known, free, ↓reduceIte, implies_true, and_self]
      | cons num rest =>
          refine .inr ⟨absent, num, rest, rfl, ?_⟩
          have pool := increaseRefCountForReal_realPool env lb raddr
          have taken : (lb.realPool.acquire IPAddress.key (2 ^ 32) raddr).1 = some num := by
            simp only [RefPool.acquire, realPool_table, realPool_free, known, free]
          refine ⟨by simp only [known, ↓reduceIte], ?_, ?_⟩
          · have nums := congrArg RefPool.free pool
            simp only [RefPool.acquire, realPool_table, realPool_free, known, free] at nums
            exact nums
          · intro key
            rw [pool]
            exact RefPool.numOf_acquire taken key

/-- An addition takes a reference, unless the VIP has the real. -/
theorem addReal_lb (folly : Folly) (env : Env) (batch : RealsBatch) (raddr : IPAddress)
    (weight : UInt32) :
    ((addReal folly env batch raddr weight).lb = batch.lb ∧ raddr.key ∈ batch.lb.reals) ∨
      (addReal folly env batch raddr weight).lb =
        (batch.lb.increaseRefCountForReal env raddr).2 := by
  unfold addReal
  split
  next rmeta known =>
    split
    · exact .inl ⟨rfl, mem_of_lookup known⟩
    · exact .inr rfl
  next =>
    dsimp only
    split
    · exact .inr rfl
    · exact .inr rfl

/-- An addition either hands out no number, and writes nothing, or hands out the first
free one. -/
theorem addReal_hands (folly : Folly) (reliable : env.Reliable) {batch : RealsBatch}
    (live : batch.lb.config.testing = false) (raddr : IPAddress) (weight : UInt32) :
    let after := addReal folly env batch raddr weight
    ((raddr.key ∈ batch.lb.reals ∨ batch.lb.realNums = []) ∧
      after.lb.kernel.reals = batch.lb.kernel.reals ∧ after.lb.realNums = batch.lb.realNums ∧
      ∀ key, after.lb.realPool.numOf key = batch.lb.realPool.numOf key) ∨
    (raddr.key ∉ batch.lb.reals ∧ ∃ num free, batch.lb.realNums = num :: free ∧
      after.lb.kernel.reals = Function.update batch.lb.kernel.reals num (parseAddrToBe raddr) ∧
      after.lb.realNums = free ∧ ∀ key, after.lb.realPool.numOf key =
        if key = raddr.key then some num else batch.lb.realPool.numOf key) := by
  dsimp only
  rcases addReal_lb folly env batch raddr weight with ⟨same, known⟩ | same
  · rw [same]
    exact .inl ⟨.inl known, rfl, rfl, fun _ => rfl⟩
  · rw [same]
    exact increaseRefCountForReal_hands reliable live raddr

/-- What a loop of additions writes: every address under the number it gets, and
nothing else. -/
structure Hands (before after : RealsBatch) (handed : List (Nat × IPAddress)) : Prop where
  written : ∀ pos, after.lb.kernel.reals pos = before.lb.kernel.reals pos ∨
    ∃ addr, (pos, addr) ∈ handed ∧ after.lb.kernel.reals pos = parseAddrToBe addr
  kept : ∀ key num, before.lb.realPool.numOf key = some num →
    after.lb.realPool.numOf key = some num
  numbered : ∀ num addr, (num, addr) ∈ handed → after.lb.realPool.numOf addr.key = some num

private theorem Hands.refl (batch : RealsBatch) : Hands batch batch [] where
  written := fun _ => .inl rfl
  kept := fun _ _ numbered => numbered
  numbered := by
    intro num addr member
    cases member

/-- An entry that hands out nothing in front of a loop. -/
theorem Hands.of_unchanged {before middle after : RealsBatch} {handed : List (Nat × IPAddress)}
    (kernel : middle.lb.kernel.reals = before.lb.kernel.reals)
    (pool : ∀ key, middle.lb.realPool.numOf key = before.lb.realPool.numOf key)
    (hands : Hands middle after handed) : Hands before after handed where
  written := by
    rw [← kernel]
    exact hands.written
  kept := by
    intro key num numbered
    rw [← pool] at numbered
    exact hands.kept key num numbered
  numbered := hands.numbered

/-- An entry that hands out a number in front of a loop. -/
theorem Hands.cons {before middle after : RealsBatch} {handed : List (Nat × IPAddress)} {num : Nat}
    {addr : IPAddress} (new : addr.key ∉ before.lb.reals)
    (kernel : middle.lb.kernel.reals =
      Function.update before.lb.kernel.reals num (parseAddrToBe addr))
    (pool : ∀ key, middle.lb.realPool.numOf key =
      if key = addr.key then some num else before.lb.realPool.numOf key)
    (hands : Hands middle after handed) : Hands before after ((num, addr) :: handed) where
  written := by
    intro pos
    rcases hands.written pos with same | ⟨later, member, written⟩
    · rw [same, kernel]
      by_cases first : pos = num
      · subst first
        exact .inr ⟨addr, List.mem_cons_self, Function.update_self ..⟩
      · exact .inl (Function.update_of_ne first ..)
    · exact .inr ⟨later, List.mem_cons_of_mem _ member, written⟩
  kept := by
    intro key other numbered
    apply hands.kept
    have different : key ≠ addr.key := by
      rintro rfl
      exact new ((mem_reals_iff _ _).mpr ⟨other, numbered⟩)
    rw [pool, if_neg different, numbered]
  numbered := by
    intro other later member
    rcases List.mem_cons.mp member with same | member
    · obtain ⟨rfl, rfl⟩ := Prod.mk.inj same
      apply hands.kept
      rw [pool, if_pos rfl]
    · exact hands.numbered other later member

/-- A batch that adds reals hands out numbers as they are listed. -/
theorem foldl_modifyReal_hands (reliable : env.Reliable) {batch : RealsBatch}
    (live : batch.lb.config.testing = false) {known : List IPAddress} (reals : List NewReal)
    (tracks : ∀ key, key ∈ known ↔ key ∈ batch.lb.reals) :
    Hands batch (reals.foldl (modifyReal folly env .add) batch)
      (handedOut folly known batch.lb.realNums reals) := by
  induction reals generalizing batch known with
  | nil => exact .refl batch
  | cons real reals ih =>
      have still : (modifyReal folly env .add batch real).lb.config.testing = false := by
        rw [(modifyReal_sameRest folly env .add batch real).config]
        exact live
      rw [List.foldl_cons]
      cases parsed : folly.parse real.address with
      | none =>
          obtain ⟨pool, _⟩ := modifyReal_of_invalid parsed env .add batch
          have table : (modifyReal folly env .add batch real).lb.reals = batch.lb.reals :=
            congrArg RefPool.table pool
          have nums : (modifyReal folly env .add batch real).lb.realNums = batch.lb.realNums :=
            congrArg RefPool.free pool
          have kernel : (modifyReal folly env .add batch real).lb.kernel = batch.lb.kernel := by
            simp only [modifyReal, parsed]
            exact validateAddress_kernel folly batch.lb real.address false
          have later := ih still (table ▸ tracks)
          rw [nums] at later
          rw [handedOut, parsed]
          exact later.of_unchanged (by rw [kernel]) (fun key => by rw [pool])
      | some raddr =>
          have body : modifyReal folly env .add batch real =
              addReal folly env batch raddr real.weight := by
            simp only [modifyReal, parsed]
          rw [body] at still ⊢
          rw [handedOut, parsed]
          dsimp only
          rcases addReal_hands folly reliable live raddr real.weight with
            ⟨skipped, kernel, nums, pool⟩ | ⟨absent, num, free, taken, kernel, nums, pool⟩
          · have tracked : ∀ key, key ∈ known ↔
                key ∈ (addReal folly env batch raddr real.weight).lb.reals := by
              intro key
              rw [tracks, mem_reals_iff, mem_reals_iff, pool]
            have later := ih still tracked
            rw [nums] at later
            by_cases listed : raddr.key ∈ known
            · rw [if_pos listed]
              exact later.of_unchanged kernel pool
            · have empty := skipped.resolve_left (listed ∘ (tracks _).mpr)
              rw [if_neg listed, empty]
              rw [empty] at later
              exact later.of_unchanged kernel pool
          · have tracked : ∀ key, key ∈ raddr.key :: known ↔
                key ∈ (addReal folly env batch raddr real.weight).lb.reals := by
              intro key
              rw [List.mem_cons, tracks, mem_reals_iff, mem_reals_iff, pool]
              by_cases same : key = raddr.key
              · simp only [same, true_or, ↓reduceIte, Option.some.injEq, exists_eq']
              · simp only [same, false_or, ↓reduceIte]
            have later := ih still tracked
            rw [nums] at later
            rw [if_neg (absent ∘ (tracks _).mp), taken]
            exact later.cons absent kernel pool

/-- Removals write no address. -/
theorem foldl_modifyReal_del_kernel (reals : List NewReal) (batch : RealsBatch) :
    (reals.foldl (modifyReal folly env .del) batch).lb.kernel = batch.lb.kernel := by
  induction reals generalizing batch with
  | nil => rfl
  | cons real reals ih =>
      rw [List.foldl_cons, ih]
      unfold modifyReal
      split
      · exact validateAddress_kernel folly batch.lb real.address false
      · dsimp only
        unfold delReal
        split
        · rfl
        · split
          · exact decreaseRefCountForReal_kernel batch.lb _
          · rfl

/-! ## The reals of a VIP -/

/-- The addresses that `getRealsForVip` reports for a VIP. -/
def realsFor (lb : KatranLb) (vip : VipKey) : List IPAddress :=
  (lb.vips.lookup vip).elim [] fun current =>
    current.reals.keys.filterMap fun num => (lb.numToReals.lookup num).join

/-- The reals of a VIP, by the names of their numbers. -/
theorem mem_realsFor {lb : KatranLb} {vip : VipKey} {real : IPAddress} :
    real ∈ lb.realsFor vip ↔ ∃ current num, lb.vips.lookup vip = some current ∧
      num ∈ current.reals ∧ lb.numToReals.lookup num = some (some real) := by
  unfold realsFor
  cases found : lb.vips.lookup vip with
  | none => simp only [Option.elim_none, List.not_mem_nil, reduceCtorEq, false_and, exists_false]
  | some current =>
      rw [Option.elim_some, List.mem_filterMap]
      constructor
      · rintro ⟨num, member, named⟩
        exact ⟨current, num, rfl, AList.mem_keys.mpr member, Option.join_eq_some_iff.mp named⟩
      · rintro ⟨_, num, same, member, named⟩
        obtain rfl := Option.some.inj same
        exact ⟨num, AList.mem_keys.mp member, Option.join_eq_some_iff.mpr named⟩

/-- The kernel has the address of every number of a VIP. -/
theorem Mapped.written_real {lb : KatranLb} {realsOf : VipKey → IPAddress → Option Nat}
    (mapped : Mapped lb realsOf) (written : lb.RealsWritten) {vip : VipKey} {current : Vip}
    (found : lb.vips.lookup vip = some current) {num : Nat} (member : num ∈ current.reals) :
    ∃ real ∈ lb.realsFor vip, lb.kernel.reals num = parseAddrToBe real := by
  obtain ⟨key, numbered⟩ := (mapped.vips vip current found).owned num member
  obtain ⟨slot, stored, rfl⟩ := RefPool.numOf_eq_some.mp numbered
  obtain ⟨real, named, _⟩ := mapped.pools.reals.named key slot stored
  exact ⟨real, mem_realsFor.mpr ⟨current, slot.num, found, member, named⟩,
    written slot.num real named⟩

private theorem overwrite_ne_none {weightOf : IPAddress → Option Nat}
    {entries : List (IPAddress × Nat)}
    {key : IPAddress} (entered : weightOf key ≠ none ∨ ∃ weight, (key, weight) ∈ entries) :
    overwrite weightOf entries key ≠ none := by
  unfold overwrite
  induction entries generalizing weightOf with
  | nil =>
      rcases entered with earlier | ⟨weight, member⟩
      · exact earlier
      · cases member
  | cons entry entries ih =>
      rw [List.foldl_cons]
      apply ih
      by_cases same : key = entry.1
      · subst same
        rw [Function.update_self]
        exact .inl (Option.some_ne_none _)
      · rw [Function.update_of_ne same]
        rcases entered with earlier | ⟨weight, member⟩
        · exact .inl earlier
        · rcases List.mem_cons.mp member with first | later
          · exact (same (congrArg Prod.fst first)).elim
          · exact .inr ⟨weight, later⟩

/-- The addresses in the kernel after a batch: those that were there, and those of the
numbers that it handed out to its VIP. -/
theorem modifyRealsForVip_written {lb after : KatranLb} {realsOf : VipKey → IPAddress → Option Nat}
    {action : ModifyAction} {reals : List NewReal} {vip : VipKey} {done : Bool}
    (mapped : Mapped lb realsOf) (valid : lb.VipsValid folly) (written : after.RealsWritten)
    (reliable : env.Reliable) (live : lb.config.testing = false)
    (distinct : (listedKeys folly reals).Nodup)
    (returned : lb.modifyRealsForVip folly env action reals vip = some (done, after)) (pos : Nat) :
    after.kernel.reals pos = lb.kernel.reals pos ∨
    action = .add ∧ vip ∈ lb.vips ∧
      ∃ addr, (pos, addr) ∈ handedOut folly lb.reals.keys lb.realNums reals ∧
      after.kernel.reals pos = parseAddrToBe addr ∧
      ∃ real ∈ after.realsFor vip, after.kernel.reals pos = parseAddrToBe real := by
  have later := mapped.modifyRealsForVip valid (fun _ => distinct) returned
  rcases modifyRealsForVip_cases returned with
    ⟨_, rfl, _⟩ | ⟨_, forwards, current, chPositions, updated, found, ring, same⟩
  · exact .inl rfl
  have kernel := modifyRealsForVip_kernel reliable live forwards found ring returned
  have rest := modifyRealsBatch_sameRest folly env lb action reals current
  have read : after.vips.lookup vip = some updated := by
    rw [same.vips]
    exact AList.lookup_insert _
  have stored : after.kernel.reals =
      (lb.modifyRealsBatch folly env action reals current).lb.kernel.reals := by
    rw [kernel]
  rw [if_pos (mem_of_lookup found)] at later
  cases action with
  | del =>
      rw [stored]
      exact .inl (by rw [modifyRealsBatch, foldl_modifyReal_del_kernel])
  | add =>
      have hands : Hands
          { lb := lb, curReals := current.getReals env.listing, ureals := [], owners := [] }
          (lb.modifyRealsBatch folly env .add reals current)
          (handedOut folly lb.reals.keys lb.realNums reals) :=
        foldl_modifyReal_hands reliable live reals fun key => Iff.rfl
      rw [stored]
      rcases hands.written pos with unchanged | ⟨addr, member, addressed⟩
      · exact .inl unchanged
      · refine .inr ⟨rfl, mem_of_lookup found, addr, member, addressed, ?_⟩
        have numbered : after.realPool.numOf addr.key = some pos := by
          rw [show after.realPool = _ from same.realPool]
          exact hands.numbered pos addr member
        have accepted : replayBatch folly lb .add reals (realsOf vip) addr.key ≠ none :=
          overwrite_ne_none (.inr (accepted_of_handedOut member))
        obtain ⟨weight, weighted⟩ := Option.ne_none_iff_exists'.mp accepted
        have represents := later.vips vip updated read
        rw [Function.update_self] at represents
        obtain ⟨num, entry, owned, entered, _⟩ := (represents.weights addr.key weight).mp weighted
        rw [numbered] at owned
        obtain rfl := Option.some.inj owned
        rw [← stored]
        exact later.written_real written read (mem_of_lookup entered)

end KatranLb

end Katran
