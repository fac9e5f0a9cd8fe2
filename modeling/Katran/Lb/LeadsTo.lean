import Katran.Lb.Addressed

/-! # The family of the real that an address leads to

An address that has a number keeps it, with the address that was written when it got it.
That one may be of the other family, because an IPv4 address and its mapped IPv6 form are
one key. So an address leads to the real that it is known as, or to itself if it is not
known (`leadsToIpv6`). A call whose addresses lead to IPv6 reals puts the numbers of IPv6
reals into the rings, into `quic_mapping` and into the tries.
-/

namespace Katran

open Foundation UnorderedMap

namespace KatranLb

variable {folly : Folly} {env : Env} {lb after : KatranLb}

/-- Whether the real of an address is an IPv6 one: the real that the address is known as,
or the address itself. -/
def leadsToIpv6 (lb : KatranLb) (raddr : IPAddress) : Bool :=
  match lb.realPool.numOf raddr.key with
  | some num => (lb.kernel.reals num).isIpv6
  | none => !raddr.isV4

/-- An address is written as one of its family. -/
theorem isIpv6_parseAddrToBe (raddr : IPAddress) : (parseAddrToBe raddr).isIpv6 = !raddr.isV4 := by
  cases raddr with
  | v4 _ => simp only [parseAddrToBe, RealDefinition.isIpv6, IPAddress.isV4]; decide
  | v6 _ => simp only [parseAddrToBe, RealDefinition.isIpv6, IPAddress.isV4]; decide

private theorem leadsToIpv6_of_numOf {raddr : IPAddress} {num : Nat}
    (numbered : lb.realPool.numOf raddr.key = some num) :
    lb.leadsToIpv6 raddr = (lb.kernel.reals num).isIpv6 := by
  rw [leadsToIpv6, numbered]

private theorem leadsToIpv6_of_not_mem {raddr : IPAddress} (absent : raddr.key ∉ lb.reals) :
    lb.leadsToIpv6 raddr = !raddr.isV4 := by
  have unnumbered : lb.realPool.numOf raddr.key = none := by
    rw [RefPool.numOf_eq_none]
    exact AList.lookup_eq_none.mpr absent
  rw [leadsToIpv6, unnumbered]

/-- A number that is handed out to an IPv6 address makes no address lead elsewhere. -/
theorem leadsToIpv6_of_handed {raddr : IPAddress} {num : Nat} (family : raddr.isV4 = false)
    (kernel : after.kernel.reals = Function.update lb.kernel.reals num (parseAddrToBe raddr))
    (pool : ∀ key, after.realPool.numOf key =
      if key = raddr.key then some num else lb.realPool.numOf key) :
    (∀ pos, (lb.kernel.reals pos).isIpv6 = true → (after.kernel.reals pos).isIpv6 = true) ∧
      ∀ other, lb.leadsToIpv6 other = true → after.leadsToIpv6 other = true := by
  have written : (after.kernel.reals num).isIpv6 = true := by
    rw [kernel, Function.update_self, isIpv6_parseAddrToBe, family]
    rfl
  have kept : ∀ pos, (lb.kernel.reals pos).isIpv6 = true →
      (after.kernel.reals pos).isIpv6 = true := by
    intro pos earlier
    by_cases same : pos = num
    · rw [same]
      exact written
    · rw [kernel, Function.update_of_ne same]
      exact earlier
  refine ⟨kept, ?_⟩
  intro other leads
  unfold leadsToIpv6 at leads ⊢
  rw [pool]
  by_cases same : other.key = raddr.key
  · rw [if_pos same]
    exact written
  · rw [if_neg same]
    cases numbered : lb.realPool.numOf other.key with
    | none =>
        rw [numbered] at leads
        exact leads
    | some known =>
        rw [numbered] at leads
        exact kept known leads

/-- Taking a reference for an address that leads to an IPv6 real makes no address lead
elsewhere. -/
theorem increaseRefCountForReal_leads (reliable : env.Reliable) (live : lb.config.testing = false)
    {raddr : IPAddress} (leads : lb.leadsToIpv6 raddr = true) :
    let after := (lb.increaseRefCountForReal env raddr).2
    (∀ pos, (lb.kernel.reals pos).isIpv6 = true → (after.kernel.reals pos).isIpv6 = true) ∧
      ∀ other, lb.leadsToIpv6 other = true → after.leadsToIpv6 other = true := by
  dsimp only
  rcases increaseRefCountForReal_hands reliable live raddr with
    ⟨_, kernel, _, pool⟩ | ⟨absent, num, _, _, kernel, _, pool⟩
  · rw [kernel]
    refine ⟨fun _ => id, ?_⟩
    intro other earlier
    unfold leadsToIpv6 at earlier ⊢
    rw [pool, kernel]
    exact earlier
  · rw [leadsToIpv6_of_not_mem absent, Bool.not_eq_true'] at leads
    exact leadsToIpv6_of_handed leads kernel pool

/-! ## Reals of a VIP -/

/-- Taking a reference returns the number of the address afterwards, unless there is none. -/
theorem numOf_increaseRefCountForReal (env : Env) (lb : KatranLb) (raddr : IPAddress)
    (numbered : (lb.increaseRefCountForReal env raddr).1 ≠ lb.config.maxReals.toNat) :
    (lb.increaseRefCountForReal env raddr).2.realPool.numOf raddr.key =
      some (lb.increaseRefCountForReal env raddr).1 := by
  rw [increaseRefCountForReal_realPool]
  have first := increaseRefCountForReal_fst env lb raddr
  cases taken : (lb.realPool.acquire IPAddress.key (2 ^ 32) raddr).1 with
  | none =>
      rw [taken, Option.getD_none] at first
      exact (numbered first).elim
  | some num =>
      rw [taken, Option.getD_some] at first
      rw [RefPool.numOf_acquire taken, if_pos rfl, first]

/-- An addition appends an update for the number of its address. -/
theorem addReal_ureals (folly : Folly) (env : Env) (batch : RealsBatch) (raddr : IPAddress)
    (weight : UInt32) {ureal : UpdateReal}
    (member : ureal ∈ (addReal folly env batch raddr weight).ureals) :
    ureal ∈ batch.ureals ∨
      (addReal folly env batch raddr weight).lb.realPool.numOf raddr.key =
        some ureal.updatedReal.num := by
  have pushed : ∀ (start : RealsBatch) num, ureal ∈ (start.push folly raddr num weight).ureals →
      ureal ∈ start.ureals ∨ ureal.updatedReal.num = num := by
    intro start num member
    rcases List.mem_append.mp member with earlier | last
    · exact .inl earlier
    · obtain rfl := List.mem_singleton.mp last
      exact .inr rfl
  have rest := increaseRefCountForReal_sameRest env batch.lb raddr
  unfold addReal at member ⊢
  cases known : batch.lb.reals.lookup raddr.key with
  | some rmeta =>
      have numbered : batch.lb.realPool.numOf raddr.key = some rmeta.num :=
        RefPool.numOf_eq_some.mpr ⟨rmeta, known, rfl⟩
      simp only [known] at member ⊢
      split at member
      next held =>
        rw [if_pos held]
        refine (pushed _ _ member).imp_right fun same => ?_
        rw [same]
        exact numbered
      next new =>
        rw [if_neg new]
        refine (pushed _ _ member).imp_right fun same => ?_
        rw [same]
        change (batch.lb.increaseRefCountForReal env raddr).2.realPool.numOf raddr.key = _
        simp only [increaseRefCountForReal, known, RefPool.numOf, realPool_table,
          AList.lookup_insert, Option.map_some]
  | none =>
      simp only [known] at member ⊢
      split at member
      next exhausted => exact .inl member
      next taken =>
        rw [if_neg taken]
        refine (pushed _ _ member).imp_right fun same => ?_
        rw [rest.config] at taken
        rw [same]
        exact numOf_increaseRefCountForReal env batch.lb raddr taken

/-- Adding a real that leads to an IPv6 one. -/
theorem addReal_leads (folly : Folly) (reliable : env.Reliable) {batch : RealsBatch}
    (live : batch.lb.config.testing = false) {raddr : IPAddress}
    (leads : batch.lb.leadsToIpv6 raddr = true) (weight : UInt32) :
    let after := addReal folly env batch raddr weight
    (∀ pos, (batch.lb.kernel.reals pos).isIpv6 = true → (after.lb.kernel.reals pos).isIpv6 = true) ∧
      ∀ other, batch.lb.leadsToIpv6 other = true → after.lb.leadsToIpv6 other = true := by
  dsimp only
  rcases addReal_lb folly env batch raddr weight with ⟨same, _⟩ | same
  · rw [same]
    exact ⟨fun _ => id, fun _ => id⟩
  · rw [same]
    exact increaseRefCountForReal_leads reliable live leads

/-- A batch whose addresses all lead to IPv6 reals has updates for such reals only. -/
theorem foldl_modifyReal_leads (reliable : env.Reliable) {batch : RealsBatch}
    (live : batch.lb.config.testing = false) {reals : List NewReal}
    (leads : ∀ real ∈ reals, ∀ raddr ∈ folly.parse real.address, batch.lb.leadsToIpv6 raddr = true)
    (earlier : ∀ ureal ∈ batch.ureals,
      (batch.lb.kernel.reals ureal.updatedReal.num).isIpv6 = true) :
    ∀ ureal ∈ (reals.foldl (modifyReal folly env .add) batch).ureals,
      ((reals.foldl (modifyReal folly env .add) batch).lb.kernel.reals
        ureal.updatedReal.num).isIpv6 = true := by
  induction reals generalizing batch with
  | nil => exact earlier
  | cons real reals ih =>
      have running : (modifyReal folly env .add batch real).lb.config.testing = false := by
        rw [(modifyReal_sameRest folly env .add batch real).config]
        exact live
      have later : ∀ real ∈ reals, ∀ raddr ∈ folly.parse real.address,
          batch.lb.leadsToIpv6 raddr = true :=
        fun real member => leads real (List.mem_cons_of_mem _ member)
      rw [List.foldl_cons]
      cases parsed : folly.parse real.address with
      | none =>
          obtain ⟨pool, _⟩ := modifyReal_of_invalid parsed env .add batch
          have kernel : (modifyReal folly env .add batch real).lb.kernel = batch.lb.kernel := by
            simp only [modifyReal, parsed]
            exact validateAddress_kernel folly batch.lb real.address false
          have ureals : (modifyReal folly env .add batch real).ureals = batch.ureals := by
            simp only [modifyReal, parsed]
          apply ih running
          · intro other member raddr named
            rw [leadsToIpv6, pool, kernel]
            exact later other member raddr named
          · rw [ureals, kernel]
            exact earlier
      | some raddr =>
          have body : modifyReal folly env .add batch real =
              addReal folly env batch raddr real.weight := by
            simp only [modifyReal, parsed]
          rw [body] at running ⊢
          have own := leads real List.mem_cons_self raddr parsed
          obtain ⟨kept, others⟩ := addReal_leads folly reliable live own real.weight
          apply ih running
          · intro other member named alsoParsed
            exact others named (later other member named alsoParsed)
          · intro ureal member
            rcases addReal_ureals folly env batch raddr real.weight member with old | numbered
            · exact kept _ (earlier ureal old)
            · rw [← leadsToIpv6_of_numOf numbered]
              exact others raddr own

/-- The numbers that a VIP has among its reals or in its copy of the ring. -/
def Names (current : Vip) (num : Nat) : Prop :=
  num ∈ current.reals ∨ ∃ slot ∈ current.chRing, slot ≠ -1 ∧ toUInt32 slot = num

/-- A batch brings in the numbers of its additions only. -/
theorem names_of_batchRealsUpdate {fuel ringSize : Nat} {order : IterOrder} {current updated : Vip}
    {ureals : List UpdateReal} {delta : List RealPos} (numbered : current.WellNumbered ringSize)
    (small : ∀ num ∈ updated.reals, num < 2 ^ 31)
    (ring : current.batchRealsUpdate fuel order ureals = some (delta, updated)) {num : Nat}
    (names : Names updated num) :
    Names current num ∨ ∃ ureal ∈ ureals, ureal.action = .add ∧ ureal.updatedReal.num = num := by
  have listed : num ∈ updated.reals →
      Names current num ∨ ∃ ureal ∈ ureals, ureal.action = .add ∧ ureal.updatedReal.num = num := by
    intro member
    rw [(Vip.reals_of_batchRealsUpdate ring).1] at member
    exact (Vip.mem_foldl_applyUpdate member).imp_left .inl
  rcases names with member | ⟨slot, filled, written, same⟩
  · exact listed member
  rcases Vip.batchRealsUpdate_cases ring with
    ⟨_, rfl, _⟩ | ⟨endpoints, slots, nonempty, lists, generated, _, rfl⟩
  · exact .inl (.inr ⟨slot, filled, written, same⟩)
  · -- a new ring has slots of the reals of nonzero weight only
    obtain ⟨length, owned⟩ := generated.slot_owned nonempty (lists.small small)
    have copied : (sync (-1) slots current.chRing).2 = slots :=
      sync_cached (length.trans numbered.consistent.length.symm)
    rw [copied] at filled
    obtain ⟨endpoint, inside, rfl⟩ := owned slot filled
    have bounded := lists.small small endpoint inside
    rw [toUInt32_natCast (by omega)] at same
    subst same
    exact listed (mem_of_lookup ((lists.mem_iff endpoint).mp inside).1)

private theorem foldl_modifyReal_del_actions {reals : List NewReal} {batch : RealsBatch}
    (earlier : ∀ ureal ∈ batch.ureals, ureal.action = .del) :
    ∀ ureal ∈ (reals.foldl (modifyReal folly env .del) batch).ureals, ureal.action = .del := by
  induction reals generalizing batch with
  | nil => exact earlier
  | cons real reals ih =>
      apply ih
      unfold modifyReal
      split
      · exact earlier
      · dsimp only
        unfold delReal
        split
        · exact earlier
        · split
          · intro ureal member
            rcases List.mem_append.mp member with old | last
            · exact earlier ureal old
            · obtain rfl := List.mem_singleton.mp last
              rfl
          · exact earlier

/-- A call brings numbers to its VIP only, and those of IPv6 reals if all addresses that it
adds lead to such. -/
theorem modifyRealsForVip_names {action : ModifyAction} {reals : List NewReal} {vip : VipKey}
    {done : Bool} (rings : lb.RingsMirrored) (reliable : env.Reliable)
    (live : lb.config.testing = false) (few : lb.config.maxReals.toNat < 2 ^ 31)
    (returned : lb.modifyRealsForVip folly env action reals vip = some (done, after))
    {other : VipKey} {updated : Vip} (read : after.vips.lookup other = some updated) {num : Nat}
    (names : Names updated num) :
    (∃ current, lb.vips.lookup other = some current ∧ Names current num) ∨
      other = vip ∧ action = .add ∧ lb.config.disableForwarding = false ∧ vip ∈ lb.vips ∧
        ((∀ real ∈ reals, ∀ raddr ∈ folly.parse real.address, lb.leadsToIpv6 raddr = true) →
          (after.kernel.reals num).isIpv6 = true) := by
  rcases modifyRealsForVip_cases returned with
    ⟨_, rfl, _⟩ | ⟨_, forwards, current, chPositions, changed, found, ring, same⟩
  · exact .inl ⟨updated, read, names⟩
  have rest := modifyRealsBatch_sameRest folly env lb action reals current
  rw [same.vips, rest.vips, lookup_insert_eq_ite] at read
  split at read
  next own =>
    subst own
    obtain rfl := Option.some.inj read
    have small : ∀ ureal ∈ (lb.modifyRealsBatch folly env action reals current).ureals,
        ureal.action = .add → ureal.updatedReal.num < 2 ^ 31 := by
      intro ureal member _
      exact (modifyRealsBatch_small rings.pools folly env action reals current ureal member).trans
        few
    have numbered := rings.numbered other current found
    rcases names_of_batchRealsUpdate numbered (numbered.batchRealsUpdate small ring).small
      ring names
      with earlier | ⟨ureal, member, adds, rfl⟩
    · exact .inl ⟨current, found, earlier⟩
    · have kernel : after.kernel.reals =
          (lb.modifyRealsBatch folly env action reals current).lb.kernel.reals := by
        rw [modifyRealsForVip_kernel reliable live forwards found ring returned]
      cases action with
      | del =>
          have removes : ureal.action = .del := by
            refine foldl_modifyReal_del_actions ?_ ureal member
            intro first listed
            cases listed
          cases adds.symm.trans removes
      | add =>
          refine .inr ⟨rfl, rfl, forwards, mem_of_lookup found, fun leads => ?_⟩
          rw [kernel]
          refine foldl_modifyReal_leads reliable live leads ?_ ureal member
          intro first listed
          cases listed
  next => exact .inl ⟨updated, read, names⟩

/-! ## QUIC reals -/

/-- Taking a reference makes no other address lead elsewhere, and writes no number that is
not free. -/
theorem increaseRefCountForReal_others (reliable : env.Reliable) (sound : lb.PoolsSound)
    (live : lb.config.testing = false) (raddr : IPAddress) :
    let after := (lb.increaseRefCountForReal env raddr).2
    (∀ other, other.key ≠ raddr.key → after.leadsToIpv6 other = lb.leadsToIpv6 other) ∧
      ∀ num, num ∉ lb.realNums →
        num ∉ after.realNums ∧ after.kernel.reals num = lb.kernel.reals num := by
  dsimp only
  rcases increaseRefCountForReal_hands reliable live raddr with
    ⟨_, kernel, nums, pool⟩ | ⟨absent, num, free, queue, kernel, nums, pool⟩
  · refine ⟨?_, ?_⟩
    · intro other _
      unfold leadsToIpv6
      rw [pool, kernel]
    · intro num used
      rw [nums, kernel]
      exact ⟨used, rfl⟩
  · refine ⟨?_, ?_⟩
    · intro other different
      unfold leadsToIpv6
      rw [pool, if_neg different]
      cases numbered : lb.realPool.numOf other.key with
      | none => rfl
      | some known =>
          have apart : known ≠ num := by
            rintro rfl
            apply sound.reals.numOf_not_free numbered
            rw [realPool_free, queue]
            exact List.mem_cons_self
          dsimp only
          rw [kernel, Function.update_of_ne apart]
    · intro other used
      rw [queue, List.mem_cons, not_or] at used
      rw [nums, kernel, Function.update_of_ne used.1]
      exact ⟨used.2, rfl⟩

/-- The addresses that are still to be mapped to an id lead to IPv6 reals, and the number that
has been collected for it is that of one. -/
structure LeadsFor (folly : Folly) (id : UInt32) (reals : List QuicReal)
    (state : KatranLb × UnorderedMap UInt32 Nat) : Prop where
  mapped : ∀ real ∈ reals, real.id = id → real.id ≤ kMaxQuicId →
    ∀ raddr ∈ folly.parse real.address, raddr.key ∉ state.1.quicMapping →
      state.1.leadsToIpv6 raddr = true
  collected : ∀ num, state.2.lookup id = some num →
    num ∉ state.1.realNums ∧ (state.1.kernel.reals num).isIpv6 = true

namespace LeadsFor

variable {id : UInt32} {toUpdate : UnorderedMap UInt32 Nat} {real : QuicReal}
  {reals : List QuicReal} {raddr : IPAddress} {num : Nat}

private theorem tail {state : KatranLb × UnorderedMap UInt32 Nat}
    (leads : LeadsFor folly id (real :: reals) state) : LeadsFor folly id reals state where
  mapped := fun other member => leads.mapped other (List.mem_cons_of_mem _ member)
  collected := leads.collected

/-- An address that is refused changes no table, so the rest leads where it did. -/
private theorem of_refused (leads : LeadsFor folly id reals (lb, toUpdate))
    (refused : folly.parse real.address = none ∨ real.id > kMaxQuicId) :
    LeadsFor folly id reals (modifyQuicReal folly env .add (lb, toUpdate) real) := by
  obtain ⟨tables, kernel, same⟩ := modifyQuicReal_of_refused env lb .add toUpdate refused
  generalize modifyQuicReal folly env .add (lb, toUpdate) real = state at *
  have pool : state.1.realPool = lb.realPool := by
    unfold realPool
    rw [tables.reals, tables.realNums, tables.numToReals]
  constructor
  · unfold leadsToIpv6
    rw [tables.quicMapping, pool, kernel]
    exact leads.mapped
  · rw [same, tables.realNums, kernel]
    exact leads.collected

/-- An address that is mapped gets a number of the family that it leads to, and the other
addresses lead where they did. -/
private theorem of_mapped (reliable : env.Reliable) (sound : lb.PoolsSound)
    (live : lb.config.testing = false) (leads : LeadsFor folly id (real :: reals) (lb, toUpdate))
    (parsed : folly.parse real.address = some raddr) (low : real.id ≤ kMaxQuicId)
    (unmapped : raddr.key ∉ lb.quicMapping)
    (taken : (lb.realPool.acquire IPAddress.key (2 ^ 32) raddr).1 = some num) :
    LeadsFor folly id reals
      ({ (lb.increaseRefCountForReal env raddr).2 with
          quicMapping := lb.quicMapping.insert raddr.key real.id },
        toUpdate.insert real.id num) := by
  obtain ⟨others, used⟩ := increaseRefCountForReal_others reliable sound live raddr
  constructor
  · intro other member wanted bounded named alsoParsed free
    have different : named.key ≠ raddr.key := by
      intro equal
      apply free
      rw [equal]
      exact (AList.mem_insert _).mpr (.inl rfl)
    have absent : named.key ∉ lb.quicMapping :=
      fun held => free ((AList.mem_insert _).mpr (.inr held))
    exact (others named different).trans
      (leads.tail.mapped other member wanted bounded named alsoParsed absent)
  · intro collected found
    rw [lookup_insert_eq_ite] at found
    split at found
    next equal =>
      obtain rfl := Option.some.inj found
      have own : lb.leadsToIpv6 raddr = true :=
        leads.mapped real List.mem_cons_self equal.symm low raddr parsed unmapped
      have numbered : (lb.increaseRefCountForReal env raddr).2.realPool.numOf raddr.key =
          some num := by
        rw [increaseRefCountForReal_realPool, RefPool.numOf_acquire taken, if_pos rfl]
      have next := sound.frame (increaseRefCountForReal_frame env lb raddr)
      have leading := (increaseRefCountForReal_leads reliable live own).2 raddr own
      rw [leadsToIpv6_of_numOf numbered] at leading
      exact ⟨next.reals.numOf_not_free numbered, leading⟩
    next =>
      obtain ⟨taken, kept⟩ := leads.collected collected found
      obtain ⟨still, unchanged⟩ := used collected taken
      refine ⟨still, ?_⟩
      dsimp only
      rw [unchanged]
      exact kept

/-- One address of the list is mapped, or left out, and the rest still leads to IPv6 reals. -/
private theorem modifyQuicReal (reliable : env.Reliable) (sound : lb.PoolsSound)
    (live : lb.config.testing = false)
    (leads : LeadsFor folly id (real :: reals) (lb, toUpdate)) :
    LeadsFor folly id reals (modifyQuicReal folly env .add (lb, toUpdate) real) := by
  by_cases refused : folly.parse real.address = none ∨ real.id > kMaxQuicId
  · exact leads.tail.of_refused refused
  rw [not_or] at refused
  obtain ⟨raddr, parsed⟩ := Option.ne_none_iff_exists'.mp refused.1
  rcases modifyQuicReal_add sound env toUpdate parsed refused.2 with
    ⟨skipped, _⟩ | ⟨unmapped, num, taken, added⟩
  · rw [skipped]
    exact leads.tail
  · rw [added]
    exact leads.of_mapped reliable sound live parsed (UInt32.not_lt.mp refused.2) unmapped taken

/-- When all addresses have had their turn, the number that is collected for an id is that of
an IPv6 real. -/
theorem foldl_modifyQuicReal (reliable : env.Reliable) (sound : lb.PoolsSound)
    (live : lb.config.testing = false) (leads : LeadsFor folly id reals (lb, toUpdate)) :
    LeadsFor folly id []
      (reals.foldl (KatranLb.modifyQuicReal folly env .add) (lb, toUpdate)) := by
  induction reals generalizing lb toUpdate with
  | nil => exact leads
  | cons real reals ih =>
      have frame := modifyQuicReal_frame folly env .add (lb, toUpdate) real
      have running := frame.config.symm ▸ live
      exact ih (sound.frame frame) running (leads.modifyQuicReal reliable sound live)

end LeadsFor

/-- An address that is newly mapped has its id collected. -/
def Collects (start : UnorderedMap IPAddress UInt32)
    (state : KatranLb × UnorderedMap UInt32 Nat) : Prop :=
  ∀ key id, state.1.quicMapping.lookup key = some id → start.lookup key = some id ∨ id ∈ state.2

private theorem Collects.modifyQuicReal {start : UnorderedMap IPAddress UInt32}
    {action : ModifyAction}
    {toUpdate : UnorderedMap UInt32 Nat} (collects : Collects start (lb, toUpdate))
    (sound : lb.PoolsSound) (real : QuicReal) :
    Collects start (KatranLb.modifyQuicReal folly env action (lb, toUpdate) real) := by
  intro key id held
  by_cases refused : folly.parse real.address = none ∨ real.id > kMaxQuicId
  · obtain ⟨tables, _, collected⟩ := modifyQuicReal_of_refused env lb action toUpdate refused
    rw [tables.quicMapping] at held
    rw [collected]
    exact collects key id held
  rw [not_or] at refused
  obtain ⟨raddr, parsed⟩ := Option.ne_none_iff_exists'.mp refused.1
  cases action with
  | del =>
      rw [modifyQuicReal_del env lb toUpdate parsed refused.2] at held ⊢
      split at held
      next mapped =>
        rw [if_pos mapped]
        rw [lookup_erase_eq_ite] at held
        split at held
        · cases held
        · exact collects key id held
      next unmapped =>
        rw [if_neg unmapped]
        exact collects key id held
  | add =>
      rcases modifyQuicReal_add sound env toUpdate parsed refused.2 with
        ⟨skipped, _⟩ | ⟨_, num, _, added⟩
      · rw [skipped] at held ⊢
        exact collects key id held
      · rw [added] at held ⊢
        dsimp only at held ⊢
        rw [lookup_insert_eq_ite] at held
        split at held
        · obtain rfl := Option.some.inj held
          exact .inr ((AList.mem_insert _).mpr (.inl rfl))
        · exact (collects key id held).imp_right fun member =>
            (AList.mem_insert _).mpr (.inr member)

private theorem Collects.foldl_modifyQuicReal {start : UnorderedMap IPAddress UInt32}
    {action : ModifyAction} {reals : List QuicReal} {state : KatranLb × UnorderedMap UInt32 Nat}
    (collects : Collects start state) (sound : state.1.PoolsSound) :
    Collects start (reals.foldl (KatranLb.modifyQuicReal folly env action) state) := by
  induction reals generalizing state with
  | nil => exact collects
  | cons real reals ih =>
      apply ih
      · exact Collects.modifyQuicReal collects sound real
      · exact sound.frame (modifyQuicReal_frame folly env action state real)

/-- What a call does to an id: nothing, or it gets the number of an IPv6 real, if the
addresses that are mapped to it lead to such. -/
theorem modifyQuicRealsMapping_leads (reliable : env.Reliable) (sound : lb.PoolsSound)
    (live : lb.config.testing = false) {action : ModifyAction} {reals : List QuicReal} {id : UInt32}
    (leads : lb.config.disableForwarding = false → action = .add → ∀ real ∈ reals, real.id = id →
      id ≤ kMaxQuicId → ∀ raddr ∈ folly.parse real.address, raddr.key ∉ lb.quicMapping →
        lb.leadsToIpv6 raddr = true) :
    let after := lb.modifyQuicRealsMapping folly env action reals
    (after.kernel.quicMapping id.toNat = lb.kernel.quicMapping id.toNat ∧
      ∀ key, after.quicMapping.lookup key = some id → lb.quicMapping.lookup key = some id) ∨
    (after.kernel.reals (after.kernel.quicMapping id.toNat)).isIpv6 = true := by
  dsimp only
  obtain ⟨tables, written⟩ := modifyQuicRealsMapping_spec folly reliable live (action, reals)
  have reached : (lb.modifyQuicRealsMapping folly env action reals).kernel.reals =
      (lb.collected folly env (action, reals)).1.kernel.reals := by
    unfold modifyQuicRealsMapping collected
    split
    · rfl
    · dsimp only
      split
      · rfl
      · exact foldl_writeQuicMapping_reals env _ _
  have collects : Collects lb.quicMapping (lb.collected folly env (action, reals)) := by
    have start : Collects lb.quicMapping (lb, ∅) := fun _ _ => .inl
    unfold collected
    split
    · exact start
    · exact Collects.foldl_modifyQuicReal start sound
  rw [written]
  unfold numFor
  cases found : (lb.collected folly env (action, reals)).2.lookup id with
  | none =>
      refine .inl ⟨rfl, ?_⟩
      intro key held
      rw [tables.quicMapping] at held
      refine (collects key id held).resolve_right fun member => ?_
      obtain ⟨num, read⟩ := exists_lookup_of_mem member
      cases found.symm.trans read
  | some num =>
      rw [reached, Option.getD_some]
      refine .inr ?_
      unfold collected at found ⊢
      by_cases off : lb.config.disableForwarding = true
      · rw [if_pos off, AList.lookup_empty] at found
        cases found
      rw [if_neg off] at found ⊢
      dsimp only at found ⊢
      cases action with
      | del =>
          rcases foldl_modifyQuicReal_toUpdate folly env .del reals (lb, ∅) (mem_of_lookup found)
            with none | ⟨wrong, _⟩
          · exact (AList.notMem_empty _ none).elim
          · cases wrong
      | add =>
          have initially : LeadsFor folly id reals (lb, ∅) := by
            constructor
            · intro real member same low raddr parsed free
              rw [same] at low
              exact leads (Bool.eq_false_of_not_eq_true off) rfl real member same low raddr
                parsed free
            · intro num none
              rw [AList.lookup_empty] at none
              cases none
          exact ((initially.foldl_modifyQuicReal reliable sound live).collected num found).2

/-! ## Rules -/

/-- A rule leads to the real of its destination. -/
theorem installRule_leads (reliable : env.Reliable) (live : lb.config.testing = false)
    {dst : IPAddress} (src : CIDRNetwork)
    (taken : (lb.increaseRefCountForReal env dst).1 ≠ lb.config.maxReals.toNat)
    (leads : lb.leadsToIpv6 dst = true) :
    let after := lb.installRule env dst src
    (∀ pos, (lb.kernel.reals pos).isIpv6 = true → (after.kernel.reals pos).isIpv6 = true) ∧
      after.leadsToIpv6 dst = true ∧
      (after.kernel.reals (lb.increaseRefCountForReal env dst).1).isIpv6 = true := by
  have tables := installRule_tables env dst src lb
  have pool : (lb.installRule env dst src).realPool =
      (lb.increaseRefCountForReal env dst).2.realPool := by
    unfold realPool
    rw [tables.reals, tables.realNums, tables.numToReals]
  obtain ⟨kept, others⟩ := increaseRefCountForReal_leads reliable live leads
  have own := others dst leads
  dsimp only
  refine ⟨?_, ?_, ?_⟩
  · rw [installRule_reals]
    exact kept
  · unfold leadsToIpv6 at own ⊢
    rw [pool, installRule_reals]
    exact own
  · rw [installRule_reals, ← leadsToIpv6_of_numOf (numOf_increaseRefCountForReal env lb dst taken)]
    exact own

/-- Networks of a destination that leads to an IPv6 real take no IPv6 real away. -/
theorem installRules_kept (reliable : env.Reliable) {dst : IPAddress} {srcs : List CIDRNetwork}
    (live : lb.config.testing = false) (leads : lb.leadsToIpv6 dst = true) {pos : Nat}
    (earlier : (lb.kernel.reals pos).isIpv6 = true) :
    ((installRules env dst srcs lb).2.1.kernel.reals pos).isIpv6 = true := by
  induction srcs generalizing lb with
  | nil => exact earlier
  | cons src srcs ih =>
      have rest := increaseRefCountForReal_sameRest env lb dst
      rw [installRules_cons]
      split
      · exact earlier
      split
      · exact (increaseRefCountForReal_leads reliable live leads).1 pos earlier
      next taken =>
        rw [rest.config] at taken
        obtain ⟨kept, own, _⟩ := installRule_leads reliable live src taken leads
        apply ih _ own (kept pos earlier)
        rw [installRule_config]
        exact live

/-- A node that networks fill is that of one of them, and leads to an IPv6 real if their
destination does. -/
theorem installRules_routes (reliable : env.Reliable) {dst : IPAddress} {srcs : List CIDRNetwork}
    (live : lb.config.testing = false) {node : Bool × List Bool} {num : Nat}
    (stored : (installRules env dst srcs lb).2.1.kernel.srcRoutes node = some num) :
    lb.kernel.srcRoutes node = some num ∨ ∃ src ∈ srcs, src.node = node ∧
      (lb.leadsToIpv6 dst = true →
        ((installRules env dst srcs lb).2.1.kernel.reals num).isIpv6 = true) := by
  induction srcs generalizing lb with
  | nil => exact .inl stored
  | cons src srcs ih =>
      have rest := increaseRefCountForReal_sameRest env lb dst
      have running : (lb.installRule env dst src).config.testing = false := by
        rw [installRule_config]
        exact live
      rw [installRules_cons] at stored ⊢
      split at stored
      · exact .inl stored
      next fits =>
        rw [if_neg fits]
        split at stored
        · rw [increaseRefCountForReal_srcRoutes] at stored
          exact .inl stored
        next taken =>
          rw [if_neg taken]
          rw [rest.config] at taken
          rcases ih running stored with earlier | ⟨other, member, same, leading⟩
          · rw [installRule_srcRoutes reliable live, Function.update_apply] at earlier
            split at earlier
            next own =>
              obtain rfl := Option.some.inj earlier
              refine .inr ⟨src, List.mem_cons_self, own.symm, fun leads => ?_⟩
              obtain ⟨_, later, written⟩ := installRule_leads reliable live src taken leads
              exact installRules_kept reliable running later written
            next => exact .inl earlier
          · refine .inr ⟨other, List.mem_cons_of_mem _ member, same, fun leads => ?_⟩
            exact leading (installRule_leads reliable live src taken leads).2.1

private theorem foldl_removeRule_routes (reliable : env.Reliable) (srcs : List CIDRNetwork)
    (live : lb.config.testing = false) {node : Bool × List Bool} {num : Nat}
    (stored : (srcs.foldl (removeRule env) lb).kernel.srcRoutes node = some num) :
    lb.kernel.srcRoutes node = some num := by
  induction srcs generalizing lb with
  | nil => exact stored
  | cons src srcs ih =>
      have running : (lb.removeRule env src).config.testing = false := by
        rw [removeRule_config]
        exact live
      have later := ih running stored
      cases found : lb.lpmSrcMapping.lookup src.key with
      | none =>
          rw [removeRule, found] at later
          exact later
      | some rule =>
          rw [removeRule_srcRoutes reliable live found, Function.update_apply] at later
          split at later
          · cases later
          · exact later

/-! ## All calls -/

/-- The reals that a call adds to a VIP. -/
def addsReals : Op → Option (List NewReal × VipKey)
  | .addRealForVip real vip => some ([real], vip)
  | .modifyRealsForVip .add reals vip => some (reals, vip)
  | _ => none

/-- The networks that a call installs, and their destination. -/
def installs (folly : Folly) (lb : KatranLb) : Op → Option (List CIDRNetwork × String)
  | .addSrcRoutingRule srcs dst => some (lb.networksFor folly srcs, dst)
  | .addSrcRoutingRuleCidr srcs dst => some (srcs, dst)
  | _ => none

/-- A call brings numbers to the VIP that it adds reals to. -/
theorem ReliableStep.names {op : Op} (rings : lb.RingsMirrored) (live : lb.config.testing = false)
    (few : lb.config.maxReals.toNat < 2 ^ 31) (taken : ReliableStep folly lb op after)
    {vip : VipKey} {updated : Vip} (read : after.vips.lookup vip = some updated) {num : Nat}
    (names : Names updated num) :
    (∃ current, lb.vips.lookup vip = some current ∧ Names current num) ∨
      ∃ reals, addsReals op = some (reals, vip) ∧ lb.config.disableForwarding = false ∧
        vip ∈ lb.vips ∧
        ((∀ real ∈ reals, ∀ raddr ∈ folly.parse real.address, lb.leadsToIpv6 raddr = true) →
          (after.kernel.reals num).isIpv6 = true) := by
  have unchanged (rest : KeepsRings lb after) :
      ∃ current, lb.vips.lookup vip = some current ∧ Names current num := by
    rcases rest.vips vip updated read with ⟨vipNum, flags, rfl⟩ | ⟨earlier, flags, found, rfl⟩
    · rcases names with member | ⟨slot, filled, written, _⟩
      · exact (AList.notMem_empty num member).elim
      · exact (written (List.eq_of_mem_replicate filled)).elim
    · exact ⟨earlier, found, names⟩
  have taken' := taken
  obtain ⟨env, reliable, performed⟩ := taken
  cases op with
  | addVip vip flags =>
      obtain ⟨⟨done, _⟩, returned, rfl⟩ := Option.map_eq_some_iff.mp performed
      exact .inl (unchanged (addVip_keepsRings reliable live returned))
  | delVip vip =>
      obtain ⟨⟨done, _⟩, returned, rfl⟩ := Option.map_eq_some_iff.mp performed
      exact .inl (unchanged (delVip_keepsRings reliable live returned))
  | modifyVip vip flag set =>
      obtain ⟨⟨done, _⟩, returned, rfl⟩ := Option.map_eq_some_iff.mp performed
      exact .inl (unchanged (modifyVip_keepsRings reliable live returned))
  | addRealForVip real target =>
      obtain ⟨⟨done, _⟩, returned, rfl⟩ := Option.map_eq_some_iff.mp performed
      rw [addRealForVip_eq] at returned
      refine (modifyRealsForVip_names rings reliable live few returned read names).imp_right ?_
      rintro ⟨rfl, _, forwards, present, leading⟩
      exact ⟨_, rfl, forwards, present, leading⟩
  | delRealForVip real target =>
      obtain ⟨⟨done, _⟩, returned, rfl⟩ := Option.map_eq_some_iff.mp performed
      rw [delRealForVip_eq] at returned
      refine (modifyRealsForVip_names rings reliable live few returned read names).imp_right ?_
      rintro ⟨_, wrong, _⟩
      cases wrong
  | modifyRealsForVip action reals target =>
      obtain ⟨⟨done, _⟩, returned, rfl⟩ := Option.map_eq_some_iff.mp performed
      refine (modifyRealsForVip_names rings reliable live few returned read names).imp_right ?_
      rintro ⟨rfl, rfl, forwards, present, leading⟩
      exact ⟨_, rfl, forwards, present, leading⟩
  | _ => exact .inl ⟨updated, (taken'.step.frame_of_other not_false).vips ▸ read, names⟩

/-- A call maps an id: an address has it that did not have it before. -/
def MapsId (lb after : KatranLb) : Op → UInt32 → Prop
  | .modifyQuicRealsMapping _ _, id =>
      ∃ key, after.quicMapping.lookup key = some id ∧ lb.quicMapping.lookup key ≠ some id
  | _, _ => False

/-- A call leaves the number of an id, or maps the id to a real, an IPv6 one if the addresses
that it maps to the id lead to such. -/
theorem ReliableStep.ids {op : Op} (sound : lb.PoolsSound) (live : lb.config.testing = false)
    (taken : ReliableStep folly lb op after) {id : UInt32}
    (leads : ∀ reals, op = .modifyQuicRealsMapping .add reals →
      lb.config.disableForwarding = false →
      ∀ real ∈ reals, real.id = id → id ≤ kMaxQuicId → ∀ raddr ∈ folly.parse real.address,
        raddr.key ∉ lb.quicMapping → lb.leadsToIpv6 raddr = true) :
    (after.kernel.quicMapping id.toNat = lb.kernel.quicMapping id.toNat ∧
      ¬ lb.MapsId after op id) ∨
    (after.kernel.reals (after.kernel.quicMapping id.toNat)).isIpv6 = true := by
  have writes := taken.step.writes
  obtain ⟨env, reliable, performed⟩ := taken
  cases op with
  | modifyQuicRealsMapping action reals =>
      obtain rfl := Option.some.inj performed
      refine (modifyQuicRealsMapping_leads reliable sound live ?_).imp_left ?_
      · rintro forwards rfl
        exact leads reals rfl forwards
      · rintro ⟨unchanged, looked⟩
        refine ⟨unchanged, ?_⟩
        rintro ⟨key, now, before⟩
        exact before (looked key now)
  | _ =>
      refine .inl ⟨?_, not_false⟩
      rw [show after.kernel = _ from writes]

private theorem addSrcRoutingRuleCidr_routes (reliable : env.Reliable)
    (live : lb.config.testing = false)
    {srcs : List CIDRNetwork} {dst : String} {node : Bool × List Bool} {num : Nat}
    (stored : (lb.addSrcRoutingRuleCidr folly env srcs dst).2.1.kernel.srcRoutes node = some num) :
    lb.kernel.srcRoutes node = some num ∨ ∃ addr src, lb.srcRoutingDisabled = false ∧
      folly.parse dst = some addr ∧ src ∈ srcs ∧ src.node = node ∧
      (lb.leadsToIpv6 addr = true →
        ((lb.addSrcRoutingRuleCidr folly env srcs dst).2.1.kernel.reals num).isIpv6 = true) := by
  by_cases disabled : lb.srcRoutingDisabled = true
  · rw [addSrcRoutingRuleCidr, if_pos disabled] at stored
    exact .inl stored
  rw [addSrcRoutingRuleCidr, if_neg disabled] at stored ⊢
  cases parsed : folly.parse dst with
  | none =>
      rw [parsed] at stored
      dsimp only at stored
      rw [validateAddress_kernel] at stored
      exact .inl stored
  | some addr =>
      rw [parsed] at stored
      refine (installRules_routes reliable live stored).imp_right ?_
      rintro ⟨src, member, same, leading⟩
      exact ⟨addr, src, Bool.eq_false_of_not_eq_true disabled, rfl, member, same, leading⟩

/-- A call fills the nodes of the networks that it installs. -/
theorem ReliableStep.routes {op : Op} (live : lb.config.testing = false)
    (taken : ReliableStep folly lb op after) {node : Bool × List Bool} {num : Nat}
    (stored : after.kernel.srcRoutes node = some num) :
    lb.kernel.srcRoutes node = some num ∨ ∃ networks dst addr src,
      lb.installs folly op = some (networks, dst) ∧ lb.srcRoutingDisabled = false ∧
      folly.parse dst = some addr ∧ src ∈ networks ∧ src.node = node ∧
      (lb.leadsToIpv6 addr = true → (after.kernel.reals num).isIpv6 = true) := by
  have writes := taken.step.writes
  obtain ⟨env, reliable, performed⟩ := taken
  cases op with
  | addSrcRoutingRule srcs dst =>
      obtain rfl := Option.some.inj performed
      by_cases disabled : lb.srcRoutingDisabled = true
      · rw [addSrcRoutingRule, if_pos disabled] at stored
        exact .inl stored
      cases parsed : folly.parse dst with
      | none =>
          rw [addSrcRoutingRule, if_neg disabled, parsed] at stored
          dsimp only at stored
          rw [validateAddress_kernel] at stored
          exact .inl stored
      | some addr =>
          obtain ⟨valid, tables, kernel, same⟩ := addSrcRoutingRule_eq folly env srcs dst
            (Bool.eq_false_of_not_eq_true disabled) parsed
          have running : valid.config.testing = false := by
            rw [tables.config]
            exact live
          have leads : valid.leadsToIpv6 addr = lb.leadsToIpv6 addr := by
            unfold leadsToIpv6
            rw [tables.realPool, kernel]
          rw [same] at stored ⊢
          rcases addSrcRoutingRuleCidr_routes reliable running stored with
            earlier | ⟨other, src, _, alsoParsed, member, equal, leading⟩
          · rw [kernel] at earlier
            exact .inl earlier
          · obtain rfl := Option.some.inj (parsed.symm.trans alsoParsed)
            rw [leads] at leading
            exact .inr ⟨_, dst, addr, src, rfl, Bool.eq_false_of_not_eq_true disabled,
              parsed, member, equal, leading⟩
  | addSrcRoutingRuleCidr srcs dst =>
      obtain rfl := Option.some.inj performed
      refine (addSrcRoutingRuleCidr_routes reliable live stored).imp_right ?_
      rintro ⟨addr, src, enabled, parsed, member, equal, leading⟩
      exact ⟨srcs, dst, addr, src, rfl, enabled, parsed, member, equal, leading⟩
  | delSrcRoutingRule srcs =>
      obtain rfl := Option.some.inj performed
      unfold delSrcRoutingRule delSrcRoutingRuleCidr at stored
      split at stored
      · exact .inl stored
      · exact .inl (foldl_removeRule_routes reliable _ live stored)
  | delSrcRoutingRuleCidr srcs =>
      obtain rfl := Option.some.inj performed
      unfold delSrcRoutingRuleCidr at stored
      split at stored
      · exact .inl stored
      · exact .inl (foldl_removeRule_routes reliable _ live stored)
  | clearAllSrcRoutingRules =>
      obtain ⟨⟨done, _⟩, returned, rfl⟩ := Option.map_eq_some_iff.mp performed
      rcases clearAllSrcRoutingRules_cases returned with rfl | ⟨cleared, rfl, looped⟩
      · exact .inl stored
      · have routes := foldlM_clearRule_srcRoutes reliable live looped node
        rw [show cleared.kernel.srcRoutes node = some num from stored] at routes
        split at routes
        · cases routes
        · exact .inl routes.symm
  | _ =>
      rw [show after.kernel = _ from writes] at stored
      exact .inl stored

end KatranLb

end Katran
