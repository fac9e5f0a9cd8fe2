import Katran.Bpf.Structs
import Katran.Lb.Footprint
import Katran.Lb.Pools

/-! # QUIC ids in the kernel

`modifyQuicRealsMapping` collects the numbers of the addresses that it adds and writes
them to `quic_mapping` under their ids. The table in user space is keyed by address, the
array in the kernel by id, and removing an address writes nothing. As long as every id
has one address and no address is removed, the array holds the number of every mapped
address (`QuicAgrees`).
-/

namespace Katran

open Foundation UnorderedMap

namespace KatranLb

variable {folly : Folly} {env : Env} {lb after : KatranLb}

/-- The addresses and ids in a batch that are not refused. -/
def listedIds (folly : Folly) (reals : List QuicReal) : List (IPAddress × UInt32) :=
  reals.filterMap fun real =>
    if real.id > kMaxQuicId then none
    else (folly.parse real.address).map fun addr => (addr.key, real.id)

private theorem listedIds_cons (folly : Folly) (real : QuicReal) (reals : List QuicReal) :
    (listedIds folly (real :: reals) = listedIds folly reals ∧
      (folly.parse real.address = none ∨ real.id > kMaxQuicId)) ∨
    ∃ raddr, folly.parse real.address = some raddr ∧ ¬ real.id > kMaxQuicId ∧
      listedIds folly (real :: reals) = (raddr.key, real.id) :: listedIds folly reals := by
  by_cases high : real.id > kMaxQuicId
  · refine .inl ⟨?_, .inr high⟩
    simp only [listedIds, List.filterMap_cons, high, ↓reduceIte]
  · cases parsed : folly.parse real.address with
    | none =>
        refine .inl ⟨?_, .inl rfl⟩
        simp only [listedIds, List.filterMap_cons, high, ↓reduceIte, parsed, Option.map_none]
    | some raddr =>
        refine .inr ⟨raddr, rfl, high, ?_⟩
        simp only [listedIds, List.filterMap_cons, high, ↓reduceIte, parsed, Option.map_some]

/-! ## The body of the loop -/

/-- An entry that is refused changes nothing. -/
theorem modifyQuicReal_of_refused (env : Env) (lb : KatranLb) (action : ModifyAction)
    (toUpdate : UnorderedMap UInt32 Nat) {real : QuicReal}
    (refused : folly.parse real.address = none ∨ real.id > kMaxQuicId) :
    SameTables lb (modifyQuicReal folly env action (lb, toUpdate) real).1 ∧
      (modifyQuicReal folly env action (lb, toUpdate) real).1.kernel = lb.kernel ∧
      (modifyQuicReal folly env action (lb, toUpdate) real).2 = toUpdate := by
  unfold modifyQuicReal
  dsimp only
  split
  · exact ⟨validateAddress_sameTables folly lb real.address false,
      validateAddress_kernel folly lb real.address false, rfl⟩
  next raddr parsed =>
    rcases refused with invalid | high
    · cases invalid.symm.trans parsed
    · rw [if_pos high]
      exact ⟨.refl lb, rfl, rfl⟩

/-- Adding an address does nothing if it is mapped or there is no number for it, and
otherwise takes a reference and maps it. -/
theorem modifyQuicReal_add (sound : lb.PoolsSound) (env : Env) (toUpdate : UnorderedMap UInt32 Nat)
    {real : QuicReal} {raddr : IPAddress} (parsed : folly.parse real.address = some raddr)
    (allowed : ¬ real.id > kMaxQuicId) :
    (modifyQuicReal folly env .add (lb, toUpdate) real = (lb, toUpdate) ∧
      (raddr.key ∈ lb.quicMapping ∨ (lb.realPool.numOf raddr.key = none ∧ lb.realNums = []))) ∨
    (raddr.key ∉ lb.quicMapping ∧
      ∃ num, (lb.realPool.acquire IPAddress.key (2 ^ 32) raddr).1 = some num ∧
        modifyQuicReal folly env .add (lb, toUpdate) real =
          ({ (lb.increaseRefCountForReal env raddr).2 with
              quicMapping := lb.quicMapping.insert raddr.key real.id },
            toUpdate.insert real.id num)) := by
  simp only [modifyQuicReal, parsed, allowed, ↓reduceIte]
  by_cases mapped : raddr.key ∈ lb.quicMapping
  · simp only [mapped, ↓reduceIte]
    exact .inl ⟨trivial, .inl trivial⟩
  have rest := increaseRefCountForReal_sameRest env lb raddr
  have first := increaseRefCountForReal_fst env lb raddr
  simp only [mapped, ↓reduceIte, rest.config, rest.quicMapping]
  cases taken : (lb.realPool.acquire IPAddress.key (2 ^ 32) raddr).1 with
  | none =>
      rw [taken, Option.getD_none] at first
      obtain ⟨_, unknown, empty⟩ := RefPool.acquire_none taken
      have same : (lb.increaseRefCountForReal env raddr).2 = lb := by
        have absent : lb.reals.lookup raddr.key = none := RefPool.numOf_eq_none.mp unknown
        have none : lb.realNums = [] := empty
        simp only [increaseRefCountForReal, absent, none]
      rw [if_pos first, same]
      exact .inl ⟨rfl, .inr ⟨unknown, empty⟩⟩
  | some num =>
      rw [taken, Option.getD_some] at first
      have numbered := RefPool.numOf_acquire taken raddr.key
      simp only [↓reduceIte] at numbered
      obtain ⟨slot, stored, equal⟩ := RefPool.numOf_eq_some.mp numbered
      have bounded : num < lb.config.maxReals.toNat :=
        equal ▸ (sound.reals.acquire raddr).num_lt stored
      rw [first, if_neg (Nat.ne_of_lt bounded)]
      exact .inr ⟨not_false, num, rfl, rfl⟩

/-- Removing an address does nothing if it is not mapped. -/
theorem modifyQuicReal_del (env : Env) (lb : KatranLb) (toUpdate : UnorderedMap UInt32 Nat)
    {real : QuicReal} {raddr : IPAddress} (parsed : folly.parse real.address = some raddr)
    (allowed : ¬ real.id > kMaxQuicId) :
    modifyQuicReal folly env .del (lb, toUpdate) real =
      if raddr.key ∈ lb.quicMapping then
        ({ lb.decreaseRefCountForReal (some raddr) with
            quicMapping := lb.quicMapping.erase raddr.key }, toUpdate)
      else (lb, toUpdate) := by
  simp only [modifyQuicReal, parsed, allowed, ↓reduceIte,
    (decreaseRefCountForReal_sameRest lb (some raddr)).quicMapping]

/-! ## Ids that are never added -/

/-- Only ids that are added are collected. -/
theorem modifyQuicReal_toUpdate (folly : Folly) (env : Env) (action : ModifyAction)
    (state : KatranLb × UnorderedMap UInt32 Nat) (real : QuicReal) {id : UInt32}
    (collected : id ∈ (modifyQuicReal folly env action state real).2) :
    id ∈ state.2 ∨ (action = .add ∧ id = real.id) := by
  obtain ⟨lb, toUpdate⟩ := state
  unfold modifyQuicReal at collected
  dsimp only at collected
  split at collected
  · exact .inl collected
  split at collected
  · exact .inl collected
  cases action with
  | del =>
      dsimp only at collected
      split at collected
      · exact .inl collected
      · exact .inl collected
  | add =>
      dsimp only at collected
      split at collected
      · exact .inl collected
      split at collected
      · exact .inl collected
      · rcases (AList.mem_insert _).mp collected with same | earlier
        · exact .inr ⟨rfl, same⟩
        · exact .inl earlier

/-- Only ids that are listed are written. -/
theorem foldl_modifyQuicReal_toUpdate (folly : Folly) (env : Env) (action : ModifyAction)
    (reals : List QuicReal) (state : KatranLb × UnorderedMap UInt32 Nat) {id : UInt32}
    (collected : id ∈ (reals.foldl (modifyQuicReal folly env action) state).2) :
    id ∈ state.2 ∨ (action = .add ∧ ∃ real ∈ reals, real.id = id) := by
  induction reals generalizing state with
  | nil => exact .inl collected
  | cons real reals ih =>
      rcases ih _ collected with earlier | ⟨adds, other, member, same⟩
      · rcases modifyQuicReal_toUpdate folly env action state real earlier with
          before | ⟨adds, same⟩
        · exact .inl before
        · exact .inr ⟨adds, real, List.mem_cons_self, same.symm⟩
      · exact .inr ⟨adds, other, List.mem_cons_of_mem _ member, same⟩

private theorem foldl_writeQuicMapping_of_not_mem (env : Env)
    (mappings : List (Sigma fun _ : UInt32 => Nat)) (lb : KatranLb) {index : Nat}
    (unlisted : ∀ mapping ∈ mappings, mapping.1.toNat ≠ index) :
    (mappings.foldl (writeQuicMapping env) lb).kernel.quicMapping index =
      lb.kernel.quicMapping index := by
  induction mappings generalizing lb with
  | nil => rfl
  | cons mapping mappings ih =>
      rw [List.foldl_cons, ih _ fun other member => unlisted other (List.mem_cons_of_mem _ member)]
      unfold writeQuicMapping
      rcases bpfCall_kernel_cases env lb _ with same | written
      · rw [same]
      · rw [written]
        exact Function.update_of_ne (unlisted mapping List.mem_cons_self).symm _ _

/-- An entry of `quic_mapping` is written only for an id that is added. -/
theorem modifyQuicRealsMapping_of_not_added (env : Env) (lb : KatranLb) {action : ModifyAction}
    {reals : List QuicReal} {index : Nat}
    (never : action = .add → ∀ real ∈ reals, real.id.toNat ≠ index) :
    (lb.modifyQuicRealsMapping folly env action reals).kernel.quicMapping index =
      lb.kernel.quicMapping index := by
  unfold modifyQuicRealsMapping
  split
  · rfl
  have looped : (reals.foldl (modifyQuicReal folly env action) (lb, ∅)).1.kernel.quicMapping =
      lb.kernel.quicMapping := by
    rw [foldl_modifyQuicReal_onlyReals folly env action reals (lb, ∅)]
  dsimp only
  split
  · rw [looped]
  · rw [foldl_writeQuicMapping_of_not_mem, looped]
    rintro ⟨id, num⟩ member same
    rw [IterOrder.mem_visit] at member
    have collected := mem_of_lookup (mem_entries.mp member)
    rcases foldl_modifyQuicReal_toUpdate folly env action reals (lb, ∅) collected with
      empty | ⟨adds, real, listed, equal⟩
    · exact AList.notMem_empty _ empty
    · rw [← equal] at same
      exact never adds real listed same

end KatranLb

/-- The operation asks for an id. -/
def Op.AddsId (index : Nat) : Op → Prop
  | .modifyQuicRealsMapping .add reals => ∃ real ∈ reals, real.id.toNat = index
  | _ => False

namespace KatranLb

variable {folly : Folly} {env : Env} {lb after : KatranLb}

/-- A step leaves an entry of `quic_mapping` alone unless it adds its id. -/
theorem Step.quicMapping {op : Op} {index : Nat} (taken : Step folly lb op after)
    (never : ¬ op.AddsId index) :
    after.kernel.quicMapping index = lb.kernel.quicMapping index := by
  by_cases quic : ∃ action reals, op = .modifyQuicRealsMapping action reals
  · obtain ⟨action, reals, rfl⟩ := quic
    obtain ⟨env, performed⟩ := taken
    obtain rfl := Option.some.inj performed
    apply modifyQuicRealsMapping_of_not_added
    rintro rfl real member same
    exact never ⟨real, member, same⟩
  · rw [taken.writes.quicMapping]
    intro action reals same
    exact quic ⟨action, reals, same⟩

/-! ## Batches that keep the array in step -/

/-- No address has the id, and the array has an entry for it. -/
def FreshId (mapping : UnorderedMap IPAddress UInt32) (id : UInt32) : Prop :=
  id.toNat < maxQuicReals ∧ ∀ entry ∈ mapping.entries, entry.2 ≠ id

instance (mapping : UnorderedMap IPAddress UInt32) (id : UInt32) : Decidable (FreshId mapping id) :=
  inferInstanceAs (Decidable (_ ∧ _))

/-- Every address that is mapped, because it is not mapped yet and there is a free number
for it, gets an id that no other address has. -/
def AddsFreshIds (mapping : UnorderedMap IPAddress UInt32) (free : Nat) :
    List (IPAddress × UInt32) → Prop
  | [] => True
  | (key, id) :: listed =>
      if key ∈ mapping ∨ free = 0 then AddsFreshIds mapping free listed
      else FreshId mapping id ∧ AddsFreshIds (mapping.insert key id) (free - 1) listed

instance decidableAddsFreshIds (mapping : UnorderedMap IPAddress UInt32) (free : Nat) :
    (listed : List (IPAddress × UInt32)) → Decidable (AddsFreshIds mapping free listed)
  | [] => inferInstanceAs (Decidable True)
  | (key, id) :: listed =>
      have := decidableAddsFreshIds mapping free listed
      have := decidableAddsFreshIds (mapping.insert key id) (free - 1) listed
      inferInstanceAs (Decidable
        (if key ∈ mapping ∨ free = 0 then AddsFreshIds mapping free listed
        else FreshId mapping id ∧ AddsFreshIds (mapping.insert key id) (free - 1) listed))

/-- An addition gives fresh ids, and a removal removes no address but that of the id zero,
by which no packet is routed. -/
def KeepsIds (folly : Folly) (lb : KatranLb) : ModifyAction × List QuicReal → Prop
  | (.add, reals) => AddsFreshIds lb.quicMapping lb.realNums.length (listedIds folly reals)
  | (.del, reals) => ∀ entry ∈ listedIds folly reals, ∀ id ∈ lb.quicMapping.lookup entry.1, id = 0

instance (folly : Folly) (lb : KatranLb) : (batch : ModifyAction × List QuicReal) →
    Decidable (lb.KeepsIds folly batch)
  | (.add, reals) => inferInstanceAs (Decidable
      (AddsFreshIds lb.quicMapping lb.realNums.length (listedIds folly reals)))
  | (.del, reals) =>
      haveI (entry : IPAddress × UInt32) :
          Decidable (∀ id ∈ lb.quicMapping.lookup entry.1, id = 0) :=
        Option.decidableForallMem _
      inferInstanceAs (Decidable
        (∀ entry ∈ listedIds folly reals, ∀ id ∈ lb.quicMapping.lookup entry.1, id = 0))

/-! ## Who owns an id -/

/-- Every real is there for one mapped address, every mapped address has the number that
is kept for its id, no two addresses have one id, and every id in use has an address. -/
structure QuicOwners (lb : KatranLb) (numOfId : UInt32 → Nat) (inUse : UInt32 → Prop) : Prop where
  pools : lb.PoolsSound
  owned : ∀ key slot, lb.reals.lookup key = some slot → slot.refCount = 1 ∧ key ∈ lb.quicMapping
  entries : ∀ key id, lb.quicMapping.lookup key = some id →
    id.toNat < maxQuicReals ∧ lb.realPool.numOf key = some (numOfId id)
  distinct : ∀ first second id, lb.quicMapping.lookup first = some id →
    lb.quicMapping.lookup second = some id → first = second
  used : ∀ id, inUse id → ∃ key, lb.quicMapping.lookup key = some id

namespace QuicOwners

variable {numOfId : UInt32 → Nat} {inUse : UInt32 → Prop}

private theorem sameTables (owners : QuicOwners lb numOfId inUse) (same : SameTables lb after) :
    QuicOwners after numOfId inUse where
  pools := owners.pools.frame (.of_sameTables same)
  owned := by
    rw [same.reals, same.quicMapping]
    exact owners.owned
  entries := by
    rw [same.quicMapping, same.realPool]
    exact owners.entries
  distinct := by
    rw [same.quicMapping]
    exact owners.distinct
  used := by
    rw [same.quicMapping]
    exact owners.used

/-- Fewer ids may be in use. -/
theorem mono {fewer : UInt32 → Prop} (owners : QuicOwners lb numOfId inUse)
    (included : ∀ id, fewer id → inUse id) : QuicOwners lb numOfId fewer :=
  { owners with used := fun id needed => owners.used id (included id needed) }

/-- An address that is not mapped is no real. -/
theorem numOf_eq_none (owners : QuicOwners lb numOfId inUse) {key : IPAddress}
    (unmapped : key ∉ lb.quicMapping) : lb.realPool.numOf key = none := by
  rw [RefPool.numOf_eq_none]
  cases found : lb.realPool.table.lookup key with
  | none => rfl
  | some slot => exact (unmapped (owners.owned key slot found).2).elim

/-- An address is mapped to a fresh id. -/
theorem insert (owners : QuicOwners lb numOfId inUse) (pools : after.PoolsSound)
    {raddr : IPAddress} {id : UInt32} {num : Nat} (unmapped : raddr.key ∉ lb.quicMapping)
    (fresh : FreshId lb.quicMapping id)
    (taken : (lb.realPool.acquire IPAddress.key (2 ^ 32) raddr).1 = some num)
    (pool : after.realPool = (lb.realPool.acquire IPAddress.key (2 ^ 32) raddr).2)
    (mapping : after.quicMapping = lb.quicMapping.insert raddr.key id) :
    QuicOwners after (Function.update numOfId id num) fun other => inUse other ∨ other = id := by
  have unknown : lb.realPool.table.lookup raddr.key = none :=
    RefPool.numOf_eq_none.mp (owners.numOf_eq_none unmapped)
  rcases RefPool.acquire_some taken with ⟨slot, found, _⟩ | ⟨_, free, _, next⟩
  · cases unknown.symm.trans found
  have table : after.reals = lb.reals.insert raddr.key ⟨num, 1⟩ :=
    congrArg RefPool.table (pool.trans next)
  have other {key : IPAddress} {theirs : UInt32} (different : key ≠ raddr.key)
      (mapped : after.quicMapping.lookup key = some theirs) :
      lb.quicMapping.lookup key = some theirs ∧ theirs ≠ id := by
    rw [mapping, lookup_insert_eq_ite, if_neg different] at mapped
    refine ⟨mapped, ?_⟩
    rintro rfl
    exact fresh.2 _ (mem_entries.mpr mapped) rfl
  have self {theirs : UInt32} (mapped : after.quicMapping.lookup raddr.key = some theirs) :
      theirs = id := by
    rw [mapping, AList.lookup_insert] at mapped
    exact (Option.some.inj mapped).symm
  refine ⟨pools, ?_, ?_, ?_, ?_⟩
  · intro key slot found
    rw [table, lookup_insert_eq_ite] at found
    rw [mapping, AList.mem_insert]
    by_cases same : key = raddr.key
    · rw [if_pos same] at found
      obtain rfl := Option.some.inj found
      exact ⟨rfl, .inl same⟩
    · rw [if_neg same] at found
      obtain ⟨once, mapped⟩ := owners.owned key slot found
      exact ⟨once, .inr mapped⟩
  · intro key theirs mapped
    rw [pool, RefPool.numOf_acquire taken]
    by_cases same : key = raddr.key
    · subst same
      obtain rfl := self mapped
      rw [if_pos rfl, Function.update_self]
      exact ⟨fresh.1, rfl⟩
    · obtain ⟨before, different⟩ := other same mapped
      rw [if_neg same, Function.update_of_ne different]
      exact owners.entries key theirs before
  · intro first second theirs left right
    by_cases leftSame : first = raddr.key
    · by_cases rightSame : second = raddr.key
      · rw [leftSame, rightSame]
      · subst leftSame
        exact ((other rightSame right).2 (self left)).elim
    · by_cases rightSame : second = raddr.key
      · subst rightSame
        exact ((other leftSame left).2 (self right)).elim
      · exact owners.distinct first second theirs (other leftSame left).1 (other rightSame right).1
  · rintro theirs (earlier | rfl)
    · obtain ⟨key, mapped⟩ := owners.used theirs earlier
      refine ⟨key, ?_⟩
      rw [mapping, AList.lookup_insert_ne, mapped]
      rintro rfl
      exact unmapped (mem_of_lookup mapped)
    · exact ⟨raddr.key, by rw [mapping, AList.lookup_insert]⟩

/-- An address is unmapped whose id nobody counts on. -/
theorem erase (owners : QuicOwners lb numOfId inUse) (pools : after.PoolsSound)
    {key : IPAddress} {id : UInt32} (mapped : lb.quicMapping.lookup key = some id)
    (unused : ¬ inUse id)
    (pool : after.realPool = lb.realPool.release (2 ^ 32) key)
    (mapping : after.quicMapping = lb.quicMapping.erase key) :
    QuicOwners after numOfId inUse := by
  have live : lb.realPool.Live (2 ^ 32) := by
    intro other slot found
    rw [(owners.owned other slot found).1]
    omega
  obtain ⟨slot, found, _⟩ := RefPool.numOf_eq_some.mp (owners.entries key id mapped).2
  have released := RefPool.release_of_lookup live found
  rw [if_pos (owners.owned key slot found).1] at released
  have table : after.reals = lb.reals.erase key := congrArg RefPool.table (pool.trans released)
  have earlier {other : IPAddress} {theirs : UInt32}
      (still : after.quicMapping.lookup other = some theirs) :
      other ≠ key ∧ lb.quicMapping.lookup other = some theirs := by
    rw [mapping, lookup_erase_eq_ite] at still
    split at still
    · cases still
    next different => exact ⟨different, still⟩
  refine ⟨pools, ?_, ?_, ?_, ?_⟩
  · intro other slot found
    rw [table, lookup_erase_eq_ite] at found
    split at found
    · cases found
    next different =>
      obtain ⟨once, member⟩ := owners.owned other slot found
      rw [mapping, AList.mem_erase]
      exact ⟨once, different, member⟩
  · intro other theirs still
    obtain ⟨different, before⟩ := earlier still
    rw [RefPool.numOf, realPool_table, table, lookup_erase_eq_ite, if_neg different]
    exact owners.entries other theirs before
  · intro first second theirs left right
    exact owners.distinct first second theirs (earlier left).2 (earlier right).2
  · intro theirs needed
    obtain ⟨other, before⟩ := owners.used theirs needed
    refine ⟨other, ?_⟩
    rw [mapping, AList.lookup_erase_ne, before]
    rintro rfl
    obtain rfl := Option.some.inj (mapped.symm.trans before)
    exact unused needed

end QuicOwners

/-- The number of an id after the collected numbers have been written. -/
def numFor (written : Nat → Nat) (toUpdate : UnorderedMap UInt32 Nat) (id : UInt32) : Nat :=
  (toUpdate.lookup id).getD (written id.toNat)

private theorem numFor_insert (written : Nat → Nat) (toUpdate : UnorderedMap UInt32 Nat)
    (id : UInt32) (num : Nat) :
    numFor written (toUpdate.insert id num) = Function.update (numFor written toUpdate) id num := by
  funext other
  unfold numFor
  by_cases same : other = id
  · subst same
    rw [AList.lookup_insert, Function.update_self, Option.getD_some]
  · rw [AList.lookup_insert_ne same, Function.update_of_ne same]

namespace QuicOwners

variable {written : Nat → Nat} {inUse : UInt32 → Prop}

/-- The loop for additions. -/
theorem addAll {reals : List QuicReal} {toUpdate : UnorderedMap UInt32 Nat}
    (owners : QuicOwners lb (numFor written toUpdate) fun id => inUse id ∨ id ∈ toUpdate)
    (fresh : AddsFreshIds lb.quicMapping lb.realNums.length (listedIds folly reals)) :
    QuicOwners (reals.foldl (modifyQuicReal folly env .add) (lb, toUpdate)).1
      (numFor written (reals.foldl (modifyQuicReal folly env .add) (lb, toUpdate)).2)
      fun id => inUse id ∨ id ∈ (reals.foldl (modifyQuicReal folly env .add) (lb, toUpdate)).2 := by
  induction reals generalizing lb toUpdate with
  | nil => exact owners
  | cons real reals ih =>
      rw [List.foldl_cons]
      rcases listedIds_cons folly real reals with ⟨same, refused⟩ | ⟨raddr, parsed, allowed, listed⟩
      · rw [same] at fresh
        have unchanged := modifyQuicReal_of_refused env lb .add toUpdate refused
        generalize modifyQuicReal folly env .add (lb, toUpdate) real = next at unchanged ⊢
        obtain ⟨after, collected⟩ := next
        obtain ⟨tables, _, rfl⟩ := unchanged
        refine ih (owners.sameTables tables) ?_
        rw [tables.quicMapping, tables.realNums]
        exact fresh
      rw [listed, AddsFreshIds] at fresh
      rcases modifyQuicReal_add owners.pools env toUpdate parsed allowed with
        ⟨skipped, reason⟩ | ⟨unmapped, num, taken, added⟩
      · rw [skipped]
        rw [if_pos] at fresh
        · exact ih owners fresh
        · rcases reason with mapped | ⟨_, empty⟩
          · exact .inl mapped
          · exact .inr (by rw [empty, List.length_nil])
      · have pools := owners.pools.frame
          (modifyQuicReal_frame folly env .add (lb, toUpdate) real)
        have pool := increaseRefCountForReal_realPool env lb raddr
        have queue := RefPool.free_of_acquire (owners.numOf_eq_none unmapped) taken
        rw [← pool, realPool_free, realPool_free] at queue
        have available : ¬ (raddr.key ∈ lb.quicMapping ∨ lb.realNums.length = 0) := by
          rw [queue, List.length_cons, not_or]
          exact ⟨unmapped, Nat.succ_ne_zero _⟩
        rw [if_neg available, queue, List.length_cons, Nat.add_sub_cancel] at fresh
        rw [added] at pools ⊢
        have grown := owners.insert pools unmapped fresh.1 taken pool rfl
        refine ih ?_ ?_
        · rw [numFor_insert]
          have ids : (fun id => inUse id ∨ id ∈ toUpdate.insert real.id num) =
              fun id => (inUse id ∨ id ∈ toUpdate) ∨ id = real.id := by
            funext id
            rw [AList.mem_insert, or_assoc, or_comm (a := id ∈ toUpdate)]
          rw [ids]
          exact grown
        · exact fresh.2

/-- The loop for removals. -/
theorem delAll {reals : List QuicReal} {numOfId : UInt32 → Nat}
    (owners : QuicOwners lb numOfId inUse) (env : Env) (toUpdate : UnorderedMap UInt32 Nat)
    (unused : ¬ inUse 0)
    (zeros : ∀ entry ∈ listedIds folly reals, ∀ id ∈ lb.quicMapping.lookup entry.1, id = 0) :
    QuicOwners (reals.foldl (modifyQuicReal folly env .del) (lb, toUpdate)).1 numOfId inUse ∧
      (reals.foldl (modifyQuicReal folly env .del) (lb, toUpdate)).2 = toUpdate := by
  induction reals generalizing lb with
  | nil => exact ⟨owners, rfl⟩
  | cons real reals ih =>
      rw [List.foldl_cons]
      rcases listedIds_cons folly real reals with ⟨same, refused⟩ | ⟨raddr, parsed, allowed, listed⟩
      · rw [same] at zeros
        have unchanged := modifyQuicReal_of_refused env lb .del toUpdate refused
        generalize modifyQuicReal folly env .del (lb, toUpdate) real = next at unchanged ⊢
        obtain ⟨after, collected⟩ := next
        obtain ⟨tables, _, rfl⟩ := unchanged
        refine ih (owners.sameTables tables) ?_
        rw [tables.quicMapping]
        exact zeros
      rw [listed] at zeros
      have later : ∀ entry ∈ listedIds folly reals, ∀ id ∈ lb.quicMapping.lookup entry.1, id = 0 :=
        fun entry member => zeros entry (List.mem_cons_of_mem _ member)
      have pools := owners.pools.frame (modifyQuicReal_frame folly env .del (lb, toUpdate) real)
      rw [modifyQuicReal_del env lb toUpdate parsed allowed] at pools ⊢
      split
      next mapped =>
        rw [if_pos mapped] at pools
        obtain ⟨id, found⟩ := exists_lookup_of_mem mapped
        obtain rfl : id = 0 := zeros _ List.mem_cons_self id found
        refine ih (owners.erase pools found unused
          (decreaseRefCountForReal_realPool lb raddr) rfl) ?_
        intro entry member id still
        dsimp only at still
        rw [lookup_erase_eq_ite] at still
        split at still
        · cases still
        · exact later entry member id still
      next unmapped => exact ih owners later

end QuicOwners

/-! ## Writing the ids -/

private theorem foldl_writeQuicMapping_kernel (reliable : env.Reliable)
    (mappings : List (Sigma fun _ : UInt32 => Nat)) (lb : KatranLb) :
    (mappings.foldl (writeQuicMapping env) lb).kernel.quicMapping =
      writeAll lb.kernel.quicMapping (mappings.map fun mapping =>
        (mapping.1.toNat, mapping.2)) := by
  induction mappings generalizing lb with
  | nil => rfl
  | cons mapping mappings ih =>
      rw [List.foldl_cons, ih, List.map_cons]
      have written := bpfCall_kernel reliable lb fun maps => { maps with
        quicMapping := Function.update maps.quicMapping mapping.1.toNat mapping.2 }
      unfold writeQuicMapping
      rw [written]
      rfl

/-- The collected numbers are written under their ids. -/
theorem writeAll_toUpdate (order : IterOrder) (written : Nat → Nat)
    (toUpdate : UnorderedMap UInt32 Nat) (id : UInt32) :
    writeAll written ((order.visit toUpdate.entries).map fun mapping =>
      (mapping.1.toNat, mapping.2)) id.toNat = numFor written toUpdate id := by
  unfold numFor
  cases found : toUpdate.lookup id with
  | some num =>
      apply writeAll_of_mem
      · have once : ((order.visit toUpdate.entries).map Sigma.fst).Nodup :=
          (((order.visit_perm toUpdate.entries).map Sigma.fst).nodup_iff).mpr toUpdate.nodupKeys
        have distinct := once.map (f := UInt32.toNat) fun _ _ => UInt32.toNat_inj.mp
        simpa only [List.map_map, Function.comp_def] using distinct
      · exact List.mem_map.mpr ⟨⟨id, num⟩,
          (order.mem_visit _ _).mpr (mem_entries.mpr found), rfl⟩
  | none =>
      rw [writeAll_of_not_mem]
      · rfl
      · rw [List.map_map, List.mem_map]
        rintro ⟨⟨other, num⟩, member, same⟩
        rw [IterOrder.mem_visit] at member
        obtain rfl : other = id := UInt32.toNat_inj.mp same
        cases found.symm.trans (mem_entries.mp member)

/-- The numbers that a call collects. -/
def collected (folly : Folly) (env : Env) (lb : KatranLb) (batch : ModifyAction × List QuicReal) :
    KatranLb × UnorderedMap UInt32 Nat :=
  if lb.config.disableForwarding then (lb, ∅)
  else batch.2.foldl (modifyQuicReal folly env batch.1) (lb, ∅)

/-- A call collects numbers and then writes them. -/
theorem modifyQuicRealsMapping_spec (folly : Folly) (reliable : env.Reliable)
    (live : lb.config.testing = false)
    (batch : ModifyAction × List QuicReal) :
    SameTables (lb.collected folly env batch).1
      (lb.modifyQuicRealsMapping folly env batch.1 batch.2) ∧
    ∀ id, (lb.modifyQuicRealsMapping folly env batch.1 batch.2).kernel.quicMapping id.toNat =
      numFor lb.kernel.quicMapping (lb.collected folly env batch).2 id := by
  unfold modifyQuicRealsMapping collected
  split
  · exact ⟨.refl lb, fun _ => rfl⟩
  have config : (batch.2.foldl (modifyQuicReal folly env batch.1) (lb, ∅)).1.config = lb.config :=
    (Frame.foldl Prod.fst (modifyQuicReal_frame folly env batch.1) batch.2 (lb, ∅)).config
  have looped : (batch.2.foldl (modifyQuicReal folly env batch.1) (lb, ∅)).1.kernel.quicMapping =
      lb.kernel.quicMapping := by
    rw [foldl_modifyQuicReal_onlyReals folly env batch.1 batch.2 (lb, ∅)]
  dsimp only
  rw [config, live, if_neg Bool.false_ne_true]
  refine ⟨SameTables.foldl (fun lb mapping => bpfCall_sameTables env lb _) _ _, fun id => ?_⟩
  rw [foldl_writeQuicMapping_kernel reliable, looped, writeAll_toUpdate]

/-! ## Runs -/

/-- The balancer with the ids that have been written to `quic_mapping`. -/
structure QuicTrace where
  lb : KatranLb
  written : List UInt32

namespace QuicTrace

/-- A new balancer, with no id listed yet. -/
def new (config : KatranConfig) (features : KatranFeatures) (kernel : ConfigMaps) : QuicTrace :=
  ⟨.new config features kernel, []⟩

/-- A call of `modifyQuicRealsMapping` whose bpf calls succeed. -/
def Step (folly : Folly) (state : QuicTrace) (batch : ModifyAction × List QuicReal)
    (after : QuicTrace) : Prop :=
  ∃ env : Env, env.Reliable ∧
    after.lb = state.lb.modifyQuicRealsMapping folly env batch.1 batch.2 ∧
    after.written = state.written ++ (state.lb.collected folly env batch).2.keys

/-- The array has the number of every mapped address under its id, and every id that was
written, but zero, has an address. -/
def Agrees (state : QuicTrace) : Prop :=
  QuicOwners state.lb (fun id => state.lb.kernel.quicMapping id.toNat)
    fun id => id ∈ state.written ∧ id ≠ 0

/-- A new balancer has no ids. -/
theorem Agrees.new (config : KatranConfig) (features : KatranFeatures) (kernel : ConfigMaps) :
    (new config features kernel).Agrees where
  pools := .new config features kernel
  owned := by
    intro key slot found
    simp only [QuicTrace.new, KatranLb.new, AList.lookup_empty, reduceCtorEq] at found
  entries := by
    intro key id mapped
    simp only [QuicTrace.new, KatranLb.new, AList.lookup_empty, reduceCtorEq] at mapped
  distinct := by
    intro first second id mapped
    simp only [QuicTrace.new, KatranLb.new, AList.lookup_empty, reduceCtorEq] at mapped
  used := by
    intro id listed
    cases listed.1

/-- A call with fresh ids, or one that removes no id that packets are routed by, keeps
the array in step. -/
theorem Agrees.step {state after : QuicTrace} {batch : ModifyAction × List QuicReal}
    (agrees : state.Agrees) (live : state.lb.config.testing = false)
    (taken : Step folly state batch after) (keeps : state.lb.KeepsIds folly batch) :
    after.Agrees ∧ after.lb.config = state.lb.config := by
  obtain ⟨env, reliable, performed, written⟩ := taken
  obtain ⟨tables, kernel⟩ := modifyQuicRealsMapping_spec folly reliable live batch
  rw [← performed] at tables kernel
  have config : after.lb.config = state.lb.config := by
    rw [performed]
    exact (modifyQuicRealsMapping_frame folly env state.lb batch.1 batch.2).config
  refine ⟨?_, config⟩
  have numbers : (fun id : UInt32 => after.lb.kernel.quicMapping id.toNat) =
      numFor state.lb.kernel.quicMapping (state.lb.collected folly env batch).2 := funext kernel
  unfold Agrees
  rw [numbers, written]
  apply QuicOwners.sameTables _ tables
  have before : QuicOwners state.lb (numFor state.lb.kernel.quicMapping ∅)
      fun id => id ∈ state.written ∧ id ≠ 0 := agrees
  unfold collected
  split
  · apply before.mono
    intro id listed
    rwa [AList.keys_empty, List.append_nil] at listed
  obtain ⟨action, reals⟩ := batch
  cases action with
  | add =>
      have start : QuicOwners state.lb (numFor state.lb.kernel.quicMapping ∅)
          fun id => (id ∈ state.written ∧ id ≠ 0) ∨ id ∈ (∅ : UnorderedMap UInt32 Nat) :=
        { before with used := fun id needed =>
            before.used id (needed.resolve_right (AList.notMem_empty id)) }
      apply (start.addAll keeps).mono
      rintro id ⟨listed, nonzero⟩
      rcases List.mem_append.mp listed with earlier | now
      · exact .inl ⟨earlier, nonzero⟩
      · exact .inr (AList.mem_keys.mpr now)
  | del =>
      obtain ⟨owners, nothing⟩ := before.delAll env ∅ (fun zero => zero.2 rfl) keeps
      rw [nothing]
      apply owners.mono
      intro id listed
      rwa [AList.keys_empty, List.append_nil] at listed

end QuicTrace

end KatranLb

end Katran
