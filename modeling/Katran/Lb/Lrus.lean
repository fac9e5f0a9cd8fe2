import Katran.Bpf.Structs
import Mathlib.Algebra.Group.Nat.Defs
import Mathlib.Data.List.GetD

/-! # The connection tables of the cores

`initLrus` creates a table for each forwarding core and keeps the descriptors in a vector by
the number of the core; `attachLrus` writes them into `lru_maps_mapping`. A core may be listed
twice, and its last table is the one that counts.

The check of a core's number admits one number too many for the vector. A write past its end
is modelled as one that the vector does not show, and what is read there is anything
(`Lrus.stray`). But `lru_maps_mapping` has no entry of that number, so attaching fails.
-/

namespace Katran

/-- The most cores that can forward. -/
def kMaxForwardingCores : Nat := 128
/-- The node of a map that is not bound to one. -/
def kNoNuma : Int := -1
/-- The flag of a map that is bound to a node, `BPF_F_NUMA_NODE`. -/
def kMapNumaNode : Nat := 4
/-- The flags of other maps. -/
def kMapNoFlags : Nat := 0
/-- The size of the table for the cores that have none of their own. -/
def kFallbackLruSize : Nat := 1024

/-- The part of `KatranConfig` that is about connection tables. -/
structure LruConfig where
  lruSize : UInt64 := 8000000
  forwardingCores : List Int := []
  numaNodes : List Int := []

/-- A table that has been created, and the core for which that was. -/
structure CreatedLru where
  fd : Int
  core : Option Int
  maxEntries : Nat
  mapFlags : Nat
  numaNode : Int
deriving DecidableEq, Repr

/-- What the kernel and memory that is not the library's answer: the results of the calls that
create tables, of `setInnerMapPrototype`, and what is read past the end of the vector. -/
structure LruEnv where
  descriptor : Nat → Int
  prototypeRes : Int
  stray : Int → Int

/-- Descriptors that are returned are new. -/
def LruEnv.Fresh (env : LruEnv) : Prop :=
  ∀ first second, 0 ≤ env.descriptor first → env.descriptor first = env.descriptor second →
    first = second

/-- `lruMapsFd_`, the tables created so far, and the indices under which the vector has been
accessed. -/
structure Lrus where
  lruMapsFd : List Int := List.replicate kMaxForwardingCores 0
  created : List CreatedLru := []
  accesses : List Int := []
deriving DecidableEq, Repr

namespace Lrus

/-- An entry of the vector is written. -/
def write (lrus : Lrus) (index : Int) (fd : Int) : Lrus :=
  { lrus with
    lruMapsFd := if 0 ≤ index then lrus.lruMapsFd.set index.toNat fd else lrus.lruMapsFd
    accesses := lrus.accesses ++ [index] }

/-- An entry of the vector is read. -/
def read (env : LruEnv) (lrus : Lrus) (index : Int) : Int × Lrus :=
  (if 0 ≤ index then lrus.lruMapsFd.getD index.toNat (env.stray index) else env.stray index,
    { lrus with accesses := lrus.accesses ++ [index] })

/-- `createLruMap`. The size is an `int`, which the adapter takes as an `unsigned int`. -/
def createLruMap (env : LruEnv) (lrus : Lrus) (core : Option Int) (size : Nat) (flags : Nat)
    (numaNode : Int) : Int × Lrus :=
  let fd := env.descriptor lrus.created.length
  (fd, { lrus with created := lrus.created ++ [⟨fd, core, size % 2 ^ 32, flags, numaNode⟩] })

/-- The loop of `initLrus` over the cores with their nodes. -/
def initCores (env : LruEnv) (perCoreLruSize : Nat) (flags : Nat) :
    List (Int × Int) → Lrus → Option Lrus
  | [], lrus => some lrus
  | (core, numaNode) :: cores, lrus =>
      if core > kMaxForwardingCores ∨ core < 0 then none
      else
        let (fd, lrus) := lrus.createLruMap env (some core) perCoreLruSize flags numaNode
        if fd < 0 then none
        else initCores env perCoreLruSize flags cores (lrus.write core fd)

/-- The part of `initLrus` that sets the prototype of `lru_maps_mapping`. -/
def setPrototype (env : LruEnv) (config : LruConfig) (lrus : Lrus) : Option Lrus :=
  let (fd, lrus) :=
    match config.forwardingCores with
    | core :: _ => lrus.read env core
    | [] => lrus.createLruMap env none kFallbackLruSize kMapNoFlags kNoNuma
  if config.forwardingCores = [] ∧ fd < 0 then none
  else if env.prototypeRes < 0 then none
  else some lrus

/-- `initLrus`, of which the result is missing if it throws. -/
def initLrus (env : LruEnv) (config : LruConfig) : Option Lrus :=
  if config.forwardingCores = [] then setPrototype env config {}
  else if config.numaNodes ≠ [] ∧ config.numaNodes.length ≠ config.forwardingCores.length then none
  else
    let perCoreLruSize := config.lruSize.toNat / config.forwardingCores.length
    let numaMapping := config.numaNodes ≠ []
    let nodes := if numaMapping then config.numaNodes
      else List.replicate config.forwardingCores.length kNoNuma
    let flags := if numaMapping then kMapNumaNode else kMapNoFlags
    (initCores env perCoreLruSize flags (config.forwardingCores.zip nodes) {}).bind
      (setPrototype env config)

/-- The number of entries of `lru_maps_mapping`. -/
def lruMapsMappingSize : Nat := ({} : BpfConfig).maxSupportedCpus

/-- The loop of `attachLrus`, on the descriptors of the tables in `lru_maps_mapping`. -/
def attachCores (env : LruEnv) :
    List Int → Lrus → (Int → Option Int) → Option (Lrus × (Int → Option Int))
  | [], lrus, mapping => some (lrus, mapping)
  | core :: cores, lrus, mapping =>
      let (fd, lrus) := lrus.read env core
      if 0 ≤ core ∧ core < lruMapsMappingSize then
        attachCores env cores lrus (Function.update mapping core (some fd))
      else none

/-- `attachLrus`, of which the result is missing if it throws. -/
def attachLrus (env : LruEnv) (config : LruConfig) (progsLoaded : Bool) (lrus : Lrus) :
    Option (Lrus × (Int → Option Int)) :=
  if progsLoaded then attachCores env config.forwardingCores lrus fun _ => none else none

/-! ## The tables of the cores -/

/-- Every access is within the vector, and `lru_maps_mapping` has for every core a table that
was created for it, of the core's part of the size, and no other core has it. -/
structure EachCoreServed (config : LruConfig) (lrus : Lrus) (mapping : Int → Option Int) :
    Prop where
  inRange : ∀ index ∈ lrus.accesses, 0 ≤ index ∧ index < lrus.lruMapsFd.length
  own : ∀ core ∈ config.forwardingCores, ∃ lru ∈ lrus.created, mapping core = some lru.fd ∧
    lru.core = some core ∧
    lru.maxEntries = config.lruSize.toNat / config.forwardingCores.length
  apart : ∀ core ∈ config.forwardingCores, ∀ other ∈ config.forwardingCores, core ≠ other →
    mapping core ≠ mapping other

/-- What is true after tables have been created for some cores. -/
structure Created (env : LruEnv) (size : Nat) (cores : List Int) (lrus : Lrus) : Prop where
  length : lrus.lruMapsFd.length = kMaxForwardingCores
  accesses : ∀ index, index ∈ lrus.accesses ↔ index ∈ cores
  checked : ∀ core ∈ cores, 0 ≤ core ∧ core ≤ kMaxForwardingCores
  fds : ∀ index lru, lrus.created[index]? = some lru → lru.fd = env.descriptor index
  sizes : ∀ lru ∈ lrus.created, lru.maxEntries = size % 2 ^ 32
  held : ∀ core ∈ cores, core < kMaxForwardingCores → ∃ lru ∈ lrus.created,
    lru.core = some core ∧ 0 ≤ lru.fd ∧ lrus.lruMapsFd[core.toNat]? = some lru.fd

variable {env : LruEnv} {size : Nat} {cores : List Int} {lrus : Lrus}

private theorem created_none (env : LruEnv) (size : Nat) : Created env size [] {} where
  length := List.length_replicate
  accesses _ := Iff.rfl
  checked _ listed := absurd listed List.not_mem_nil
  fds _ _ found := by cases found
  sizes _ listed := absurd listed List.not_mem_nil
  held _ listed := absurd listed List.not_mem_nil

/-- A table is created for a core and put into the vector. -/
theorem Created.write (created : Created env size cores lrus) {core : Int} {flags : Nat}
    {numaNode : Int} (checked : 0 ≤ core ∧ core ≤ kMaxForwardingCores)
    (returned : 0 ≤ env.descriptor lrus.created.length) :
    Created env size (cores ++ [core])
      ((lrus.createLruMap env (some core) size flags numaNode).2.write core
        (env.descriptor lrus.created.length)) where
  length := by
    unfold Lrus.write createLruMap
    dsimp only
    rw [if_pos checked.1, List.length_set]
    exact created.length
  accesses index := by
    unfold Lrus.write createLruMap
    rw [List.mem_append, List.mem_append, created.accesses]
  checked := List.forall_mem_append.mpr ⟨created.checked, by simpa using checked⟩
  fds := by
    intro index lru found
    unfold Lrus.write createLruMap at found
    dsimp only at found
    rw [List.getElem?_append] at found
    split at found
    · exact created.fds index lru found
    next outside =>
      rw [List.getElem?_singleton] at found
      split at found
      next last =>
        obtain rfl := Option.some.inj found
        have same : index = lrus.created.length := by omega
        rw [same]
      next => cases found
  sizes := List.forall_mem_append.mpr ⟨created.sizes, by simp⟩
  held := by
    intro other listed inside
    unfold Lrus.write createLruMap
    dsimp only
    rw [if_pos checked.1]
    by_cases same : other = core
    · subst same
      have within : other.toNat < lrus.lruMapsFd.length := by
        rw [created.length]
        omega
      exact ⟨_, List.mem_append_right _ List.mem_cons_self, rfl, returned,
        List.getElem?_set_self within⟩
    · have before : other ∈ cores :=
        (List.mem_append.mp listed).resolve_right fun last => same (List.mem_singleton.mp last)
      obtain ⟨lru, known, forCore, valid, entry⟩ := created.held other before inside
      have positive := (created.checked other before).1
      refine ⟨lru, List.mem_append_left _ known, forCore, valid, ?_⟩
      rw [List.getElem?_set_ne (by omega)]
      exact entry

private theorem Created.initCores {flags : Nat} {pairs : List (Int × Int)} {after : Lrus}
    (created : Created env size cores lrus)
    (returned : Lrus.initCores env size flags pairs lrus = some after) :
    Created env size (cores ++ pairs.map Prod.fst) after := by
  induction pairs generalizing cores lrus with
  | nil =>
      obtain rfl := Option.some.inj returned
      rw [List.map_nil, List.append_nil]
      exact created
  | cons pair pairs ih =>
      obtain ⟨core, numaNode⟩ := pair
      unfold Lrus.initCores at returned
      split at returned
      next => cases returned
      next checked =>
        dsimp only [createLruMap] at returned
        split at returned
        next => cases returned
        next valid =>
          rw [List.map_cons, ← List.singleton_append, ← List.append_assoc]
          exact ih (created.write (by omega) (Int.not_lt.mp valid)) returned

/-- Reading the vector only adds accesses. -/
theorem Created.read (created : Created env size cores lrus) {core : Int} (listed : core ∈ cores) :
    Created env size cores (lrus.read env core).2 where
  length := created.length
  accesses index := by
    unfold Lrus.read
    dsimp only
    rw [List.mem_append, List.mem_singleton, created.accesses]
    constructor
    · rintro (before | rfl)
      · exact before
      · exact listed
    · exact .inl
  checked := created.checked
  fds := created.fds
  sizes := created.sizes
  held := created.held

/-- What is true after `initLrus` for cores. -/
theorem created_initLrus {config : LruConfig} (some : config.forwardingCores ≠ [])
    (initialised : initLrus env config = Option.some lrus) :
    Created env (config.lruSize.toNat / config.forwardingCores.length) config.forwardingCores
      lrus := by
  unfold initLrus at initialised
  rw [if_neg some] at initialised
  split at initialised
  next => cases initialised
  next matching =>
    dsimp only at initialised
    obtain ⟨made, returned, prototype⟩ := Option.bind_eq_some_iff.mp initialised
    have cores : (config.forwardingCores.zip (if config.numaNodes ≠ [] then config.numaNodes
        else List.replicate config.forwardingCores.length kNoNuma)).map Prod.fst =
        config.forwardingCores := by
      refine List.map_fst_zip (Nat.le_of_eq ?_)
      split
      next numa =>
        by_contra different
        exact matching ⟨numa, Ne.symm different⟩
      next => exact List.length_replicate.symm
    have created := (created_none env _).initCores returned
    rw [List.nil_append, cores] at created
    obtain ⟨core, rest, listed⟩ := List.exists_cons_of_ne_nil some
    unfold setPrototype at prototype
    rw [listed] at prototype
    dsimp only at prototype
    split at prototype
    next => cases prototype
    next =>
      split at prototype
      next => cases prototype
      next =>
        obtain rfl := Option.some.inj prototype
        exact created.read (by rw [listed]; exact List.mem_cons_self)

/-- What `attachLrus` does: every core has an entry of the mapping, which gets what the vector
has for it. -/
structure Attached (env : LruEnv) (cores : List Int) (lrus : Lrus) (mapping : Int → Option Int)
    (after : Lrus) (final : Int → Option Int) : Prop where
  fds : after.lruMapsFd = lrus.lruMapsFd
  created : after.created = lrus.created
  accesses : ∀ index, index ∈ after.accesses ↔ index ∈ lrus.accesses ∨ index ∈ cores
  inside : ∀ core ∈ cores, 0 ≤ core ∧ core < lruMapsMappingSize
  written : ∀ core, final core = if core ∈ cores then
    some (lrus.lruMapsFd.getD core.toNat (env.stray core)) else mapping core

/-- The cores that have been attached have their tables entered. -/
theorem attached_attachCores {mapping final : Int → Option Int} {after : Lrus}
    (returned : attachCores env cores lrus mapping = some (after, final)) :
    Attached env cores lrus mapping after final := by
  induction cores generalizing lrus mapping with
  | nil =>
      obtain ⟨rfl, rfl⟩ := Prod.mk.inj (Option.some.inj returned)
      exact ⟨rfl, rfl, by simp, by simp, by simp⟩
  | cons core cores ih =>
      unfold attachCores at returned
      dsimp only at returned
      split at returned
      next fits =>
        have rest := ih returned
        refine ⟨rest.fds, rest.created, ?_, ?_, ?_⟩
        · intro index
          rw [rest.accesses, List.mem_cons]
          unfold Lrus.read
          dsimp only
          rw [List.mem_append, List.mem_singleton, or_assoc]
        · exact List.forall_mem_cons.mpr ⟨fits, rest.inside⟩
        · intro other
          rw [rest.written]
          by_cases later : other ∈ cores
          · rw [if_pos later, if_pos (List.mem_cons_of_mem _ later)]
            rfl
          · rw [if_neg later]
            by_cases same : other = core
            · subst same
              rw [Function.update_self, if_pos List.mem_cons_self, Lrus.read, if_pos fits.1]
            · rw [Function.update_of_ne same,
                if_neg fun listed => (List.mem_cons.mp listed).elim same later]
      next => cases returned

/-- `initLrus` by itself writes past the end of the vector exactly if the number one past the
last is listed. -/
theorem initLrus_inRange_iff {config : LruConfig} (some : config.forwardingCores ≠ [])
    (initialised : initLrus env config = Option.some lrus) :
    (∀ index ∈ lrus.accesses, 0 ≤ index ∧ index < lrus.lruMapsFd.length) ↔
      (kMaxForwardingCores : Int) ∉ config.forwardingCores := by
  have created := created_initLrus some initialised
  rw [created.length]
  constructor
  · intro inRange listed
    have inside := inRange _ ((created.accesses _).mpr listed)
    omega
  · intro unlisted index accessed
    have listed := (created.accesses index).mp accessed
    have checked := created.checked index listed
    have different : index ≠ kMaxForwardingCores := fun same => unlisted (same ▸ listed)
    omega

/-- Without cores the vector is not accessed. -/
theorem accesses_of_no_cores {config : LruConfig} (none : config.forwardingCores = [])
    (initialised : initLrus env config = some lrus) : lrus.accesses = [] := by
  unfold initLrus setPrototype at initialised
  rw [if_pos none, none] at initialised
  dsimp only at initialised
  split at initialised
  next => cases initialised
  next =>
    split at initialised
    next => cases initialised
    next =>
      obtain rfl := Option.some.inj initialised
      rfl

/-- The tables of two cores are different. -/
theorem Created.apart (created : Created env size cores lrus) (fresh : env.Fresh)
    {first second : Int} {left right : CreatedLru} (leftKnown : left ∈ lrus.created)
    (rightKnown : right ∈ lrus.created)
    (leftCore : left.core = some first) (rightCore : right.core = some second)
    (valid : 0 ≤ left.fd) (different : first ≠ second) : left.fd ≠ right.fd := by
  intro same
  obtain ⟨index, found⟩ := List.getElem?_of_mem leftKnown
  obtain ⟨other, foundOther⟩ := List.getElem?_of_mem rightKnown
  have equal : index = other := by
    apply fresh
    · rw [← created.fds index left found]
      exact valid
    · rw [← created.fds index left found, ← created.fds other right foundOther, same]
  subst equal
  obtain rfl := Option.some.inj (found.symm.trans foundOther)
  exact different (Option.some.inj (leftCore.symm.trans rightCore))

/-- **Every core is served** exactly if the part of the size for each core is one that a map
can have, wherever `initLrus` and `attachLrus` return. -/
theorem eachCoreServed_iff {config : LruConfig} {after : Lrus} {mapping : Int → Option Int}
    (fresh : env.Fresh) (initialised : initLrus env config = some lrus)
    (attached : attachLrus env config true lrus = some (after, mapping)) :
    EachCoreServed config after mapping ↔ config.forwardingCores = [] ∨
      config.lruSize.toNat / config.forwardingCores.length < 2 ^ 32 := by
  have attached := attached_attachCores attached
  by_cases none : config.forwardingCores = []
  · have untouched := accesses_of_no_cores none initialised
    simp only [none, true_or, iff_true]
    rw [none] at attached
    refine ⟨?_, by simp [none], by simp [none]⟩
    intro index accessed
    rw [attached.accesses, untouched] at accessed
    simp only [List.not_mem_nil, or_self] at accessed
  · have created := created_initLrus none initialised
    have tables : ∀ core ∈ config.forwardingCores, ∃ lru ∈ after.created, lru.core = some core ∧
        0 ≤ lru.fd ∧ mapping core = some lru.fd := by
      intro core listed
      obtain ⟨lru, known, forCore, valid, entry⟩ :=
        created.held core listed (attached.inside core listed).2
      rw [attached.created]
      refine ⟨lru, known, forCore, valid, ?_⟩
      rw [attached.written, if_pos listed, List.getD_eq_getElem?_getD, entry, Option.getD_some]
    have sizes : ∀ lru ∈ after.created, lru.maxEntries =
        config.lruSize.toNat / config.forwardingCores.length % 2 ^ 32 := by
      rw [attached.created]
      exact created.sizes
    simp only [none, false_or]
    constructor
    · intro served
      obtain ⟨core, rest, listed⟩ := List.exists_cons_of_ne_nil none
      obtain ⟨lru, known, _, _, whole⟩ := served.own core (by rw [listed]; exact List.mem_cons_self)
      rw [← whole, sizes lru known]
      exact Nat.mod_lt _ (by decide)
    · intro small
      refine ⟨?_, ?_, ?_⟩
      · intro index accessed
        have listed : index ∈ config.forwardingCores :=
          ((attached.accesses index).mp accessed).elim (created.accesses index).mp id
        rw [attached.fds, created.length]
        exact attached.inside index listed
      · intro core listed
        obtain ⟨lru, known, forCore, _, entry⟩ := tables core listed
        refine ⟨lru, known, entry, forCore, ?_⟩
        rw [sizes lru known, Nat.mod_eq_of_lt small]
      · intro core listed other otherListed different
        obtain ⟨lru, known, forCore, valid, entry⟩ := tables core listed
        obtain ⟨second, secondKnown, forOther, _, otherEntry⟩ := tables other otherListed
        rw [attached.created] at known secondKnown
        rw [entry, otherEntry]
        exact fun same => created.apart fresh known secondKnown forCore forOther valid different
          (Option.some.inj same)

/-- Descriptors are handed out in order. -/
def orderlyEnv : LruEnv where
  descriptor := fun call => 10 + call
  prototypeRes := 0
  stray := fun _ => 0

private theorem orderlyEnv_fresh : orderlyEnv.Fresh := by
  intro first second _ same
  simp only [orderlyEnv] at same
  omega

/-- Core 3 is listed twice. -/
theorem eachCoreServed_twice :
    let config : LruConfig := { lruSize := 3000, forwardingCores := [3, 127, 3] }
    ∃ lrus after mapping, initLrus orderlyEnv config = some lrus ∧
      attachLrus orderlyEnv config true lrus = some (after, mapping) ∧
      mapping 3 = some 12 ∧ EachCoreServed config after mapping := by
  intro config
  have returns : (initLrus orderlyEnv config).isSome = true := by decide +kernel
  obtain ⟨lrus, initialised⟩ := Option.isSome_iff_exists.mp returns
  have attaches : ((initLrus orderlyEnv config).bind fun lrus =>
      (attachLrus orderlyEnv config true lrus).map fun result => result.2 3) =
        some (some 12) := by decide +kernel
  rw [initialised, Option.bind_some] at attaches
  obtain ⟨⟨after, mapping⟩, attached, third⟩ := Option.map_eq_some_iff.mp attaches
  exact ⟨lrus, after, mapping, initialised, attached, third,
    (eachCoreServed_iff orderlyEnv_fresh initialised attached).mpr (.inr (by decide))⟩

/-- A size of 2^32 + 1000 entries is cut to 32 bits. -/
theorem lruSize_truncated :
    let config : LruConfig := { lruSize := 4294968296, forwardingCores := [0] }
    ∃ lrus after mapping, initLrus orderlyEnv config = some lrus ∧
      attachLrus orderlyEnv config true lrus = some (after, mapping) ∧
      after.created.map (·.maxEntries) = [1000] ∧ ¬ EachCoreServed config after mapping := by
  intro config
  have returns : (initLrus orderlyEnv config).isSome = true := by decide +kernel
  obtain ⟨lrus, initialised⟩ := Option.isSome_iff_exists.mp returns
  have attaches : ((initLrus orderlyEnv config).bind fun lrus =>
      (attachLrus orderlyEnv config true lrus).map fun result =>
        result.1.created.map (·.maxEntries)) = some [1000] := by decide +kernel
  rw [initialised, Option.bind_some] at attaches
  obtain ⟨⟨after, mapping⟩, attached, entries⟩ := Option.map_eq_some_iff.mp attaches
  refine ⟨lrus, after, mapping, initialised, attached, entries, ?_⟩
  intro served
  obtain ⟨lru, known, _, _, whole⟩ := served.own 0 List.mem_cons_self
  have listed : lru.maxEntries ∈ [1000] := by
    rw [← entries]
    exact List.mem_map_of_mem known
  rw [whole] at listed
  exact absurd listed (by decide)

end Lrus

end Katran
