import Katran.Foundation.Assoc
import Mathlib.Data.List.Range

/-! # Pools of reference-counted numbers

A pool hands out the numbers below its size. A key that is acquired for the
first time takes the number at the front of the free list; acquiring a known
key counts one more reference; releasing counts one less, and the number of a
key whose count reaches zero goes to the back of the free list. Counters wrap
at a modulus. The reverse index remembers the name under which a number was
handed out; several names may have the same key.

`RefPool.Sound` says that every number is either free or belongs to exactly one
key, and that the reverse index names the owner of every number in use. It is
kept by every operation, whatever the counters say. `RefPool.refs` and
`RefPool.numOf` describe what acquiring and releasing do while no counter wraps.
-/

namespace Katran.Foundation

open UnorderedMap

/-- The number of a key and how many references to it are counted. -/
structure RefPool.Slot where
  num : Nat
  refCount : Nat
deriving DecidableEq, Repr

/-- A free list, the slots of the keys in use, and the reverse index. An entry
`none` of the index is one that was read before it was written. -/
structure RefPool (Key Name : Type) where
  free : List Nat
  table : UnorderedMap Key RefPool.Slot
  names : UnorderedMap Nat (Option Name)

namespace RefPool

variable {Key Name : Type} [DecidableEq Key] (keyOf : Name → Key) (modulus : Nat)

/-- The pool in which every number below `size` is free. -/
def fresh (size : Nat) : RefPool Key Name := ⟨List.range size, ∅, ∅⟩

/-- Count one more reference to a name; `none` when a new key finds no number. -/
def acquire (pool : RefPool Key Name) (name : Name) : Option Nat × RefPool Key Name :=
  match pool.table.lookup (keyOf name) with
  | some slot =>
      (some slot.num, { pool with
        table := pool.table.insert (keyOf name) ⟨slot.num, (slot.refCount + 1) % modulus⟩ })
  | none =>
      match pool.free with
      | [] => (none, pool)
      | num :: free =>
          (some num,
            ⟨free, pool.table.insert (keyOf name) ⟨num, 1⟩, pool.names.insert num (some name)⟩)

/-- Count one reference less, freeing the number when the count reaches zero. -/
def release (pool : RefPool Key Name) (key : Key) : RefPool Key Name :=
  match pool.table.lookup key with
  | none => pool
  | some slot =>
      let count := (slot.refCount + (modulus - 1)) % modulus
      if count = 0 then
        ⟨pool.free ++ [slot.num], pool.table.erase key, pool.names.erase slot.num⟩
      else
        { pool with table := pool.table.insert key ⟨slot.num, count⟩ }

/-- Read the owner of a number, adding a default entry for a number without one. -/
def touch (pool : RefPool Key Name) (num : Nat) : Option Name × RefPool Key Name :=
  match pool.names.lookup num with
  | some name => (name, pool)
  | none => (none, { pool with names := pool.names.insert num none })

/-- Every number below `size` is free or in use, exactly once, and the reverse
index names the owner of every number in use. -/
structure Sound (size : Nat) (pool : RefPool Key Name) : Prop where
  partitioned : (pool.free ++ (values pool.table).map Slot.num).Perm (List.range size)
  named : ∀ key slot, pool.table.lookup key = some slot →
    ∃ name, pool.names.lookup slot.num = some (some name) ∧ keyOf name = key

namespace Sound

variable {keyOf modulus} {size : Nat} {pool : RefPool Key Name}

omit [DecidableEq Key] in
private theorem nodup_all (sound : (pool.free ++ (values pool.table).map Slot.num).Perm
    (List.range size)) : (pool.free ++ (values pool.table).map Slot.num).Nodup :=
  sound.nodup_iff.mpr List.nodup_range

/-- The number of a key is one of those in use. -/
theorem num_mem_values {key : Key} {slot : Slot} (found : pool.table.lookup key = some slot) :
    slot.num ∈ (values pool.table).map Slot.num :=
  List.mem_map.mpr ⟨slot, mem_values.mpr ⟨key, mem_entries.mpr found⟩, rfl⟩

/-- A number in use is not free. -/
theorem num_not_free (sound : pool.Sound keyOf size) {key : Key} {slot : Slot}
    (found : pool.table.lookup key = some slot) : slot.num ∉ pool.free := by
  intro member
  exact (List.nodup_append.mp (nodup_all sound.partitioned)).2.2 slot.num member slot.num
    (num_mem_values found) rfl

/-- A number in use is below the size. -/
theorem num_lt (sound : pool.Sound keyOf size) {key : Key} {slot : Slot}
    (found : pool.table.lookup key = some slot) : slot.num < size :=
  List.mem_range.mp (sound.partitioned.mem_iff.mp
    (List.mem_append_right _ (num_mem_values found)))

/-- A free number is below the size. -/
theorem free_lt (sound : pool.Sound keyOf size) {num : Nat} (member : num ∈ pool.free) :
    num < size :=
  List.mem_range.mp (sound.partitioned.mem_iff.mp (List.mem_append_left _ member))

/-- Two keys never share a number. -/
theorem key_unique (sound : pool.Sound keyOf size) {first second : Key} {left right : Slot}
    (leftFound : pool.table.lookup first = some left)
    (rightFound : pool.table.lookup second = some right) (same : left.num = right.num) :
    first = second := by
  obtain ⟨leftName, leftNamed, rfl⟩ := sound.named first left leftFound
  obtain ⟨rightName, rightNamed, rfl⟩ := sound.named second right rightFound
  rw [same, rightNamed] at leftNamed
  rw [Option.some.inj (Option.some.inj leftNamed)]

/-- A fresh pool is sound. -/
theorem fresh (size : Nat) : (RefPool.fresh size : RefPool Key Name).Sound keyOf size where
  partitioned := by
    simp only [RefPool.fresh, values_empty, List.map_nil, List.append_nil, List.Perm.refl]
  named := by
    intro key slot found
    simp only [RefPool.fresh, AList.lookup_empty, reduceCtorEq] at found

/-- Rewriting the counter of a known key keeps every number where it is. -/
theorem recount (sound : pool.Sound keyOf size) {key : Key} {slot : Slot} {count : Nat}
    (found : pool.table.lookup key = some slot) :
    Sound keyOf size { pool with table := pool.table.insert key ⟨slot.num, count⟩ } where
  partitioned := by
    have split := ((values_perm_cons_erase found).map Slot.num).append_left pool.free
    exact split.symm.trans sound.partitioned
  named := by
    intro other entry read
    rw [lookup_insert_eq_ite] at read
    by_cases same : other = key
    · simp only [same, ↓reduceIte, Option.some.injEq] at read
      subst read
      rw [same]
      exact sound.named key slot found
    · simp only [same, ↓reduceIte] at read
      exact sound.named other entry read

/-- Acquiring keeps a pool sound, also when a counter wraps. -/
theorem acquire (sound : pool.Sound keyOf size) (name : Name) :
    (pool.acquire keyOf modulus name).2.Sound keyOf size := by
  unfold RefPool.acquire
  split
  next slot found => exact sound.recount found
  next absent =>
    split
    · exact sound
    next num free taken =>
      refine ⟨?_, ?_⟩
      · have split := sound.partitioned
        rw [taken] at split
        change (free ++ num :: (values (pool.table.erase (keyOf name))).map Slot.num).Perm _
        rw [erase_of_lookup_none absent]
        exact List.perm_middle.trans split
      · intro other entry read
        change (pool.table.insert (keyOf name) ⟨num, 1⟩).lookup other = some entry at read
        change ∃ owner, (pool.names.insert num (some name)).lookup entry.num = some (some owner) ∧
          keyOf owner = other
        rw [lookup_insert_eq_ite] at read ⊢
        by_cases same : other = keyOf name
        · simp only [same, ↓reduceIte, Option.some.injEq] at read
          subst read
          exact ⟨name, by simp only [↓reduceIte], same.symm⟩
        · simp only [same, ↓reduceIte] at read
          have inUse : entry.num ≠ num := by
            intro equal
            apply sound.num_not_free read
            rw [taken, equal]
            exact List.mem_cons_self
          simp only [inUse, ↓reduceIte]
          exact sound.named other entry read

/-- Releasing keeps a pool sound, also when it releases a reference nobody took. -/
theorem release (sound : pool.Sound keyOf size) (key : Key) :
    (pool.release modulus key).Sound keyOf size := by
  unfold RefPool.release
  split
  · exact sound
  next slot found =>
    dsimp only
    split
    · refine ⟨?_, ?_⟩
      · have split := ((values_perm_cons_erase found).map Slot.num).append_left pool.free
        change ((pool.free ++ [slot.num]) ++ (values (pool.table.erase key)).map Slot.num).Perm _
        rw [List.append_assoc, List.singleton_append]
        exact split.symm.trans sound.partitioned
      · intro other entry read
        change (pool.table.erase key).lookup other = some entry at read
        change ∃ owner, (pool.names.erase slot.num).lookup entry.num = some (some owner) ∧
          keyOf owner = other
        rw [lookup_erase_eq_ite] at read ⊢
        by_cases same : other = key
        · simp only [same, ↓reduceIte, reduceCtorEq] at read
        · simp only [same, ↓reduceIte] at read
          have different : entry.num ≠ slot.num :=
            fun equal => same (sound.key_unique read found equal)
          simp only [different, ↓reduceIte]
          exact sound.named other entry read
    · exact sound.recount found

/-- Reading the owner of a dead number adds an entry that no slot points to. -/
theorem touch (sound : pool.Sound keyOf size) (num : Nat) :
    (pool.touch num).2.Sound keyOf size := by
  unfold RefPool.touch
  split
  · exact sound
  next absent =>
    refine ⟨sound.partitioned, ?_⟩
    intro key slot read
    obtain ⟨owner, named, same⟩ := sound.named key slot read
    refine ⟨owner, ?_, same⟩
    change (pool.names.insert num none).lookup slot.num = some (some owner)
    rw [lookup_insert_eq_ite]
    by_cases equal : slot.num = num
    · rw [equal, absent] at named
      cases named
    · simp only [equal, ↓reduceIte]
      exact named

end Sound

/-- Any sequence of operations. -/
inductive Moves : RefPool Key Name → RefPool Key Name → Prop where
  | refl (pool : RefPool Key Name) : Moves pool pool
  | acquire {first last : RefPool Key Name} (name : Name) :
      Moves first last → Moves first (last.acquire keyOf modulus name).2
  | release {first last : RefPool Key Name} (key : Key) :
      Moves first last → Moves first (last.release modulus key)
  | touch {first last : RefPool Key Name} (num : Nat) :
      Moves first last → Moves first (last.touch num).2

namespace Moves

variable {keyOf modulus}

/-- Moves compose. -/
theorem trans {first middle last : RefPool Key Name} (left : Moves keyOf modulus first middle)
    (right : Moves keyOf modulus middle last) : Moves keyOf modulus first last := by
  induction right with
  | refl => exact left
  | acquire name _ ih => exact .acquire name ih
  | release key _ ih => exact .release key ih
  | touch num _ ih => exact .touch num ih

/-- Every sequence of operations keeps a pool sound. -/
theorem sound {size : Nat} {first last : RefPool Key Name} (moves : Moves keyOf modulus first last)
    (initial : first.Sound keyOf size) : last.Sound keyOf size := by
  induction moves with
  | refl => exact initial
  | acquire name _ ih => exact ih.acquire name
  | release key _ ih => exact ih.release key
  | touch num _ ih => exact ih.touch num

end Moves

/-- How many references to a key are counted. -/
def refs (pool : RefPool Key Name) (key : Key) : Nat :=
  (pool.table.lookup key).elim 0 Slot.refCount

/-- The number of a key. -/
def numOf (pool : RefPool Key Name) (key : Key) : Option Nat :=
  (pool.table.lookup key).map Slot.num

/-- Every key in use is referenced, and no counter has wrapped. -/
def Live (pool : RefPool Key Name) : Prop :=
  ∀ key slot, pool.table.lookup key = some slot →
    0 < slot.refCount ∧ slot.refCount < modulus

section Counting

variable {keyOf modulus} {pool : RefPool Key Name} {key : Key} {name : Name}

/-- The references of a key in use. -/
theorem refs_of_lookup {slot : Slot} (found : pool.table.lookup key = some slot) :
    pool.refs key = slot.refCount := by
  simp only [refs, found, Option.elim_some]

/-- The number of a key that is in use. -/
theorem numOf_eq_some {num : Nat} :
    pool.numOf key = some num ↔ ∃ slot, pool.table.lookup key = some slot ∧ slot.num = num :=
  Option.map_eq_some_iff

/-- A key without a number is not in use. -/
theorem numOf_eq_none : pool.numOf key = none ↔ pool.table.lookup key = none :=
  Option.map_eq_none_iff

/-- A key without a number has no references. -/
theorem refs_of_numOf_none (absent : pool.numOf key = none) : pool.refs key = 0 := by
  rw [numOf_eq_none] at absent
  simp only [refs, absent, Option.elim_none]

/-- Two keys never have one number. -/
theorem Sound.numOf_inj {size num : Nat} {other : Key} (sound : pool.Sound keyOf size)
    (left : pool.numOf key = some num) (right : pool.numOf other = some num) : key = other := by
  obtain ⟨leftSlot, leftFound, leftSame⟩ := numOf_eq_some.mp left
  obtain ⟨rightSlot, rightFound, rightSame⟩ := numOf_eq_some.mp right
  exact sound.key_unique leftFound rightFound (leftSame.trans rightSame.symm)

/-- A number in use is not free. -/
theorem Sound.numOf_not_free {size num : Nat} (sound : pool.Sound keyOf size)
    (numbered : pool.numOf key = some num) : num ∉ pool.free := by
  obtain ⟨slot, found, rfl⟩ := numOf_eq_some.mp numbered
  exact sound.num_not_free found

/-- A key in use has references. -/
theorem Live.refs_pos (live : pool.Live modulus) {num : Nat}
    (numbered : pool.numOf key = some num) :
    0 < pool.refs key := by
  obtain ⟨slot, found, _⟩ := numOf_eq_some.mp numbered
  rw [refs_of_lookup found]
  exact (live key slot found).1

/-- All keys of a fresh pool have references, as there are none. -/
theorem Live.fresh (size : Nat) : (RefPool.fresh size : RefPool Key Name).Live modulus := by
  intro key slot found
  simp only [RefPool.fresh, AList.lookup_empty, reduceCtorEq] at found

/-- A failed acquisition changes nothing: the key is new and the free list empty. -/
theorem acquire_none (failed : (pool.acquire keyOf modulus name).1 = none) :
    (pool.acquire keyOf modulus name).2 = pool ∧ pool.numOf (keyOf name) = none ∧
      pool.free = [] := by
  unfold acquire at failed ⊢
  split at failed
  next => cases failed
  next absent =>
    split at failed
    next empty => simp only [absent, empty, numOf_eq_none, and_self]
    next => cases failed

/-- What a successful acquisition does to the slots, the free list and the index. -/
theorem acquire_some {num : Nat} (taken : (pool.acquire keyOf modulus name).1 = some num) :
    (∃ slot, pool.table.lookup (keyOf name) = some slot ∧ slot.num = num ∧
      (pool.acquire keyOf modulus name).2 = { pool with
        table := pool.table.insert (keyOf name) ⟨num, (slot.refCount + 1) % modulus⟩ }) ∨
    (pool.table.lookup (keyOf name) = none ∧ ∃ free, pool.free = num :: free ∧
      (pool.acquire keyOf modulus name).2 =
        ⟨free, pool.table.insert (keyOf name) ⟨num, 1⟩, pool.names.insert num (some name)⟩) := by
  unfold acquire at taken ⊢
  split at taken
  next slot found =>
    obtain rfl := Option.some.inj taken
    exact .inl ⟨slot, found, rfl, rfl⟩
  next absent =>
    split at taken
    next => cases taken
    next first free split =>
      obtain rfl := Option.some.inj taken
      exact .inr ⟨absent, free, split, rfl⟩

/-- A successful acquisition counts one more reference to its key. -/
theorem refs_acquire {num : Nat} (room : pool.refs (keyOf name) + 1 < modulus)
    (taken : (pool.acquire keyOf modulus name).1 = some num) (other : Key) :
    (pool.acquire keyOf modulus name).2.refs other =
      pool.refs other + if other = keyOf name then 1 else 0 := by
  rcases acquire_some taken with ⟨slot, found, _, next⟩ | ⟨absent, free, _, next⟩
  · rw [refs_of_lookup found] at room
    rw [next, refs, lookup_insert_eq_ite]
    by_cases same : other = keyOf name
    · subst same
      simp only [↓reduceIte, Option.elim_some, refs_of_lookup found, Nat.mod_eq_of_lt room]
    · simp only [same, ↓reduceIte, Nat.add_zero, refs]
  · rw [next, refs, lookup_insert_eq_ite]
    by_cases same : other = keyOf name
    · subst same
      simp only [↓reduceIte, Option.elim_some, refs, absent, Option.elim_none]
    · simp only [same, ↓reduceIte, Nat.add_zero, refs]

/-- An acquired key has the number that was returned; other keys keep theirs. -/
theorem numOf_acquire {num : Nat} (taken : (pool.acquire keyOf modulus name).1 = some num)
    (other : Key) :
    (pool.acquire keyOf modulus name).2.numOf other =
      if other = keyOf name then some num else pool.numOf other := by
  rcases acquire_some taken with ⟨slot, found, _, next⟩ | ⟨absent, free, _, next⟩
  all_goals
    rw [next, numOf, lookup_insert_eq_ite]
    by_cases same : other = keyOf name <;> simp only [same, ↓reduceIte, Option.map_some, numOf]

/-- A key that already had a number gets the same one. -/
theorem acquire_of_numOf {num known : Nat} (numbered : pool.numOf (keyOf name) = some known)
    (taken : (pool.acquire keyOf modulus name).1 = some num) : num = known := by
  obtain ⟨slot, found, same⟩ := numOf_eq_some.mp numbered
  rcases acquire_some taken with ⟨entry, read, equal, _⟩ | ⟨absent, _⟩
  · rw [found] at read
    obtain rfl := Option.some.inj read
    exact equal.symm.trans same
  · rw [found] at absent
    cases absent

/-- Nothing is numbered anew when a key had a number. -/
theorem numOf_acquire_of_numOf {num : Nat} (numbered : pool.numOf (keyOf name) = some num)
    (taken : (pool.acquire keyOf modulus name).1 = some num) (other : Key) :
    (pool.acquire keyOf modulus name).2.numOf other = pool.numOf other := by
  rw [numOf_acquire taken]
  split
  next same => rw [same, numbered]
  next => rfl

/-- Taking another reference takes no number. -/
theorem free_acquire_of_numOf {num known : Nat} (numbered : pool.numOf (keyOf name) = some known)
    (taken : (pool.acquire keyOf modulus name).1 = some num) :
    (pool.acquire keyOf modulus name).2.free = pool.free := by
  rcases acquire_some taken with ⟨slot, _, _, next⟩ | ⟨absent, _⟩
  · rw [next]
  · cases numbered.symm.trans (numOf_eq_none.mpr absent)

/-- A new key gets the first free number. -/
theorem free_of_acquire {num : Nat} (new : pool.numOf (keyOf name) = none)
    (taken : (pool.acquire keyOf modulus name).1 = some num) :
    pool.free = num :: (pool.acquire keyOf modulus name).2.free := by
  rcases acquire_some taken with ⟨slot, found, _⟩ | ⟨_, free, queue, next⟩
  · cases (numOf_eq_none.mp new).symm.trans found
  · rw [next, queue]

/-- A reference that is taken does not overflow if there is room. -/
theorem Live.acquire (live : pool.Live modulus) (room : pool.refs (keyOf name) + 1 < modulus) :
    (pool.acquire keyOf modulus name).2.Live modulus := by
  cases taken : (pool.acquire keyOf modulus name).1 with
  | none =>
      rw [(acquire_none taken).1]
      exact live
  | some num =>
      intro other slot found
      have counted := refs_acquire room taken other
      rw [refs_of_lookup found] at counted
      by_cases same : other = keyOf name
      · subst same
        simp only [↓reduceIte] at counted
        omega
      · simp only [same, ↓reduceIte, Nat.add_zero] at counted
        obtain ⟨old, read⟩ : ∃ old, pool.table.lookup other = some old := by
          have numbered := numOf_acquire taken other
          rw [numOf_eq_some.mpr ⟨slot, found, rfl⟩] at numbered
          simp only [same, ↓reduceIte] at numbered
          obtain ⟨old, read, _⟩ := numOf_eq_some.mp numbered.symm
          exact ⟨old, read⟩
        rw [refs_of_lookup read] at counted
        have bounds := live other old read
        omega

/-- Releasing a key leaves the numbers of the others alone. -/
theorem numOf_release_of_ne {other : Key} (different : other ≠ key) :
    (pool.release modulus key).numOf other = pool.numOf other := by
  unfold release numOf
  split
  · rfl
  · dsimp only
    split
    · rw [AList.lookup_erase_ne different]
    · rw [AList.lookup_insert_ne different]

/-- No key gets a number from a release. -/
theorem numOf_of_release {other : Key} {num : Nat}
    (survives : (pool.release modulus key).numOf other = some num) :
    pool.numOf other = some num := by
  by_cases same : other = key
  · subst same
    unfold release numOf at survives
    split at survives
    next absent =>
      rw [absent, Option.map_none] at survives
      cases survives
    next slot found =>
      dsimp only at survives
      split at survives
      · rw [AList.lookup_erase, Option.map_none] at survives
        cases survives
      · rw [AList.lookup_insert, Option.map_some] at survives
        exact numOf_eq_some.mpr ⟨slot, found, Option.some.inj survives⟩
  · rwa [numOf_release_of_ne same] at survives

/-- What releasing a referenced key does while counters do not wrap. -/
theorem release_of_lookup {slot : Slot} (live : pool.Live modulus)
    (found : pool.table.lookup key = some slot) :
    pool.release modulus key =
      if slot.refCount = 1 then
        ⟨pool.free ++ [slot.num], pool.table.erase key, pool.names.erase slot.num⟩
      else { pool with table := pool.table.insert key ⟨slot.num, slot.refCount - 1⟩ } := by
  have bounds := live key slot found
  have lowered : (slot.refCount + (modulus - 1)) % modulus = slot.refCount - 1 := by
    have regroup : slot.refCount + (modulus - 1) = (slot.refCount - 1) + modulus := by omega
    rw [regroup, Nat.add_mod_right]
    exact Nat.mod_eq_of_lt (by omega)
  unfold release
  simp only [found, lowered]
  by_cases last : slot.refCount = 1
  · simp only [last, Nat.sub_self, ↓reduceIte]
  · have remaining : ¬ slot.refCount - 1 = 0 := by omega
    simp only [last, remaining, ↓reduceIte]

/-- Releasing counts one reference less. -/
theorem refs_release (live : pool.Live modulus) (key other : Key) :
    (pool.release modulus key).refs other =
      pool.refs other - if other = key then 1 else 0 := by
  cases found : pool.table.lookup key with
  | none =>
      have unchanged : pool.release modulus key = pool := by simp only [release, found]
      rw [unchanged]
      by_cases same : other = key
      · subst same
        simp only [refs, found, Option.elim_none, Nat.zero_sub]
      · simp only [same, ↓reduceIte, Nat.sub_zero]
  | some slot =>
      rw [release_of_lookup live found]
      by_cases same : other = key
      · subst same
        by_cases last : slot.refCount = 1
        · simp only [last, ↓reduceIte, refs, AList.lookup_erase, found, Option.elim_none,
            Option.elim_some, Nat.sub_self]
        · simp only [last, ↓reduceIte, refs, AList.lookup_insert, found, Option.elim_some]
      · by_cases last : slot.refCount = 1
        · simp only [last, ↓reduceIte, refs, lookup_erase_eq_ite, same, Nat.sub_zero]
        · simp only [last, ↓reduceIte, refs, lookup_insert_eq_ite, same, Nat.sub_zero]

/-- Only the last release of a key takes its number away. -/
theorem numOf_release (live : pool.Live modulus) (key other : Key) :
    (pool.release modulus key).numOf other =
      if other = key ∧ pool.refs key ≤ 1 then none else pool.numOf other := by
  cases found : pool.table.lookup key with
  | none =>
      have unchanged : pool.release modulus key = pool := by simp only [release, found]
      rw [unchanged]
      by_cases same : other = key
      · subst same
        simp only [numOf, found, Option.map_none, ite_self]
      · simp only [same, false_and, ↓reduceIte]
  | some slot =>
      have positive := (live key slot found).1
      rw [release_of_lookup live found, refs_of_lookup found]
      by_cases last : slot.refCount = 1
      · simp only [last, ↓reduceIte, numOf, lookup_erase_eq_ite, Nat.le_refl, and_true]
        split <;> rfl
      · have more : ¬ slot.refCount ≤ 1 := by omega
        simp only [last, more, ↓reduceIte, numOf, lookup_insert_eq_ite, and_false]
        by_cases same : other = key
        · subst same
          simp only [↓reduceIte, found, Option.map_some]
        · simp only [same, ↓reduceIte]

/-- Releasing a reference leaves none at zero. -/
theorem Live.release (live : pool.Live modulus) (key : Key) :
    (pool.release modulus key).Live modulus := by
  intro other slot found
  have counted := refs_release live key other
  rw [refs_of_lookup found] at counted
  have numbered := numOf_release live key other
  rw [numOf_eq_some.mpr ⟨slot, found, rfl⟩] at numbered
  by_cases gone : other = key ∧ pool.refs key ≤ 1
  · simp only [gone, and_self, ↓reduceIte, reduceCtorEq] at numbered
  · simp only [gone, ↓reduceIte] at numbered
    obtain ⟨old, read, _⟩ := numOf_eq_some.mp numbered.symm
    rw [refs_of_lookup read] at counted
    have bounds := live other old read
    by_cases same : other = key
    · subst same
      simp only [true_and, refs_of_lookup read] at gone
      simp only [↓reduceIte] at counted
      omega
    · simp only [same, ↓reduceIte, Nat.sub_zero] at counted
      omega

/-! Releasing several keys. -/

/-- Count one reference less to each of the keys. -/
def releaseAll (modulus : Nat) (pool : RefPool Key Name) (keys : List Key) : RefPool Key Name :=
  keys.foldl (RefPool.release modulus) pool

/-- Releasing several references leaves none at zero. -/
theorem Live.releaseAll (live : pool.Live modulus) (keys : List Key) :
    (pool.releaseAll modulus keys).Live modulus := by
  induction keys generalizing pool with
  | nil => exact live
  | cons first keys ih => exact ih (live.release first)

/-- Releasing distinct keys counts one reference less to each. -/
theorem refs_releaseAll (live : pool.Live modulus) {keys : List Key} (distinct : keys.Nodup)
    (other : Key) :
    (pool.releaseAll modulus keys).refs other =
      pool.refs other - if other ∈ keys then 1 else 0 := by
  induction keys generalizing pool with
  | nil => simp only [releaseAll, List.foldl_nil, List.not_mem_nil, ↓reduceIte, Nat.sub_zero]
  | cons first keys ih =>
      rw [List.nodup_cons] at distinct
      change ((pool.release modulus first).releaseAll modulus keys).refs other = _
      rw [ih (live.release first) distinct.2, refs_release live]
      by_cases same : other = first
      · subst same
        simp only [↓reduceIte, distinct.1, Nat.sub_zero, List.mem_cons, true_or]
      · simp only [same, ↓reduceIte, Nat.sub_zero, List.mem_cons, false_or]

/-- A key loses its number if its last reference is released. -/
theorem numOf_releaseAll (live : pool.Live modulus) {keys : List Key} (distinct : keys.Nodup)
    (other : Key) :
    (pool.releaseAll modulus keys).numOf other =
      if other ∈ keys ∧ pool.refs other ≤ 1 then none else pool.numOf other := by
  induction keys generalizing pool with
  | nil => simp only [releaseAll, List.foldl_nil, List.not_mem_nil, false_and, ↓reduceIte]
  | cons first keys ih =>
      rw [List.nodup_cons] at distinct
      change ((pool.release modulus first).releaseAll modulus keys).numOf other = _
      rw [ih (live.release first) distinct.2, refs_release live, numOf_release live]
      by_cases same : other = first
      · subst same
        simp only [distinct.1, false_and, ↓reduceIte, true_and, List.mem_cons, true_or]
      · simp only [same, ↓reduceIte, Nat.sub_zero, false_and, List.mem_cons, false_or]

end Counting

/-- Every entry of the reverse index belongs to a number in use. -/
def Indexed (pool : RefPool Key Name) : Prop :=
  ∀ num ∈ pool.names, ∃ key slot, pool.table.lookup key = some slot ∧ slot.num = num

namespace Indexed

variable {keyOf modulus} {pool : RefPool Key Name}

/-- A fresh pool has the names of the numbers in use. -/
theorem fresh (size : Nat) : (RefPool.fresh size : RefPool Key Name).Indexed := by
  intro num member
  exact (AList.notMem_empty num member).elim

/-- A change of the references keeps the names. -/
theorem recount (indexed : pool.Indexed) {key : Key} {slot : Slot} {count : Nat}
    (found : pool.table.lookup key = some slot) :
    Indexed { pool with table := pool.table.insert key ⟨slot.num, count⟩ } := by
  intro num member
  obtain ⟨owner, entry, read, same⟩ := indexed num member
  by_cases equal : owner = key
  · subst equal
    rw [found] at read
    obtain rfl := Option.some.inj read
    exact ⟨owner, ⟨slot.num, count⟩, AList.lookup_insert _, same⟩
  · exact ⟨owner, entry, (AList.lookup_insert_ne equal).trans read, same⟩

/-- Taking a reference keeps the names of the numbers in use. -/
theorem acquire (indexed : pool.Indexed) (name : Name) :
    (pool.acquire keyOf modulus name).2.Indexed := by
  unfold RefPool.acquire
  split
  next slot found => exact indexed.recount found
  next absent =>
    split
    · exact indexed
    next num free taken =>
      intro other member
      rcases (AList.mem_insert _).mp member with rfl | earlier
      · exact ⟨keyOf name, ⟨other, 1⟩, AList.lookup_insert _, rfl⟩
      · obtain ⟨owner, entry, read, same⟩ := indexed other earlier
        have different : owner ≠ keyOf name := by
          rintro rfl
          rw [absent] at read
          cases read
        exact ⟨owner, entry, (AList.lookup_insert_ne different).trans read, same⟩

/-- Releasing a reference keeps the names of the numbers in use. -/
theorem release (indexed : pool.Indexed) (key : Key) : (pool.release modulus key).Indexed := by
  unfold RefPool.release
  split
  · exact indexed
  next slot found =>
    dsimp only
    split
    · intro num member
      obtain ⟨different, earlier⟩ := AList.mem_erase.mp member
      obtain ⟨owner, entry, read, same⟩ := indexed num earlier
      have other : owner ≠ key := by
        rintro rfl
        rw [found] at read
        obtain rfl := Option.some.inj read
        exact different same.symm
      exact ⟨owner, entry, (AList.lookup_erase_ne other).trans read, same⟩
    · exact indexed.recount found

/-- Releasing several references keeps the names of the numbers in use. -/
theorem releaseAll (indexed : pool.Indexed) (keys : List Key) :
    (pool.releaseAll modulus keys).Indexed := by
  induction keys generalizing pool with
  | nil => exact indexed
  | cons key keys ih => exact ih (indexed.release key)

/-- If no key has a number, every number is free. -/
theorem full {size : Nat} (indexed : pool.Indexed) (sound : pool.Sound keyOf size)
    (unused : ∀ key, pool.numOf key = none) :
    pool.table = ∅ ∧ pool.names = ∅ ∧ pool.free.Perm (List.range size) := by
  have empty : pool.table = ∅ := by
    apply eq_empty_of_forall_notMem
    intro key member
    exact AList.lookup_eq_none.mp (numOf_eq_none.mp (unused key)) member
  refine ⟨empty, ?_, ?_⟩
  · apply eq_empty_of_forall_notMem
    intro num member
    obtain ⟨key, slot, found, _⟩ := indexed num member
    rw [numOf_eq_none.mp (unused key)] at found
    cases found
  · have split := sound.partitioned
    rwa [empty, values_empty, List.map_nil, List.append_nil] at split

end Indexed

section Touch

variable {keyOf} {pool : RefPool Key Name}

/-- Reading the owner of a number in use finds it and adds nothing. -/
theorem Sound.touch_of_numOf {size num : Nat} {key : Key} (sound : pool.Sound keyOf size)
    (numbered : pool.numOf key = some num) :
    ∃ name, pool.touch num = (some name, pool) ∧ keyOf name = key := by
  obtain ⟨slot, found, rfl⟩ := numOf_eq_some.mp numbered
  obtain ⟨name, named, same⟩ := sound.named key slot found
  exact ⟨name, by simp only [RefPool.touch, named], same⟩

end Touch

end RefPool

end Katran.Foundation
