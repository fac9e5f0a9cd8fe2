import Katran.Foundation.RefPool

/-! # Counts that may have wrapped to zero

A counter of a pool is stored modulo the modulus. As long as no key has more
than `modulus` references nothing is lost: a stored zero can only mean `modulus`,
because a key whose count reaches zero by a release is removed. `RefPool.count`
reads a counter in this way; it goes one step further than `RefPool.refs`, which
describes counters that have never wrapped.
-/

namespace Katran.Foundation

open UnorderedMap

namespace RefPool

variable {Key Name : Type} [DecidableEq Key] {keyOf : Name → Key} (modulus : Nat)

/-- A stored counter, where zero stands for the modulus. -/
def Slot.count (slot : Slot) : Nat := if slot.refCount = 0 then modulus else slot.refCount

/-- How many references a key has, at most `modulus`. -/
def count (pool : RefPool Key Name) (key : Key) : Nat :=
  (pool.table.lookup key).elim 0 (Slot.count modulus)

/-- Every counter is stored modulo the modulus. -/
def Bounded (pool : RefPool Key Name) : Prop :=
  ∀ key slot, pool.table.lookup key = some slot → slot.refCount < modulus

variable {modulus} {pool : RefPool Key Name} {key : Key} {name : Name}

/-- A key in use is counted. -/
theorem Slot.count_pos (positive : 0 < modulus) (slot : Slot) : 0 < slot.count modulus := by
  unfold Slot.count
  split <;> omega

/-- A count is read back from what is stored for it. -/
theorem Slot.count_mod {num count : Nat} (positive : 0 < count) (fits : count ≤ modulus) :
    Slot.count modulus ⟨num, count % modulus⟩ = count := by
  unfold Slot.count
  rcases Nat.lt_or_eq_of_le fits with small | rfl
  · simp only [Nat.mod_eq_of_lt small, Nat.ne_of_gt positive, ↓reduceIte]
  · simp only [Nat.mod_self, ↓reduceIte]

/-- The count of a key in use. -/
theorem count_of_lookup {slot : Slot} (found : pool.table.lookup key = some slot) :
    pool.count modulus key = slot.count modulus := by
  simp only [count, found, Option.elim_some]

/-- A key without a number is not counted. -/
theorem count_of_numOf_none (absent : pool.numOf key = none) : pool.count modulus key = 0 := by
  simp only [count, numOf_eq_none.mp absent, Option.elim_none]

/-- The counts of a fresh pool are bounded. -/
theorem Bounded.fresh (size : Nat) : (RefPool.fresh size : RefPool Key Name).Bounded modulus := by
  intro key slot found
  simp only [RefPool.fresh, AList.lookup_empty, reduceCtorEq] at found

/-- Storing a bounded counter. -/
theorem Bounded.insert (bounded : pool.Bounded modulus) (key : Key) {slot : Slot}
    (fits : slot.refCount < modulus) (other : Key) (entry : Slot)
    (found : (pool.table.insert key slot).lookup other = some entry) :
    entry.refCount < modulus := by
  rw [lookup_insert_eq_ite] at found
  split at found
  · obtain rfl := Option.some.inj found
    exact fits
  · exact bounded other entry found

/-- Taking a reference keeps the counts bounded. -/
theorem Bounded.acquire (bounded : pool.Bounded modulus) (several : 1 < modulus) (name : Name) :
    (pool.acquire keyOf modulus name).2.Bounded modulus := by
  unfold RefPool.acquire
  split
  · exact bounded.insert (keyOf name) (Nat.mod_lt _ (by omega))
  · split
    · exact bounded
    next num free _ =>
      have stored : Slot.refCount ⟨num, 1⟩ < modulus := several
      exact bounded.insert (keyOf name) stored

/-- Releasing a reference keeps the counts bounded. -/
theorem Bounded.release (bounded : pool.Bounded modulus) (several : 1 < modulus) (key : Key) :
    (pool.release modulus key).Bounded modulus := by
  unfold RefPool.release
  split
  · exact bounded
  · dsimp only
    split
    · intro other entry found
      change (pool.table.erase key).lookup other = some entry at found
      rw [lookup_erase_eq_ite] at found
      split at found
      · cases found
      · exact bounded other entry found
    · exact bounded.insert key (Nat.mod_lt _ (by omega))

/-- A successful acquisition counts one more reference to its key. -/
theorem count_acquire {num : Nat} (room : pool.count modulus (keyOf name) < modulus)
    (taken : (pool.acquire keyOf modulus name).1 = some num) (other : Key) :
    (pool.acquire keyOf modulus name).2.count modulus other =
      pool.count modulus other + if other = keyOf name then 1 else 0 := by
  rcases acquire_some taken with ⟨slot, found, _, next⟩ | ⟨absent, free, _, next⟩
  · rw [count_of_lookup found] at room
    rw [next, count, lookup_insert_eq_ite]
    by_cases same : other = keyOf name
    · subst same
      have unwrapped : slot.count modulus = slot.refCount := by
        unfold Slot.count at room ⊢
        split at room
        · exact (Nat.lt_irrefl _ room).elim
        next nonzero => rw [if_neg nonzero]
      rw [unwrapped] at room
      simp only [↓reduceIte, Option.elim_some, count_of_lookup found, unwrapped]
      exact Slot.count_mod (Nat.succ_pos _) room
    · simp only [same, ↓reduceIte, Nat.add_zero, count]
  · rw [next, count, lookup_insert_eq_ite]
    by_cases same : other = keyOf name
    · subst same
      simp only [↓reduceIte, Option.elim_some, count, absent, Option.elim_none, Nat.zero_add]
      simp only [Slot.count, Nat.one_ne_zero, ↓reduceIte]
    · simp only [same, ↓reduceIte, Nat.add_zero, count]

/-- What releasing a key does: its number is freed with the last reference. -/
theorem release_of_count {slot : Slot} (bounded : pool.Bounded modulus) (several : 1 < modulus)
    (found : pool.table.lookup key = some slot) :
    pool.release modulus key =
      if slot.count modulus = 1 then
        ⟨pool.free ++ [slot.num], pool.table.erase key, pool.names.erase slot.num⟩
      else { pool with table := pool.table.insert key ⟨slot.num, slot.count modulus - 1⟩ } := by
  have fits := bounded key slot found
  have lowered : (slot.refCount + (modulus - 1)) % modulus = slot.count modulus - 1 := by
    unfold Slot.count
    split
    next wrapped => rw [wrapped, Nat.zero_add, Nat.mod_eq_of_lt (by omega)]
    next stored =>
      have regroup : slot.refCount + (modulus - 1) = (slot.refCount - 1) + modulus := by omega
      rw [regroup, Nat.add_mod_right]
      exact Nat.mod_eq_of_lt (by omega)
  have positive := Slot.count_pos (Nat.lt_of_succ_lt several) slot
  unfold release
  simp only [found, lowered]
  by_cases last : slot.count modulus = 1
  · simp only [last, Nat.sub_self, ↓reduceIte]
  · have remaining : ¬ slot.count modulus - 1 = 0 := by omega
    simp only [last, remaining, ↓reduceIte]

/-- A counter is never stored above the modulus. -/
theorem Slot.count_le {slot : Slot} (fits : slot.refCount < modulus) :
    slot.count modulus ≤ modulus := by
  unfold Slot.count
  split <;> omega

/-- Releasing counts one reference less. -/
theorem count_release (bounded : pool.Bounded modulus) (several : 1 < modulus) (key other : Key) :
    (pool.release modulus key).count modulus other =
      pool.count modulus other - if other = key then 1 else 0 := by
  cases found : pool.table.lookup key with
  | none =>
      have unchanged : pool.release modulus key = pool := by simp only [release, found]
      rw [unchanged]
      by_cases same : other = key
      · subst same
        simp only [count, found, Option.elim_none, Nat.zero_sub]
      · simp only [same, ↓reduceIte, Nat.sub_zero]
  | some slot =>
      have positive := Slot.count_pos (Nat.lt_of_succ_lt several) slot
      have fits := Slot.count_le (bounded key slot found)
      rw [release_of_count bounded several found]
      by_cases same : other = key
      · subst same
        by_cases last : slot.count modulus = 1
        · simp only [last, ↓reduceIte, count, AList.lookup_erase, found, Option.elim_none,
            Option.elim_some, Nat.sub_self]
        · have nonzero : ¬ slot.count modulus - 1 = 0 := by omega
          simp only [last, ↓reduceIte, count, AList.lookup_insert, found, Option.elim_some]
          rw [Slot.count, if_neg nonzero]
      · by_cases last : slot.count modulus = 1
        · simp only [last, ↓reduceIte, count, lookup_erase_eq_ite, same, Nat.sub_zero]
        · simp only [last, ↓reduceIte, count, lookup_insert_eq_ite, same, Nat.sub_zero]

/-- A key that has another reference keeps its number. -/
theorem numOf_release_of_count (bounded : pool.Bounded modulus) (several : 1 < modulus)
    (shared : 1 < pool.count modulus key) :
    (pool.release modulus key).numOf key = pool.numOf key := by
  cases found : pool.table.lookup key with
  | none => simp only [release, found]
  | some slot =>
      rw [count_of_lookup found] at shared
      have more : ¬ slot.count modulus = 1 := by omega
      rw [release_of_count bounded several found, if_neg more]
      simp only [numOf, AList.lookup_insert, found, Option.map_some]

/-! Releasing several keys. -/

/-- Releasing several references keeps the counts bounded. -/
theorem Bounded.releaseAll (bounded : pool.Bounded modulus) (several : 1 < modulus)
    (keys : List Key) : (pool.releaseAll modulus keys).Bounded modulus := by
  induction keys generalizing pool with
  | nil => exact bounded
  | cons first keys ih => exact ih (bounded.release several first)

/-- Releasing distinct keys counts one reference less to each. -/
theorem count_releaseAll (bounded : pool.Bounded modulus) (several : 1 < modulus)
    {keys : List Key} (distinct : keys.Nodup) (other : Key) :
    (pool.releaseAll modulus keys).count modulus other =
      pool.count modulus other - if other ∈ keys then 1 else 0 := by
  induction keys generalizing pool with
  | nil => simp only [RefPool.releaseAll, List.foldl_nil, List.not_mem_nil, ↓reduceIte,
      Nat.sub_zero]
  | cons first keys ih =>
      rw [List.nodup_cons] at distinct
      change ((pool.release modulus first).releaseAll modulus keys).count modulus other = _
      rw [ih (bounded.release several first) distinct.2, count_release bounded several]
      by_cases same : other = first
      · subst same
        simp only [↓reduceIte, distinct.1, Nat.sub_zero, List.mem_cons, true_or]
      · simp only [same, ↓reduceIte, Nat.sub_zero, List.mem_cons, false_or]

/-- No key gets a number from releases. -/
theorem numOf_of_releaseAll {keys : List Key} {other : Key} {num : Nat}
    (survives : (pool.releaseAll modulus keys).numOf other = some num) :
    pool.numOf other = some num := by
  induction keys generalizing pool with
  | nil => exact survives
  | cons first keys ih => exact numOf_of_release (ih survives)

/-- A key that is not released, or that has another reference, keeps its number. -/
theorem numOf_releaseAll_of_count (bounded : pool.Bounded modulus) (several : 1 < modulus)
    {keys : List Key} (distinct : keys.Nodup) {other : Key}
    (shared : other ∈ keys → 1 < pool.count modulus other) :
    (pool.releaseAll modulus keys).numOf other = pool.numOf other := by
  induction keys generalizing pool with
  | nil => rfl
  | cons first keys ih =>
      rw [List.nodup_cons] at distinct
      change ((pool.release modulus first).releaseAll modulus keys).numOf other = _
      rw [ih (bounded.release several first) distinct.2]
      · by_cases same : other = first
        · subst same
          exact numOf_release_of_count bounded several (shared List.mem_cons_self)
        · exact numOf_release_of_ne same
      · intro later
        have different : other ≠ first := by
          rintro rfl
          exact distinct.1 later
        rw [count_release bounded several, if_neg different, Nat.sub_zero]
        exact shared (List.mem_cons_of_mem _ later)

end RefPool

end Katran.Foundation
