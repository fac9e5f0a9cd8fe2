import Mathlib.Data.List.GetD
import Mathlib.Data.List.Nodup
import Mathlib.Data.List.Range
import Mathlib.Logic.Function.Basic

/-! # Keeping a store in step by writing differences

A writer keeps a cached copy of what it has written to a store. Given a fresh
vector it compares position by position, writes only the positions that differ
and updates its copy (`sync`). Afterwards the copy is the fresh vector
(`sync_cached`), and the differences are exactly the positions at which the
vectors differed (`mem_sync_delta`), each listed once (`sync_delta_nodup`).

Writing a list of positions to a store changes those positions and no others
(`writeAll_of_mem`, `writeAll_of_not_mem`). So writing the differences to a slice
of the store brings the slice up to date, provided that it agreed with the cached
copy wherever that is still current (`writeAll_sync`), and leaves the rest of the
store alone (`writeAll_sync_outside`).
-/

namespace Katran.Foundation

section Sync

variable {α : Type} [DecidableEq α] (fill : α)

/-- Compare one position, recording and copying a difference. -/
def syncStep (fresh : List α) (state : List (Nat × α) × List α) (position : Nat) :
    List (Nat × α) × List α :=
  let value := fresh.getD position fill
  if value ≠ state.2.getD position fill then
    (state.1 ++ [(position, value)], state.2.set position value)
  else state

/-- The differences of a fresh vector and a cached one, and the updated copy. -/
def sync (fresh cached : List α) : List (Nat × α) × List α :=
  (List.range fresh.length).foldl (syncStep fill fresh) ([], cached)

/-- The copy and the differences after the first `count` positions. -/
structure Synced (fresh cached : List α) (count : Nat) (state : List (Nat × α) × List α) :
    Prop where
  length : state.2.length = cached.length
  done : ∀ position < count, state.2.getD position fill = fresh.getD position fill
  rest : ∀ position, count ≤ position → state.2.getD position fill = cached.getD position fill
  delta : ∀ position value, (position, value) ∈ state.1 ↔
    position < count ∧ value = fresh.getD position fill ∧ value ≠ cached.getD position fill
  nodup : (state.1.map Prod.fst).Nodup

variable {fill}

omit [DecidableEq α] in
/-- An entry of a list after one of them is set. -/
theorem getD_set_eq (list : List α) (position other : Nat) (value : α)
    (inside : position < list.length) :
    (list.set position value).getD other fill =
      if other = position then value else list.getD other fill := by
  by_cases same : other = position
  · subst same
    simp only [List.getD_eq_getElem?_getD, List.getElem?_set, inside, ↓reduceIte, Option.getD_some]
  · have different : ¬ position = other := fun equal => same equal.symm
    simp only [List.getD_eq_getElem?_getD, List.getElem?_set, different, same, ↓reduceIte]

/-- One more position is synchronised. -/
theorem Synced.step {fresh cached : List α} {count : Nat} {state : List (Nat × α) × List α}
    (synced : Synced fill fresh cached count state) (inside : count < cached.length) :
    Synced fill fresh cached (count + 1) (syncStep fill fresh state count) := by
  have here := synced.rest count (Nat.le_refl count)
  unfold syncStep
  dsimp only
  split
  next differs =>
    rw [here] at differs
    have within : count < state.2.length := by rw [synced.length]; exact inside
    refine ⟨by rw [List.length_set, synced.length], ?_, ?_, ?_, ?_⟩
    · intro position below
      rw [getD_set_eq _ _ _ _ within]
      by_cases same : position = count
      · simp only [same, ↓reduceIte]
      · simp only [same, ↓reduceIte]
        exact synced.done position (by omega)
    · intro position above
      rw [getD_set_eq _ _ _ _ within]
      have different : ¬ position = count := by omega
      simp only [different, ↓reduceIte]
      exact synced.rest position (by omega)
    · intro position value
      rw [List.mem_append, List.mem_singleton, synced.delta, Prod.mk.injEq]
      constructor
      · rintro (⟨below, same, changed⟩ | ⟨rfl, rfl⟩)
        · exact ⟨by omega, same, changed⟩
        · exact ⟨by omega, rfl, differs⟩
      · rintro ⟨below, same, changed⟩
        by_cases last : position = count
        · subst last
          exact .inr ⟨rfl, same⟩
        · exact .inl ⟨by omega, same, changed⟩
    · rw [List.map_append, List.nodup_append]
      refine ⟨synced.nodup, List.nodup_singleton _, ?_⟩
      intro first member second single equal
      obtain ⟨⟨position, value⟩, present, rfl⟩ := List.mem_map.mp member
      have below := ((synced.delta position value).mp present).1
      rw [List.map_singleton, List.mem_singleton] at single
      change position = second at equal
      omega
  next equal =>
    have agrees : fresh.getD count fill = cached.getD count fill := by
      rw [← here]
      exact Decidable.not_not.mp equal
    refine ⟨synced.length, ?_, fun position above => synced.rest position (by omega), ?_,
      synced.nodup⟩
    · intro position below
      by_cases same : position = count
      · subst same
        rw [here, agrees]
      · exact synced.done position (by omega)
    · intro position value
      rw [synced.delta]
      constructor
      · rintro ⟨below, same, changed⟩
        exact ⟨by omega, same, changed⟩
      · rintro ⟨below, same, changed⟩
        refine ⟨?_, same, changed⟩
        by_contra last
        have position_eq : position = count := by omega
        subst position_eq
        exact changed (same.trans agrees)

/-- All positions up to a number are synchronised. -/
theorem Synced.fold {fresh cached : List α} (fits : fresh.length = cached.length) (count : Nat)
    (bounded : count ≤ fresh.length) :
    Synced fill fresh cached count
      ((List.range count).foldl (syncStep fill fresh) ([], cached)) := by
  induction count with
  | zero =>
      refine ⟨rfl, ?_, fun _ _ => rfl, ?_, List.nodup_nil⟩
      · intro position below
        omega
      · intro position value
        simp only [List.range_zero, List.foldl_nil, List.not_mem_nil, Nat.not_lt_zero, false_and]
  | succ count ih =>
      rw [List.range_succ, List.foldl_append, List.foldl_cons, List.foldl_nil]
      exact (ih (by omega)).step (by omega)

/-- After synchronising, the copy is the fresh vector. -/
theorem sync_cached {fresh cached : List α} (fits : fresh.length = cached.length) :
    (sync fill fresh cached).2 = fresh := by
  have synced : Synced fill fresh cached fresh.length (sync fill fresh cached) :=
    Synced.fold fits fresh.length (Nat.le_refl _)
  apply List.ext_getElem
  · exact synced.length.trans fits.symm
  · intro position left right
    have agrees := synced.done position right
    rw [List.getD_eq_getElem _ _ right] at agrees
    rw [← agrees]
    exact (List.getD_eq_getElem _ _ left).symm

/-- The differences are the positions at which the vectors differ. -/
theorem mem_sync_delta {fresh cached : List α} (fits : fresh.length = cached.length)
    (position : Nat) (value : α) :
    (position, value) ∈ (sync fill fresh cached).1 ↔ position < fresh.length ∧
      value = fresh.getD position fill ∧ value ≠ cached.getD position fill :=
  (Synced.fold fits fresh.length (Nat.le_refl _)).delta position value

/-- No position is written twice. -/
theorem sync_delta_nodup {fresh cached : List α} (fits : fresh.length = cached.length) :
    ((sync fill fresh cached).1.map Prod.fst).Nodup :=
  (Synced.fold fits fresh.length (Nat.le_refl _)).nodup

end Sync

section Store

variable {β : Type}

/-- Write a list of positions to a store, in order. -/
def writeAll (store : Nat → β) (writes : List (Nat × β)) : Nat → β :=
  writes.foldl (fun store write => Function.update store write.1 write.2) store

/-- A position that is not written stays as it is. -/
theorem writeAll_of_not_mem {store : Nat → β} {writes : List (Nat × β)} {position : Nat}
    (untouched : position ∉ writes.map Prod.fst) :
    writeAll store writes position = store position := by
  induction writes generalizing store with
  | nil => rfl
  | cons write writes ih =>
      rw [List.map_cons, List.mem_cons, not_or] at untouched
      change writeAll (Function.update store write.1 write.2) writes position = store position
      rw [ih untouched.2, Function.update_of_ne untouched.1]

/-- What a store holds after some writes it held before, or was written. -/
theorem writeAll_forall (holds : β → Prop) {store : Nat → β} {writes : List (Nat × β)}
    (before : ∀ position, holds (store position)) (written : ∀ write ∈ writes, holds write.2)
    (position : Nat) : holds (writeAll store writes position) := by
  induction writes generalizing store with
  | nil => exact before position
  | cons write writes ih =>
      apply ih _ fun later member => written later (List.mem_cons_of_mem _ member)
      intro other
      change holds (Function.update store write.1 write.2 other)
      by_cases same : other = write.1
      · rw [same, Function.update_self]
        exact written write List.mem_cons_self
      · rw [Function.update_of_ne same]
        exact before other

/-- A position that is written once has what is written. -/
theorem writeAll_of_mem {store : Nat → β} {writes : List (Nat × β)} {position : Nat} {value : β}
    (once : (writes.map Prod.fst).Nodup) (written : (position, value) ∈ writes) :
    writeAll store writes position = value := by
  induction writes generalizing store with
  | nil => cases written
  | cons write writes ih =>
      rw [List.map_cons, List.nodup_cons] at once
      change writeAll (Function.update store write.1 write.2) writes position = value
      rcases List.mem_cons.mp written with rfl | later
      · rw [writeAll_of_not_mem once.1, Function.update_self]
      · exact ih once.2 later

end Store

section Slice

variable {α β : Type} [DecidableEq α] {fill : α} {fresh cached : List α} {store : Nat → β}

/-- Writing the differences brings a slice of the store up to date. -/
theorem writeAll_sync (fits : fresh.length = cached.length) (base : Nat) (image : α → β)
    (current : ∀ position < fresh.length, cached.getD position fill = fresh.getD position fill →
      store (base + position) = image (cached.getD position fill))
    {position : Nat} (inside : position < fresh.length) :
    writeAll store ((sync fill fresh cached).1.map fun change => (base + change.1, image change.2))
      (base + position) = image (fresh.getD position fill) := by
  have keys : ((sync fill fresh cached).1.map fun change => (base + change.1, image change.2)).map
      Prod.fst = ((sync fill fresh cached).1.map Prod.fst).map (base + ·) := by
    simp only [List.map_map, Function.comp_def]
  by_cases same : cached.getD position fill = fresh.getD position fill
  · rw [writeAll_of_not_mem, current position inside same, same]
    rw [keys, List.mem_map]
    rintro ⟨other, listed, shifted⟩
    obtain ⟨⟨written, value⟩, member, rfl⟩ := List.mem_map.mp listed
    have equal : written = position := Nat.add_left_cancel shifted
    subst equal
    obtain ⟨_, rfl, changed⟩ := (mem_sync_delta fits written value).mp member
    exact changed same.symm
  · apply writeAll_of_mem
    · rw [keys]
      exact (sync_delta_nodup fits).map fun first second equal => Nat.add_left_cancel equal
    · refine List.mem_map.mpr ⟨(position, fresh.getD position fill), ?_, rfl⟩
      exact (mem_sync_delta fits _ _).mpr ⟨inside, rfl, fun equal => same equal.symm⟩

/-- Writing the differences leaves the rest of the store alone. -/
theorem writeAll_sync_outside (fits : fresh.length = cached.length) (base : Nat) (image : α → β)
    {position : Nat} (outside : ∀ offset < fresh.length, position ≠ base + offset) :
    writeAll store ((sync fill fresh cached).1.map fun change => (base + change.1, image change.2))
      position = store position := by
  apply writeAll_of_not_mem
  intro listed
  obtain ⟨_, written, rfl⟩ := List.mem_map.mp listed
  obtain ⟨⟨offset, value⟩, changed, rfl⟩ := List.mem_map.mp written
  obtain ⟨below, _, _⟩ := (mem_sync_delta fits offset value).mp changed
  exact outside offset below rfl

end Slice

end Katran.Foundation
