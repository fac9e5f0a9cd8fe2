import Mathlib.Data.List.AList
import Mathlib.Data.List.FinRange

/-! # Hash maps and their iteration order

A hash map is an association list without repeated keys. The order in which a
loop visits its entries is not specified, so every loop over a map takes the
permutation it visits the entries in as an argument (`IterOrder`), and results
about the loop hold for every permutation.
-/

namespace Katran.Foundation

/-- A finite map with unspecified iteration order. -/
abbrev UnorderedMap (Key Value : Type) := AList fun _ : Key => Value

/-- For every number of entries, the order in which a loop visits them. -/
abbrev IterOrder := (count : Nat) → Equiv.Perm (Fin count)

namespace IterOrder

variable {α : Type}

/-- The order in which the entries are stored. -/
def stored : IterOrder := fun _ => Equiv.refl _

/-- The entries in the order in which they are visited. -/
def visit (order : IterOrder) (entries : List α) : List α :=
  List.ofFn fun index => entries.get (order entries.length index)

/-- A loop visits every entry exactly once. -/
theorem visit_perm (order : IterOrder) (entries : List α) :
    (order.visit entries).Perm entries := by
  have shuffled := Equiv.Perm.ofFn_comp_perm (order entries.length) entries.get
  rwa [List.ofFn_get] at shuffled

/-- A visit meets every entry. -/
@[simp] theorem mem_visit (order : IterOrder) (entries : List α) (entry : α) :
    entry ∈ order.visit entries ↔ entry ∈ entries :=
  (order.visit_perm entries).mem_iff

end IterOrder

namespace UnorderedMap

variable {Key Value : Type} [DecidableEq Key]

/-- The values of a map, in the order of its entries. -/
def values (map : UnorderedMap Key Value) : List Value := map.entries.map Sigma.snd

omit [DecidableEq Key] in
@[simp] theorem values_empty : values (∅ : UnorderedMap Key Value) = [] := rfl

omit [DecidableEq Key] in
/-- A value is one of some key. -/
theorem mem_values {map : UnorderedMap Key Value} {value : Value} :
    value ∈ values map ↔ ∃ key, ⟨key, value⟩ ∈ map.entries := by
  unfold values
  constructor
  · intro member
    obtain ⟨⟨key, _⟩, present, rfl⟩ := List.mem_map.mp member
    exact ⟨key, present⟩
  · rintro ⟨key, present⟩
    exact List.mem_map.mpr ⟨_, present, rfl⟩

/-- An entry of a map is what looking its key up finds. -/
theorem mem_entries {map : UnorderedMap Key Value} {key : Key} {value : Value} :
    ⟨key, value⟩ ∈ map.entries ↔ map.lookup key = some value :=
  AList.mem_lookup_iff.symm

/-- A key has a value. -/
theorem exists_lookup_of_mem {map : UnorderedMap Key Value} {key : Key} (member : key ∈ map) :
    ∃ value, map.lookup key = some value :=
  Option.isSome_iff_exists.mp (AList.lookup_isSome.mpr member)

/-- A key with a value is in the map. -/
theorem mem_of_lookup {map : UnorderedMap Key Value} {key : Key} {value : Value}
    (found : map.lookup key = some value) : key ∈ map :=
  AList.lookup_isSome.mp (by rw [found]; rfl)

/-- Splitting a map at a present key. -/
theorem entries_perm_cons_erase {map : UnorderedMap Key Value} {key : Key} {value : Value}
    (found : map.lookup key = some value) :
    map.entries.Perm (⟨key, value⟩ :: (map.erase key).entries) := by
  have keyed : key ∈ map.entries.keys := AList.mem_keys.mp (mem_of_lookup found)
  obtain ⟨other, left, right, _, split, erased⟩ := List.exists_of_kerase keyed
  have entry : (⟨key, other⟩ : Sigma fun _ : Key => Value) ∈ map.entries := by
    rw [split]
    exact List.mem_append_right _ List.mem_cons_self
  have same : other = value := Option.some.inj ((mem_entries.mp entry).symm.trans found)
  subst same
  change map.entries.Perm (⟨key, other⟩ :: map.entries.kerase key)
  rw [erased, split]
  exact List.perm_middle

/-- Writing a key keeps the other entries. -/
theorem entries_insert_eq (map : UnorderedMap Key Value) (key : Key) (value : Value) :
    (map.insert key value).entries = ⟨key, value⟩ :: (map.erase key).entries := rfl

/-- The values are that of a key and those of the other keys. -/
theorem values_perm_cons_erase {map : UnorderedMap Key Value} {key : Key} {value : Value}
    (found : map.lookup key = some value) :
    (values map).Perm (value :: values (map.erase key)) := by
  have split := (entries_perm_cons_erase found).map Sigma.snd
  rwa [List.map_cons] at split

theorem values_insert_eq (map : UnorderedMap Key Value) (key : Key) (value : Value) :
    values (map.insert key value) = value :: values (map.erase key) := rfl

/-- Counting values without the one of a present key. -/
theorem countP_values_erase {map : UnorderedMap Key Value} {key : Key} {value : Value}
    (found : map.lookup key = some value) (test : Value → Bool) :
    (values (map.erase key)).countP test + (if test value then 1 else 0) =
      (values map).countP test := by
  rw [(values_perm_cons_erase found).countP_eq, List.countP_cons]

/-- Counting values with the one of a key replaced. -/
theorem countP_values_insert (map : UnorderedMap Key Value) (key : Key) (value : Value)
    (test : Value → Bool) :
    (values (map.insert key value)).countP test =
      (values (map.erase key)).countP test + if test value then 1 else 0 := by
  rw [values_insert_eq, List.countP_cons]

/-- Erasing an absent key changes nothing. -/
theorem erase_of_lookup_none {map : UnorderedMap Key Value} {key : Key}
    (absent : map.lookup key = none) : map.erase key = map := by
  apply AList.ext
  exact List.kerase_of_notMem_keys (AList.lookup_eq_none.mp absent)

/-- A map without keys is empty. -/
theorem eq_empty_of_forall_notMem {map : UnorderedMap Key Value} (empty : ∀ key, key ∉ map) :
    map = ∅ := by
  apply AList.ext
  apply List.eq_nil_iff_forall_not_mem.mpr
  rintro ⟨key, value⟩ member
  exact empty key (mem_of_lookup (mem_entries.mp member))

/-- A lookup after an insertion. -/
theorem lookup_insert_eq_ite (map : UnorderedMap Key Value) (key other : Key) (value : Value) :
    (map.insert key value).lookup other = if other = key then some value else map.lookup other := by
  by_cases same : other = key
  · subst same
    simp only [AList.lookup_insert, ↓reduceIte]
  · simp only [AList.lookup_insert_ne same, same, ↓reduceIte]

/-- A lookup after a removal. -/
theorem lookup_erase_eq_ite (map : UnorderedMap Key Value) (key other : Key) :
    (map.erase key).lookup other = if other = key then none else map.lookup other := by
  by_cases same : other = key
  · subst same
    simp only [AList.lookup_erase, ↓reduceIte]
  · simp only [AList.lookup_erase_ne same, same, ↓reduceIte]

end UnorderedMap

end Katran.Foundation
