import Mathlib.Logic.Function.Basic

/-! # Tables that are filled and evicted

A family of tables, one at each place, from keys to values. Entries are stored and
evicted one at a time, so a property of single entries holds of all of them as long
as it holds of every entry that is stored (`EveryEntry`).
-/

namespace Katran.Foundation

variable {Place Key Value : Type} [DecidableEq Place] [DecidableEq Key]

/-- Store an entry, replacing the one that is there. -/
def store (tables : Place → Key → Option Value) (place : Place) (key : Key) (value : Value) :
    Place → Key → Option Value :=
  Function.update tables place (Function.update (tables place) key (some value))

/-- Forget an entry. -/
def evict (tables : Place → Key → Option Value) (place : Place) (key : Key) :
    Place → Key → Option Value :=
  Function.update tables place (Function.update (tables place) key none)

variable {tables : Place → Key → Option Value} {place : Place} {key : Key} {value : Value}

/-- An entry of nested tables after one of them is changed. -/
theorem update_update_apply (entry : Option Value) (otherPlace : Place) (other : Key) :
    Function.update tables place (Function.update (tables place) key entry) otherPlace other =
      if otherPlace = place ∧ other = key then entry else tables otherPlace other := by
  by_cases here : otherPlace = place
  · subst here
    by_cases same : other = key
    · subst same
      simp only [Function.update_self, and_self, ↓reduceIte]
    · simp only [Function.update_self, Function.update_of_ne same, same, and_false, ↓reduceIte]
  · simp only [Function.update_of_ne here, here, false_and, ↓reduceIte]

/-- An entry after one is stored. -/
theorem store_apply (otherPlace : Place) (other : Key) :
    store tables place key value otherPlace other =
      if otherPlace = place ∧ other = key then some value else tables otherPlace other :=
  update_update_apply (some value) otherPlace other

/-- What is stored is found. -/
@[simp] theorem store_self : store tables place key value place key = some value := by
  rw [store_apply, if_pos ⟨rfl, rfl⟩]

/-- An entry after one is evicted. -/
theorem evict_apply (otherPlace : Place) (other : Key) :
    evict tables place key otherPlace other =
      if otherPlace = place ∧ other = key then none else tables otherPlace other :=
  update_update_apply none otherPlace other

/-- Every entry of every table has a property. -/
def EveryEntry (holds : Place → Key → Value → Prop) (tables : Place → Key → Option Value) : Prop :=
  ∀ place key value, tables place key = some value → holds place key value

namespace EveryEntry

variable {holds : Place → Key → Value → Prop}

omit [DecidableEq Place] [DecidableEq Key] in
/-- Every entry of empty tables. -/
theorem empty : EveryEntry holds fun _ _ => none := by
  intro place key value found
  cases found

/-- What holds of the new entry as well holds of every entry. -/
theorem store (every : EveryEntry holds tables) (new : holds place key value) :
    EveryEntry holds (store tables place key value) := by
  intro otherPlace other entry found
  rw [store_apply] at found
  split at found
  next same =>
    obtain ⟨rfl, rfl⟩ := same
    obtain rfl := Option.some.inj found
    exact new
  next => exact every otherPlace other entry found

/-- What holds of every entry still does after an eviction. -/
theorem evict (every : EveryEntry holds tables) (place : Place) (key : Key) :
    EveryEntry holds (evict tables place key) := by
  intro otherPlace other entry found
  rw [evict_apply] at found
  split at found
  · cases found
  · exact every otherPlace other entry found

end EveryEntry

end Katran.Foundation
