import Katran.Foundation.Assoc

/-! # A store whose nodes are shared by entries of a table

Every entry of a table has a node of a store, and several entries may have one node. A
node is meant to be filled while an entry has it, with the value of one of them
(`Covers`). Adding an entry fills its node. Removing an entry clears its node, which is
right only if no other entry that stays has it; entries that are still to be removed do
not count (`doomed`).
-/

namespace Katran.Foundation

open UnorderedMap

variable {Key Entry Node Value : Type} [DecidableEq Key] [DecidableEq Node]

/-- Every filled node has the value of an entry that has the node, and the node of every
entry that is not doomed is filled. -/
structure Covers (nodeOf : Entry → Node) (valueOf : Entry → Value) (doomed : Key → Prop)
    (table : UnorderedMap Key Entry) (store : Node → Option Value) : Prop where
  holder : ∀ node value, store node = some value → ∃ key entry,
    table.lookup key = some entry ∧ nodeOf entry = node ∧ valueOf entry = value
  covered : ∀ key entry, table.lookup key = some entry → ¬ doomed key →
    ∃ value, store (nodeOf entry) = some value

namespace Covers

variable {nodeOf : Entry → Node} {valueOf : Entry → Value} {doomed : Key → Prop}
  {table : UnorderedMap Key Entry} {store : Node → Option Value}

omit [DecidableEq Node] in
/-- Without entries there are no nodes. -/
theorem empty : Covers nodeOf valueOf doomed (∅ : UnorderedMap Key Entry) fun _ => none where
  holder := by
    intro node value filled
    cases filled
  covered := by
    intro key entry found
    rw [AList.lookup_empty] at found
    cases found

omit [DecidableEq Node] in
/-- Entries may be doomed. -/
theorem doom {more : Key → Prop} (covers : Covers nodeOf valueOf doomed table store)
    (included : ∀ key, doomed key → more key) : Covers nodeOf valueOf more table store where
  holder := covers.holder
  covered key entry found spared :=
    covers.covered key entry found fun gone => spared (included key gone)

omit [DecidableEq Node] in
/-- Once no doomed entry is left, every entry counts. -/
theorem settle (covers : Covers nodeOf valueOf doomed table store)
    (gone : ∀ key, doomed key → table.lookup key = none) :
    Covers nodeOf valueOf (fun _ => False) table store where
  holder := covers.holder
  covered key entry found _ := covers.covered key entry found fun lost => by
    cases (gone key lost).symm.trans found

/-- An entry is written, at the node it had before if it replaces one. -/
theorem insert (covers : Covers nodeOf valueOf doomed table store) {key : Key} {entry : Entry}
    (same : ∀ old, table.lookup key = some old → nodeOf old = nodeOf entry) :
    Covers nodeOf valueOf doomed (table.insert key entry)
      (Function.update store (nodeOf entry) (some (valueOf entry))) where
  holder := by
    intro node value filled
    by_cases here : node = nodeOf entry
    · subst here
      rw [Function.update_self] at filled
      exact ⟨key, entry, AList.lookup_insert table, rfl, Option.some.inj filled⟩
    · rw [Function.update_of_ne here] at filled
      obtain ⟨other, held, found, there, equal⟩ := covers.holder node value filled
      refine ⟨other, held, ?_, there, equal⟩
      rw [AList.lookup_insert_ne, found]
      rintro rfl
      exact here (there.symm.trans (same held found))
  covered := by
    intro other held found spared
    by_cases here : nodeOf held = nodeOf entry
    · rw [here, Function.update_self]
      exact ⟨_, rfl⟩
    · rw [Function.update_of_ne here]
      rw [lookup_insert_eq_ite] at found
      split at found
      · obtain rfl := Option.some.inj found
        exact (here rfl).elim
      · exact covers.covered other held found spared

/-- An entry is removed and its node cleared, which no entry has that stays. -/
theorem erase (covers : Covers nodeOf valueOf doomed table store) {key : Key} {entry : Entry}
    (found : table.lookup key = some entry)
    (alone : ∀ other held, table.lookup other = some held → ¬ doomed other →
      nodeOf held ≠ nodeOf entry) :
    Covers nodeOf valueOf doomed (table.erase key)
      (Function.update store (nodeOf entry) none) where
  holder := by
    intro node value filled
    by_cases here : node = nodeOf entry
    · rw [here, Function.update_self] at filled
      cases filled
    · rw [Function.update_of_ne here] at filled
      obtain ⟨other, held, read, there, equal⟩ := covers.holder node value filled
      refine ⟨other, held, ?_, there, equal⟩
      rw [AList.lookup_erase_ne, read]
      rintro rfl
      obtain rfl := Option.some.inj (found.symm.trans read)
      exact here there.symm
  covered := by
    intro other held read spared
    rw [lookup_erase_eq_ite] at read
    split at read
    · cases read
    · rw [Function.update_of_ne (alone other held read spared)]
      exact covers.covered other held read spared

end Covers

end Katran.Foundation
