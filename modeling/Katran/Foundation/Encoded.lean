import Mathlib.Logic.Function.Basic

/-! # Tables stored under encoded keys

A table is stored elsewhere under codes of its keys. The store holds exactly the entries
of the table as long as no two keys that are present have one code (`Encoded`), so a key
may be added only if no other has its code.
-/

namespace Katran.Foundation

variable {Key Code Value : Type} {encode : Key → Option Code} {table : Key → Option Value}
  {store : Code → Option Value} {key : Key} {code : Code} {value : Value}

/-- The store has the entries of the table, each under the code of its key, and no
other. -/
structure Encoded (encode : Key → Option Code) (table : Key → Option Value)
    (store : Code → Option Value) : Prop where
  encodes : ∀ key value, table key = some value → ∃ code, encode key = some code
  injective : ∀ first second code, encode first = some code → encode second = some code →
    table first ≠ none → table second ≠ none → first = second
  stored : ∀ code value, store code = some value ↔
    ∃ key, encode key = some code ∧ table key = some value

namespace Encoded

/-- Nothing encodes nothing. -/
theorem empty : Encoded encode (fun _ => none : Key → Option Value) fun _ => none where
  encodes := nofun
  injective := fun _ _ _ _ _ absent => (absent rfl).elim
  stored := fun _ _ => ⟨nofun, nofun⟩

/-- The entry of a key is where the code says. -/
theorem read (encoded : Encoded encode table store) (coded : encode key = some code)
    (present : table key ≠ none) : store code = table key := by
  obtain ⟨value, found⟩ := Option.ne_none_iff_exists'.mp present
  rw [found]
  exact (encoded.stored code value).mpr ⟨key, coded, found⟩

/-- Changing the entry of a key does not matter under other codes. -/
theorem stored_elsewhere [DecidableEq Key] (encoded : Encoded encode table store)
    (coded : encode key = some code) {other : Code} (different : other ≠ code)
    {entry : Option Value} {value : Value} :
    store other = some value ↔
      ∃ owner, encode owner = some other ∧ Function.update table key entry owner = some value := by
  have moved : ∀ owner, encode owner = some other → owner ≠ key := by
    intro owner ownerCoded same
    subst same
    exact different (Option.some.inj (ownerCoded.symm.trans coded))
  rw [encoded.stored]
  constructor
  · rintro ⟨owner, ownerCoded, found⟩
    exact ⟨owner, ownerCoded, by rwa [Function.update_of_ne (moved owner ownerCoded)]⟩
  · rintro ⟨owner, ownerCoded, found⟩
    rw [Function.update_of_ne (moved owner ownerCoded)] at found
    exact ⟨owner, ownerCoded, found⟩

variable [DecidableEq Key] [DecidableEq Code]

/-- Store an entry under a code that no other key has. -/
theorem insert (encoded : Encoded encode table store) (coded : encode key = some code)
    (unused : ∀ other, encode other = some code → table other ≠ none → other = key)
    (value : Value) :
    Encoded encode (Function.update table key (some value))
      (Function.update store code (some value)) where
  encodes := by
    intro other entry found
    by_cases same : other = key
    · exact ⟨code, same ▸ coded⟩
    · rw [Function.update_of_ne same] at found
      exact encoded.encodes other entry found
  injective := by
    intro first second common firstCoded secondCoded firstFound secondFound
    by_cases left : first = key
    · subst left
      obtain rfl := Option.some.inj (coded.symm.trans firstCoded)
      by_cases right : second = first
      · exact right.symm
      · rw [Function.update_of_ne right] at secondFound
        exact (unused second secondCoded secondFound).symm
    · rw [Function.update_of_ne left] at firstFound
      by_cases right : second = key
      · subst right
        obtain rfl := Option.some.inj (coded.symm.trans secondCoded)
        exact unused first firstCoded firstFound
      · rw [Function.update_of_ne right] at secondFound
        exact encoded.injective first second common firstCoded secondCoded firstFound secondFound
  stored := by
    intro other entry
    by_cases same : other = code
    · subst same
      rw [Function.update_self, Option.some.injEq]
      constructor
      · rintro rfl
        exact ⟨key, coded, Function.update_self ..⟩
      · rintro ⟨owner, ownerCoded, found⟩
        by_cases own : owner = key
        · rw [own, Function.update_self] at found
          exact Option.some.inj found
        · rw [Function.update_of_ne own] at found
          exact (own (unused owner ownerCoded (by rw [found]; nofun))).elim
    · rw [Function.update_of_ne same]
      exact encoded.stored_elsewhere coded same

/-- Remove the entry of a key that is present. -/
theorem erase (encoded : Encoded encode table store) (coded : encode key = some code)
    (present : table key ≠ none) :
    Encoded encode (Function.update table key none) (Function.update store code none) where
  encodes := by
    intro other entry found
    by_cases same : other = key
    · exact ⟨code, same ▸ coded⟩
    · rw [Function.update_of_ne same] at found
      exact encoded.encodes other entry found
  injective := by
    intro first second common firstCoded secondCoded firstFound secondFound
    have kept : ∀ other, Function.update table key none other ≠ none → table other ≠ none := by
      intro other found
      by_cases same : other = key
      · rw [same, Function.update_self] at found
        exact (found rfl).elim
      · rwa [Function.update_of_ne same] at found
    exact encoded.injective first second common firstCoded secondCoded (kept first firstFound)
      (kept second secondFound)
  stored := by
    intro other entry
    by_cases same : other = code
    · subst same
      rw [Function.update_self]
      constructor
      · nofun
      · rintro ⟨owner, ownerCoded, found⟩
        by_cases own : owner = key
        · rw [own, Function.update_self] at found
          cases found
        · rw [Function.update_of_ne own] at found
          exact (own (encoded.injective owner key other ownerCoded coded (by rw [found]; nofun)
            present)).elim
    · rw [Function.update_of_ne same]
      exact encoded.stored_elsewhere coded same

end Encoded

end Katran.Foundation
