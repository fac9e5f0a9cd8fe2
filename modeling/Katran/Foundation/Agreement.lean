import Mathlib.Data.List.Basic

/-! # Lists that agree at known places

Two computations on memory of which only a part is the same end in the same memory once
every other place has been written. `Agree known` says that two lists are of one length and
the same at the places that are `known`; writing makes places known, and a list that is known
everywhere is one list (`Agree.eq`).
-/

namespace Katran.Foundation

/-- Lists of one length that agree at the known places. -/
structure Agree {α : Type} (known : Nat → Prop) (first second : List α) : Prop where
  length : first.length = second.length
  getElem? : ∀ index, known index → first[index]? = second[index]?

namespace Agree

variable {α : Type} {known more : Nat → Prop} {first second : List α}

/-- Texts that agree on some bytes agree on fewer. -/
theorem mono (agree : Agree known first second) (covers : ∀ index, more index → known index) :
    Agree more first second where
  length := agree.length
  getElem? := fun index place => agree.getElem? index (covers index place)

/-- A list that is known everywhere. -/
theorem eq (agree : Agree known first second) (all : ∀ index, known index) : first = second :=
  List.ext_getElem? fun index => agree.getElem? index (all index)

/-- A part that is known. -/
theorem slice (agree : Agree known first second) {start size : Nat}
    (inside : ∀ index, start ≤ index → index < start + size → known index) :
    (first.drop start).take size = (second.drop start).take size := by
  apply List.ext_getElem?
  intro index
  rw [List.getElem?_take, List.getElem?_take]
  split
  next below =>
    rw [List.getElem?_drop, List.getElem?_drop,
      agree.getElem? _ (inside _ (Nat.le_add_right start index) (Nat.add_lt_add_left below start))]
  next => rfl

end Agree

end Katran.Foundation
