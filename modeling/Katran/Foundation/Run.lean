import Mathlib.Data.List.Basic

/-! # Finite runs of a labelled transition relation

A run is the list of labels taken from one state to another. Restricting the
relation restricts the runs (`Run.mono`), and a predicate kept by every step is
kept by every run (`Run.invariant`).
-/

namespace Katran.Foundation

variable {State Label : Type*}

/-- The labels of a finite run, in the order in which they are taken. -/
inductive Run (step : State → Label → State → Prop) : State → List Label → State → Prop where
  | nil (state : State) : Run step state [] state
  | cons {first middle last : State} {label : Label} {labels : List Label} :
      step first label middle → Run step middle labels last →
        Run step first (label :: labels) last

namespace Run

variable {step : State → Label → State → Prop}

/-- A predicate that every step keeps holds at the end of every run. -/
theorem invariant (predicate : State → Prop) {first last : State} {labels : List Label}
    (kept : ∀ before label after, predicate before → step before label after → predicate after)
    (run : Run step first labels last) (initial : predicate first) : predicate last := by
  induction run with
  | nil state => exact initial
  | cons taken _ ih => exact ih (kept _ _ _ initial taken)

/-- A run of a smaller relation is a run of a larger one. -/
theorem mono {larger : State → Label → State → Prop}
    (included : ∀ before label after, step before label after → larger before label after)
    {first last : State} {labels : List Label} (run : Run step first labels last) :
    Run larger first labels last := by
  induction run with
  | nil state => exact .nil state
  | cons taken _ ih => exact .cons (included _ _ _ taken) ih

/-- The same, where the relations need only be compared at states with a property that
every step keeps. -/
theorem mono_of_invariant (predicate : State → Prop) {larger : State → Label → State → Prop}
    (kept : ∀ before label after, predicate before → step before label after → predicate after)
    (included : ∀ before label after, predicate before → step before label after →
      larger before label after)
    {first last : State} {labels : List Label} (run : Run step first labels last)
    (initial : predicate first) : Run larger first labels last := by
  induction run with
  | nil state => exact .nil state
  | cons taken _ ih => exact .cons (included _ _ _ initial taken) (ih (kept _ _ _ initial taken))

/-- Two runs that meet compose. -/
theorem append {first middle last : State} {before after : List Label}
    (left : Run step first before middle) (right : Run step middle after last) :
    Run step first (before ++ after) last := by
  induction left with
  | nil state => exact right
  | cons taken _ ih => exact .cons taken (ih right)

/-- Take the labels one by one with a partial step function. -/
def execAll (exec : State → Label → Option State) : State → List Label → Option State
  | state, [] => some state
  | state, label :: labels => (exec state label).bind fun next => execAll exec next labels

/-- What a step function computes is a run. -/
theorem of_execAll {exec : State → Label → Option State}
    (sound : ∀ before label after, exec before label = some after → step before label after)
    {first last : State} {labels : List Label} (computed : execAll exec first labels = some last) :
    Run step first labels last := by
  induction labels generalizing first with
  | nil =>
      obtain rfl := Option.some.inj computed
      exact .nil first
  | cons label labels ih =>
      obtain ⟨next, taken, rest⟩ := Option.bind_eq_some_iff.mp computed
      exact .cons (sound _ _ _ taken) (ih rest)

end Run

end Katran.Foundation
