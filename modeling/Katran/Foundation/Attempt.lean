import Mathlib.Data.List.Basic

/-! # Procedures that may give up

A procedure either returns or gives up with an error, and in both cases leaves a state: what
it has done before it gave up stays done. Sequences stop at the first part that gives up.

Two kinds of facts are composed along sequences: what holds if the procedure returns
(`Returns`), and what holds either way (`Keeps`).
-/

namespace Katran.Foundation

/-- A procedure that changes a state and may give up. -/
def Attempt (State Error : Type) : Type := State → Option Error × State

namespace Attempt

variable {State Error : Type}

/-- Nothing is done. -/
def pass : Attempt State Error := fun state => (none, state)

/-- An error is thrown. -/
def fail (error : Error) : Attempt State Error := fun state => (some error, state)

/-- The state changes, and nothing is thrown. -/
def modify (change : State → State) : Attempt State Error := fun state => (none, change state)

/-- The second procedure, unless the first gives up. -/
def andThen (first second : Attempt State Error) : Attempt State Error := fun state =>
  match first state with
  | (some error, later) => (some error, later)
  | (none, later) => second later

/-- One procedure after the other. -/
def all : List (Attempt State Error) → Attempt State Error
  | [] => pass
  | attempt :: attempts => andThen attempt (all attempts)

/-- A procedure that depends on the state it begins in. -/
def bind (choose : State → Attempt State Error) : Attempt State Error := fun state =>
  choose state state

/-- A change, or an error in its place. -/
def update (succeeds : Bool) (error : Error) (change : State → State) : Attempt State Error :=
  if succeeds then modify change else fail error

/-! ## Returning -/

/-- The procedure returns from a state, and leaves another. -/
def Returns (attempt : Attempt State Error) (state after : State) : Prop :=
  attempt state = (none, after)

variable {first second : Attempt State Error} {attempts : List (Attempt State Error)}
  {state after : State} {error : Error}

/-- Nothing is done, and that succeeds. -/
theorem returns_pass : Returns (pass : Attempt State Error) state after ↔ after = state := by
  unfold Returns pass
  rw [Prod.mk.injEq, eq_comm (a := state)]
  exact and_iff_right rfl

/-- A change succeeds. -/
theorem returns_modify {change : State → State} :
    Returns (modify change : Attempt State Error) state after ↔ after = change state := by
  unfold Returns modify
  rw [Prod.mk.injEq, eq_comm (a := change state)]
  exact and_iff_right rfl

/-- A choice by the state. -/
theorem returns_bind {choose : State → Attempt State Error} :
    Returns (bind choose) state after ↔ Returns (choose state) state after := Iff.rfl

/-- An error is not a result. -/
theorem not_returns_fail : ¬ Returns (fail error : Attempt State Error) state after := nofun

/-- An update that may fail. -/
theorem returns_update {succeeds : Bool} {change : State → State} :
    Returns (update succeeds error change) state after ↔
      succeeds = true ∧ after = change state := by
  cases succeeds with
  | true => exact returns_modify.trans (and_iff_right rfl).symm
  | false => exact ⟨fun returned => (not_returns_fail returned).elim, nofun⟩

/-- One attempt after the other. -/
theorem returns_andThen : Returns (andThen first second) state after ↔
    ∃ middle, Returns first state middle ∧ Returns second middle after := by
  unfold Returns andThen
  cases begun : first state with
  | mk error later =>
      cases error with
      | some error =>
          constructor
          · nofun
          · rintro ⟨middle, returned, _⟩
            cases returned
      | none =>
          constructor
          · intro returned
            exact ⟨later, rfl, returned⟩
          · rintro ⟨middle, same, returned⟩
            obtain rfl : later = middle := congrArg Prod.snd same
            exact returned

/-- The first of several attempts, and then the others. -/
theorem returns_all_cons {attempt : Attempt State Error} :
    Returns (all (attempt :: attempts)) state after ↔
      ∃ middle, Returns attempt state middle ∧ Returns (all attempts) middle after :=
  returns_andThen

/-- A sequence stops within its first part, or the first part returns. -/
theorem all_append_cases (attempts more : List (Attempt State Error)) (state : State) :
    (all (attempts ++ more) state).2 = (all attempts state).2 ∨
      ∃ middle, Returns (all attempts) state middle ∧
        (all (attempts ++ more) state).2 = (all more middle).2 := by
  induction attempts generalizing state with
  | nil => exact .inr ⟨state, rfl, rfl⟩
  | cons attempt attempts ih =>
      cases begun : attempt state with
      | mk error later =>
          cases error with
          | some error =>
              refine .inl ?_
              simp only [List.cons_append, all, andThen, begun]
          | none =>
              simp only [List.cons_append, all, andThen, begun, Returns]
              exact ih later

/-! ## Keeping -/

/-- A relation between the state before and after that holds whether or not the procedure
gives up. -/
def Keeps (related : State → State → Prop) (attempt : Attempt State Error) : Prop :=
  ∀ state, related state (attempt state).2

variable {related : State → State → Prop}

/-- What the second procedure keeps is asked for only if the first returns. -/
theorem related_andThen (trans : ∀ first middle last, related first middle → related middle last →
    related first last) (left : related state (first state).2)
    (right : ∀ middle, Returns first state middle → related middle (second middle).2) :
    related state (andThen first second state).2 := by
  unfold Attempt.andThen
  split
  next error later same =>
    rw [same] at left
    exact left
  next later same =>
    rw [same] at left
    exact trans _ _ _ left (right later same)

/-- What each of several attempts keeps is kept by all of them. -/
theorem Keeps.all (refl : ∀ state, related state state) (trans : ∀ first middle last,
    related first middle → related middle last → related first last)
    (each : ∀ attempt ∈ attempts, Keeps related attempt) : Keeps related (all attempts) := by
  induction attempts with
  | nil => exact fun state => refl state
  | cons attempt attempts ih =>
      intro state
      refine related_andThen trans (each attempt List.mem_cons_self state) ?_
      intro middle _
      exact ih (fun later member => each later (List.mem_cons_of_mem _ member)) middle

/-- A change that keeps a relation. -/
theorem Keeps.modify {change : State → State} (changed : ∀ state, related state (change state)) :
    Keeps related (modify change : Attempt State Error) := changed

/-- A choice between attempts that keep a relation. -/
theorem Keeps.bind {choose : State → Attempt State Error}
    (each : ∀ state, Keeps related (choose state)) : Keeps related (bind choose) :=
  fun state => each state state

/-- An update that keeps a relation, whether it fails or not. -/
theorem Keeps.update {succeeds : Bool} {change : State → State}
    (refl : ∀ state, related state state) (changed : ∀ state, related state (change state)) :
    Keeps related (update succeeds error change) := by
  intro state
  cases succeeds with
  | true => exact changed state
  | false => exact refl state

end Attempt

end Katran.Foundation
