import Katran.Foundation.Run
import Mathlib.Data.Finset.Card
import Mathlib.Data.Nat.Find

/-! # Taking the first free place

Members take places in an order, and a member may have several turns. Each has a walk of its
own over the places and takes the first place of it that is still free. A member whose walk
has no free place left stops everything, so all turns are taken exactly if none finds its walk
used up (`exists_run_iff`).

Which places are taken does not depend on the part of a walk that nobody gets to. So two
families of walks can be compared turn by turn: they lead to the same places if they agree on
all that is walked (`run_congr`), and otherwise there is a first turn that gets too far
(`good_or_first`).
-/

namespace Katran.Foundation

variable {Member Place : Type} {walk other : Member → Nat → Place} {order : List Member}
  {taken last : List (Member × Nat)} {member : Member} {step : Nat}

/-- The places that have been taken, by members at steps of their walks. -/
def places (walk : Member → Nat → Place) (taken : List (Member × Nat)) : List Place :=
  taken.map fun turn => walk turn.1 turn.2

/-- The first step of a member's walk that leads to a free place. -/
structure FirstFree (walk : Member → Nat → Place) (taken : List (Member × Nat)) (member : Member)
    (step : Nat) : Prop where
  free : walk member step ∉ places walk taken
  passed : ∀ earlier < step, walk member earlier ∈ places walk taken

/-- A turn: a member takes the first free place of its walk. -/
def Takes (walk : Member → Nat → Place) (taken : List (Member × Nat)) (member : Member)
    (after : List (Member × Nat)) : Prop :=
  ∃ step, FirstFree walk taken member step ∧ after = taken ++ [(member, step)]

/-- Some place of a member's walk is free. -/
def HasFree (walk : Member → Nat → Place) (taken : List (Member × Nat)) (member : Member) : Prop :=
  ∃ step, walk member step ∉ places walk taken

/-- The places after one more turn. -/
theorem mem_places_snoc {place : Place} :
    place ∈ places walk (taken ++ [(member, step)]) ↔
      place ∈ places walk taken ∨ place = walk member step := by
  rw [places, List.map_append, List.mem_append]
  exact or_congr_right List.mem_singleton

theorem length_places (walk : Member → Nat → Place) (taken : List (Member × Nat)) :
    (places walk taken).length = taken.length := List.length_map _

/-- Walks that agree on what has been taken lead to the same places. -/
theorem places_congr (agree : ∀ turn ∈ taken, walk turn.1 turn.2 = other turn.1 turn.2) :
    places walk taken = places other taken := List.map_congr_left agree

/-- A member that finds a free place finds a first one. -/
theorem HasFree.first (free : HasFree walk taken member) :
    ∃ step, FirstFree walk taken member step := by
  classical
  refine ⟨Nat.find free, Nat.find_spec free, ?_⟩
  intro earlier before
  exact not_not.mp (Nat.find_min free before)

/-- There is at most one first free place. -/
theorem FirstFree.unique {another : Nat} (first : FirstFree walk taken member step)
    (again : FirstFree walk taken member another) : step = another := by
  rcases Nat.lt_trichotomy step another with before | same | after
  · exact (first.free (again.passed step before)).elim
  · exact same
  · exact (again.free (first.passed another after)).elim

/-- Walks that agree up to a step agree on whether it is the first one. -/
theorem FirstFree.congr (first : FirstFree walk taken member step)
    (agree : ∀ turn ∈ taken, walk turn.1 turn.2 = other turn.1 turn.2)
    (along : ∀ earlier ≤ step, walk member earlier = other member earlier) :
    FirstFree other taken member step := by
  refine ⟨?_, ?_⟩
  · rw [← places_congr agree, ← along step (Nat.le_refl step)]
    exact first.free
  · intro earlier before
    rw [← places_congr agree, ← along earlier (Nat.le_of_lt before)]
    exact first.passed earlier before

/-! ## All turns of an order -/

section Runs

/-- What has been taken stays taken. -/
theorem subset_of_run (run : Run (Takes walk) taken order last) : taken ⊆ last := by
  induction run with
  | nil => exact List.Subset.refl _
  | cons turn _ ih =>
      obtain ⟨step, _, rfl⟩ := turn
      exact List.Subset.trans (List.subset_append_left _ _) ih

/-- Every turn of a run takes a place. -/
theorem length_of_run (run : Run (Takes walk) taken order last) :
    last.length = taken.length + order.length := by
  induction run with
  | nil => rfl
  | cons turn _ ih =>
      obtain ⟨step, _, rfl⟩ := turn
      rw [ih, List.length_append, List.length_singleton, List.length_cons]
      omega

/-- The members that have taken places are those of the order. -/
theorem members_of_run (run : Run (Takes walk) taken order last) :
    last.map Prod.fst = taken.map Prod.fst ++ order := by
  induction run with
  | nil => exact (List.append_nil _).symm
  | cons turn _ ih =>
      obtain ⟨step, _, rfl⟩ := turn
      rw [ih, List.map_append, List.append_assoc]
      rfl

/-- Nobody takes a place that is taken. -/
theorem nodup_places_of_run (run : Run (Takes walk) taken order last)
    (distinct : (places walk taken).Nodup) : (places walk last).Nodup := by
  refine run.invariant (fun taken => (places walk taken).Nodup) ?_ distinct
  rintro before member _ distinct ⟨step, first, rfl⟩
  have fresh := distinct.concat first.free
  rw [List.concat_eq_append] at fresh
  rwa [places, List.map_append]

/-- All turns are taken exactly if at each of them a place of the walk is free. -/
theorem exists_run_iff : (∃ last, Run (Takes walk) taken order last) ↔
    ∀ done member rest, order = done ++ member :: rest → ∀ before,
      Run (Takes walk) taken done before → HasFree walk before member := by
  constructor
  · rintro ⟨last, run⟩ done member rest rfl before reached
    induction reached with
    | nil =>
        cases run with
        | cons turn _ =>
            obtain ⟨step, first, _⟩ := turn
            exact ⟨step, first.free⟩
    | cons turn _ ih =>
        cases run with
        | cons turnAgain later =>
            obtain ⟨step, first, rfl⟩ := turn
            obtain ⟨_, firstAgain, rfl⟩ := turnAgain
            rw [firstAgain.unique first] at later
            exact ih later
  · intro free
    induction order generalizing taken with
    | nil => exact ⟨taken, .nil taken⟩
    | cons member order ih =>
        obtain ⟨step, first⟩ := (free [] member order rfl taken (.nil taken)).first
        have turn : Takes walk taken member (taken ++ [(member, step)]) := ⟨step, first, rfl⟩
        obtain ⟨last, run⟩ : ∃ last, Run (Takes walk) (taken ++ [(member, step)]) order last := by
          apply ih
          intro done next rest same before reached
          exact free (member :: done) next rest (congrArg (member :: ·) same) before
            (.cons turn reached)
        exact ⟨last, .cons turn run⟩

/-- Walks that agree on all that is walked lead to the same places. -/
theorem run_congr (run : Run (Takes walk) taken order last)
    (agree : ∀ turn ∈ last, ∀ earlier ≤ turn.2, walk turn.1 earlier = other turn.1 earlier) :
    Run (Takes other) taken order last := by
  induction run with
  | nil => exact .nil _
  | cons turn rest ih =>
      obtain ⟨step, first, rfl⟩ := turn
      have kept := subset_of_run rest
      have before := List.Subset.trans (List.subset_append_left _ _) kept
      have here := kept (List.mem_append_right _ (List.mem_singleton_self _))
      refine .cons ⟨step, first.congr ?_ (agree _ here), rfl⟩ (ih agree)
      exact fun turn member => agree turn (before member) turn.2 (Nat.le_refl _)

/-- Either all turns are good, or there is a first one that is not. -/
theorem good_or_first (Good : Member × Nat → Prop) (run : Run (Takes walk) taken order last)
    (start : ∀ turn ∈ taken, Good turn) :
    (∀ turn ∈ last, Good turn) ∨
      ∃ done member rest before step, order = done ++ member :: rest ∧
        Run (Takes walk) taken done before ∧ (∀ turn ∈ before, Good turn) ∧
        FirstFree walk before member step ∧ ¬ Good (member, step) := by
  induction run with
  | nil => exact .inl start
  | @cons taken _ _ member order turn rest ih =>
      obtain ⟨step, first, rfl⟩ := turn
      by_cases good : Good (member, step)
      · have extended : ∀ turn ∈ taken ++ [(member, step)], Good turn := by
          intro turn listed
          rcases List.mem_append.mp listed with earlier | new
          · exact start turn earlier
          · rw [List.mem_singleton.mp new]
            exact good
        rcases ih extended with all | ⟨done, next, left, before, late, rfl, reached, fine, found⟩
        · exact .inl all
        · exact .inr ⟨member :: done, next, left, before, late, rfl,
            .cons ⟨step, first, rfl⟩ reached, fine, found⟩
      · exact .inr ⟨[], member, order, taken, step, rfl, .nil taken, start, first, good⟩

/-- A member does not get more turns than its walk has places. -/
theorem count_le_card [DecidableEq Member] [DecidableEq Place]
    (run : Run (Takes walk) [] order last) {reach : Finset Place}
    (within : ∀ step, walk member step ∈ reach) : order.count member ≤ reach.card := by
  have own : ((last.filter fun turn => turn.1 = member).map
      fun turn => walk turn.1 turn.2).Nodup :=
    (nodup_places_of_run run List.nodup_nil).sublist (List.filter_sublist.map _)
  have counted : order.count member = (last.filter fun turn => turn.1 = member).length := by
    have members := members_of_run run
    rw [List.map_nil, List.nil_append] at members
    rw [← members, List.count, List.countP_map, List.countP_eq_length_filter]
    congr 2
  rw [counted, ← List.length_map fun turn : Member × Nat => walk turn.1 turn.2,
    ← List.toFinset_card_of_nodup own]
  apply Finset.card_le_card
  intro place listed
  obtain ⟨turn, member, rfl⟩ := List.mem_map.mp (List.mem_toFinset.mp listed)
  obtain ⟨_, same⟩ := List.mem_filter.mp member
  rw [of_decide_eq_true same]
  exact within turn.2

end Runs

end Katran.Foundation
