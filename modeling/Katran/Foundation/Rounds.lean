import Mathlib.Data.Int.CardIntervalMod

/-! # Going round

Turns are given to the members of a list in their order, again and again. Only the turn within
a round decides who gets it (`Cyclic`), so after any number of turns all members that got one got
equally many, up to one.
-/

namespace Katran.Foundation

variable {Member : Type}

/-- A choice repeats after a period, and within a period nobody is chosen twice. -/
structure Cyclic (pick : Nat → Option Member) (period : Nat) : Prop where
  idle : period = 0 → ∀ turn, pick turn = none
  repeats : ∀ turn, pick (turn % period) = pick turn
  once : ∀ first < period, ∀ second < period, ∀ member, pick first = some member →
    pick second = some member → first = second

namespace Cyclic

variable {pick : Nat → Option Member} {period turns : Nat}

/-- If anyone is picked, the period is positive. -/
theorem positive (cyclic : Cyclic pick period) {turn : Nat} {member : Member}
    (picked : pick turn = some member) : 0 < period := by
  apply Nat.pos_of_ne_zero
  intro zero
  rw [cyclic.idle zero] at picked
  cases picked

/-- A member is picked at the turns of its place in the period. -/
theorem pick_eq_iff (cyclic : Cyclic pick period) {turn other : Nat} {member : Member}
    (picked : pick turn = some member) :
    pick other = some member ↔ other % period = turn % period := by
  have positive := cyclic.positive picked
  rw [← cyclic.repeats other]
  rw [← cyclic.repeats turn] at picked
  constructor
  · intro again
    exact cyclic.once _ (Nat.mod_lt _ positive) _ (Nat.mod_lt _ positive) member again picked
  · intro same
    rw [same]
    exact picked

/-- The turns of a member. -/
theorem count_picked [DecidableEq Member] (cyclic : Cyclic pick period) {turn : Nat}
    {member : Member} (picked : pick turn = some member) (turns : Nat) :
    Nat.count (fun other => pick other = some member) turns =
      turns / period + if turn % period < turns % period then 1 else 0 := by
  have positive := cyclic.positive picked
  rw [← Nat.count_modEq_card turns positive turn, Nat.count_eq_card_filter_range,
    Nat.count_eq_card_filter_range]
  congr 1
  apply Finset.filter_congr
  intro other _
  exact cyclic.pick_eq_iff picked

/-- As many members get turns as there are turns in a round. -/
theorem length_picked (cyclic : Cyclic pick period) {members : List Member}
    (distinct : members.Nodup) (all : ∀ turn < turns, ∃ member, pick turn = some member)
    (mem_iff : ∀ member, member ∈ members ↔ ∃ turn < turns, pick turn = some member) :
    members.length = min turns period := by
  have within : ∀ turn < turns, turn % period < min turns period := by
    intro turn inside
    obtain ⟨member, picked⟩ := all turn inside
    have positive := cyclic.positive picked
    exact Nat.lt_min.mpr ⟨Nat.lt_of_le_of_lt (Nat.mod_le _ _) inside, Nat.mod_lt _ positive⟩
  have apart : ((List.range (min turns period)).map pick).Nodup := by
    refine List.Nodup.map_on ?_ List.nodup_range
    intro first firstInside second secondInside same
    rw [List.mem_range, Nat.lt_min] at firstInside secondInside
    obtain ⟨member, picked⟩ := all first firstInside.1
    exact cyclic.once first firstInside.2 second secondInside.2 member picked (same ▸ picked)
  have perm : (members.map some).Perm ((List.range (min turns period)).map pick) := by
    refine (List.perm_ext_iff_of_nodup (distinct.map (Option.some_injective _)) apart).mpr ?_
    intro choice
    rw [List.mem_map, List.mem_map]
    constructor
    · rintro ⟨member, listed, rfl⟩
      obtain ⟨turn, inside, picked⟩ := (mem_iff member).mp listed
      exact ⟨turn % period, List.mem_range.mpr (within turn inside),
        (cyclic.repeats turn).trans picked⟩
    · rintro ⟨turn, inside, rfl⟩
      have early := (Nat.lt_min.mp (List.mem_range.mp inside)).1
      obtain ⟨member, picked⟩ := all turn early
      exact ⟨member, (mem_iff member).mpr ⟨turn, early, picked⟩, picked.symm⟩
  simpa only [List.length_map, List.length_range] using perm.length_eq

end Cyclic

/-- Counting the entries of a list by their positions. -/
theorem countP_eq_count {entries : List Member} {chosen : Member → Bool} {position : Nat → Prop}
    [DecidablePred position]
    (same : ∀ i entry, entries[i]? = some entry → (chosen entry = true ↔ position i)) :
    entries.countP chosen = Nat.count position entries.length := by
  induction entries using List.reverseRecOn with
  | nil => rfl
  | append_singleton entries entry ih =>
      have earlier := ih fun i other found => same i other (by
        rw [List.getElem?_append_left (List.getElem?_eq_some_iff.mp found).1]
        exact found)
      have last := same entries.length entry (by
        rw [List.getElem?_append_right (Nat.le_refl _), Nat.sub_self]
        rfl)
      rw [List.countP_append, earlier, List.length_append, List.length_singleton, Nat.count_succ,
        List.countP_singleton]
      simp only [last]

end Katran.Foundation
