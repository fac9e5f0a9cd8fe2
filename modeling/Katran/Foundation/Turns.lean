import Mathlib.Algebra.GroupWithZero.Nat
import Mathlib.Data.List.GetD
import Mathlib.Data.List.Nodup

/-! # Handing out units in weighted turns

Members take turns. In the first pass each takes as many units as its weight says, in every
later pass one, and it ends in the middle of a pass when the units are used up. Who takes
which unit is a list (`schedule`, followed by repetitions of the members), and a member's
share is its number of occurrences in as much of the list as there are units
(`count_take_turns`). The first pass may use the units up before the last members have their
turn, so shares are fair only if there are enough units (`fairShares_iff`).
-/

namespace Katran.Foundation

variable {α : Type}

/-- The first pass: every member as often as its weight says. -/
def schedule (weighted : List (α × Nat)) : List α :=
  weighted.flatMap fun entry => List.replicate entry.2 entry.1

/-- What a member gets of some units: of the first pass as much as those before it leave, and
of the passes after it one unit each. -/
def share (units : Nat) (weights : List Nat) (index : Nat) : Nat :=
  if units ≤ weights.sum then min (weights.getD index 0) (units - (weights.take index).sum)
  else weights.getD index 0 + (units - weights.sum) / weights.length +
    if index < (units - weights.sum) % weights.length then 1 else 0

/-- A schedule has as many turns as the weights together. -/
theorem length_schedule (weighted : List (α × Nat)) :
    (schedule weighted).length = (weighted.map Prod.snd).sum := by
  unfold schedule
  rw [List.length_flatMap]
  congr 1
  exact List.map_congr_left fun _ _ => List.length_replicate

/-- The first member has its turns first. -/
theorem schedule_cons (entry : α × Nat) (weighted : List (α × Nat)) :
    schedule (entry :: weighted) = List.replicate entry.2 entry.1 ++ schedule weighted :=
  List.flatMap_cons

/-- A schedule of renamed members. -/
theorem map_schedule {β : Type} (rename : α → β) (weighted : List (α × Nat)) :
    (schedule weighted).map rename =
      schedule (weighted.map fun entry => (rename entry.1, entry.2)) := by
  induction weighted with
  | nil => rfl
  | cons entry weighted ih =>
      rw [schedule_cons, List.map_append, List.map_replicate, ih, List.map_cons, schedule_cons]

/-- Only members have turns. -/
theorem mem_of_mem_schedule {weighted : List (α × Nat)} {member : α}
    (listed : member ∈ schedule weighted) : member ∈ weighted.map Prod.fst := by
  obtain ⟨entry, inside, repeated⟩ := List.mem_flatMap.mp listed
  rw [List.eq_of_mem_replicate repeated]
  exact List.mem_map_of_mem inside

/-- What a member and those before it take is part of the whole. -/
theorem sum_take_add_le (weights : List Nat) (index : Nat) :
    (weights.take index).sum + weights.getD index 0 ≤ weights.sum := by
  induction weights generalizing index with
  | nil =>
      rw [List.take_nil, List.sum_nil, List.getD_nil]
      exact Nat.le_refl 0
  | cons weight weights ih =>
      cases index with
      | zero =>
          rw [List.take_zero, List.sum_nil, List.getD_cons_zero, List.sum_cons]
          omega
      | succ index =>
          rw [List.take_succ_cons, List.sum_cons, List.getD_cons_succ, List.sum_cons]
          have rest := ih index
          omega

/-- If the units are what the first pass hands out, every member gets its weight. -/
theorem share_of_sum_eq {units : Nat} {weights : List Nat} (exact : weights.sum = units)
    (index : Nat) : share units weights index = weights.getD index 0 := by
  have part := sum_take_add_le weights index
  rw [share, if_pos (Nat.le_of_eq exact.symm)]
  omega

/-- Every member gets something, and at most one unit more than one of no less weight. -/
structure FairShares (units : Nat) (weights : List Nat) : Prop where
  served : ∀ index < weights.length, 0 < share units weights index
  ordered : ∀ light < weights.length, ∀ heavy < weights.length,
    weights.getD light 0 ≤ weights.getD heavy 0 →
      share units weights light ≤ share units weights heavy + 1

/-- The units are enough for the first pass, or only the last member's turn is cut short and
leaves it about as much as the lighter members have. -/
def Suffices (units : Nat) (weights : List Nat) : Prop :=
  weights.sum ≤ units ∨ (weights.dropLast.sum < units ∧
    ∀ weight ∈ weights.dropLast, weight ≤ weights.getLastD 0 →
      weight ≤ units - weights.dropLast.sum + 1)

instance (units : Nat) (weights : List Nat) : Decidable (Suffices units weights) :=
  inferInstanceAs (Decidable (_ ∨ _))

/-- If the first pass ends, the shares differ from the weights by the number of further
passes and at most one unit. -/
theorem share_of_sum_le {units : Nat} {weights : List Nat} (enough : weights.sum ≤ units) :
    ∃ passes, ∀ index, weights.getD index 0 + passes ≤ share units weights index ∧
      share units weights index ≤ weights.getD index 0 + passes + 1 := by
  by_cases exact : weights.sum = units
  · refine ⟨0, fun index => ?_⟩
    rw [share_of_sum_eq exact]
    omega
  · refine ⟨(units - weights.sum) / weights.length, fun index => ?_⟩
    rw [share, if_neg (by omega)]
    split <;> omega

section Cut

variable {units last : Nat} {front : List Nat}

/-- If only the last turn is cut short, the others get their weights. -/
theorem share_front (cut : units < (front ++ [last]).sum) (reached : front.sum ≤ units)
    {index : Nat} (inside : index < front.length) :
    share units (front ++ [last]) index = front.getD index 0 := by
  have part := sum_take_add_le front index
  rw [share, if_pos (Nat.le_of_lt cut), List.take_append_of_le_length (Nat.le_of_lt inside),
    List.getD_append _ _ _ _ inside]
  omega

/-- The share of the last member, if the schedule is cut. -/
theorem share_last (cut : units < (front ++ [last]).sum) :
    share units (front ++ [last]) front.length = units - front.sum := by
  rw [share, if_pos (Nat.le_of_lt cut), List.take_left,
    List.getD_append_right _ _ _ _ (Nat.le_refl _), Nat.sub_self, List.getD_cons_zero]
  rw [List.sum_append, List.sum_singleton] at cut
  omega

/-- If the schedule is cut, the shares are fair if the last member has a turn, and no member with
at most its weight has two turns more. -/
theorem fairShares_iff_of_cut (positive : ∀ weight ∈ front, 0 < weight)
    (cut : units < (front ++ [last]).sum) :
    FairShares units (front ++ [last]) ↔ front.sum < units ∧
      ∀ weight ∈ front, weight ≤ last → weight ≤ units - front.sum + 1 := by
  have length : (front ++ [last]).length = front.length + 1 := List.length_append
  have weightOf (index : Nat) (inside : index < front.length) :
      (front ++ [last]).getD index 0 = front.getD index 0 := List.getD_append _ _ _ _ inside
  have lastWeight : (front ++ [last]).getD front.length 0 = last := by
    rw [List.getD_append_right _ _ _ _ (Nat.le_refl _), Nat.sub_self, List.getD_cons_zero]
  constructor
  · intro fair
    have reached : front.sum < units := by
      have some := fair.served front.length (by omega)
      rw [share_last cut] at some
      omega
    refine ⟨reached, ?_⟩
    intro weight member light
    obtain ⟨index, inside, rfl⟩ := List.getElem_of_mem member
    rw [← List.getD_eq_getElem _ 0 inside] at light ⊢
    have bound := fair.ordered index (by omega) front.length (by omega)
      (by rwa [lastWeight, weightOf index inside])
    rwa [share_front cut (Nat.le_of_lt reached) inside, share_last cut] at bound
  · rintro ⟨reached, close⟩
    have shareOf (index : Nat) (inside : index < front.length) :
        share units (front ++ [last]) index = front.getD index 0 :=
      share_front cut (Nat.le_of_lt reached) inside
    have memberOf (index : Nat) (inside : index < front.length) : front.getD index 0 ∈ front := by
      rw [List.getD_eq_getElem _ 0 inside]
      exact List.getElem_mem inside
    have lastShare := share_last cut
    rw [List.sum_append, List.sum_singleton] at cut
    refine ⟨?_, ?_⟩
    · intro index inside
      by_cases early : index < front.length
      · rw [shareOf index early]
        exact positive _ (memberOf index early)
      · obtain rfl : index = front.length := by omega
        omega
    · intro light lightInside heavy heavyInside lighter
      by_cases first : light < front.length
      · rw [shareOf light first]
        rw [weightOf light first] at lighter
        by_cases second : heavy < front.length
        · rw [shareOf heavy second]
          rw [weightOf heavy second] at lighter
          omega
        · obtain rfl : heavy = front.length := by omega
          rw [lastWeight] at lighter
          rw [lastShare]
          exact close _ (memberOf light first) lighter
      · obtain rfl : light = front.length := by omega
        rw [lastShare]
        rw [lastWeight] at lighter
        by_cases second : heavy < front.length
        · rw [shareOf heavy second]
          rw [weightOf heavy second] at lighter
          omega
        · obtain rfl : heavy = front.length := by omega
          omega

end Cut

/-- **When the shares are fair.** -/
theorem fairShares_iff {units : Nat} {weights : List Nat}
    (positive : ∀ weight ∈ weights, 0 < weight) :
    FairShares units weights ↔ Suffices units weights := by
  by_cases enough : weights.sum ≤ units
  · refine iff_of_true ?_ (.inl enough)
    obtain ⟨passes, bounds⟩ := share_of_sum_le enough
    refine ⟨?_, ?_⟩
    · intro index inside
      have weight := positive _ (List.getElem_mem inside)
      rw [← List.getD_eq_getElem _ 0 inside] at weight
      have bound := bounds index
      omega
    · intro light _ heavy _ lighter
      have lightBound := bounds light
      have heavyBound := bounds heavy
      omega
  · rcases List.eq_nil_or_concat weights with rfl | ⟨front, last, rfl⟩
    · exact (enough (Nat.zero_le _)).elim
    · rw [List.concat_eq_append] at enough positive ⊢
      rw [fairShares_iff_of_cut
        (fun weight member => positive weight (List.mem_append_left _ member))
        (Nat.lt_of_not_le enough), Suffices, List.dropLast_concat, List.getLastD_concat]
      exact (or_iff_right enough).symm

/-- How many passes there are behind the units does not matter. -/
theorem take_passes_eq {first members : List α} {units passes others : Nat}
    (enough : units ≤ (first ++ (List.replicate passes members).flatten).length)
    (alsoEnough : units ≤ (first ++ (List.replicate others members).flatten).length) :
    (first ++ (List.replicate passes members).flatten).take units =
      (first ++ (List.replicate others members).flatten).take units := by
  wlog fewer : passes ≤ others generalizing passes others
  · exact (this alsoEnough enough (Nat.le_of_not_le fewer)).symm
  obtain ⟨more, rfl⟩ := Nat.exists_eq_add_of_le fewer
  rw [List.replicate_add, List.flatten_append, ← List.append_assoc,
    List.take_append_of_le_length enough]

variable [DecidableEq α]

/-- How often a member has its turn before the schedule is cut. -/
theorem count_take_schedule {weighted : List (α × Nat)}
    (distinct : (weighted.map Prod.fst).Nodup) {index : Nat} (inside : index < weighted.length)
    (units : Nat) :
    ((schedule weighted).take units).count weighted[index].1 =
      min weighted[index].2 (units - ((weighted.map Prod.snd).take index).sum) := by
  induction weighted generalizing index units with
  | nil => cases inside
  | cons entry weighted ih =>
      obtain ⟨new, distinct⟩ := List.nodup_cons.mp distinct
      rw [schedule_cons, List.take_append, List.length_replicate, List.take_replicate,
        List.count_append]
      cases index with
      | zero =>
          have absent : entry.1 ∉ (schedule weighted).take (units - entry.2) := by
            intro listed
            exact new (mem_of_mem_schedule (List.mem_of_mem_take listed))
          simp only [List.getElem_cons_zero, List.take_zero, List.sum_nil, Nat.sub_zero,
            List.count_replicate_self, List.count_eq_zero_of_not_mem absent, Nat.add_zero]
          exact Nat.min_comm _ _
      | succ index =>
          have short : index < weighted.length := Nat.lt_of_succ_lt_succ inside
          have different : weighted[index].1 ≠ entry.1 := by
            intro same
            exact new (same ▸ List.mem_map_of_mem (List.getElem_mem short))
          have later := ih distinct short (units - entry.2)
          simp only [List.getElem_cons_succ, List.map_cons, List.take_succ_cons, List.sum_cons,
            List.count_replicate, beq_iff_eq, different.symm, ↓reduceIte, Nat.zero_add, later,
            Nat.sub_add_eq]

/-- How often a member of a list without repetitions is in its start. -/
theorem count_take_of_nodup {members : List α} (distinct : members.Nodup) {index : Nat}
    (inside : index < members.length) (units : Nat) :
    (members.take units).count members[index] = if index < units then 1 else 0 := by
  split
  next early =>
    refine List.count_eq_one_of_mem (distinct.sublist (List.take_sublist _ _)) ?_
    exact List.mem_take_iff_getElem.mpr ⟨index, by omega, rfl⟩
  next late =>
    refine List.count_eq_zero_of_not_mem fun listed => late ?_
    obtain ⟨other, bound, same⟩ := List.mem_take_iff_getElem.mp listed
    have equal := (distinct.getElem_inj_iff).mp same
    omega

/-- Passes in which every member takes one unit. -/
theorem count_take_cycle {members : List α} (distinct : members.Nodup) {index : Nat}
    (inside : index < members.length) {passes units : Nat}
    (enough : units ≤ passes * members.length) :
    ((List.replicate passes members).flatten.take units).count members[index] =
      units / members.length + if index < units % members.length then 1 else 0 := by
  induction passes generalizing units with
  | zero =>
      obtain rfl : units = 0 := by omega
      simp only [List.take_zero, List.count_nil, Nat.zero_div, Nat.zero_mod, Nat.not_lt_zero,
        ↓reduceIte, Nat.add_zero]
  | succ passes ih =>
      rw [List.replicate_succ, List.flatten_cons, List.take_append, List.count_append,
        count_take_of_nodup distinct inside]
      rw [Nat.succ_mul] at enough
      by_cases last : units < members.length
      · have nothing : units - members.length = 0 := by omega
        rw [nothing, List.take_zero, List.count_nil, Nat.div_eq_of_lt last, Nat.mod_eq_of_lt last,
          Nat.add_zero, Nat.zero_add]
      · have more : members.length ≤ units := Nat.le_of_not_lt last
        rw [ih (by omega), if_pos (by omega), Nat.div_eq_sub_div (by omega) more,
          Nat.mod_eq_sub_mod more]
        omega

/-- **Shares.** How often a member occurs in the units that are handed out. -/
theorem count_take_turns {weighted : List (α × Nat)} (distinct : (weighted.map Prod.fst).Nodup)
    {index : Nat} (inside : index < weighted.length) {passes units : Nat}
    (enough : units ≤ (schedule weighted).length + passes * weighted.length) :
    ((schedule weighted ++ (List.replicate passes (weighted.map Prod.fst)).flatten).take
      units).count
        weighted[index].1 = share units (weighted.map Prod.snd) index := by
  have weight : (weighted.map Prod.snd).getD index 0 = weighted[index].2 := by
    rw [List.getD_eq_getElem _ _ (by rwa [List.length_map]), List.getElem_map]
  have first := count_take_schedule distinct inside
  rw [List.take_append, List.count_append, first, share, weight, ← length_schedule]
  split
  next few =>
    rw [Nat.sub_eq_zero_of_le few, List.take_zero, List.count_nil, Nat.add_zero]
  next many =>
    have cycled := count_take_cycle distinct (by rwa [List.length_map] : index < _)
      (by rw [List.length_map]; omega : units - (schedule weighted).length ≤ passes * _)
    simp only [List.getElem_map, List.length_map] at cycled
    have part := sum_take_add_le (weighted.map Prod.snd) index
    rw [weight, ← length_schedule] at part
    rw [cycled, List.length_map]
    omega

end Katran.Foundation
