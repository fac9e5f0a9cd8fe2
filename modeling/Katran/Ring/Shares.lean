import Katran.Ring.Placings

/-! # How many slots an endpoint gets

Which slots an endpoint gets depends on the hashes, but how many does not. The fill takes one
slot after the other in the order of the turns (`turnOrder`): in the first round an endpoint
has as many turns as the weight says, then one in every round, until all are taken. So a
returned ring holds an endpoint's number as often as the number occurs in that order
(`Booked`), which is its `share`.
-/

namespace Katran

open Foundation

namespace Maglev

variable {ringSize fuel : Nat} {turn : Turn} {taken : List Nat}

/-- The numbers for which slots have been taken so far, in order. -/
structure Booked (ringSize : Nat) (taken : List Nat) (fill : Fill) : Prop where
  length : fill.result.length = ringSize
  counted : ∀ num : Nat, fill.result.count (num : Int) = taken.count num
  runs : fill.runs = taken.length

/-- Nothing is booked before the first placing. -/
theorem Booked.start (endpoints : List Endpoint) :
    Booked ringSize [] (start endpoints ringSize) where
  length := List.length_replicate
  counted := by
    intro num
    have empty : ¬ ((-1 : Int) == (num : Int)) = true := by
      rw [beq_iff_eq]
      omega
    simp only [Maglev.start, List.count_replicate, empty, Bool.false_eq_true, ↓reduceIte,
      List.count_nil]
  runs := rfl

/-- Taking one more slot. -/
theorem Booked.place {fill placed : Fill} (wide : 0 < ringSize)
    (booked : Booked ringSize taken fill) (small : turn.num < 2 ^ 31)
    (returned : place fuel ringSize turn fill = some placed) :
    Booked ringSize (taken ++ [turn.num]) placed := by
  unfold Maglev.place at returned
  obtain ⟨found, probed, rfl⟩ := Option.map_eq_some_iff.mp returned
  obtain ⟨inside, free⟩ := probe_free wide probed
  rw [← booked.length] at inside
  rw [List.getD_eq_getElem _ _ inside] at free
  refine ⟨?_, ?_, ?_⟩
  · rw [List.length_set, booked.length]
  · intro num
    have empty : ¬ (fill.result[found.1] == (num : Int)) = true := by
      rw [beq_iff_eq]
      omega
    have same : (toInt32 turn.num == (num : Int)) = (turn.num == num) := by
      rw [toInt32_of_lt small, Bool.eq_iff_iff, beq_iff_eq, beq_iff_eq, Int.natCast_inj]
    simp only [List.count_set inside, empty, same, Bool.false_eq_true, ↓reduceIte, Nat.sub_zero,
      booked.counted, List.count_append, List.count_singleton]
  · rw [List.length_append, List.length_singleton, booked.runs]

/-- Taking slots in some turns. -/
theorem Booked.placings {list : List Turn} {fill last : Fill} (wide : 0 < ringSize)
    (booked : Booked ringSize taken fill) (small : ∀ turn ∈ list, turn.num < 2 ^ 31)
    (returned : placings fuel ringSize list fill = some last) :
    Booked ringSize (taken ++ list.map Turn.num) last := by
  induction list generalizing taken fill with
  | nil =>
      obtain rfl := Option.some.inj returned
      rwa [List.map_nil, List.append_nil]
  | cons turn list ih =>
      rw [placings_cons] at returned
      obtain ⟨placed, first, rest⟩ := Option.bind_eq_some_iff.mp returned
      have here := booked.place wide (small turn List.mem_cons_self) first
      rw [List.map_cons, ← List.singleton_append, ← List.append_assoc]
      exact ih here (fun turn member => small turn (List.mem_cons_of_mem _ member)) rest

end Maglev

open Maglev

variable {endpoints : List Endpoint} {ringSize : Nat} {ring : List Int}

/-- The numbers of the turns in their order. -/
theorem map_num_turnOrder (endpoints : List Endpoint) (ringSize : Nat) :
    (turnOrder endpoints ringSize).map Turn.num =
      (schedule (endpoints.map fun endpoint => (endpoint.num, endpoint.weight)) ++
        (List.replicate ringSize (endpoints.map Endpoint.num)).flatten).take ringSize := by
  have weights : (turns endpoints ringSize).map (fun turn => (turn.num, turn.weight)) =
      endpoints.map fun endpoint => (endpoint.num, endpoint.weight) := by
    apply List.ext_getElem
    · simp only [turns, List.length_map, List.length_mapIdx]
    · intro index left right
      simp only [turns, List.getElem_map, List.getElem_mapIdx]
  have nums : (turns endpoints ringSize).map Turn.num = endpoints.map Endpoint.num := by
    apply List.ext_getElem
    · simp only [turns, List.length_map, List.length_mapIdx]
    · intro index left right
      simp only [turns, List.getElem_map, List.getElem_mapIdx]
  rw [turnOrder, List.map_take, List.map_append, List.map_flatten, List.map_replicate, nums,
    roundOrder, map_schedule, List.map_map, ← weights]
  rfl

/-- A single member gets everything. -/
theorem share_singleton (units weight : Nat) : share units [weight] 0 = units := by
  simp only [share, List.sum_singleton, List.getD_cons_zero, List.take_zero, List.sum_nil,
    Nat.sub_zero, List.length_singleton, Nat.div_one, Nat.mod_one, Nat.lt_irrefl, ↓reduceIte,
    Nat.add_zero]
  split <;> omega

/-- How many slots of a returned ring an endpoint has. -/
theorem MaglevReturns.count_eq_share (distinct : (endpoints.map Endpoint.num).Nodup)
    (small : ∀ endpoint ∈ endpoints, endpoint.num < 2 ^ 31)
    (returned : MaglevReturns endpoints ringSize ring) {index : Nat}
    (inside : index < endpoints.length) :
    ring.count (endpoints[index].num : Int) =
      share ringSize (endpoints.map Endpoint.weight) index := by
  obtain ⟨fuel, returned⟩ := returned
  rcases Nat.lt_or_ge endpoints.length 2 with few | several
  · obtain ⟨endpoint, rfl⟩ := List.length_eq_one_iff.mp (show endpoints.length = 1 by omega)
    obtain rfl := Option.some.inj returned
    obtain rfl : index = 0 := Nat.lt_one_iff.mp inside
    rw [List.map_singleton, share_singleton, List.getElem_singleton,
      toInt32_of_lt (small endpoint List.mem_cons_self), List.count_replicate_self]
  · have wide := wide_of_generateMaglevHash several returned
    obtain ⟨fill, filled, rfl⟩ := placings_of_generateMaglevHash wide several returned
    have fits : ∀ turn ∈ turnOrder endpoints ringSize, turn.num < 2 ^ 31 := by
      intro turn member
      obtain ⟨position, bound, rfl⟩ := List.mem_mapIdx.mp (mem_of_mem_turnOrder member)
      exact small _ (List.getElem_mem bound)
    have booked := (Booked.start endpoints).placings (by omega) fits filled
    rw [List.nil_append, map_num_turnOrder] at booked
    have nums : (endpoints.map fun endpoint => (endpoint.num, endpoint.weight)).map Prod.fst =
        endpoints.map Endpoint.num := List.map_map
    have weights : (endpoints.map fun endpoint => (endpoint.num, endpoint.weight)).map Prod.snd =
        endpoints.map Endpoint.weight := List.map_map
    have length :
        index < (endpoints.map fun endpoint => (endpoint.num, endpoint.weight)).length := by
      rwa [List.length_map]
    have enough : ringSize ≤
        (schedule (endpoints.map fun endpoint => (endpoint.num, endpoint.weight))).length +
          ringSize * (endpoints.map fun endpoint => (endpoint.num, endpoint.weight)).length := by
      have all : ringSize ≤ ringSize * endpoints.length :=
        Nat.le_mul_of_pos_right ringSize (by omega)
      rw [List.length_map]
      omega
    rw [← nums] at distinct booked
    rw [booked.counted, ← weights, ← count_take_turns distinct length enough, List.getElem_map]

/-- **Exact slot counts.** Whatever the hashes are, a returned ring gives every endpoint its
share of the slots, leaves no slot empty, and gives every endpoint its weight if the weights
add up to the ring size. -/
theorem maglev_slot_counts (nonempty : endpoints ≠ [])
    (distinct : (endpoints.map Endpoint.num).Nodup)
    (small : ∀ endpoint ∈ endpoints, endpoint.num < 2 ^ 31)
    (returned : MaglevReturns endpoints ringSize ring) :
    (∀ index (inside : index < endpoints.length), ring.count (endpoints[index].num : Int) =
      share ringSize (endpoints.map Endpoint.weight) index) ∧
    (∀ slot ∈ ring, slot ≠ -1) ∧
    ((endpoints.map Endpoint.weight).sum = ringSize →
      ∀ endpoint ∈ endpoints, ring.count (endpoint.num : Int) = endpoint.weight) := by
  refine ⟨fun index inside => returned.count_eq_share distinct small inside, ?_, ?_⟩
  · intro slot member
    obtain ⟨endpoint, _, rfl⟩ := (returned.slot_owned nonempty small).2 slot member
    omega
  · intro exact endpoint member
    obtain ⟨index, inside, rfl⟩ := List.getElem_of_mem member
    rw [returned.count_eq_share distinct small inside, share_of_sum_eq exact,
      List.getD_eq_getElem _ _ (by rwa [List.length_map]), List.getElem_map]

/-- Weights two and one on a ring of seven slots. -/
theorem maglev_slot_counts_seven :
    ∃ ring, MaglevReturns [⟨7, 2, 11⟩, ⟨8, 1, 13⟩] 7 ring ∧ ring.count 7 = 4 ∧ ring.count 8 = 3 ∧
      ∀ slot ∈ ring, slot ≠ -1 := by
  have returns : (generateMaglevHash 20 [⟨7, 2, 11⟩, ⟨8, 1, 13⟩] 7).isSome = true := by
    decide +kernel
  obtain ⟨ring, generated⟩ := Option.isSome_iff_exists.mp returns
  have returned : MaglevReturns [⟨7, 2, 11⟩, ⟨8, 1, 13⟩] 7 ring := ⟨20, generated⟩
  obtain ⟨counts, taken, _⟩ := maglev_slot_counts (by decide) (by decide) (by decide) returned
  exact ⟨ring, returned, counts 0 (by decide), counts 1 (by decide), taken⟩

end Katran
