import Katran.Foundation.Turns
import Katran.Ring.CHHelpers

/-! # The fill as one loop

The three loops of the fill over rounds, endpoints and weights take one slot after the other
until all are taken, and who takes a slot does not depend on which slots there are. So they are
one loop (`placings`) over the turns in their order (`turnOrder`): in the first round an
endpoint has as many turns as its weight says, in every later round one
(`generateMaglevHash_eq`). What is proved about rings is proved about that loop: a returned ring
has every slot taken by one of the endpoints (`MaglevReturns.slot_owned`).
-/

namespace Katran

open Foundation

namespace Maglev

variable {fuel ringSize : Nat} {turn : Turn} {fill : Fill}

/-- Slots are taken in some turns, one after the other. -/
def placings (fuel ringSize : Nat) (list : List Turn) (fill : Fill) : Option Fill :=
  list.foldlM (fun fill turn => place fuel ringSize turn fill) fill

/-- The turns of a round. -/
def roundOrder (turns : List Turn) : List Turn :=
  schedule (turns.map fun turn => (turn, turn.weight))

/-- The turns of the rounds, all weights being one from the second round on. -/
def roundsOrder : (budget : Nat) → List Turn → List Turn
  | 0, _ => []
  | budget + 1, turns =>
      roundOrder turns ++ roundsOrder budget (turns.map fun turn => { turn with weight := 1 })

/-- What has become of a round. -/
def Progress.ofFill (ringSize : Nat) (fill : Fill) : Progress :=
  if fill.runs = ringSize then .full fill.result else .more fill

private theorem place_runs {placed : Fill}
    (returned : place fuel ringSize turn fill = some placed) :
    placed.runs = fill.runs + 1 := by
  obtain ⟨found, _, rfl⟩ := Option.map_eq_some_iff.mp returned
  rfl

private theorem placings_nil (fuel ringSize : Nat) (fill : Fill) :
    placings fuel ringSize [] fill = some fill := rfl

/-- One placing after the other. -/
theorem placings_cons (turn : Turn) (list : List Turn) (fill : Fill) :
    placings fuel ringSize (turn :: list) fill =
      (place fuel ringSize turn fill).bind (placings fuel ringSize list) := List.foldlM_cons

private theorem placings_append (first second : List Turn) (fill : Fill) :
    placings fuel ringSize (first ++ second) fill =
      (placings fuel ringSize first fill).bind (placings fuel ringSize second) :=
  List.foldlM_append

private theorem placings_runs {list : List Turn} {last : Fill}
    (returned : placings fuel ringSize list fill = some last) :
    last.runs = fill.runs + list.length := by
  induction list generalizing fill with
  | nil =>
      obtain rfl := Option.some.inj returned
      rfl
  | cons turn list ih =>
      rw [placings_cons] at returned
      obtain ⟨placed, first, rest⟩ := Option.bind_eq_some_iff.mp returned
      rw [ih rest, place_runs first, List.length_cons]
      omega

/-- Nobody looks at a weight while taking a slot. -/
theorem place_once (turn : Turn) (fill : Fill) :
    place fuel ringSize { turn with weight := 1 } fill = place fuel ringSize turn fill := by
  have same (result : List Int) (steps next : Nat) :
      probe ringSize { turn with weight := 1 } result steps next =
        probe ringSize turn result steps next := by
    induction steps generalizing next with
    | zero => rfl
    | succ steps ih =>
        unfold probe
        rw [ih]
        rfl
  unfold place
  rw [same]

private theorem placings_once (list : List Turn) (fill : Fill) :
    placings fuel ringSize (list.map fun turn => { turn with weight := 1 }) fill =
      placings fuel ringSize list fill := by
  unfold placings
  rw [List.foldlM_map]
  simp only [place_once]

/-! ## One loop after the other -/

private theorem placeAll_eq (weight : Nat) (unfilled : fill.runs < ringSize) :
    placeAll fuel ringSize turn weight fill =
      (placings fuel ringSize ((List.replicate weight turn).take (ringSize - fill.runs)) fill).map
        (Progress.ofFill ringSize) := by
  induction weight generalizing fill with
  | zero =>
      rw [List.replicate_zero, List.take_nil, placings_nil, Option.map_some, Progress.ofFill,
        if_neg (Nat.ne_of_lt unfilled), placeAll]
  | succ weight ih =>
      obtain ⟨left, same⟩ : ∃ left, ringSize - fill.runs = left + 1 :=
        ⟨ringSize - fill.runs - 1, by omega⟩
      rw [same, List.replicate_succ, List.take_succ_cons, placings_cons, placeAll]
      cases placing : place fuel ringSize turn fill with
      | none => rfl
      | some placed =>
          have runs := place_runs placing
          dsimp only [Option.bind_some]
          by_cases complete : placed.runs = ringSize
          · obtain rfl : left = 0 := by omega
            rw [if_pos complete, List.take_zero, placings_nil, Option.map_some, Progress.ofFill,
              if_pos complete]
          · obtain rfl : left = ringSize - placed.runs := by omega
            rw [if_neg complete, ih (by omega)]

private theorem round_eq (turns : List Turn) (unfilled : fill.runs < ringSize) :
    round fuel ringSize turns fill =
      (placings fuel ringSize ((roundOrder turns).take (ringSize - fill.runs)) fill).map
        (Progress.ofFill ringSize) := by
  induction turns generalizing fill with
  | nil =>
      rw [roundOrder, List.map_nil, schedule, List.flatMap_nil, List.take_nil, placings_nil,
        Option.map_some, Progress.ofFill, if_neg (Nat.ne_of_lt unfilled), round]
  | cons turn turns ih =>
      rw [roundOrder, List.map_cons, schedule_cons, List.take_append, placings_append, round,
        placeAll_eq turn.weight unfilled]
      cases placed : placings fuel ringSize
          ((List.replicate turn.weight turn).take (ringSize - fill.runs)) fill with
      | none => rfl
      | some later =>
          have runs := placings_runs placed
          rw [List.length_take, List.length_replicate] at runs
          rw [Option.map_some, Option.bind_some, Progress.ofFill, List.length_replicate]
          by_cases complete : later.runs = ringSize
          · have used : ringSize - fill.runs - turn.weight = 0 := by omega
            rw [if_pos complete, used, List.take_zero, placings_nil, Option.map_some,
              Progress.ofFill, if_pos complete]
          · have left : ringSize - fill.runs - turn.weight = ringSize - later.runs := by omega
            rw [if_neg complete, left]
            exact ih (by omega)

private theorem rounds_eq (budget : Nat) (turns : List Turn) (unfilled : fill.runs < ringSize) :
    rounds fuel ringSize budget turns fill =
      if ringSize - fill.runs ≤ (roundsOrder budget turns).length then
        (placings fuel ringSize ((roundsOrder budget turns).take (ringSize - fill.runs)) fill).map
          Fill.result
      else none := by
  induction budget generalizing turns fill with
  | zero =>
      rw [rounds, roundsOrder, List.length_nil, if_neg (by omega)]
  | succ budget ih =>
      rw [rounds, round_eq turns unfilled, roundsOrder, List.take_append, placings_append,
        List.length_append]
      cases placed :
        placings fuel ringSize ((roundOrder turns).take (ringSize - fill.runs)) fill with
      | none =>
          rw [Option.map_none, Option.bind_none, Option.map_none, ite_self]
      | some later =>
          have runs := placings_runs placed
          rw [List.length_take] at runs
          rw [Option.map_some, Option.bind_some, Progress.ofFill]
          by_cases complete : later.runs = ringSize
          · have used : ringSize - fill.runs - (roundOrder turns).length = 0 := by omega
            rw [if_pos complete, if_pos (by omega), used, List.take_zero, placings_nil,
              Option.map_some]
          · have left : ringSize - fill.runs - (roundOrder turns).length =
                ringSize - later.runs := by omega
            rw [if_neg complete, left]
            dsimp only
            rw [ih _ (by omega)]
            congr 1
            exact propext (by omega)

/-- From the second round on every endpoint has one turn. -/
theorem roundOrder_once (turns : List Turn) :
    roundOrder (turns.map fun turn => { turn with weight := 1 }) =
      turns.map fun turn => { turn with weight := 1 } := by
  induction turns with
  | nil => rfl
  | cons turn turns ih =>
      rw [List.map_cons, roundOrder, List.map_cons, schedule_cons]
      exact congrArg (_ :: ·) ih

private theorem roundsOrder_once (budget : Nat) (turns : List Turn) :
    roundsOrder budget (turns.map fun turn => { turn with weight := 1 }) =
      (List.replicate budget turns).flatten.map fun turn => { turn with weight := 1 } := by
  induction budget with
  | zero => rfl
  | succ budget ih =>
      have again : (turns.map fun turn => { turn with weight := 1 }).map
          (fun turn => { turn with weight := 1 }) = turns.map fun turn =>
          { turn with weight := 1 } :=
        List.map_map
      rw [roundsOrder, roundOrder_once, again, ih, List.replicate_succ, List.flatten_cons,
        List.map_append]

/-- The turns of the rounds take the same slots with the weights they had. -/
theorem placings_roundsOrder (budget count : Nat) (turns : List Turn) (fill : Fill) :
    placings fuel ringSize ((roundsOrder (budget + 1) turns).take count) fill =
      placings fuel ringSize
        ((roundOrder turns ++ (List.replicate budget turns).flatten).take count) fill := by
  rw [roundsOrder, roundsOrder_once, ← placings_once, ← placings_once (List.take _ _),
    List.map_take, List.map_take, List.map_append, List.map_append, List.map_map]
  rfl

private theorem length_roundsOrder (budget : Nat) (turns : List Turn) :
    (roundsOrder (budget + 1) turns).length =
      (roundOrder turns ++ (List.replicate budget turns).flatten).length := by
  rw [roundsOrder, roundsOrder_once, List.length_append, List.length_append, List.length_map]

end Maglev

open Maglev

variable {fuel ringSize : Nat} {endpoints : List Endpoint}

/-- The turns in which the slots of a ring are taken. -/
def turnOrder (endpoints : List Endpoint) (ringSize : Nat) : List Turn :=
  (roundOrder (turns endpoints ringSize) ++
    (List.replicate ringSize (turns endpoints ringSize)).flatten).take ringSize

private theorem length_turns (endpoints : List Endpoint) (ringSize : Nat) :
    (turns endpoints ringSize).length = endpoints.length := List.length_mapIdx

/-- There are turns for all slots. -/
theorem le_length_passes {passes : Nat} (nonempty : endpoints ≠ []) (enough : ringSize ≤ passes) :
    ringSize ≤ (roundOrder (turns endpoints ringSize) ++
      (List.replicate passes (turns endpoints ringSize)).flatten).length := by
  have positive := List.length_pos_iff.mpr nonempty
  have all : passes ≤ passes * endpoints.length := Nat.le_mul_of_pos_right passes positive
  rw [List.length_append, List.length_flatten, List.map_replicate, List.sum_replicate_nat,
    length_turns]
  omega

/-- There are as many turns as slots. -/
theorem length_turnOrder (nonempty : endpoints ≠ []) :
    (turnOrder endpoints ringSize).length = ringSize := by
  rw [turnOrder, List.length_take]
  exact Nat.min_eq_left (le_length_passes nonempty (Nat.le_refl ringSize))

/-- Only the turns of the endpoints are taken. -/
theorem mem_of_mem_turnOrder {turn : Turn} (listed : turn ∈ turnOrder endpoints ringSize) :
    turn ∈ turns endpoints ringSize := by
  rcases List.mem_append.mp (List.mem_of_mem_take listed) with first | later
  · have member := mem_of_mem_schedule first
    rw [List.map_map] at member
    exact List.map_id (turns endpoints ringSize) ▸ member
  · obtain ⟨pass, repeated, member⟩ := List.mem_flatten.mp later
    rwa [List.eq_of_mem_replicate repeated] at member

/-- Several endpoints fill the ring in rounds. -/
theorem generateMaglevHash_of_several (wide : 2 ≤ ringSize) (several : 2 ≤ endpoints.length) :
    generateMaglevHash fuel endpoints ringSize =
      rounds fuel ringSize fuel (turns endpoints ringSize) (start endpoints ringSize) := by
  match endpoints with
  | [] => cases several
  | [endpoint] =>
      rw [List.length_singleton] at several
      omega
  | first :: second :: rest =>
      simp only [generateMaglevHash]
      rw [if_neg (by omega)]

/-- They get no ring of fewer than two slots. -/
theorem wide_of_generateMaglevHash {ring : List Int} (several : 2 ≤ endpoints.length)
    (returned : generateMaglevHash fuel endpoints ringSize = some ring) : 2 ≤ ringSize := by
  match endpoints with
  | [] => cases several
  | [endpoint] =>
      rw [List.length_singleton] at several
      omega
  | first :: second :: rest =>
      simp only [generateMaglevHash] at returned
      split at returned
      · cases returned
      · omega

/-- With enough fuel for the rounds, the ring is filled in the order of the turns. -/
theorem generateMaglevHash_eq (wide : 2 ≤ ringSize) (several : 2 ≤ endpoints.length)
    (enough : ringSize < fuel) :
    generateMaglevHash fuel endpoints ringSize =
      (placings fuel ringSize (turnOrder endpoints ringSize) (start endpoints ringSize)).map
        Fill.result := by
  have nonempty : endpoints ≠ [] := List.ne_nil_of_length_pos (by omega)
  obtain ⟨rest, rfl⟩ : ∃ rest, fuel = rest + 1 := ⟨fuel - 1, by omega⟩
  have all := le_length_passes nonempty (Nat.le_of_lt_succ enough)
  have unfilled : ringSize - (start endpoints ringSize).runs = ringSize := Nat.sub_zero ringSize
  rw [generateMaglevHash_of_several wide several, rounds_eq _ _ (show 0 < ringSize by omega),
    unfilled, if_pos (by rwa [length_roundsOrder]), placings_roundsOrder, turnOrder,
    take_passes_eq all (le_length_passes nonempty (Nat.le_refl ringSize))]

/-- A returned ring has been filled in the order of the turns. -/
theorem placings_of_generateMaglevHash {ring : List Int} (wide : 2 ≤ ringSize)
    (several : 2 ≤ endpoints.length)
    (returned : generateMaglevHash fuel endpoints ringSize = some ring) :
    ∃ fill, placings fuel ringSize (turnOrder endpoints ringSize) (start endpoints ringSize) =
      some fill ∧ fill.result = ring := by
  have nonempty : endpoints ≠ [] := List.ne_nil_of_length_pos (by omega)
  rw [generateMaglevHash_of_several wide several] at returned
  cases fuel with
  | zero => cases returned
  | succ fuel =>
      have unfilled : ringSize - (start endpoints ringSize).runs = ringSize :=
        Nat.sub_zero ringSize
      rw [rounds_eq _ _ (show 0 < ringSize by omega), unfilled] at returned
      split at returned
      next all =>
        rw [length_roundsOrder] at all
        rw [placings_roundsOrder, take_passes_eq all
          (le_length_passes nonempty (Nat.le_refl ringSize))] at returned
        exact Option.map_eq_some_iff.mp returned
      next => cases returned

/-! ## Every slot of a returned ring is taken by an endpoint -/

namespace Maglev

variable {turn : Turn}

/-- The ring so far: `runs` of its slots are taken, each by one of `nums`. -/
structure Filling (nums : List Nat) (ringSize : Nat) (fill : Fill) : Prop where
  length : fill.result.length = ringSize
  counted : fill.result.countP (fun slot => decide (0 ≤ slot)) = fill.runs
  owned : ∀ slot ∈ fill.result, slot < 0 ∨ ∃ num ∈ nums, slot = (num : Int)

/-- An empty ring before the first placing. -/
theorem Filling.start (nums : List Nat) (endpoints : List Endpoint) :
    Filling nums ringSize (start endpoints ringSize) where
  length := List.length_replicate
  counted := by simp [Maglev.start, List.countP_replicate]
  owned := by
    intro slot member
    rw [List.eq_of_mem_replicate member]
    exact .inl (by decide)

/-- Taking one more slot. -/
theorem Filling.place {nums : List Nat} {fuel : Nat} {fill placed : Fill} (wide : 0 < ringSize)
    (filling : Filling nums ringSize fill) (known : turn.num ∈ nums) (small : turn.num < 2 ^ 31)
    (returned : place fuel ringSize turn fill = some placed) : Filling nums ringSize placed := by
  unfold Maglev.place at returned
  obtain ⟨found, probed, rfl⟩ := Option.map_eq_some_iff.mp returned
  obtain ⟨inside, free⟩ := probe_free wide probed
  rw [← filling.length] at inside
  rw [List.getD_eq_getElem _ _ inside] at free
  refine ⟨?_, ?_, ?_⟩
  · rw [List.length_set, filling.length]
  · have empty : ¬ 0 ≤ fill.result[found.1] := by omega
    have taken : (0 : Int) ≤ toInt32 turn.num := by
      rw [toInt32_of_lt small]
      omega
    simp only [List.countP_set inside, empty, taken, decide_false, decide_true,
      Bool.false_eq_true, ↓reduceIte, Nat.sub_zero, filling.counted]
  · intro slot member
    rcases List.mem_or_eq_of_mem_set member with old | rfl
    · exact filling.owned slot old
    · exact .inr ⟨turn.num, known, toInt32_of_lt small⟩

/-- Taking slots in some turns. -/
theorem Filling.placings {nums : List Nat} {list : List Turn} {fill last : Fill}
    (wide : 0 < ringSize) (filling : Filling nums ringSize fill)
    (known : ∀ turn ∈ list, turn.num ∈ nums ∧ turn.num < 2 ^ 31)
    (returned : placings fuel ringSize list fill = some last) : Filling nums ringSize last := by
  induction list generalizing fill with
  | nil =>
      obtain rfl := Option.some.inj returned
      exact filling
  | cons turn list ih =>
      rw [placings_cons] at returned
      obtain ⟨placed, first, rest⟩ := Option.bind_eq_some_iff.mp returned
      obtain ⟨here, small⟩ := known turn List.mem_cons_self
      exact ih (filling.place wide here small first)
        (fun turn member => known turn (List.mem_cons_of_mem _ member)) rest

/-- A fill that has taken every slot leaves none empty. -/
theorem Filling.full {nums : List Nat} {fill : Fill} (filling : Filling nums ringSize fill)
    (complete : fill.runs = ringSize) :
    fill.result.length = ringSize ∧ ∀ slot ∈ fill.result, ∃ num ∈ nums, slot = (num : Int) := by
  refine ⟨filling.length, ?_⟩
  intro slot member
  have all : fill.result.countP (fun slot => decide (0 ≤ slot)) = fill.result.length := by
    rw [filling.counted, filling.length, complete]
  have taken := of_decide_eq_true (List.countP_eq_length.mp all slot member)
  rcases filling.owned slot member with empty | owner
  · omega
  · exact owner

end Maglev

/-- Every slot of a returned ring holds the number of an endpoint. -/
theorem MaglevReturns.slot_owned {ring : List Int} (nonempty : endpoints ≠ [])
    (small : ∀ endpoint ∈ endpoints, endpoint.num < 2 ^ 31)
    (returned : MaglevReturns endpoints ringSize ring) :
    ring.length = ringSize ∧
      ∀ slot ∈ ring, ∃ endpoint ∈ endpoints, slot = (endpoint.num : Int) := by
  obtain ⟨fuel, returned⟩ := returned
  have positive := List.length_pos_iff.mpr nonempty
  rcases Nat.lt_or_ge endpoints.length 2 with few | several
  · obtain ⟨endpoint, rfl⟩ := List.length_eq_one_iff.mp (show endpoints.length = 1 by omega)
    obtain rfl := Option.some.inj returned
    refine ⟨List.length_replicate, ?_⟩
    intro slot member
    refine ⟨endpoint, List.mem_cons_self, ?_⟩
    rw [List.eq_of_mem_replicate member, toInt32_of_lt (small endpoint List.mem_cons_self)]
  · have wide := wide_of_generateMaglevHash several returned
    obtain ⟨fill, filled, rfl⟩ := placings_of_generateMaglevHash wide several returned
    have known : ∀ turn ∈ turnOrder endpoints ringSize,
        turn.num ∈ endpoints.map Endpoint.num ∧ turn.num < 2 ^ 31 := by
      intro turn member
      obtain ⟨index, inside, rfl⟩ := List.mem_mapIdx.mp (mem_of_mem_turnOrder member)
      have listed := List.getElem_mem inside
      exact ⟨List.mem_map_of_mem listed, small _ listed⟩
    have filling := (Filling.start (endpoints.map Endpoint.num) endpoints).placings (by omega)
      known filled
    have complete : fill.runs = ringSize := by
      rw [placings_runs filled, length_turnOrder nonempty]
      exact Nat.zero_add ringSize
    obtain ⟨length, owned⟩ := filling.full complete
    refine ⟨length, ?_⟩
    intro slot member
    obtain ⟨num, present, same⟩ := owned slot member
    obtain ⟨endpoint, inside, rfl⟩ := List.mem_map.mp present
    exact ⟨endpoint, inside, same⟩

end Katran
