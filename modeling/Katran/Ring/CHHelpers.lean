import Katran.Ring.MurmurHash3
import Mathlib.Data.List.GetD

/-! # Maglev hashing

`generateMaglevHash` fills the ring slot by slot. Every endpoint walks its own
permutation of the slots and takes the next free one; in the first round an
endpoint takes as many slots as its weight says, in every later round one. The
walk is computed in 32-bit arithmetic and the search for a free slot need not
end, so the loops take fuel: a call returns a ring when some amount of fuel
does (`MaglevReturns`).

More fuel does not change a result (`generateMaglevHash_mono`), and the fill looks
at the hashes and weights only, so that renaming the endpoints renames the ring
(`generateMaglevHash_rename`).
-/

namespace Katran

/-- A backend: its number, its weight and the seed of its permutation. -/
structure Endpoint where
  num : Nat
  weight : Nat
  hash : UInt64
deriving DecidableEq, Repr

/-- The seed of the hash for the offset. -/
def kHashSeed0 : UInt32 := 0
/-- The seed of the hash for the step. -/
def kHashSeed1 : UInt32 := 2307
/-- What is hashed with an endpoint for the offset. -/
def kHashSeed2 : UInt64 := 42
/-- What is hashed with an endpoint for the step. -/
def kHashSeed3 : UInt64 := 2718281828

/-- The size of a ring, if none is given. -/
def kDefaultChRingSize : Nat := 65537

/-- The value of an unsigned 32-bit number stored into an `int`. -/
def toInt32 (n : Nat) : Int := if n < 2 ^ 31 then n else (n : Int) - 2 ^ 32

/-- A number that fits is not changed. -/
theorem toInt32_of_lt {n : Nat} (small : n < 2 ^ 31) : toInt32 n = n := by
  simp only [toInt32, small, ↓reduceIte]

/-- The offset and the skip of an endpoint's permutation. -/
def genMaglevPermuation (endpoint : Endpoint) (ringSize : Nat) : Nat × Nat :=
  let offset := (MurmurHash3_x64_64 endpoint.hash kHashSeed2 kHashSeed0).toNat % ringSize
  let skip := (MurmurHash3_x64_64 endpoint.hash kHashSeed3 kHashSeed1).toNat % (ringSize - 1) + 1
  (offset, skip)

namespace Maglev

/-- The locals of the fill that change from slot to slot. -/
structure Fill where
  result : List Int
  next : List Nat
  runs : Nat
deriving DecidableEq, Repr

/-- What one endpoint does in one round. -/
structure Turn where
  index : Nat
  num : Nat
  offset : Nat
  skip : Nat
  weight : Nat
deriving DecidableEq, Repr

/-- A round either fills the last slot, and the ring is returned, or goes on. -/
inductive Progress where
  | full (result : List Int)
  | more (fill : Fill)
deriving DecidableEq, Repr

/-- The slot an endpoint looks at, in unsigned 32-bit arithmetic. -/
def cursor (ringSize : Nat) (turn : Turn) (next : Nat) : Nat :=
  (turn.offset + next * turn.skip) % 2 ^ 32 % ringSize

/-- The `while` loop that skips taken slots. -/
def probe (ringSize : Nat) (turn : Turn) (result : List Int) :
    (fuel next : Nat) → Option (Nat × Nat)
  | 0, _ => none
  | fuel + 1, next =>
      if 0 ≤ result.getD (cursor ringSize turn next) (-1) then
        probe ringSize turn result fuel ((next + 1) % 2 ^ 32)
      else
        some (cursor ringSize turn next, next)

/-- Take the next free slot of an endpoint. -/
def place (fuel ringSize : Nat) (turn : Turn) (fill : Fill) : Option Fill :=
  (probe ringSize turn fill.result fuel (fill.next.getD turn.index 0)).map fun found =>
    { result := fill.result.set found.1 (toInt32 turn.num)
      next := fill.next.set turn.index ((found.2 + 1) % 2 ^ 32)
      runs := fill.runs + 1 }

/-- The loop over an endpoint's weight. -/
def placeAll (fuel ringSize : Nat) (turn : Turn) : (weight : Nat) → Fill → Option Progress
  | 0, fill => some (.more fill)
  | weight + 1, fill =>
      match place fuel ringSize turn fill with
      | none => none
      | some fill =>
          if fill.runs = ringSize then some (.full fill.result)
          else placeAll fuel ringSize turn weight fill

/-- The loop over the endpoints. -/
def round (fuel ringSize : Nat) : List Turn → Fill → Option Progress
  | [], fill => some (.more fill)
  | turn :: turns, fill =>
      match placeAll fuel ringSize turn turn.weight fill with
      | none => none
      | some (.full result) => some (.full result)
      | some (.more fill) => round fuel ringSize turns fill

/-- The endless outer loop; every weight is one from the second round on. -/
def rounds (fuel ringSize : Nat) : (budget : Nat) → List Turn → Fill → Option (List Int)
  | 0, _, _ => none
  | budget + 1, turns, fill =>
      match round fuel ringSize turns fill with
      | none => none
      | some (.full result) => some result
      | some (.more fill) =>
          rounds fuel ringSize budget (turns.map fun turn => { turn with weight := 1 }) fill

/-- The turns of the first round. -/
def turns (endpoints : List Endpoint) (ringSize : Nat) : List Turn :=
  endpoints.mapIdx fun index endpoint =>
    { index := index
      num := endpoint.num
      offset := (genMaglevPermuation endpoint ringSize).1
      skip := (genMaglevPermuation endpoint ringSize).2
      weight := endpoint.weight }

/-- The locals before the first round. -/
def start (endpoints : List Endpoint) (ringSize : Nat) : Fill :=
  { result := List.replicate ringSize (-1)
    next := List.replicate endpoints.length 0
    runs := 0 }

end Maglev

open Maglev

/-- The ring of a list of endpoints, `none` when the fuel does not suffice. With
two or more endpoints a ring of fewer than two slots divides by zero. -/
def generateMaglevHash (fuel : Nat) (endpoints : List Endpoint) (ringSize : Nat) :
    Option (List Int) :=
  match endpoints with
  | [] => some (List.replicate ringSize (-1))
  | [endpoint] => some (List.replicate ringSize (toInt32 endpoint.num))
  | _ =>
      if ringSize ≤ 1 then none
      else rounds fuel ringSize fuel (turns endpoints ringSize) (start endpoints ringSize)

/-- A call of the generator returns this ring. -/
def MaglevReturns (endpoints : List Endpoint) (ringSize : Nat) (ring : List Int) : Prop :=
  ∃ fuel, generateMaglevHash fuel endpoints ringSize = some ring

/-! ## More fuel does not change a result -/

namespace Maglev

variable {ringSize : Nat} {turn : Turn}

private theorem probe_mono {result : List Int} {fuel more next : Nat} {found : Nat × Nat}
    (enough : fuel ≤ more) (returned : probe ringSize turn result fuel next = some found) :
    probe ringSize turn result more next = some found := by
  induction fuel generalizing more next with
  | zero => cases returned
  | succ fuel ih =>
      obtain ⟨rest, rfl⟩ : ∃ rest, more = rest + 1 := ⟨more - 1, by omega⟩
      unfold probe at returned ⊢
      split at returned
      next taken =>
        rw [if_pos taken]
        exact ih (by omega) returned
      next free =>
        rw [if_neg free]
        exact returned

private theorem place_mono {fuel more : Nat} {fill placed : Fill} (enough : fuel ≤ more)
    (returned : place fuel ringSize turn fill = some placed) :
    place more ringSize turn fill = some placed := by
  unfold place at returned ⊢
  obtain ⟨found, probed, same⟩ := Option.map_eq_some_iff.mp returned
  rw [probe_mono enough probed]
  exact congrArg some same

private theorem placeAll_mono {fuel more weight : Nat} {fill : Fill} {progress : Progress}
    (enough : fuel ≤ more) (returned : placeAll fuel ringSize turn weight fill = some progress) :
    placeAll more ringSize turn weight fill = some progress := by
  induction weight generalizing fill with
  | zero => exact returned
  | succ weight ih =>
      unfold placeAll at returned ⊢
      cases placed : place fuel ringSize turn fill with
      | none => rw [placed] at returned; cases returned
      | some next =>
          rw [placed] at returned
          rw [place_mono enough placed]
          dsimp only at returned ⊢
          split at returned
          next last => rw [if_pos last]; exact returned
          next rest => rw [if_neg rest]; exact ih returned

private theorem round_mono {fuel more : Nat} {turns : List Turn} {fill : Fill} {progress : Progress}
    (enough : fuel ≤ more) (returned : round fuel ringSize turns fill = some progress) :
    round more ringSize turns fill = some progress := by
  induction turns generalizing fill with
  | nil => exact returned
  | cons turn turns ih =>
      unfold round at returned ⊢
      cases placed : placeAll fuel ringSize turn turn.weight fill with
      | none => rw [placed] at returned; cases returned
      | some reached =>
          rw [placed] at returned
          rw [placeAll_mono enough placed]
          cases reached with
          | full result => exact returned
          | more fill => exact ih returned

private theorem rounds_mono {fuel more budget larger : Nat} {turns : List Turn} {fill : Fill}
    {ring : List Int} (enough : fuel ≤ more) (longer : budget ≤ larger)
    (returned : rounds fuel ringSize budget turns fill = some ring) :
    rounds more ringSize larger turns fill = some ring := by
  induction budget generalizing larger turns fill with
  | zero => cases returned
  | succ budget ih =>
      obtain ⟨rest, rfl⟩ : ∃ rest, larger = rest + 1 := ⟨larger - 1, by omega⟩
      unfold rounds at returned ⊢
      cases placed : round fuel ringSize turns fill with
      | none => rw [placed] at returned; cases returned
      | some reached =>
          rw [placed] at returned
          rw [round_mono enough placed]
          cases reached with
          | full result => exact returned
          | more fill => exact ih (by omega) returned

end Maglev

private theorem generateMaglevHash_mono {fuel more ringSize : Nat} {endpoints : List Endpoint}
    {ring : List Int} (enough : fuel ≤ more)
    (returned : generateMaglevHash fuel endpoints ringSize = some ring) :
    generateMaglevHash more endpoints ringSize = some ring := by
  unfold generateMaglevHash at returned ⊢
  split at returned
  · exact returned
  · exact returned
  · split at returned
    · cases returned
    next wide =>
      rw [if_neg wide]
      exact rounds_mono enough enough returned

/-- The generator is deterministic. -/
theorem MaglevReturns.unique {endpoints : List Endpoint} {ringSize : Nat} {first second : List Int}
    (left : MaglevReturns endpoints ringSize first)
    (right : MaglevReturns endpoints ringSize second) : first = second := by
  obtain ⟨leftFuel, left⟩ := left
  obtain ⟨rightFuel, right⟩ := right
  have leftMore := generateMaglevHash_mono (Nat.le_max_left leftFuel rightFuel) left
  rw [generateMaglevHash_mono (Nat.le_max_right leftFuel rightFuel) right] at leftMore
  exact (Option.some.inj leftMore).symm

/-! ## Searches -/

namespace Maglev

variable {ringSize : Nat} {turn : Turn}

/-- A cursor is a position of the ring. -/
theorem cursor_lt (wide : 0 < ringSize) (turn : Turn) (next : Nat) :
    cursor ringSize turn next < ringSize := Nat.mod_lt _ wide

/-- The search stops at a free slot of the ring. -/
theorem probe_free (wide : 0 < ringSize) {result : List Int} {fuel next : Nat} {found : Nat × Nat}
    (returned : probe ringSize turn result fuel next = some found) :
    found.1 < ringSize ∧ result.getD found.1 (-1) < 0 := by
  induction fuel generalizing next with
  | zero => cases returned
  | succ fuel ih =>
      unfold probe at returned
      split at returned
      · exact ih returned
      next free =>
        obtain rfl := Option.some.inj returned
        exact ⟨cursor_lt wide turn next, Int.not_le.mp free⟩

end Maglev

/-! ## Renaming the endpoints renames the ring -/

/-- The same backend under another number. -/
def Endpoint.rename (naming : Nat → Nat) (endpoint : Endpoint) : Endpoint :=
  { endpoint with num := naming endpoint.num }

/-- Rename a taken slot; an empty one stays empty. -/
def renameSlot (naming : Nat → Nat) (slot : Int) : Int :=
  if 0 ≤ slot then (naming slot.toNat : Int) else slot

/-- A slot with a number is renamed by it. -/
theorem renameSlot_natCast (naming : Nat → Nat) (num : Nat) :
    renameSlot naming (num : Int) = naming num := by
  have taken : (0 : Int) ≤ (num : Int) := Int.natCast_nonneg num
  simp only [renameSlot, taken, ↓reduceIte, Int.toNat_natCast]

private theorem renameSlot_nonneg (naming : Nat → Nat) (slot : Int) :
    0 ≤ renameSlot naming slot ↔ 0 ≤ slot := by
  unfold renameSlot
  split
  next taken => simp only [Int.natCast_nonneg, taken]
  next => exact Iff.rfl

private theorem renameSlot_toInt32 {naming : Nat → Nat} {num : Nat} (small : num < 2 ^ 31)
    (renamed : naming num < 2 ^ 31) :
    renameSlot naming (toInt32 num) = toInt32 (naming num) := by
  rw [toInt32_of_lt small, toInt32_of_lt renamed, renameSlot_natCast]

namespace Maglev

variable {ringSize : Nat} (naming : Nat → Nat)

/-- The turns of the other numbers. -/
def Turn.rename (turn : Turn) : Turn := { turn with num := naming turn.num }

/-- The ring with the other numbers. -/
def Fill.rename (fill : Fill) : Fill :=
  { fill with result := fill.result.map (renameSlot naming) }

/-- The same progress with the other numbers. -/
def Progress.rename : Progress → Progress
  | .full result => .full (result.map (renameSlot naming))
  | .more fill => .more (fill.rename naming)

/-- The search for a free slot does not look at the numbers. -/
theorem probe_rename (turn : Turn) (result : List Int) (fuel next : Nat) :
    probe ringSize (turn.rename naming) (result.map (renameSlot naming)) fuel next =
      probe ringSize turn result fuel next := by
  induction fuel generalizing next with
  | zero => rfl
  | succ fuel ih =>
      have slot : (result.map (renameSlot naming)).getD (cursor ringSize turn next)
          (renameSlot naming (-1)) =
          renameSlot naming (result.getD (cursor ringSize turn next) (-1)) :=
        List.getD_map _ _ _
      have empty : renameSlot naming (-1) = -1 := rfl
      rw [empty] at slot
      have moved : cursor ringSize (turn.rename naming) next = cursor ringSize turn next := rfl
      unfold probe
      rw [moved, slot]
      simp only [renameSlot_nonneg, ih]

/-- Both numbers of an endpoint fit an `int`. -/
def Turn.Fits (turn : Turn) : Prop := turn.num < 2 ^ 31 ∧ naming turn.num < 2 ^ 31

variable {naming}

private theorem place_rename {turn : Turn} (fits : turn.Fits naming) (fuel : Nat) (fill : Fill) :
    place fuel ringSize (turn.rename naming) (fill.rename naming) =
      (place fuel ringSize turn fill).map (Fill.rename naming) := by
  unfold place
  change Option.map _
    (probe ringSize (turn.rename naming) (fill.result.map (renameSlot naming)) fuel
    (fill.next.getD turn.index 0)) = _
  rw [probe_rename, Option.map_map]
  congr 1
  funext found
  simp only [Function.comp_apply, Fill.rename, Turn.rename, List.map_set,
    renameSlot_toInt32 fits.1 fits.2]

private theorem placeAll_rename {turn : Turn} (fits : turn.Fits naming) (fuel weight : Nat)
    (fill : Fill) :
    placeAll fuel ringSize (turn.rename naming) weight (fill.rename naming) =
      (placeAll fuel ringSize turn weight fill).map (Progress.rename naming) := by
  induction weight generalizing fill with
  | zero => rfl
  | succ weight ih =>
      unfold placeAll
      rw [place_rename fits]
      cases place fuel ringSize turn fill with
      | none => rfl
      | some placed =>
          simp only [Option.map_some]
          by_cases complete : placed.runs = ringSize
          · have renamed : (placed.rename naming).runs = ringSize := complete
            simp only [complete, renamed, ↓reduceIte]
            rfl
          · have renamed : ¬ (placed.rename naming).runs = ringSize := complete
            simp only [complete, renamed, ↓reduceIte]
            exact ih placed

private theorem round_rename {turns : List Turn} (fits : ∀ turn ∈ turns, turn.Fits naming)
    (fuel : Nat) (fill : Fill) :
    round fuel ringSize (turns.map (Turn.rename naming)) (fill.rename naming) =
      (round fuel ringSize turns fill).map (Progress.rename naming) := by
  induction turns generalizing fill with
  | nil => rfl
  | cons turn turns ih =>
      have sameWeight : (turn.rename naming).weight = turn.weight := rfl
      rw [List.map_cons]
      unfold round
      rw [sameWeight, placeAll_rename (fits turn List.mem_cons_self)]
      cases placeAll fuel ringSize turn turn.weight fill with
      | none => rfl
      | some reached =>
          cases reached with
          | full result => rfl
          | more later =>
              exact ih (fun turn member => fits turn (List.mem_cons_of_mem _ member)) later

private theorem rounds_rename {turns : List Turn} (fits : ∀ turn ∈ turns, turn.Fits naming)
    (fuel budget : Nat) (fill : Fill) :
    rounds fuel ringSize budget (turns.map (Turn.rename naming)) (fill.rename naming) =
      (rounds fuel ringSize budget turns fill).map (List.map (renameSlot naming)) := by
  induction budget generalizing turns fill with
  | zero => rfl
  | succ budget ih =>
      unfold rounds
      rw [round_rename fits]
      cases round fuel ringSize turns fill with
      | none => rfl
      | some reached =>
          cases reached with
          | full result => rfl
          | more later =>
              have swapped : (turns.map (Turn.rename naming)).map
                  (fun turn => { turn with weight := 1 }) =
                  (turns.map fun turn => { turn with weight := 1 }).map (Turn.rename naming) := by
                simp only [List.map_map, Function.comp_def, Turn.rename]
              simp only [Option.map_some, Progress.rename, swapped]
              apply ih
              intro turn member
              obtain ⟨earlier, inside, rfl⟩ := List.mem_map.mp member
              exact fits earlier inside

end Maglev

/-- **Equivariance of the fill.** The ring of renamed endpoints is the renamed
ring. -/
theorem generateMaglevHash_rename {naming : Nat → Nat} {endpoints : List Endpoint}
    (small : ∀ endpoint ∈ endpoints, endpoint.num < 2 ^ 31)
    (renamed : ∀ endpoint ∈ endpoints, naming endpoint.num < 2 ^ 31) (fuel ringSize : Nat) :
    generateMaglevHash fuel (endpoints.map (Endpoint.rename naming)) ringSize =
      (generateMaglevHash fuel endpoints ringSize).map (List.map (renameSlot naming)) := by
  match endpoints with
  | [] =>
      simp only [generateMaglevHash, List.map_nil, Option.map_some, List.map_replicate]
      rfl
  | [endpoint] =>
      simp only [generateMaglevHash, List.map_cons, List.map_nil, Option.map_some,
        List.map_replicate, Endpoint.rename, renameSlot_toInt32 (small endpoint List.mem_cons_self)
          (renamed endpoint List.mem_cons_self)]
  | first :: second :: rest =>
      have same : turns ((first :: second :: rest).map (Endpoint.rename naming)) ringSize =
          (turns (first :: second :: rest) ringSize).map (Turn.rename naming) := by
        apply List.ext_getElem
        · simp only [turns, List.length_mapIdx, List.length_map]
        · intro index left right
          simp only [turns, List.getElem_mapIdx, List.getElem_map]
          rfl
      have begun : start ((first :: second :: rest).map (Endpoint.rename naming)) ringSize =
          (start (first :: second :: rest) ringSize).rename naming := by
        simp only [start, Fill.rename, List.length_map, List.map_replicate]
        rfl
      simp only [generateMaglevHash, List.map_cons]
      by_cases narrow : ringSize ≤ 1
      · simp only [narrow, ↓reduceIte, Option.map_none]
      · simp only [narrow, ↓reduceIte]
        rw [← List.map_cons, ← List.map_cons, same, begun]
        apply rounds_rename
        intro turn member
        obtain ⟨index, inside, rfl⟩ := List.mem_mapIdx.mp member
        exact ⟨small _ (List.getElem_mem inside), renamed _ (List.getElem_mem inside)⟩

end Katran
