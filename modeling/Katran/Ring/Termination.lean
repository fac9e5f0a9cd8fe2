import Katran.Foundation.FirstFree
import Katran.Foundation.Stride
import Katran.Ring.Placings
import Mathlib.Tactic.NormNum.Prime

/-! # Termination of the ring generator

An endpoint looks at the slots `(offset + next * skip) % ring_size` in 32-bit arithmetic. For
a prime ring size this would be a walk over all slots, but the sum wraps, and then the walk
only meets the slots of every `gcd skip 2^32`-th position. An endpoint that has a turn when all
of these are taken searches forever.

The fill is a run in which each turn takes the first free slot of its walk (`Follows`), so the
generator returns exactly if no turn finds its slots taken. Which slots are taken by then
depends on all walks, but there are two things that the offsets, skips and weights tell. A turn
that comes while fewer slots are taken than the walk has positions finds one. And an endpoint
that would not get past `2^32` in exact arithmetic walks as if nothing wrapped
(`maglev_terminates_of_staysBelow`).
-/

namespace Katran

open Foundation Maglev

namespace Maglev

variable {ringSize fuel : Nat} {turn : Turn} {all : List Turn} {taken : List (Turn × Nat)}
  {fill : Fill}

private theorem cursor_eq_stride (ringSize : Nat) (turn : Turn) (next : Nat) :
    cursor ringSize turn next = stride (2 ^ 32) ringSize turn.offset turn.skip next := rfl

/-! ## The fill as a run -/

/-- Turns that are told apart by their indices and have numbers that fit an `int`. -/
structure Indexed (all : List Turn) : Prop where
  small : ∀ turn ∈ all, turn.num < 2 ^ 31
  apart : ∀ first ∈ all, ∀ second ∈ all, first.index = second.index → first = second

/-- The locals of the fill after some turns have taken their slots. The slots that an endpoint
has gone past are taken, unless its counter has wrapped. -/
structure Follows (all : List Turn) (ringSize : Nat) (taken : List (Turn × Nat)) (fill : Fill) :
    Prop where
  length : fill.result.length = ringSize
  occupied : ∀ slot < ringSize,
    0 ≤ fill.result.getD slot (-1) ↔ slot ∈ places (cursor ringSize) taken
  passed : ∀ turn ∈ all, ∀ step < fill.next.getD turn.index 0,
    cursor ringSize turn step ∈ places (cursor ringSize) taken

/-- Before the first turn. -/
theorem Follows.start (all : List Turn) (endpoints : List Endpoint) :
    Follows all ringSize [] (start endpoints ringSize) where
  length := List.length_replicate
  occupied := by
    intro slot inside
    rw [Maglev.start, List.getD_replicate _ inside]
    exact iff_of_false (by decide) List.not_mem_nil
  passed := by
    intro turn _ step before
    have zero : (List.replicate endpoints.length 0).getD turn.index 0 = 0 := by
      rw [List.getD_eq_getElem?_getD, List.getElem?_replicate]
      split <;> rfl
    rw [Maglev.start, zero] at before
    cases before

/-- A search stops at the first free slot. -/
theorem Follows.probe (follows : Follows all ringSize taken fill) (wide : 0 < ringSize)
    {next : Nat} {found : Nat × Nat}
    (passed : ∀ step < next, cursor ringSize turn step ∈ places (cursor ringSize) taken)
    (returned : probe ringSize turn fill.result fuel next = some found) :
    FirstFree (cursor ringSize) taken turn found.2 ∧ found.1 = cursor ringSize turn found.2 := by
  induction fuel generalizing next with
  | zero => cases returned
  | succ fuel ih =>
      have here := follows.occupied _ (cursor_lt wide turn next)
      unfold Maglev.probe at returned
      split at returned
      next busy =>
        refine ih ?_ returned
        -- a counter that wraps starts again, and nothing has been passed
        intro step before
        rcases Nat.lt_or_eq_of_le
          (Nat.le_of_lt_succ (Nat.lt_of_lt_of_le before (Nat.mod_le _ _))) with earlier | rfl
        · exact passed step earlier
        · exact here.mp busy
      next free =>
        obtain rfl := Option.some.inj returned
        exact ⟨⟨fun member => free (here.mpr member), passed⟩, rfl⟩

/-- Taking a slot is a turn. -/
theorem Follows.place (follows : Follows all ringSize taken fill) (indexed : Indexed all)
    (wide : 0 < ringSize) (member : turn ∈ all) {placed : Fill}
    (returned : place fuel ringSize turn fill = some placed) :
    ∃ later, Takes (cursor ringSize) taken turn later ∧ Follows all ringSize later placed := by
  obtain ⟨found, probed, rfl⟩ := Option.map_eq_some_iff.mp returned
  obtain ⟨first, same⟩ := follows.probe wide (follows.passed turn member) probed
  refine ⟨_, ⟨found.2, first, rfl⟩, ?_⟩
  refine ⟨by rw [List.length_set, follows.length], ?_, ?_⟩
  · intro slot inside
    rw [mem_places_snoc, ← same, List.getD_eq_getElem?_getD, List.getElem?_set]
    split
    next equal =>
      rw [if_pos (by rwa [follows.length, equal]), Option.getD_some,
        toInt32_of_lt (indexed.small turn member)]
      exact iff_of_true (Int.natCast_nonneg _) (.inr equal.symm)
    next apart =>
      rw [← List.getD_eq_getElem?_getD, follows.occupied slot inside]
      exact (or_iff_left fun equal => apart equal.symm).symm
  · intro other listed step before
    rw [mem_places_snoc]
    rw [List.getD_eq_getElem?_getD, List.getElem?_set] at before
    split at before
    next equal =>
      obtain rfl := indexed.apart turn member other listed equal
      split at before
      · rw [Option.getD_some] at before
        rcases Nat.lt_or_eq_of_le
          (Nat.le_of_lt_succ (Nat.lt_of_lt_of_le before (Nat.mod_le _ _))) with earlier | rfl
        · exact .inl (first.passed step earlier)
        · exact .inr rfl
      · cases before
    next =>
      rw [← List.getD_eq_getElem?_getD] at before
      exact .inl (follows.passed other listed step before)

/-- A search ends if one of the slots that it looks at is free. -/
theorem probe_returns {result : List Int} {next : Nat}
    (free : ∃ steps < fuel, result.getD (cursor ringSize turn (next + steps)) (-1) < 0) :
    ∃ found, probe ringSize turn result fuel next = some found := by
  induction fuel generalizing next with
  | zero =>
      obtain ⟨steps, before, _⟩ := free
      exact (Nat.not_lt_zero steps before).elim
  | succ fuel ih =>
      unfold probe
      split
      next taken =>
        apply ih
        obtain ⟨steps, before, empty⟩ := free
        cases steps with
        | zero =>
            rw [Nat.add_zero] at empty
            omega
        | succ steps =>
            refine ⟨steps, Nat.lt_of_succ_lt_succ before, ?_⟩
            have same : (next + 1) % 2 ^ 32 + steps ≡ next + (steps + 1) [MOD 2 ^ 32] := by
              rw [show next + (steps + 1) = next + 1 + steps by omega]
              exact (Nat.mod_modEq (next + 1) (2 ^ 32)).add_right steps
            rw [cursor_eq_stride, stride_congr same]
            exact empty
      next => exact ⟨_, rfl⟩

/-- So an endpoint takes a slot if one of its walk is free. -/
theorem Follows.place_returns (follows : Follows all ringSize taken fill) (wide : 0 < ringSize)
    (enough : 2 ^ 32 ≤ fuel) (free : HasFree (cursor ringSize) taken turn) :
    ∃ placed, Maglev.place fuel ringSize turn fill = some placed := by
  obtain ⟨step, empty⟩ := free
  have unfilled : fill.result.getD (cursor ringSize turn step) (-1) < 0 := by
    have occupied := follows.occupied _ (cursor_lt wide turn step)
    exact Int.not_le.mp fun busy => empty (occupied.mp busy)
  have found : ∃ found, Maglev.probe ringSize turn fill.result fuel
      (fill.next.getD turn.index 0) = some found := by
    apply probe_returns
    -- the counter wraps, so the step that leads to the slot comes up again
    refine ⟨(step + 2 ^ 32 - fill.next.getD turn.index 0 % 2 ^ 32) % 2 ^ 32, ?_, ?_⟩
    · exact Nat.lt_of_lt_of_le (Nat.mod_lt _ (by decide)) enough
    · have same : fill.next.getD turn.index 0 +
          (step + 2 ^ 32 - fill.next.getD turn.index 0 % 2 ^ 32) % 2 ^ 32 ≡ step [MOD 2 ^ 32] := by
        unfold Nat.ModEq
        omega
      rw [cursor_eq_stride, stride_congr same, ← cursor_eq_stride]
      exact unfilled
  obtain ⟨found, probed⟩ := found
  exact ⟨_, by rw [Maglev.place, probed, Option.map_some]⟩

/-- What has been filled is a run. -/
theorem Follows.placings (follows : Follows all ringSize taken fill) (indexed : Indexed all)
    (wide : 0 < ringSize) {list : List Turn} (listed : list ⊆ all) {last : Fill}
    (returned : placings fuel ringSize list fill = some last) :
    ∃ later, Run (Takes (cursor ringSize)) taken list later ∧ Follows all ringSize later last := by
  induction list generalizing taken fill with
  | nil =>
      obtain rfl := Option.some.inj returned
      exact ⟨taken, .nil taken, follows⟩
  | cons turn list ih =>
      obtain ⟨member, rest⟩ := List.cons_subset.mp listed
      rw [placings_cons] at returned
      obtain ⟨placed, first, remaining⟩ := Option.bind_eq_some_iff.mp returned
      obtain ⟨next, takes, after⟩ := follows.place indexed wide member first
      obtain ⟨later, run, final⟩ := ih after rest remaining
      exact ⟨later, .cons takes run, final⟩

/-- And every run can be filled. -/
theorem Follows.placings_returns (follows : Follows all ringSize taken fill)
    (indexed : Indexed all) (wide : 0 < ringSize) (enough : 2 ^ 32 ≤ fuel) {list : List Turn}
    (listed : list ⊆ all) {later : List (Turn × Nat)}
    (run : Run (Takes (cursor ringSize)) taken list later) :
    ∃ last, Maglev.placings fuel ringSize list fill = some last ∧
      Follows all ringSize later last := by
  induction run generalizing fill with
  | nil taken => exact ⟨fill, rfl, follows⟩
  | cons turn _ ih =>
      obtain ⟨member, rest⟩ := List.cons_subset.mp listed
      obtain ⟨step, first, rfl⟩ := turn
      obtain ⟨placed, returned⟩ := follows.place_returns wide enough ⟨step, first.free⟩
      obtain ⟨next, ⟨_, again, rfl⟩, after⟩ := follows.place indexed wide member returned
      rw [again.unique first] at after
      obtain ⟨last, filled, final⟩ := ih after rest
      refine ⟨last, ?_, final⟩
      rw [placings_cons, returned]
      exact filled

end Maglev

/-! ## Endpoints -/

/-- How many positions the walk of an endpoint has. -/
def Maglev.Turn.reach (turn : Turn) : Nat := 2 ^ 32 / Nat.gcd turn.skip (2 ^ 32)

/-- The slot that an endpoint would look at in exact arithmetic. -/
def Maglev.exactCursor (ringSize : Nat) (turn : Turn) (next : Nat) : Nat :=
  (turn.offset + next * turn.skip) % ringSize

section Endpoints

variable (endpoints : List Endpoint) (ringSize : Nat)

/-- The generator returns a ring whose slots all have the number of an endpoint. -/
def MaglevTerminates : Prop :=
  ∃ ring, MaglevReturns endpoints ringSize ring ∧ ring.length = ringSize ∧
    ∀ slot ∈ ring, ∃ endpoint ∈ endpoints, slot = (endpoint.num : Int)

/-- An endpoint has a turn when as many slots have been taken as its walk has positions. -/
def Cramped (turn : Turn) : Prop :=
  ∃ count < ringSize, (turnOrder endpoints ringSize)[count]? = some turn ∧ turn.reach ≤ count

instance (turn : Turn) : Decidable (Cramped endpoints ringSize turn) :=
  inferInstanceAs (Decidable (∃ count < ringSize, _))

/-- The walks, if those of the cramped endpoints did not wrap. -/
def carefulCursor (turn : Turn) (next : Nat) : Nat :=
  if Cramped endpoints ringSize turn then exactCursor ringSize turn next
  else cursor ringSize turn next

/-- With walks that do not wrap, no cramped endpoint is led to a position of `2^32` or more
before the ring is full. -/
def StaysBelow : Prop :=
  endpoints.length = 1 ∨ ∀ taken,
    Run (Takes (carefulCursor endpoints ringSize)) [] (turnOrder endpoints ringSize) taken →
      ∀ turn ∈ taken, Cramped endpoints ringSize turn.1 →
        turn.1.offset + turn.2 * turn.1.skip < 2 ^ 32

/-- The fill comes to a turn of a cramped endpoint at which every slot that the endpoint looks
at before its sum wraps is taken. -/
def WrapsAround : Prop :=
  ∃ fuel done turn rest fill, turnOrder endpoints ringSize = done ++ turn :: rest ∧
    placings fuel ringSize done (start endpoints ringSize) = some fill ∧
    Cramped endpoints ringSize turn ∧
    ∀ next, turn.offset + next * turn.skip < 2 ^ 32 →
      0 ≤ fill.result.getD (cursor ringSize turn next) (-1)

/-- At every turn, one of the slots that the endpoint's walk meets has not been taken by the
turns before it. -/
def AlwaysFree : Prop :=
  endpoints.length = 1 ∨ ∀ done turn rest, turnOrder endpoints ringSize = done ++ turn :: rest →
    ∀ taken, Run (Takes (cursor ringSize)) [] done taken →
      ∃ slot ∈ met (2 ^ 32) ringSize turn.offset turn.skip, slot ∉ places (cursor ringSize) taken

end Endpoints

variable {endpoints : List Endpoint} {ringSize : Nat} {turn : Turn}

/-- The turns of endpoints are told apart by their indices. -/
theorem indexed_turns (small : ∀ endpoint ∈ endpoints, endpoint.num < 2 ^ 31) :
    Indexed (turns endpoints ringSize) where
  small := by
    intro turn member
    obtain ⟨index, inside, rfl⟩ := List.mem_mapIdx.mp member
    exact small _ (List.getElem_mem inside)
  apart := by
    intro first firstMember second secondMember same
    obtain ⟨index, inside, rfl⟩ := List.mem_mapIdx.mp firstMember
    obtain ⟨other, otherInside, rfl⟩ := List.mem_mapIdx.mp secondMember
    obtain rfl : index = other := same
    rfl

/-- A skip is positive and smaller than the ring. -/
theorem skip_bounds (wide : 2 ≤ ringSize) (member : turn ∈ turns endpoints ringSize) :
    0 < turn.skip ∧ turn.skip < ringSize := by
  obtain ⟨index, inside, rfl⟩ := List.mem_mapIdx.mp member
  have below := Nat.mod_lt (MurmurHash3_x64_64 endpoints[index].hash kHashSeed3 kHashSeed1).toNat
    (show 0 < ringSize - 1 by omega)
  simp only [genMaglevPermuation]
  omega

/-- So it shares no factor with a prime ring size. -/
theorem coprime_skip (prime : ringSize.Prime) (member : turn ∈ turns endpoints ringSize) :
    Nat.Coprime turn.skip ringSize := by
  obtain ⟨positive, below⟩ := skip_bounds prime.two_le member
  rw [Nat.coprime_comm, prime.coprime_iff_not_dvd]
  intro divides
  have atMost := Nat.le_of_dvd positive divides
  omega

private theorem gcd_skip_lt (wide : 2 ≤ ringSize) (fits : ringSize < 2 ^ 31)
    (member : turn ∈ turns endpoints ringSize) : Nat.gcd turn.skip (2 ^ 32) < 2 ^ 32 := by
  obtain ⟨positive, below⟩ := skip_bounds wide member
  have atMost := Nat.gcd_le_left (2 ^ 32) positive
  omega

/-- Several endpoints get a ring exactly if all turns take a slot. -/
theorem maglevReturns_iff_run (wide : 2 ≤ ringSize) (several : 2 ≤ endpoints.length)
    (small : ∀ endpoint ∈ endpoints, endpoint.num < 2 ^ 31) :
    (∃ ring, MaglevReturns endpoints ringSize ring) ↔
      ∃ taken, Run (Takes (cursor ringSize)) [] (turnOrder endpoints ringSize) taken := by
  have indexed : Indexed (turns endpoints ringSize) := indexed_turns small
  have begun : Follows (turns endpoints ringSize) ringSize [] (start endpoints ringSize) :=
    .start _ endpoints
  have listed : turnOrder endpoints ringSize ⊆ turns endpoints ringSize :=
    fun _ => mem_of_mem_turnOrder
  constructor
  · rintro ⟨ring, fuel, returned⟩
    obtain ⟨fill, filled, rfl⟩ := placings_of_generateMaglevHash wide several returned
    obtain ⟨taken, run, _⟩ := begun.placings indexed (by omega) listed filled
    exact ⟨taken, run⟩
  · rintro ⟨taken, run⟩
    obtain ⟨last, filled, _⟩ := begun.placings_returns indexed (by omega)
      (Nat.le_add_right (2 ^ 32) (ringSize + 1)) listed run
    refine ⟨last.result, 2 ^ 32 + (ringSize + 1), ?_⟩
    rw [generateMaglevHash_eq wide several (by omega), filled, Option.map_some]

/-- A ring that is returned is one of the endpoints' numbers. -/
theorem maglevTerminates_iff (wide : 2 ≤ ringSize) (nonempty : endpoints ≠ [])
    (small : ∀ endpoint ∈ endpoints, endpoint.num < 2 ^ 31) :
    MaglevTerminates endpoints ringSize ↔ endpoints.length = 1 ∨
      ∃ taken, Run (Takes (cursor ringSize)) [] (turnOrder endpoints ringSize) taken := by
  have owned : MaglevTerminates endpoints ringSize ↔
      ∃ ring, MaglevReturns endpoints ringSize ring :=
    ⟨fun ⟨ring, returned, _⟩ => ⟨ring, returned⟩,
      fun ⟨ring, returned⟩ => ⟨ring, returned, returned.slot_owned nonempty small⟩⟩
  have positive := List.length_pos_iff.mpr nonempty
  rw [owned]
  by_cases single : endpoints.length = 1
  · obtain ⟨endpoint, rfl⟩ := List.length_eq_one_iff.mp single
    exact iff_of_true ⟨_, 0, rfl⟩ (.inl single)
  · rw [or_iff_right single]
    exact maglevReturns_iff_run wide (by omega) small

/-! ## Turns that find a slot -/

/-- While fewer slots are taken than its walk has positions, an endpoint finds one. -/
theorem hasFree_of_lt_reach (prime : ringSize.Prime) (fits : ringSize < 2 ^ 31)
    (member : turn ∈ turns endpoints ringSize) {used : List Nat} (unfilled : used.length < ringSize)
    (few : used.length < turn.reach) : ∃ next, cursor ringSize turn next ∉ used :=
  exists_stride_notMem ((coprime_skip prime member).coprime_dvd_left (Nat.gcd_dvd_left _ _))
    (gcd_skip_lt prime.two_le fits member) unfilled few

/-- Without wrapping it always finds one. -/
theorem hasFree_of_exact (prime : ringSize.Prime) (member : turn ∈ turns endpoints ringSize)
    {used : List Nat} (unfilled : used.length < ringSize) :
    ∃ next, exactCursor ringSize turn next ∉ used := by
  have coprime : Nat.gcd turn.skip ringSize = 1 := coprime_skip prime member
  obtain ⟨next, unused⟩ : ∃ next, stride ringSize ringSize turn.offset turn.skip next ∉ used := by
    apply exists_stride_notMem _ _ unfilled
    · rwa [coprime, Nat.div_one]
    · rw [coprime]
      exact Nat.coprime_one_left ringSize
    · rw [coprime]
      exact prime.one_lt
  refine ⟨next, ?_⟩
  rwa [stride, Nat.mod_mod] at unused

/-- The turns of the careful walks are all taken. -/
theorem exists_run_careful (prime : ringSize.Prime) (fits : ringSize < 2 ^ 31)
    (nonempty : endpoints ≠ []) :
    ∃ taken, Run (Takes (carefulCursor endpoints ringSize)) [] (turnOrder endpoints ringSize)
      taken := by
  refine exists_run_iff.mpr fun done turn rest split before reached => ?_
  have member : turn ∈ turns endpoints ringSize := by
    apply mem_of_mem_turnOrder
    rw [split]
    exact List.mem_append_right _ List.mem_cons_self
  have length : (turnOrder endpoints ringSize).length = ringSize := length_turnOrder nonempty
  have counted := length_of_run reached
  rw [split, List.length_append, List.length_cons] at length
  rw [List.length_nil, Nat.zero_add] at counted
  have unfilled : (places (carefulCursor endpoints ringSize) before).length < ringSize := by
    rw [length_places]
    omega
  by_cases cramped : Cramped endpoints ringSize turn
  · obtain ⟨next, unused⟩ := hasFree_of_exact prime member unfilled
    exact ⟨next, by rwa [carefulCursor, if_pos cramped]⟩
  · have few : (places (carefulCursor endpoints ringSize) before).length < turn.reach := by
      rw [length_places, counted]
      refine Nat.lt_of_not_le fun many => cramped ⟨done.length, by omega, ?_, many⟩
      rw [split, List.getElem?_append_right (Nat.le_refl _), Nat.sub_self, List.getElem?_cons_zero]
    obtain ⟨next, unused⟩ := hasFree_of_lt_reach prime fits member unfilled few
    exact ⟨next, by rwa [carefulCursor, if_neg cramped]⟩

/-- Below `2^32` the careful walks are the walks. -/
theorem carefulCursor_eq {next : Nat}
    (below : Cramped endpoints ringSize turn → turn.offset + next * turn.skip < 2 ^ 32) :
    carefulCursor endpoints ringSize turn next = cursor ringSize turn next := by
  unfold carefulCursor
  split
  next cramped => rw [exactCursor, cursor, Nat.mod_eq_of_lt (below cramped)]
  next => rfl

private theorem position_le {next earlier : Nat} (before : earlier ≤ next) :
    turn.offset + earlier * turn.skip ≤ turn.offset + next * turn.skip :=
  Nat.add_le_add_left (Nat.mul_le_mul_right turn.skip before) turn.offset

/-- If no cramped endpoint gets to a position that wraps, the slots are those of the walks. -/
theorem run_of_careful {done : List Turn} {taken : List (Turn × Nat)}
    (run : Run (Takes (carefulCursor endpoints ringSize)) [] done taken)
    (below : ∀ turn ∈ taken, Cramped endpoints ringSize turn.1 →
      turn.1.offset + turn.2 * turn.1.skip < 2 ^ 32) :
    Run (Takes (cursor ringSize)) [] done taken := by
  refine run_congr run fun turn member earlier before => carefulCursor_eq fun cramped => ?_
  exact Nat.lt_of_le_of_lt (position_le before) (below turn member cramped)

/-- **When the generator terminates.** For a prime ring size, the generator returns a ring of
the endpoints' numbers if no cramped endpoint would be led past `2^32`; every other input leads
a cramped endpoint to a sum that wraps. Whether it then returns is decided by whether every turn
still finds one of the slots that its walk meets. -/
theorem maglev_terminates_of_staysBelow (prime : ringSize.Prime) (fits : ringSize < 2 ^ 31)
    (nonempty : endpoints ≠ []) (small : ∀ endpoint ∈ endpoints, endpoint.num < 2 ^ 31) :
    (StaysBelow endpoints ringSize → MaglevTerminates endpoints ringSize) ∧
    (¬ StaysBelow endpoints ringSize → WrapsAround endpoints ringSize) ∧
    (MaglevTerminates endpoints ringSize ↔ AlwaysFree endpoints ringSize) := by
  have wide := prime.two_le
  have terminates := maglevTerminates_iff wide nonempty small
  refine ⟨?_, ?_, ?_⟩
  · intro stays
    refine terminates.mpr (stays.imp_right fun below => ?_)
    obtain ⟨taken, run⟩ := exists_run_careful prime fits nonempty
    exact ⟨taken, run_of_careful run (below taken run)⟩
  · intro leaves
    obtain ⟨_, past⟩ := not_or.mp leaves
    obtain ⟨taken, past⟩ := not_forall.mp past
    obtain ⟨run, past⟩ := Classical.not_imp.mp past
    -- the first turn that gets past `2^32` comes after turns that do not wrap
    rcases good_or_first (fun turn => Cramped endpoints ringSize turn.1 →
        turn.1.offset + turn.2 * turn.1.skip < 2 ^ 32) run nofun with
      all | ⟨done, turn, rest, before, step, split, reached, below, first, bad⟩
    · exact (past all).elim
    obtain ⟨cramped, beyond⟩ := Classical.not_imp.mp bad
    have listed : done ⊆ turns endpoints ringSize := by
      intro other member
      apply mem_of_mem_turnOrder
      rw [split]
      exact List.mem_append_left _ member
    obtain ⟨fill, filled, follows⟩ := (Follows.start _ endpoints).placings_returns
      (indexed_turns small) (by omega) (Nat.le_refl (2 ^ 32)) listed (run_of_careful reached below)
    refine ⟨2 ^ 32, done, turn, rest, fill, split, filled, cramped, ?_⟩
    intro next inside
    have earlier : next < step :=
      Nat.lt_of_not_le fun late => beyond (Nat.lt_of_le_of_lt (position_le late) inside)
    have same : places (carefulCursor endpoints ringSize) before =
        places (cursor ringSize) before :=
      places_congr fun turn member => carefulCursor_eq (below turn member)
    apply (follows.occupied _ (cursor_lt (by omega) turn next)).mpr
    rw [← same, ← carefulCursor_eq fun _ => inside]
    exact first.passed next earlier
  · rw [terminates, exists_run_iff]
    refine or_congr_right ?_
    constructor
    · intro free done turn rest split taken run
      obtain ⟨next, unused⟩ := free done turn rest split taken run
      exact ⟨_, stride_mem_met (by decide) next, unused⟩
    · intro free done turn rest split taken run
      obtain ⟨slot, met, unused⟩ := free done turn rest split taken run
      have member : turn ∈ turns endpoints ringSize := by
        apply mem_of_mem_turnOrder
        rw [split]
        exact List.mem_append_right _ List.mem_cons_self
      obtain ⟨next, rfl⟩ := (mem_met_iff (gcd_skip_lt wide fits member)).mp met
      exact ⟨next, unused⟩

/-! ## Endpoints that take the whole ring -/

/-- A first endpoint with the ring size as its weight has all turns. -/
theorem turnOrder_of_heavy {first : Endpoint} {rest : List Endpoint}
    (heavy : ringSize ≤ first.weight) :
    turnOrder (first :: rest) ringSize = List.replicate ringSize {
      index := 0, num := first.num, offset := (genMaglevPermuation first ringSize).1
      skip := (genMaglevPermuation first ringSize).2, weight := first.weight } := by
  rw [turnOrder, turns, List.mapIdx_cons, roundOrder, List.map_cons, schedule_cons,
    List.append_assoc, List.take_append_of_le_length (by rwa [List.length_replicate]),
    List.take_replicate, Nat.min_eq_left heavy]

/-- An endpoint with more turns than its walk has positions searches forever. -/
theorem not_maglevTerminates_of_count (prime : ringSize.Prime) (several : 2 ≤ endpoints.length)
    (small : ∀ endpoint ∈ endpoints, endpoint.num < 2 ^ 31)
    (many : turn.reach < (turnOrder endpoints ringSize).count turn) :
    ¬ MaglevTerminates endpoints ringSize := by
  rintro ⟨ring, returned, _⟩
  obtain ⟨taken, run⟩ := (maglevReturns_iff_run prime.two_le several small).mp ⟨ring, returned⟩
  have atMost : (turnOrder endpoints ringSize).count turn ≤
      (met (2 ^ 32) ringSize turn.offset turn.skip).card :=
    count_le_card run fun next => stride_mem_met (by decide) next
  have bounded := card_met_le (2 ^ 32) ringSize turn.offset turn.skip
  exact absurd (Nat.lt_of_lt_of_le many (Nat.le_trans atMost bounded)) (Nat.lt_irrefl _)

/-- So does a first endpoint that is to take the whole ring and cannot. -/
theorem not_maglevTerminates_of_heavy {first : Endpoint} {rest : List Endpoint}
    (prime : ringSize.Prime) (several : rest ≠ [])
    (small : ∀ endpoint ∈ first :: rest, endpoint.num < 2 ^ 31) (heavy : ringSize ≤ first.weight)
    (few : 2 ^ 32 / Nat.gcd (genMaglevPermuation first ringSize).2 (2 ^ 32) < ringSize) :
    ¬ MaglevTerminates (first :: rest) ringSize := by
  have others := List.length_pos_iff.mpr several
  apply not_maglevTerminates_of_count prime _ small
  · rw [turnOrder_of_heavy heavy, List.count_replicate_self]
    exact few
  · rw [List.length_cons]
    omega

/-- The first endpoint takes the whole default ring. The second has the skip 65536, whose walk
misses a slot, but no turn. -/
theorem maglev_terminates_of_staysBelow_heavy :
    Nat.Prime kDefaultChRingSize ∧ (genMaglevPermuation ⟨1, 1, 156164⟩ kDefaultChRingSize).2 =
      65536 ∧ MaglevTerminates [⟨2, 65537, 1⟩, ⟨1, 1, 156164⟩] kDefaultChRingSize := by
  have prime : Nat.Prime kDefaultChRingSize := by norm_num [kDefaultChRingSize]
  refine ⟨prime, by decide +kernel, ?_⟩
  refine (maglev_terminates_of_staysBelow prime (by decide) (by simp) (by simp)).1 (.inr ?_)
  rintro taken run turn member ⟨count, inside, _, crowded⟩
  have heavy : kDefaultChRingSize ≤ (⟨2, 65537, 1⟩ : Endpoint).weight := Nat.le_refl 65537
  have order := members_of_run run
  rw [turnOrder_of_heavy heavy, List.map_nil, List.nil_append] at order
  have first := List.eq_of_mem_replicate (order ▸ List.mem_map_of_mem member)
  rw [first] at crowded
  have ample : kDefaultChRingSize ≤ Turn.reach {
      index := 0, num := 2, offset := (genMaglevPermuation ⟨2, 65537, 1⟩ kDefaultChRingSize).1
      skip := (genMaglevPermuation ⟨2, 65537, 1⟩ kDefaultChRingSize).2, weight := 65537 } := by
    decide +kernel
  exact absurd (Nat.lt_of_lt_of_le inside ample) (Nat.not_lt.mpr crowded)

/-- For the default ring size, the generator never returns if the first of two endpoints has
the skip 65536, whose walk wraps after 65536 steps, and the ring size as its weight. -/
theorem maglev_hangs :
    Nat.Prime kDefaultChRingSize ∧ (genMaglevPermuation ⟨1, 65537, 156164⟩ kDefaultChRingSize).2 =
      65536 ∧ ¬ MaglevTerminates [⟨1, 65537, 156164⟩, ⟨2, 1, 1⟩] kDefaultChRingSize := by
  have prime : Nat.Prime kDefaultChRingSize := by norm_num [kDefaultChRingSize]
  have wraps : (genMaglevPermuation ⟨1, 65537, 156164⟩ kDefaultChRingSize).2 = 65536 := by
    decide +kernel
  refine ⟨prime, wraps, ?_⟩
  have heavy : kDefaultChRingSize ≤ (⟨1, 65537, 156164⟩ : Endpoint).weight := Nat.le_refl 65537
  apply not_maglevTerminates_of_heavy prime (List.cons_ne_nil _ _) (by simp) heavy
  rw [wraps]
  decide

end Katran
