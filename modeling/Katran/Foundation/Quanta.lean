import Mathlib.Data.List.Basic

/-! # Limiting events by quanta of time

A limiter counts the events of a quantum of time and lets through only so many of them. A
quantum has no end of its own: the first event that is later than a period after its
beginning begins the next one. So the quanta are not aligned to anything, and a window as
long as the period meets at most two of them (`Quantum.rateBound_events`).
-/

namespace Katran.Foundation

/-- What a limiter knows: the events of the present quantum, and when it began. -/
structure Quantum where
  count : Nat
  since : Nat

/-- An event, whether it began a quantum, and whether it was let through. -/
structure TimedEvent where
  time : Nat
  renewed : Bool
  passed : Bool

/-- No more than twice the limit pass in a window as long as the period, and no more than the
limit from one renewal to the next. -/
structure RateBound (period limit : Nat) (events : List TimedEvent) : Prop where
  window : ∀ start stop, stop ≤ start + period →
    (events.countP fun event => event.passed ∧ start ≤ event.time ∧ event.time ≤ stop) ≤ 2 * limit
  quantum : ∀ block, block <:+: events → (∀ event ∈ block.tail, event.renewed = false) →
    block.countP (·.passed) ≤ limit

namespace Quantum

variable (limit period : Nat)

/-- The quantum after an event. -/
def next (now : Nat) (quantum : Quantum) : Quantum :=
  if period < now - quantum.since then ⟨1, now⟩ else ⟨quantum.count + 1, quantum.since⟩

/-- What happens to an event. -/
def event (now : Nat) (quantum : Quantum) : TimedEvent where
  time := now
  renewed := period < now - quantum.since
  passed := period < now - quantum.since ∨ quantum.count + 1 ≤ limit

/-- What happens to the events of some times. -/
def events : Quantum → List Nat → List TimedEvent
  | _, [] => []
  | quantum, now :: times =>
      quantum.event limit period now :: events (quantum.next period now) times

variable {limit period} {quantum : Quantum} {times : List Nat}

/-- Every event is that of some time. -/
theorem time_of_mem_events {event : TimedEvent}
    (listed : event ∈ events limit period quantum times) : event.time ∈ times := by
  induction times generalizing quantum with
  | nil => exact absurd listed (List.not_mem_nil)
  | cons now times ih =>
      rcases List.mem_cons.mp listed with rfl | later
      · exact List.mem_cons_self
      · exact List.mem_cons_of_mem _ (ih later)

/-- The events from some point on are those of a quantum. -/
theorem events_append {before after : List TimedEvent}
    (split : events limit period quantum times = before ++ after) :
    ∃ (later : Quantum) (rest : List Nat), after = events limit period later rest := by
  induction before generalizing quantum times with
  | nil => exact ⟨quantum, times, split.symm⟩
  | cons head before ih =>
      cases times with
      | nil => exact absurd split.symm (List.cons_ne_nil _ _)
      | cons now times => exact ih (List.cons.inj split).2

/-! ## From one renewal to the next -/

/-- Without a renewal, what passes is what the limit leaves. -/
theorem countP_of_not_renewed {block after : List TimedEvent}
    (split : events limit period quantum times = block ++ after)
    (same : ∀ event ∈ block, event.renewed = false) :
    block.countP (·.passed) ≤ limit - quantum.count := by
  induction block generalizing quantum times with
  | nil => exact Nat.zero_le _
  | cons head block ih =>
      cases times with
      | nil => exact absurd split.symm (List.cons_ne_nil _ _)
      | cons now times =>
          obtain ⟨rfl, rest⟩ := List.cons.inj split
          have soon : ¬ period < now - quantum.since :=
            of_decide_eq_false (same _ List.mem_cons_self)
          have later := ih rest fun event listed => same event (List.mem_cons_of_mem _ listed)
          rw [next, if_neg soon] at later
          dsimp only at later
          rw [List.countP_cons]
          simp only [event, soon, false_or, decide_eq_true_eq]
          split <;> omega

/-- The first event of a quantum passes even if the limit is zero. -/
theorem countP_block {block after : List TimedEvent}
    (split : events limit period quantum times = block ++ after)
    (same : ∀ event ∈ block.tail, event.renewed = false) :
    block.countP (·.passed) ≤ max 1 limit := by
  cases block with
  | nil => exact Nat.zero_le _
  | cons head block =>
      cases times with
      | nil => exact absurd split.symm (List.cons_ne_nil _ _)
      | cons now times =>
          obtain ⟨rfl, rest⟩ := List.cons.inj split
          have later := countP_of_not_renewed rest same
          rw [List.countP_cons]
          by_cases late : period < now - quantum.since
          · rw [next, if_pos late] at later
            dsimp only at later
            simp only [event, late, true_or, decide_true, ↓reduceIte]
            omega
          · rw [next, if_neg late] at later
            dsimp only at later
            simp only [event, late, false_or, decide_eq_true_eq]
            split <;> omega

/-! ## Windows -/

/-- What passes of some events in a window. -/
def passedIn (start stop : Nat) (events : List TimedEvent) : Nat :=
  events.countP fun event => event.passed ∧ start ≤ event.time ∧ event.time ≤ stop

/-- One more event passes or not. -/
theorem passedIn_cons (start stop : Nat) (event : TimedEvent) (events : List TimedEvent) :
    passedIn start stop (event :: events) = passedIn start stop events +
      if event.passed = true ∧ start ≤ event.time ∧ event.time ≤ stop then 1 else 0 := by
  unfold passedIn
  rw [List.countP_cons]
  simp only [decide_eq_true_eq]

/-- A window that is over. -/
theorem passedIn_of_lt {start stop : Nat} (ended : ∀ time ∈ times, stop < time) :
    passedIn start stop (events limit period quantum times) = 0 := by
  refine List.countP_eq_zero.mpr fun event listed inside => ?_
  have within := (of_decide_eq_true inside).2.2
  have late := ended event.time (time_of_mem_events listed)
  omega

/-- A window that begins within the quantum has no room for another quantum. -/
theorem passedIn_of_since {start stop : Nat} (short : stop ≤ start + period)
    (begun : start ≤ quantum.since) (ordered : times.Pairwise (· ≤ ·)) :
    passedIn start stop (events limit period quantum times) ≤ limit - quantum.count := by
  induction times generalizing quantum with
  | nil => exact Nat.zero_le _
  | cons now times ih =>
      obtain ⟨after, ordered⟩ := List.pairwise_cons.mp ordered
      by_cases late : period < now - quantum.since
      · have ended : ∀ time ∈ now :: times, stop < time := by
          intro time listed
          rcases List.mem_cons.mp listed with rfl | later
          · omega
          · have order := after time later
            omega
        rw [passedIn_of_lt ended]
        exact Nat.zero_le _
      · rw [events, passedIn_cons, next, if_neg late]
        have later := @ih ⟨quantum.count + 1, quantum.since⟩ begun ordered
        dsimp only at later
        simp only [event, late, false_or, decide_eq_true_eq]
        split <;> omega

/-- A window that has begun meets the present quantum and the next. -/
theorem passedIn_of_begun {start stop : Nat} (short : stop ≤ start + period)
    (begun : ∀ time ∈ times, start ≤ time) (ordered : times.Pairwise (· ≤ ·)) :
    passedIn start stop (events limit period quantum times) ≤
      max 1 limit + (limit - quantum.count) := by
  induction times generalizing quantum with
  | nil => exact Nat.zero_le _
  | cons now times ih =>
      obtain ⟨_, ordered⟩ := List.pairwise_cons.mp ordered
      rw [events, passedIn_cons]
      by_cases late : period < now - quantum.since
      · rw [next, if_pos late]
        refine Nat.le_trans (Nat.add_le_add_right
          (passedIn_of_since short (begun now List.mem_cons_self) ordered) _) ?_
        dsimp only
        split <;> omega
      · have later : ∀ time ∈ times, start ≤ time := fun time listed =>
          begun time (List.mem_cons_of_mem _ listed)
        rw [next, if_neg late]
        refine Nat.le_trans (Nat.add_le_add_right (ih later ordered) _) ?_
        simp only [event, late, false_or, decide_eq_true_eq]
        split <;> omega

/-- No more than twice the limit pass in a period. -/
theorem passedIn_le {start stop : Nat} (short : stop ≤ start + period)
    (ordered : times.Pairwise (· ≤ ·)) :
    passedIn start stop (events limit period quantum times) ≤ 2 * max 1 limit := by
  induction times generalizing quantum with
  | nil => exact Nat.zero_le _
  | cons now times ih =>
      by_cases before : now < start
      · rw [events, passedIn_cons, if_neg fun inside => Nat.not_le.mpr before inside.2.1]
        exact ih (List.pairwise_cons.mp ordered).2
      · have begun : ∀ time ∈ now :: times, start ≤ time := by
          intro time listed
          rcases List.mem_cons.mp listed with rfl | later
          · exact Nat.not_lt.mp before
          · have order := (List.pairwise_cons.mp ordered).1 time later
            omega
        refine Nat.le_trans (passedIn_of_begun short begun ordered) ?_
        omega

/-- The limiter keeps its limit, or lets through one event of each quantum if that is
zero. -/
theorem rateBound_events (ordered : times.Pairwise (· ≤ ·)) :
    RateBound period (max 1 limit) (events limit period quantum times) where
  window _ _ short := passedIn_le short ordered
  quantum := by
    rintro block ⟨before, after, split⟩ same
    rw [List.append_assoc] at split
    obtain ⟨later, rest, tail⟩ := events_append split.symm
    exact countP_block tail.symm same

end Quantum

/-- Less passes. -/
theorem RateBound.mono {α : Type} {period limit : Nat} {calls : List α}
    {more fewer : α → TimedEvent} (bound : RateBound period limit (calls.map more))
    (times : ∀ call ∈ calls, (fewer call).time = (more call).time)
    (renewals : ∀ call ∈ calls, (fewer call).renewed = (more call).renewed)
    (passed : ∀ call ∈ calls, (fewer call).passed = true → (more call).passed = true) :
    RateBound period limit (calls.map fewer) where
  window start stop short := by
    refine Nat.le_trans ?_ (bound.window start stop short)
    rw [List.countP_map, List.countP_map]
    refine List.countP_mono_left fun call listed counted => ?_
    obtain ⟨through, inside⟩ := of_decide_eq_true counted
    rw [times call listed] at inside
    exact decide_eq_true ⟨passed call listed through, inside⟩
  quantum := by
    intro block inside same
    obtain ⟨part, within, rfl⟩ := List.infix_map_iff.mp inside
    have listed : ∀ call ∈ part, call ∈ calls := fun _ inPart => within.subset inPart
    have sameMore : ∀ event ∈ (part.map more).tail, event.renewed = false := by
      rw [← List.map_tail]
      intro event inTail
      obtain ⟨call, inPart, rfl⟩ := List.mem_map.mp inTail
      rw [← renewals call (listed call (List.mem_of_mem_tail inPart))]
      refine same _ ?_
      rw [← List.map_tail]
      exact List.mem_map_of_mem inPart
    refine Nat.le_trans ?_ (bound.quantum (part.map more) (within.map more) sameMore)
    rw [List.countP_map, List.countP_map]
    exact List.countP_mono_left fun call inPart => passed call (listed call inPart)

end Katran.Foundation
