import Mathlib.Data.Finset.Card
import Mathlib.Data.Int.GCD
import Mathlib.Data.Nat.ModEq
import Mathlib.Tactic.Ring

/-! # Walking a table in wrapping arithmetic

A walk starts at an offset and advances by a fixed skip, in arithmetic modulo `modulus`,
and the table entry is the position modulo `size`. The positions are those that agree with
the offset modulo `gcd skip modulus`, so there are `modulus / gcd skip modulus` of them, and
the entries that are met are known (`mem_met_iff`). If the greatest common divisor is prime to
the size, these are as many as there are positions, or all (`card_met_le`, `min_le_card_met`).
So a walk finds an unused entry while fewer are used (`exists_stride_notMem`).
-/

namespace Katran.Foundation

variable {modulus size offset skip : Nat}

/-- The entry of the table after a number of steps. -/
def stride (modulus size offset skip steps : Nat) : Nat := (offset + steps * skip) % modulus % size

/-- Steps count modulo the modulus. -/
theorem stride_congr {steps others : Nat} (same : steps ≡ others [MOD modulus]) :
    stride modulus size offset skip steps = stride modulus size offset skip others := by
  have moved : (offset + steps * skip) % modulus = (offset + others * skip) % modulus :=
    Nat.ModEq.add_left offset (same.mul_right skip)
  unfold stride
  rw [moved]

/-- The walk meets every position that agrees with the offset modulo the greatest common
divisor. -/
theorem exists_position_eq {position : Nat} (inside : position < modulus)
    (proper : Nat.gcd skip modulus < modulus)
    (agrees : position ≡ offset [MOD Nat.gcd skip modulus]) :
    ∃ steps, (offset + steps * skip) % modulus = position := by
  obtain ⟨inverse, _, inverted⟩ := Nat.exists_mul_mod_eq_gcd proper
  have positive : 0 < modulus := Nat.zero_lt_of_lt inside
  have divides : Nat.gcd skip modulus ∣ modulus := Nat.gcd_dvd_right skip modulus
  have lower : offset ≤ position + modulus * offset :=
    Nat.le_trans (Nat.le_mul_of_pos_left offset positive) (Nat.le_add_left _ _)
  -- going round the modulus often enough, the way to the position is a multiple of the divisor
  have ahead : offset ≡ position + modulus * offset [MOD Nat.gcd skip modulus] := by
    have multiple : modulus * offset ≡ 0 [MOD Nat.gcd skip modulus] :=
      (Nat.modEq_zero_iff_dvd.mpr (divides.mul_right offset))
    have added := agrees.add multiple
    rw [Nat.add_zero] at added
    exact added.symm
  obtain ⟨distance, away⟩ := (Nat.modEq_iff_dvd' lower).mp ahead
  refine ⟨inverse * distance, ?_⟩
  have walked : inverse * distance * skip ≡ Nat.gcd skip modulus * distance [MOD modulus] := by
    have turned : skip * inverse ≡ Nat.gcd skip modulus [MOD modulus] := by
      rw [Nat.ModEq, inverted, Nat.mod_eq_of_lt proper]
    have scaled := turned.mul_right distance
    rwa [show skip * inverse * distance = inverse * distance * skip by ring] at scaled
  have arrived : offset + inverse * distance * skip ≡ position + modulus * offset
      [MOD modulus] := by
    have sum := walked.add_left offset
    rwa [← away, Nat.add_sub_cancel' lower] at sum
  rw [arrived, Nat.add_mul_mod_self_left, Nat.mod_eq_of_lt inside]

/-- The entries that the walk meets. -/
def met (modulus size offset skip : Nat) : Finset Nat :=
  (Finset.range (modulus / Nat.gcd skip modulus)).image fun count =>
    (offset % Nat.gcd skip modulus + Nat.gcd skip modulus * count) % size

/-- Every step of a walk is met. -/
theorem stride_mem_met (positive : 0 < modulus) (steps : Nat) :
    stride modulus size offset skip steps ∈ met modulus size offset skip := by
  have divides : Nat.gcd skip modulus ∣ modulus := Nat.gcd_dvd_right skip modulus
  have position : (offset + steps * skip) % modulus % Nat.gcd skip modulus =
      offset % Nat.gcd skip modulus := by
    have multiple : steps * skip ≡ 0 [MOD Nat.gcd skip modulus] :=
      Nat.modEq_zero_iff_dvd.mpr ((Nat.gcd_dvd_left skip modulus).mul_left steps)
    rw [Nat.mod_mod_of_dvd _ divides]
    exact multiple.add_left offset
  refine Finset.mem_image.mpr ⟨(offset + steps * skip) % modulus / Nat.gcd skip modulus, ?_, ?_⟩
  · rw [Finset.mem_range]
    exact Nat.div_lt_div_of_lt_of_dvd divides (Nat.mod_lt _ positive)
  · rw [← position, Nat.mod_add_div]
    rfl

/-- These are all entries that it meets. -/
theorem mem_met_iff (proper : Nat.gcd skip modulus < modulus) {entry : Nat} :
    entry ∈ met modulus size offset skip ↔
      ∃ steps, stride modulus size offset skip steps = entry := by
  have positive : 0 < modulus := Nat.zero_lt_of_lt proper
  constructor
  · intro member
    obtain ⟨count, few, rfl⟩ := Finset.mem_image.mp member
    rw [Finset.mem_range] at few
    have divisor : 0 < Nat.gcd skip modulus := Nat.gcd_pos_of_pos_right skip positive
    have inside : offset % Nat.gcd skip modulus + Nat.gcd skip modulus * count < modulus := by
      have whole := Nat.mul_div_cancel' (Nat.gcd_dvd_right skip modulus)
      have below := Nat.mul_le_mul_left (Nat.gcd skip modulus) few
      have rest := Nat.mod_lt offset divisor
      rw [Nat.mul_succ] at below
      omega
    have agrees : offset % Nat.gcd skip modulus + Nat.gcd skip modulus * count ≡
        offset [MOD Nat.gcd skip modulus] := by
      rw [Nat.ModEq, Nat.add_mul_mod_self_left, Nat.mod_mod]
    obtain ⟨steps, reached⟩ := exists_position_eq inside proper agrees
    exact ⟨steps, by rw [stride, reached]⟩
  · rintro ⟨steps, rfl⟩
    exact stride_mem_met positive steps

/-- There are no more of them than positions. -/
theorem card_met_le (modulus size offset skip : Nat) :
    (met modulus size offset skip).card ≤ modulus / Nat.gcd skip modulus := by
  refine Nat.le_trans Finset.card_image_le ?_
  rw [Finset.card_range]

/-- And no fewer, unless they are all entries. -/
theorem min_le_card_met (coprime : Nat.Coprime (Nat.gcd skip modulus) size) :
    min size (modulus / Nat.gcd skip modulus) ≤ (met modulus size offset skip).card := by
  have apart : Set.InjOn (fun count => (offset % Nat.gcd skip modulus +
      Nat.gcd skip modulus * count) % size)
      (Finset.range (min size (modulus / Nat.gcd skip modulus))) := by
    intro first firstInside second secondInside same
    rw [Finset.mem_coe, Finset.mem_range] at firstInside secondInside
    have cancelled : first ≡ second [MOD size] :=
      Nat.ModEq.cancel_left_of_coprime coprime.symm (Nat.ModEq.add_left_cancel' _ same)
    rw [Nat.ModEq, Nat.mod_eq_of_lt (by omega), Nat.mod_eq_of_lt (by omega)] at cancelled
    exact cancelled
  calc min size (modulus / Nat.gcd skip modulus)
      = ((Finset.range (min size (modulus / Nat.gcd skip modulus))).image fun count =>
          (offset % Nat.gcd skip modulus + Nat.gcd skip modulus * count) % size).card := by
        rw [Finset.card_image_of_injOn apart, Finset.card_range]
    _ ≤ (met modulus size offset skip).card := by
        refine Finset.card_le_card (Finset.image_subset_image ?_)
        exact Finset.range_mono (Nat.min_le_right _ _)

/-- As long as fewer entries are used than the walk has positions, it meets one that is not. -/
theorem exists_stride_notMem (coprime : Nat.Coprime (Nat.gcd skip modulus) size)
    (proper : Nat.gcd skip modulus < modulus) {used : List Nat} (unfilled : used.length < size)
    (few : used.length < modulus / Nat.gcd skip modulus) :
    ∃ steps, stride modulus size offset skip steps ∉ used := by
  have more : used.toFinset.card < (met modulus size offset skip).card := by
    have enough : min size (modulus / Nat.gcd skip modulus) ≤
        (met modulus size offset skip).card := min_le_card_met coprime
    have atMost := List.toFinset_card_le used
    omega
  obtain ⟨entry, member, unused⟩ := Finset.exists_mem_notMem_of_card_lt_card more
  obtain ⟨steps, rfl⟩ := (mem_met_iff proper).mp member
  exact ⟨steps, fun listed => unused (List.mem_toFinset.mpr listed)⟩

end Katran.Foundation
