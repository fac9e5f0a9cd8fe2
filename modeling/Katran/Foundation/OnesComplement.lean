import Mathlib.Data.Nat.ModEq
import Mathlib.Tactic.Common

/-! # One's-complement sums

A word is a number up to `top`, all of whose bits are ones. The sum of two words has an
end-around carry: what does not fit is added again at the low end (`fold`). Modulo `top`
this is the sum of numbers, but zero has two representations, and a sum is the lower one
only if all words are (`sum_eq_zero_iff`). A checksum is valid if the sum over all words is
`top`, which is to say that the words add up to a multiple of `top` other than zero
(`sum_eq_top_iff`).
-/

namespace Katran.Foundation.OnesComplement

/-- Add what does not fit into a word to the rest. -/
def fold (top value : Nat) : Nat := value % (top + 1) + value / (top + 1)

/-- The sum of two words. -/
def add (top first second : Nat) : Nat := fold top (first + second)

/-- The sum of a list of words. -/
def sum (top : Nat) (words : List Nat) : Nat := words.foldr (add top) 0

variable {top value first second : Nat} {words : List Nat}

/-! ## Folding -/

/-- A value that fits is not folded. -/
theorem fold_of_le (bound : value ≤ top) : fold top value = value := by
  unfold fold
  rw [Nat.mod_eq_of_lt (by omega), Nat.div_eq_of_lt (by omega), Nat.add_zero]

/-- Only zero is folded to zero. -/
theorem fold_eq_zero_iff (top value : Nat) : fold top value = 0 ↔ value = 0 := by
  have division := Nat.mod_add_div value (top + 1)
  unfold fold
  constructor
  · intro vanishes
    obtain ⟨remainder, quotient⟩ := Nat.add_eq_zero_iff.mp vanishes
    rw [remainder, quotient] at division
    exact division.symm
  · rintro rfl
    rw [Nat.zero_mod, Nat.zero_div]

/-- Folding keeps the value modulo the largest word. -/
theorem fold_modEq (top value : Nat) : fold top value ≡ value [MOD top] := by
  have carried : top * (value / (top + 1)) ≡ 0 [MOD top] :=
    Nat.modEq_zero_iff_dvd.mpr (Nat.dvd_mul_right top _)
  have split : fold top value + top * (value / (top + 1)) = value := by
    have division := Nat.mod_add_div value (top + 1)
    rw [Nat.add_mul, Nat.one_mul] at division
    unfold fold
    omega
  calc
    fold top value ≡ fold top value + top * (value / (top + 1)) [MOD top] :=
      Nat.ModEq.add_left _ carried.symm
    _ ≡ value [MOD top] := by rw [split]

/-! ## Sums -/

/-- The sum of two words is a word. -/
theorem add_le (bound : first ≤ top) (other : second ≤ top) : add top first second ≤ top := by
  unfold add
  by_cases small : first + second ≤ top
  · rw [fold_of_le small]
    exact small
  · have quotient : (first + second) / (top + 1) = 1 :=
      Nat.div_eq_of_lt_le (by omega) (by omega)
    have division := Nat.mod_add_div (first + second) (top + 1)
    unfold fold
    rw [quotient] at division ⊢
    omega

/-- The sum of words is a word. -/
theorem sum_le (bounded : ∀ word ∈ words, word ≤ top) : sum top words ≤ top := by
  induction words with
  | nil => exact Nat.zero_le top
  | cons word words smaller =>
      rw [List.forall_mem_cons] at bounded
      exact add_le bounded.1 (smaller bounded.2)

/-- The sum is zero only if all words are. -/
theorem sum_eq_zero_iff (top : Nat) (words : List Nat) : sum top words = 0 ↔ words.sum = 0 := by
  induction words with
  | nil => exact Iff.rfl
  | cons word words same =>
      change fold top (word + sum top words) = 0 ↔ _
      rw [fold_eq_zero_iff, List.sum_cons, Nat.add_eq_zero_iff, Nat.add_eq_zero_iff, same]

/-- The sum is that of the words modulo the largest one. -/
theorem sum_modEq (top : Nat) (words : List Nat) : sum top words ≡ words.sum [MOD top] := by
  induction words with
  | nil => rfl
  | cons word words same =>
      calc
        fold top (word + sum top words) ≡ word + sum top words [MOD top] := fold_modEq ..
        _ ≡ word + words.sum [MOD top] := Nat.ModEq.add_left word same
        _ ≡ (word :: words).sum [MOD top] := by rw [List.sum_cons]

/-- A sum is all ones if the words add up to a positive multiple of `top`. -/
theorem sum_eq_top_iff (positive : 0 < top) (bounded : ∀ word ∈ words, word ≤ top) :
    sum top words = top ↔ words.sum ≠ 0 ∧ top ∣ words.sum := by
  have whole : top ∣ words.sum ↔ top ∣ sum top words := by
    rw [← Nat.modEq_zero_iff_dvd, ← Nat.modEq_zero_iff_dvd]
    exact ⟨(sum_modEq top words).trans, (sum_modEq top words).symm.trans⟩
  rw [whole, ne_eq, ← sum_eq_zero_iff top]
  constructor
  · intro full
    rw [full]
    exact ⟨Nat.ne_of_gt positive, Nat.dvd_refl top⟩
  · rintro ⟨nonzero, divides⟩
    exact Nat.le_antisymm (sum_le bounded) (Nat.le_of_dvd (Nat.pos_of_ne_zero nonzero) divides)

end Katran.Foundation.OnesComplement
