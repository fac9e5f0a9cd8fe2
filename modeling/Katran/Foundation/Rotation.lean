import Mathlib.Data.List.GetD
import Mathlib.Data.List.Rotate

/-! # What is written around the end of a buffer

The elements of a circular buffer from some position on are those of the buffer rotated by the
position. A list that starts there either fits before the end of the buffer or consists of the
buffer's rest and a part of its front.
-/

namespace Katran

namespace Foundation

variable {α : Type} {buffer first rest : List α} {pos : Nat}

/-- Less than one turn does not lead back. -/
theorem add_mod_ne {count size : Nat} (pos : Nat) (some : 0 < count) (part : count < size) :
    (pos + count) % size ≠ pos % size := by
  intro same
  have turns := Nat.sub_mod_eq_zero_of_mod_eq same
  rw [Nat.add_sub_cancel_left, Nat.mod_eq_of_lt part] at turns
  omega

/-- Reading with indices modulo the size of the buffer. -/
theorem map_range_mod_eq_take_rotate (buffer : List α) (default : α) (pos : Nat) {count : Nat}
    (fits : count ≤ buffer.length) :
    (List.range count).map (fun index => buffer.getD ((pos + index) % buffer.length) default) =
      (buffer.rotate pos).take count := by
  apply List.ext_getElem
  · rw [List.length_map, List.length_range, List.length_take, List.length_rotate]
    omega
  · intro index inRange inTake
    rw [List.length_map, List.length_range] at inRange
    have inside : (pos + index) % buffer.length < buffer.length := Nat.mod_lt _ (by omega)
    rw [List.getElem_map, List.getElem_range, List.getElem_take, List.getElem_rotate,
      List.getD_eq_getElem _ _ inside]
    simp only [Nat.add_comm]

/-- Behind the first of two lists, the second one starts. -/
theorem prefix_rotate_add (written : first ++ rest <+: buffer.rotate pos) :
    rest <+: buffer.rotate (pos + first.length) := by
  obtain ⟨others, whole⟩ := written
  have fits : first.length ≤ (buffer.rotate pos).length := by
    rw [← whole, List.length_append, List.length_append]
    omega
  rw [← List.rotate_rotate, List.rotate_eq_drop_append_take fits, ← whole, List.append_assoc,
    List.drop_left, List.append_assoc]
  exact List.prefix_append _ _

/-- A list that fits before the end of the buffer. -/
theorem prefix_drop_of_rotate (written : first <+: buffer.rotate pos)
    (fits : pos + first.length ≤ buffer.length) : first <+: buffer.drop pos := by
  rw [List.rotate_eq_drop_append_take (by omega)] at written
  apply List.prefix_of_prefix_length_le written (List.prefix_append _ _)
  rw [List.length_drop]
  omega

/-- A list that goes on at the front of the buffer. -/
theorem eq_append_of_rotate (written : first <+: buffer.rotate pos) (inside : pos ≤ buffer.length)
    (beyond : buffer.length ≤ pos + first.length) :
    first = buffer.drop pos ++ buffer.take (first.length - (buffer.length - pos)) := by
  have short := written.length_le
  rw [List.length_rotate] at short
  have taken := List.prefix_iff_eq_take.mp written
  rw [List.rotate_eq_drop_append_take inside, List.take_append,
    List.take_of_length_le (by rw [List.length_drop]; omega), List.length_drop,
    List.take_take, Nat.min_eq_left (by omega)] at taken
  exact taken

end Foundation

end Katran
