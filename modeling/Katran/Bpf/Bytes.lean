import Katran.Bpf.Memory

/-! # Reads after writes

Writing bytes keeps the length of a packet and every byte outside of the range that is
written. A packet that is put behind other bytes, or quoted by another packet, is read
there as it was.
-/

namespace Katran.Bytes

variable {data first second bytes : List UInt8} {off index start other : Nat}

theorem read8_drop (data : List UInt8) (start off : Nat) :
    read8 (data.drop start) off = read8 data (start + off) := by
  simp only [read8, List.getD_eq_getElem?_getD, List.getElem?_drop]

theorem read8_append_left (second : List UInt8) (inside : off < first.length) :
    read8 (first ++ second) off = read8 first off := by
  simp only [read8, List.getD_eq_getElem?_getD, List.getElem?_append_left inside]

theorem read8_append_right (second : List UInt8) (beyond : first.length ≤ off) :
    read8 (first ++ second) off = read8 second (off - first.length) := by
  simp only [read8, List.getD_eq_getElem?_getD, List.getElem?_append_right beyond]

/-! ## Quoted packets -/

/-- A byte of a packet that another one quotes. -/
theorem read8_of_quoted (quoted : first.drop start <+: second.drop other) (off : Nat)
    (inside : start + off < first.length) :
    read8 first (start + off) = read8 second (other + off) := by
  obtain ⟨rest, same⟩ := quoted
  have bound : off < (first.drop start).length := by
    rw [List.length_drop]
    omega
  rw [← read8_drop, ← read8_drop, ← same, read8_append_left rest bound]

/-- A half-word of bytes that are quoted elsewhere. -/
theorem read16_of_quoted (quoted : first.drop start <+: second.drop other) (off : Nat)
    (inside : start + off + 2 ≤ first.length) :
    read16 first (start + off) = read16 second (other + off) := by
  unfold read16
  rw [read8_of_quoted quoted _ (by omega), Nat.add_assoc, read8_of_quoted quoted _ (by omega),
    Nat.add_assoc]

/-- A word of bytes that are quoted elsewhere. -/
theorem read32_of_quoted (quoted : first.drop start <+: second.drop other) (off : Nat)
    (inside : start + off + 4 ≤ first.length) :
    read32 first (start + off) = read32 second (other + off) := by
  unfold read32
  rw [read16_of_quoted quoted _ (by omega), Nat.add_assoc, read16_of_quoted quoted _ (by omega),
    Nat.add_assoc]

/-- An address in bytes that are quoted elsewhere. -/
theorem read128_of_quoted (quoted : first.drop start <+: second.drop other) (off : Nat)
    (inside : start + off + 16 ≤ first.length) :
    read128 first (start + off) = read128 second (other + off) := by
  have word : ∀ more, more + 4 ≤ 16 →
      read32 first (start + off + more) = read32 second (other + off + more) := by
    intro more small
    rw [Nat.add_assoc, Nat.add_assoc]
    exact read32_of_quoted quoted _ (by omega)
  unfold read128
  rw [read32_of_quoted quoted _ (by omega), word 4 (by omega), word 8 (by omega),
    word 12 (by omega)]

/-! ## Writing -/

/-- A packet keeps its length when bytes are written into it. -/
@[simp] theorem length_write (data : List UInt8) (off : Nat) (bytes : List UInt8) :
    (write data off bytes).length = data.length := by
  simp only [write, List.length_append, List.length_take, List.length_drop]
  omega

@[simp] theorem length_copy (data : List UInt8) (dst src size : Nat) :
    (copy data dst src size).length = data.length := length_write ..

/-- Bytes outside of the range that is written. -/
theorem getElem?_write_of_outside (data : List UInt8)
    (outside : index < off ∨ off + bytes.length ≤ index) :
    (write data off bytes)[index]? = data[index]? := by
  by_cases inside : index < data.length
  · rcases outside with before | behind
    · rw [write, List.append_assoc, List.getElem?_append_left, List.getElem?_take, if_pos before]
      rw [List.length_take]
      omega
    · rw [write, List.getElem?_append_right, List.getElem?_drop]
      · congr 1
        simp only [List.length_append, List.length_take]
        omega
      · simp only [List.length_append, List.length_take]
        omega
  · rw [List.getElem?_eq_none, List.getElem?_eq_none]
    · omega
    · rw [length_write]
      omega

/-- Bytes that are written. -/
theorem getElem?_write_inside (room : off + bytes.length ≤ data.length)
    (inside : index < bytes.length) : (write data off bytes)[off + index]? = bytes[index]? := by
  have start : (data.take off).length = off := by
    rw [List.length_take]
    omega
  have whole : bytes.take (data.length - off) = bytes := by
    rw [List.take_of_length_le]
    omega
  rw [write, whole, List.append_assoc, List.getElem?_append_right (by omega), start,
    Nat.add_sub_cancel_left, List.getElem?_append_left inside]

/-- Bytes in front of what is written and behind it stay as they are. -/
theorem read8_write_of_outside (data : List UInt8)
    (outside : index < off ∨ off + bytes.length ≤ index) :
    read8 (write data off bytes) index = read8 data index := by
  simp only [read8, List.getD_eq_getElem?_getD, getElem?_write_of_outside data outside]

/-- Bytes that are written can be read back. -/
theorem read8_write_inside (room : off + bytes.length ≤ data.length) (index : Nat)
    (inside : index < bytes.length) :
    read8 (write data off bytes) (off + index) = read8 bytes index := by
  simp only [read8, List.getD_eq_getElem?_getD, getElem?_write_inside room inside]

/-- The bytes behind those that are written. -/
theorem drop_write (data : List UInt8) (behind : off + bytes.length ≤ index) :
    (write data off bytes).drop index = data.drop index := by
  apply List.ext_getElem?
  intro position
  rw [List.getElem?_drop, List.getElem?_drop, getElem?_write_of_outside data (.inr (by omega))]

/-- The bytes before those that are written. -/
theorem take_write (data bytes : List UInt8) (before : index ≤ off) :
    (write data off bytes).take index = data.take index := by
  apply List.ext_getElem?
  intro position
  rw [List.getElem?_take, List.getElem?_take]
  split
  · exact getElem?_write_of_outside data (.inl (by omega))
  · rfl

/-- The bytes that are written, if there is room for them. -/
theorem slice_write (room : off + bytes.length ≤ data.length) :
    ((write data off bytes).drop off).take bytes.length = bytes := by
  apply List.ext_getElem?
  intro position
  rw [List.getElem?_take]
  split
  next inside => rw [List.getElem?_drop, getElem?_write_inside room inside]
  next beyond => rw [List.getElem?_eq_none (Nat.le_of_not_lt beyond)]

/-- Bytes that are copied inside a packet. -/
theorem getElem?_copy_inside {dst src size : Nat} (room : dst + size ≤ data.length)
    (source : src + size ≤ data.length) (inside : index < size) :
    (copy data dst src size)[dst + index]? = data[src + index]? := by
  have length : ((data.drop src).take size).length = size := by
    rw [List.length_take, List.length_drop]
    omega
  rw [copy, getElem?_write_inside (by omega) (by omega), List.getElem?_take, if_pos inside,
    List.getElem?_drop]

theorem getElem?_copy_of_outside (data : List UInt8) {dst src size : Nat}
    (outside : index < dst ∨ dst + size ≤ index) :
    (copy data dst src size)[index]? = data[index]? := by
  apply getElem?_write_of_outside
  rw [List.length_take]
  omega

/-! ## Words -/

@[simp] theorem length_write8 (data : List UInt8) (off : Nat) (value : UInt8) :
    (write8 data off value).length = data.length := length_write ..

@[simp] theorem length_write16 (data : List UInt8) (off : Nat) (value : UInt16) :
    (write16 data off value).length = data.length := length_write ..

@[simp] theorem length_write32 (data : List UInt8) (off : Nat) (value : UInt32) :
    (write32 data off value).length = data.length := length_write ..

@[simp] theorem length_write128 (data : List UInt8) (off : Nat) (value : Be32x4) :
    (write128 data off value).length = data.length := length_write ..

theorem read8_write8_self (value : UInt8) (room : off < data.length) :
    read8 (write8 data off value) off = value :=
  read8_write_inside room 0 Nat.zero_lt_one

theorem read8_write8_of_ne (data : List UInt8) (value : UInt8) (different : index ≠ off) :
    read8 (write8 data off value) index = read8 data index := by
  apply read8_write_of_outside
  change _ ∨ off + 1 ≤ index
  omega

theorem read8_write16_of_outside (data : List UInt8) (value : UInt16)
    (outside : index < off ∨ off + 2 ≤ index) :
    read8 (write16 data off value) index = read8 data index :=
  read8_write_of_outside data outside

theorem read8_write32_of_outside (data : List UInt8) (value : UInt32)
    (outside : index < off ∨ off + 4 ≤ index) :
    read8 (write32 data off value) index = read8 data index :=
  read8_write_of_outside data outside

theorem read8_write128_of_outside (data : List UInt8) (value : Be32x4)
    (outside : index < off ∨ off + 16 ≤ index) :
    read8 (write128 data off value) index = read8 data index :=
  read8_write_of_outside data outside

/-- A half word outside of the range that is written. -/
theorem read16_write_of_outside (data : List UInt8)
    (outside : index + 2 ≤ off ∨ off + bytes.length ≤ index) :
    read16 (write data off bytes) index = read16 data index := by
  rw [read16, read8_write_of_outside data (by omega),
    read8_write_of_outside data (by omega), read16]

theorem read16_write8_of_outside (data : List UInt8) (value : UInt8)
    (outside : index + 2 ≤ off ∨ off + 1 ≤ index) :
    read16 (write8 data off value) index = read16 data index :=
  read16_write_of_outside data outside

theorem read16_write16_of_outside (data : List UInt8) (value : UInt16)
    (outside : index + 2 ≤ off ∨ off + 2 ≤ index) :
    read16 (write16 data off value) index = read16 data index :=
  read16_write_of_outside data outside

theorem read16_write32_of_outside (data : List UInt8) (value : UInt32)
    (outside : index + 2 ≤ off ∨ off + 4 ≤ index) :
    read16 (write32 data off value) index = read16 data index :=
  read16_write_of_outside data outside

theorem read16_write128_of_outside (data : List UInt8) (value : Be32x4)
    (outside : index + 2 ≤ off ∨ off + 16 ≤ index) :
    read16 (write128 data off value) index = read16 data index :=
  read16_write_of_outside data outside

/-- A half-word that is written can be read back as its bytes. -/
theorem read16_write16_self (room : off + 2 ≤ data.length) (value : UInt16) :
    read16 (write16 data off value) off = read16 (ofUInt16 value) 0 := by
  have low : read8 (write16 data off value) off = read8 (ofUInt16 value) 0 :=
    read8_write_inside room 0 Nat.zero_lt_two
  have high : read8 (write16 data off value) (off + 1) = read8 (ofUInt16 value) 1 :=
    read8_write_inside room 1 Nat.one_lt_two
  rw [read16, low, high]
  rfl

theorem drop_write8 (data : List UInt8) (value : UInt8) (behind : off + 1 ≤ index) :
    (write8 data off value).drop index = data.drop index :=
  drop_write data behind

theorem drop_write16 (data : List UInt8) (value : UInt16) (behind : off + 2 ≤ index) :
    (write16 data off value).drop index = data.drop index :=
  drop_write data behind

theorem drop_write32 (data : List UInt8) (value : UInt32) (behind : off + 4 ≤ index) :
    (write32 data off value).drop index = data.drop index :=
  drop_write data behind

theorem drop_write128 (data : List UInt8) (value : Be32x4) (behind : off + 16 ≤ index) :
    (write128 data off value).drop index = data.drop index :=
  drop_write data behind

theorem drop_copy (data : List UInt8) {dst src size : Nat} (behind : dst + size ≤ index) :
    (copy data dst src size).drop index = data.drop index := by
  apply drop_write
  rw [List.length_take]
  omega

/-- A half word is the half word of its bytes. -/
theorem read16_toNat (data : List UInt8) (off : Nat) :
    (read16 data off).toNat = (read8 data off).toNat + 256 * (read8 data (off + 1)).toNat := by
  have low : (read8 data off).toNat < 2 ^ 8 := (read8 data off).toNat_lt
  have high : (read8 data (off + 1)).toNat < 2 ^ 8 := (read8 data (off + 1)).toNat_lt
  have shifted : ((read8 data (off + 1)).toUInt16 <<< 8).toNat =
      2 ^ 8 * (read8 data (off + 1)).toNat := by
    rw [UInt16.toNat_shiftLeft, UInt8.toNat_toUInt16, Nat.shiftLeft_eq, Nat.mul_comm,
      Nat.mod_eq_of_lt]
    · rfl
    · change 2 ^ 8 * _ < 2 ^ 16
      omega
  rw [read16, UInt16.toNat_or, shifted, UInt8.toNat_toUInt16, Nat.or_comm,
    ← Nat.two_pow_add_eq_or_of_lt low, Nat.add_comm]

/-- The bytes of a half word that is read. -/
theorem ofUInt16_read16 (data : List UInt8) (off : Nat) :
    ofUInt16 (read16 data off) = [read8 data off, read8 data (off + 1)] := by
  have value := read16_toNat data off
  have low : (read8 data off).toNat < 2 ^ 8 := (read8 data off).toNat_lt
  have high : (read8 data (off + 1)).toNat < 2 ^ 8 := (read8 data (off + 1)).toNat_lt
  have first : (read16 data off).toUInt8 = read8 data off := by
    rw [← UInt8.toNat_inj, UInt16.toNat_toUInt8, value]
    omega
  have second : (read16 data off >>> 8).toUInt8 = read8 data (off + 1) := by
    rw [← UInt8.toNat_inj, UInt16.toNat_toUInt8, UInt16.toNat_shiftRight, value,
      Nat.shiftRight_eq_div_pow]
    change (_ / 2 ^ 8) % 2 ^ 8 = _
    omega
  rw [ofUInt16, first, second]

/-- A half word and what follows it. -/
theorem read16_append_drop (inside : off + 2 ≤ data.length) :
    ofUInt16 (read16 data off) ++ data.drop (off + 2) = data.drop off := by
  have first : off < data.length := by omega
  have second : off + 1 < data.length := by omega
  rw [ofUInt16_read16, List.drop_eq_getElem_cons first, List.drop_eq_getElem_cons second]
  simp only [read8, List.getD_eq_getElem?_getD, List.getElem?_eq_getElem first,
    List.getElem?_eq_getElem second, Option.getD_some, List.cons_append, List.nil_append]

/-! ## Reading what has been encoded -/

theorem read16_append_right (first second : List UInt8) (off : Nat) :
    read16 (first ++ second) (first.length + off) = read16 second off := by
  rw [read16, read8_append_right second (by omega), read8_append_right second (by omega), read16,
    Nat.add_sub_cancel_left, Nat.add_assoc, Nat.add_sub_cancel_left]

theorem read32_append_right (first second : List UInt8) (off : Nat) :
    read32 (first ++ second) (first.length + off) = read32 second off := by
  rw [read32, Nat.add_assoc, read16_append_right, read16_append_right, read32]

theorem read16_ofUInt16 (value : UInt16) (rest : List UInt8) :
    read16 (ofUInt16 value ++ rest) 0 = value := by
  have small := value.toNat_lt
  rw [← UInt16.toNat_inj, read16_toNat]
  change value.toUInt8.toNat + 256 * (value >>> 8).toUInt8.toNat = value.toNat
  rw [UInt16.toNat_toUInt8, UInt16.toNat_toUInt8, UInt16.toNat_shiftRight,
    Nat.shiftRight_eq_div_pow]
  change value.toNat % 2 ^ 8 + 256 * (value.toNat / 2 ^ 8 % 2 ^ 8) = value.toNat
  omega

/-- A word is the word of its half words. -/
theorem read32_toNat (data : List UInt8) (off : Nat) :
    (read32 data off).toNat =
      (read16 data off).toNat + 65536 * (read16 data (off + 2)).toNat := by
  have low : (read16 data off).toNat < 2 ^ 16 := (read16 data off).toNat_lt
  have high : (read16 data (off + 2)).toNat < 2 ^ 16 := (read16 data (off + 2)).toNat_lt
  have shifted : ((read16 data (off + 2)).toUInt32 <<< 16).toNat =
      2 ^ 16 * (read16 data (off + 2)).toNat := by
    rw [UInt32.toNat_shiftLeft, UInt16.toNat_toUInt32, Nat.shiftLeft_eq, Nat.mul_comm,
      Nat.mod_eq_of_lt]
    · rfl
    · change 2 ^ 16 * _ < 2 ^ 32
      omega
  rw [read32, UInt32.toNat_or, shifted, UInt16.toNat_toUInt32, Nat.or_comm,
    ← Nat.two_pow_add_eq_or_of_lt low, Nat.add_comm]

theorem read32_ofUInt32 (value : UInt32) (rest : List UInt8) :
    read32 (ofUInt32 value ++ rest) 0 = value := by
  have small := value.toNat_lt
  have low : read16 (ofUInt32 value ++ rest) 0 = value.toUInt16 := by
    rw [ofUInt32, List.append_assoc, read16_ofUInt16]
  have high : read16 (ofUInt32 value ++ rest) (0 + 2) = (value >>> 16).toUInt16 := by
    rw [ofUInt32, List.append_assoc]
    exact (read16_append_right (ofUInt16 value.toUInt16) _ 0).trans (read16_ofUInt16 ..)
  rw [← UInt32.toNat_inj, read32_toNat, low, high, UInt32.toNat_toUInt16, UInt32.toNat_toUInt16,
    UInt32.toNat_shiftRight, Nat.shiftRight_eq_div_pow]
  change value.toNat % 2 ^ 16 + 65536 * (value.toNat / 2 ^ 16 % 2 ^ 16) = value.toNat
  omega

/-! ## Reading what has been written -/

theorem read32_write_of_outside (data : List UInt8)
    (outside : index + 4 ≤ off ∨ off + bytes.length ≤ index) :
    read32 (write data off bytes) index = read32 data index := by
  rw [read32, read16_write_of_outside data (by omega), read16_write_of_outside data (by omega),
    read32]

private theorem read16_write_inside (room : off + bytes.length ≤ data.length) (index : Nat)
    (inside : index + 2 ≤ bytes.length) :
    read16 (write data off bytes) (off + index) = read16 bytes index := by
  rw [read16, read8_write_inside room index (by omega), Nat.add_assoc,
    read8_write_inside room (index + 1) (by omega), read16]

private theorem read32_write_inside (room : off + bytes.length ≤ data.length) (index : Nat)
    (inside : index + 4 ≤ bytes.length) :
    read32 (write data off bytes) (off + index) = read32 bytes index := by
  rw [read32, read16_write_inside room index (by omega), Nat.add_assoc,
    read16_write_inside room (index + 2) (by omega), read32]

/-- A half-word that is written can be read back. -/
theorem read16_write16 (value : UInt16) (room : off + 2 ≤ data.length) :
    read16 (write16 data off value) off = value := by
  have same := read16_ofUInt16 value []
  rw [List.append_nil] at same
  have written : read16 (write data off (ofUInt16 value)) (off + 0) = read16 (ofUInt16 value) 0 :=
    read16_write_inside room 0 (Nat.le_refl 2)
  exact written.trans same

/-- A word that is written can be read back. -/
theorem read32_write32 (value : UInt32) (room : off + 4 ≤ data.length) :
    read32 (write32 data off value) off = value := by
  have same := read32_ofUInt32 value []
  rw [List.append_nil] at same
  have written : read32 (write data off (ofUInt32 value)) (off + 0) = read32 (ofUInt32 value) 0 :=
    read32_write_inside room 0 (Nat.le_refl 4)
  exact written.trans same

/-- An address that is written can be read back. -/
theorem read128_write128 (value : Be32x4) (room : off + 16 ≤ data.length) :
    read128 (write128 data off value) off = value := by
  have word : ∀ index, index + 4 ≤ 16 →
      read32 (write128 data off value) (off + index) = read32 (ofBe32x4 value) index :=
    fun index inside => read32_write_inside room index inside
  have second : read32 (ofBe32x4 value) 4 = value.w1 := by
    rw [ofBe32x4, List.append_assoc, List.append_assoc]
    exact (read32_append_right (ofUInt32 value.w0) _ 0).trans (read32_ofUInt32 ..)
  have third : read32 (ofBe32x4 value) 8 = value.w2 := by
    rw [ofBe32x4, List.append_assoc]
    exact (read32_append_right (ofUInt32 value.w0 ++ ofUInt32 value.w1) _ 0).trans
      (read32_ofUInt32 ..)
  have fourth : read32 (ofBe32x4 value) 12 = value.w3 := by
    have same := read32_ofUInt32 value.w3 []
    rw [List.append_nil] at same
    exact (read32_append_right (ofUInt32 value.w0 ++ ofUInt32 value.w1 ++ ofUInt32 value.w2) _
      0).trans same
  have start : read32 (write128 data off value) off = value.w0 := by
    have same := word 0 (by decide)
    rw [Nat.add_zero] at same
    rw [same, ofBe32x4, List.append_assoc, List.append_assoc, read32_ofUInt32]
  rw [read128, start, word 4 (by decide), word 8 (by decide), word 12 (by decide), second, third,
    fourth]

theorem read128_write_of_outside (data : List UInt8)
    (outside : index + 16 ≤ off ∨ off + bytes.length ≤ index) :
    read128 (write data off bytes) index = read128 data index := by
  rw [read128, read32_write_of_outside data (by omega), read32_write_of_outside data (by omega),
    read32_write_of_outside data (by omega), read32_write_of_outside data (by omega), read128]

/-! ## Packets with the same beginning -/

theorem read8_of_take (same : first.take other = second.take other) (inside : off < other) :
    read8 first off = read8 second off := by
  have byte : (first.take other)[off]? = (second.take other)[off]? := by rw [same]
  rw [List.getElem?_take_of_lt inside, List.getElem?_take_of_lt inside] at byte
  simp only [read8, List.getD_eq_getElem?_getD, byte]

/-- A half-word of a common start. -/
theorem read16_of_take (same : first.take other = second.take other) (inside : off + 2 ≤ other) :
    read16 first off = read16 second off := by
  rw [read16, read8_of_take same (by omega), read8_of_take same (by omega), read16]

theorem read32_of_take (same : first.take other = second.take other) (inside : off + 4 ≤ other) :
    read32 first off = read32 second off := by
  rw [read32, read16_of_take same (by omega), read16_of_take same (by omega), read32]

theorem read128_of_take (same : first.take other = second.take other) (inside : off + 16 ≤ other) :
    read128 first off = read128 second off := by
  rw [read128, read32_of_take same (by omega), read32_of_take same (by omega),
    read32_of_take same (by omega), read32_of_take same (by omega), read128]

/-! ## Slices -/

section Slices

variable {size : Nat}

/-- Some bytes of a packet. -/
def slice (data : List UInt8) (start size : Nat) : List UInt8 := (data.drop start).take size

/-- The bytes of a slice. -/
theorem getElem?_slice (data : List UInt8) (start size index : Nat) :
    (slice data start size)[index]? = if index < size then data[start + index]? else none := by
  rw [slice, List.getElem?_take, List.getElem?_drop]

theorem read8_slice (data : List UInt8) (start : Nat) (inside : index < size) :
    read8 (slice data start size) index = read8 data (start + index) := by
  simp only [read8, List.getD_eq_getElem?_getD, getElem?_slice, if_pos inside]

theorem read16_slice (data : List UInt8) (start : Nat) (inside : index + 2 ≤ size) :
    read16 (slice data start size) index = read16 data (start + index) := by
  rw [read16, read8_slice data start (by omega), read8_slice data start (by omega), read16,
    Nat.add_assoc]

theorem read32_slice (data : List UInt8) (start : Nat) (inside : index + 4 ≤ size) :
    read32 (slice data start size) index = read32 data (start + index) := by
  rw [read32, read16_slice data start (by omega), read16_slice data start (by omega), read32,
    Nat.add_assoc]

end Slices

end Katran.Bytes
