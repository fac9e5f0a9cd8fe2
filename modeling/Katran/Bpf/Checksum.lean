import Katran.Bpf.Icmp
import Katran.Foundation.OnesComplement

/-! # Checksums

A checksum is valid if the half words that it covers, its own included, have the
one's-complement sum `0xffff`. `csum_fold_helper` reduces every 64-bit sum to a half word
that agrees with it modulo 65535 (`csumFoldHelper_spec`), so that the IPv4 headers which are
summed up from the ground are valid. Where only one field changes, the checksum is adjusted
instead: `decrement_ttl` adds the carry back (`decrementTtl_keeps_checksum`), while the
answers to ICMP echoes lose it (`echo_reply_valid_iff`).
-/

namespace Katran

open Foundation

namespace Bytes

variable {data first second bytes : List UInt8} {off start size index : Nat}

/-! ## Slices -/

theorem length_slice (inside : start + size ≤ data.length) :
    (slice data start size).length = size := by
  rw [slice, List.length_take, List.length_drop]
  omega

/-- A slice in front of what is written or behind it stays as it is. -/
theorem slice_write_of_outside (data : List UInt8)
    (outside : off + bytes.length ≤ start ∨ start + size ≤ off) :
    slice (write data off bytes) start size = slice data start size := by
  apply List.ext_getElem?
  intro index
  rw [getElem?_slice, getElem?_slice]
  split
  · exact getElem?_write_of_outside data (by omega)
  · rfl

/-- A write inside of a slice. -/
theorem slice_write_of_inside (after : start ≤ off) (inside : off + bytes.length ≤ start + size)
    (room : start + size ≤ data.length) :
    slice (write data off bytes) start size =
      write (slice data start size) (off - start) bytes := by
  have length := length_slice room
  apply List.ext_getElem?
  intro index
  by_cases written : off - start ≤ index ∧ index < off - start + bytes.length
  · obtain ⟨more, rfl⟩ : ∃ more, index = off - start + more := ⟨index - (off - start), by omega⟩
    have position : start + (off - start + more) = off + more := by omega
    rw [getElem?_slice, if_pos (by omega), position,
      getElem?_write_inside (by omega) (by omega), getElem?_write_inside (by omega) (by omega)]
  · rw [getElem?_write_of_outside _ (by omega), getElem?_slice, getElem?_slice]
    split
    · exact getElem?_write_of_outside data (by omega)
    · rfl

theorem slice_write8_of_outside (data : List UInt8) (value : UInt8)
    (outside : off + 1 ≤ start ∨ start + size ≤ off) :
    slice (write8 data off value) start size = slice data start size :=
  slice_write_of_outside data outside

theorem slice_write16_of_outside (data : List UInt8) (value : UInt16)
    (outside : off + 2 ≤ start ∨ start + size ≤ off) :
    slice (write16 data off value) start size = slice data start size :=
  slice_write_of_outside data outside

theorem slice_write32_of_outside (data : List UInt8) (value : UInt32)
    (outside : off + 4 ≤ start ∨ start + size ≤ off) :
    slice (write32 data off value) start size = slice data start size :=
  slice_write_of_outside data outside

theorem slice_write128_of_outside (data : List UInt8) (value : Be32x4)
    (outside : off + 16 ≤ start ∨ start + size ≤ off) :
    slice (write128 data off value) start size = slice data start size :=
  slice_write_of_outside data outside

private theorem slice_write8_of_inside (value : UInt8) (after : start ≤ off)
    (inside : off + 1 ≤ start + size) (room : start + size ≤ data.length) :
    slice (write8 data off value) start size = write8 (slice data start size) (off - start) value :=
  slice_write_of_inside after inside room

/-- What is written into a slice is written at its place in the slice. -/
theorem slice_write16_of_inside (value : UInt16) (after : start ≤ off)
    (inside : off + 2 ≤ start + size) (room : start + size ≤ data.length) :
    slice (write16 data off value) start size =
      write16 (slice data start size) (off - start) value :=
  slice_write_of_inside after inside room

theorem slice_write128 (value : Be32x4) (room : off + 16 ≤ data.length) :
    slice (write128 data off value) off 16 = ofBe32x4 value :=
  @slice_write data (ofBe32x4 value) off room

private theorem slice_add (data : List UInt8) (start size more : Nat) :
    slice data start (size + more) = slice data start size ++ slice data (start + size) more := by
  rw [slice, List.take_add, List.drop_drop, slice, slice]

private theorem ofUInt16_read16_eq_slice (inside : off + 2 ≤ data.length) :
    ofUInt16 (read16 data off) = slice data off 2 := by
  rw [slice, ← read16_append_drop inside]
  rfl

theorem ofUInt32_read32_eq_slice (inside : off + 4 ≤ data.length) :
    ofUInt32 (read32 data off) = slice data off 4 := by
  have value := read32_toNat data off
  have low : (read16 data off).toNat < 2 ^ 16 := (read16 data off).toNat_lt
  have high : (read16 data (off + 2)).toNat < 2 ^ 16 := (read16 data (off + 2)).toNat_lt
  have first : (read32 data off).toUInt16 = read16 data off := by
    rw [← UInt16.toNat_inj, UInt32.toNat_toUInt16, value]
    omega
  have second : (read32 data off >>> 16).toUInt16 = read16 data (off + 2) := by
    rw [← UInt16.toNat_inj, UInt32.toNat_toUInt16, UInt32.toNat_shiftRight, value,
      Nat.shiftRight_eq_div_pow]
    change (_ / 2 ^ 16) % 2 ^ 16 = _
    omega
  rw [ofUInt32, first, second, ofUInt16_read16_eq_slice (by omega),
    ofUInt16_read16_eq_slice (by omega), ← slice_add]

theorem ofBe32x4_read128 (inside : off + 16 ≤ data.length) :
    ofBe32x4 (read128 data off) = slice data off 16 := by
  rw [ofBe32x4, read128, ofUInt32_read32_eq_slice (by omega), ofUInt32_read32_eq_slice (by omega),
    ofUInt32_read32_eq_slice (by omega), ofUInt32_read32_eq_slice (by omega), ← slice_add,
    ← slice_add, ← slice_add]

/-! ## Half words -/

/-- The half words of some bytes, as a little-endian host reads them; a last byte without a
partner counts as followed by zero. -/
def words : List UInt8 → List UInt16
  | [] => []
  | [last] => [last.toUInt16]
  | first :: second :: rest => (first.toUInt16 ||| (second.toUInt16 <<< 8)) :: words rest

/-- The half words added up as numbers. -/
def wordSum (bytes : List UInt8) : Nat := ((words bytes).map UInt16.toNat).sum

/-- The one's-complement sum of the half words is all ones. -/
def ChecksumValid (bytes : List UInt8) : Prop :=
  OnesComplement.sum 0xffff ((words bytes).map UInt16.toNat) = 0xffff

instance (bytes : List UInt8) : Decidable (ChecksumValid bytes) :=
  inferInstanceAs (Decidable (_ = _))

/-- A checksum is valid if the words add up to a positive multiple of 65535. -/
theorem checksumValid_iff (bytes : List UInt8) :
    ChecksumValid bytes ↔ wordSum bytes ≠ 0 ∧ 65535 ∣ wordSum bytes := by
  apply OnesComplement.sum_eq_top_iff (by decide)
  intro word found
  obtain ⟨half, _, rfl⟩ := List.mem_map.mp found
  exact Nat.le_of_lt_succ half.toNat_lt

private theorem words_append (second : List UInt8) (even : first.length % 2 = 0) :
    words (first ++ second) = words first ++ words second := by
  fun_induction words first with
  | case1 => rfl
  | case2 last => cases even
  | case3 one two rest same =>
      rw [List.length_cons, List.length_cons] at even
      rw [List.cons_append, List.cons_append, words, same (by omega), List.cons_append]

private theorem wordSum_append (second : List UInt8) (even : first.length % 2 = 0) :
    wordSum (first ++ second) = wordSum first + wordSum second := by
  rw [wordSum, words_append second even, List.map_append, List.sum_append, wordSum, wordSum]

private theorem wordSum_pair (low high : UInt8) :
    wordSum [low, high] = low.toNat + 256 * high.toNat := by
  change (read16 [low, high] 0).toNat + 0 = _
  rw [read16_toNat]
  rfl

/-- The sum with a pair of bytes in the middle. -/
theorem wordSum_around_pair (low high : UInt8) (even : first.length % 2 = 0) :
    wordSum (first ++ ([low, high] ++ second)) =
      wordSum first + (low.toNat + 256 * high.toNat) + wordSum second := by
  have pair : [low, high].length % 2 = 0 := Nat.mod_self 2
  rw [wordSum_append _ even, wordSum_append _ pair, wordSum_pair, Nat.add_assoc, Nat.add_assoc,
    Nat.add_assoc]

private theorem append_pair_append (room : off + 2 ≤ data.length) :
    data.take off ++ ([read8 data off, read8 data (off + 1)] ++ data.drop (off + 2)) = data := by
  rw [← ofUInt16_read16, read16_append_drop room, List.take_append_drop]

private theorem length_take_even (even : off % 2 = 0) (room : off + 2 ≤ data.length) :
    (data.take off).length % 2 = 0 := by
  rw [List.length_take, Nat.min_eq_left (by omega), even]

/-- Writing a half word changes the sum by the difference. -/
theorem wordSum_write16 (value : UInt16) (even : off % 2 = 0) (room : off + 2 ≤ data.length) :
    wordSum (write16 data off value) + (read16 data off).toNat = wordSum data + value.toNat := by
  have start := length_take_even even room
  have written : write16 data off value =
      data.take off ++ (ofUInt16 value ++ data.drop (off + 2)) := by
    have whole : (ofUInt16 value).take (data.length - off) = ofUInt16 value :=
      List.take_of_length_le (by change 2 ≤ _; omega)
    rw [write16, write, whole, List.append_assoc]
    rfl
  have stored := congrArg UInt16.toNat (read16_ofUInt16 value [])
  rw [read16_toNat] at stored
  have before := congrArg wordSum (append_pair_append room)
  rw [wordSum_around_pair _ _ start] at before
  rw [written, ofUInt16, wordSum_around_pair _ _ start, read16_toNat, ← stored, ← before]
  change _ + (value.toUInt8.toNat + 256 * (value >>> 8).toUInt8.toNat) + _ + _ =
    _ + (value.toUInt8.toNat + 256 * (value >>> 8).toUInt8.toNat)
  omega

/-- Writing the low byte of a half word changes the sum by the difference. -/
theorem wordSum_write8 (value : UInt8) (even : off % 2 = 0) (room : off + 2 ≤ data.length) :
    wordSum (write8 data off value) + (read8 data off).toNat = wordSum data + value.toNat := by
  have start := length_take_even even room
  have written : write8 data off value =
      data.take off ++ ([value, read8 data (off + 1)] ++ data.drop (off + 2)) := by
    have second : off + 1 < data.length := by omega
    have whole : [value].take (data.length - off) = [value] :=
      List.take_of_length_le (by change 1 ≤ _; omega)
    rw [write8, write, whole, List.append_assoc]
    change _ ++ ([value] ++ data.drop (off + 1)) = _
    rw [List.drop_eq_getElem_cons second]
    simp only [read8, List.getD_eq_getElem?_getD, List.getElem?_eq_getElem second, Option.getD_some,
      List.cons_append, List.nil_append]
  have before := congrArg wordSum (append_pair_append room)
  rw [wordSum_around_pair _ _ start] at before
  rw [written, wordSum_around_pair _ _ start, ← before]
  omega

private theorem words_ofUInt16 (value : UInt16) : words (ofUInt16 value) = [value] :=
  congrArg (· :: []) (read16_ofUInt16 value [])

/-- The half words of a slice. -/
theorem words_slice (data : List UInt8) (start : Nat) (count : Nat)
    (inside : start + 2 * count ≤ data.length) :
    words (slice data start (2 * count)) =
      (List.range count).map fun index => read16 data (start + 2 * index) := by
  induction count with
  | zero => rfl
  | succ count shorter =>
      have even : (slice data start (2 * count)).length % 2 = 0 := by
        rw [length_slice (by omega)]
        omega
      have grown : slice data start (2 * (count + 1)) =
          slice data start (2 * count) ++ ofUInt16 (read16 data (start + 2 * count)) := by
        rw [Nat.mul_add, slice_add, Nat.mul_one, ← ofUInt16_read16_eq_slice (by omega)]
      rw [grown, words_append _ even, shorter (by omega), words_ofUInt16, List.range_succ,
        List.map_append, List.map_cons, List.map_nil]

end Bytes

/-! ## Folding -/

private theorem csumFold_toNat (csum : UInt64) :
    (csumFold csum).toNat = OnesComplement.fold 0xffff csum.toNat := by
  have small : csum.toNat < 2 ^ 64 := csum.toNat_lt
  have carry : (csum >>> 16).toNat = csum.toNat / 2 ^ 16 := by
    rw [UInt64.toNat_shiftRight, Nat.shiftRight_eq_div_pow]
    rfl
  have rest : (csum &&& 0xffff).toNat = csum.toNat % 2 ^ 16 := by
    rw [UInt64.toNat_and]
    exact Nat.and_two_pow_sub_one_eq_mod csum.toNat 16
  unfold csumFold
  split
  · rw [UInt64.toNat_add, carry, rest, OnesComplement.fold]
    omega
  next none =>
    rw [not_not, ← UInt64.toNat_inj, carry] at none
    change _ = 0 at none
    rw [OnesComplement.fold_of_le (by omega)]

/-- Four times is enough for every sum: what is left in front of the last time is at most
twice a half word. -/
theorem fold_four_le {value : Nat} (bound : value < 2 ^ 64) :
    OnesComplement.fold 0xffff (OnesComplement.fold 0xffff (OnesComplement.fold 0xffff
      (OnesComplement.fold 0xffff value))) ≤ 0xffff := by
  have first : OnesComplement.fold 0xffff value ≤ 2 ^ 48 + 65534 := by
    unfold OnesComplement.fold
    omega
  have second : ∀ sum, sum ≤ 2 ^ 48 + 65534 → OnesComplement.fold 0xffff sum ≤ 2 ^ 32 + 65534 := by
    intro sum fits
    unfold OnesComplement.fold
    omega
  have third : ∀ sum, sum ≤ 2 ^ 32 + 65534 → OnesComplement.fold 0xffff sum ≤ 131070 := by
    intro sum fits
    unfold OnesComplement.fold
    omega
  have fourth : ∀ sum, sum ≤ 131070 → OnesComplement.fold 0xffff sum ≤ 0xffff := by
    intro sum fits
    unfold OnesComplement.fold
    omega
  exact fourth _ (third _ (second _ first))

/-- A sum that is folded to a half word, before the complement is taken. -/
structure Folded (csum : UInt64) (half : UInt16) : Prop where
  enough : csumFold (csumFold (csumFold (csumFold csum))) = half.toUInt64
  complement : csumFoldHelper csum = ~~~half
  congruent : half.toNat ≡ csum.toNat [MOD 65535]
  zero : half = 0 ↔ csum = 0

private theorem csumFoldHelper_folded (csum : UInt64) : ∃ half, Folded csum half := by
  have bound := fold_four_le csum.toNat_lt
  have same : (csumFold (csumFold (csumFold (csumFold csum)))).toNat =
      OnesComplement.fold 0xffff (OnesComplement.fold 0xffff (OnesComplement.fold 0xffff
        (OnesComplement.fold 0xffff csum.toNat))) := by
    rw [csumFold_toNat, csumFold_toNat, csumFold_toNat, csumFold_toNat]
  rw [← same] at bound
  have back : (csumFold (csumFold (csumFold (csumFold csum)))).toUInt16.toNat =
      (csumFold (csumFold (csumFold (csumFold csum)))).toNat := by
    rw [UInt64.toNat_toUInt16, Nat.mod_eq_of_lt (by omega)]
  refine ⟨(csumFold (csumFold (csumFold (csumFold csum)))).toUInt16, ?_, ?_, ?_, ?_⟩
  · rw [← UInt64.toNat_inj, UInt16.toNat_toUInt64, back]
  · rw [csumFoldHelper, UInt64.toUInt16_not]
  · rw [back, same]
    exact (OnesComplement.fold_modEq ..).trans ((OnesComplement.fold_modEq ..).trans
      ((OnesComplement.fold_modEq ..).trans (OnesComplement.fold_modEq ..)))
  · rw [← UInt16.toNat_inj, back, same, ← UInt64.toNat_inj]
    change OnesComplement.fold .. = 0 ↔ csum.toNat = 0
    rw [OnesComplement.fold_eq_zero_iff, OnesComplement.fold_eq_zero_iff,
      OnesComplement.fold_eq_zero_iff, OnesComplement.fold_eq_zero_iff]

/-- Some bytes whose checksum is cleared, summed up with what else is covered, and written. -/
theorem covered_of_written {message : List UInt8} {csum : UInt64} {total off : Nat}
    (congruent : csum.toNat ≡ total + Bytes.wordSum message [MOD 65535])
    (zero : csum = 0 ↔ total + Bytes.wordSum message = 0) (even : off % 2 = 0)
    (room : off + 2 ≤ message.length) (cleared : Bytes.read16 message off = 0) :
    let covered := total + Bytes.wordSum (Bytes.write16 message off (csumFoldHelper csum))
    covered ≠ 0 ∧ 65535 ∣ covered := by
  obtain ⟨half, folded⟩ := csumFoldHelper_folded csum
  have sum := Bytes.wordSum_write16 (~~~half) even room
  have small : half.toNat < 2 ^ 16 := half.toNat_lt
  have same : half.toNat % 65535 = _ % 65535 := folded.congruent.trans congruent
  have nothing := folded.zero.trans zero
  rw [← UInt16.toNat_inj] at nothing
  change half.toNat = 0 ↔ _ at nothing
  rw [cleared, UInt16.toNat_not] at sum
  change _ + 0 = _ + (65535 - half.toNat) at sum
  rw [folded.complement]
  exact ⟨by omega, by omega⟩

/-! ## IPv4 headers -/

/-- The IPv4 header at an offset. -/
def ipv4Header (data : List UInt8) (iph : Nat) : List UInt8 := Bytes.slice data iph 20

section Headers

variable {data : List UInt8} {iph : Nat}

/-- Adding up half words in a 64-bit variable loses nothing. -/
theorem foldl_words_toNat (data : List UInt8) (iph count : Nat) (few : count ≤ 10) :
    ((List.range count).foldl
      (fun csum index => csum + (Bytes.read16 data (iph + 2 * index)).toUInt64) 0).toNat =
      (((List.range count).map fun index => Bytes.read16 data (iph + 2 * index)).map
        UInt16.toNat).sum ∧
    (((List.range count).map fun index => Bytes.read16 data (iph + 2 * index)).map
        UInt16.toNat).sum ≤ count * 65535 := by
  induction count with
  | zero => exact ⟨rfl, Nat.le_refl 0⟩
  | succ count shorter =>
      obtain ⟨same, bound⟩ := shorter (by omega)
      have half := (Bytes.read16 data (iph + 2 * count)).toNat_lt
      simp only [List.range_succ, List.foldl_append, List.foldl_cons, List.foldl_nil,
        List.map_append, List.map_cons, List.map_nil, List.sum_append, List.sum_cons, List.sum_nil]
      rw [UInt64.toNat_add, same, UInt16.toNat_toUInt64]
      constructor
      · omega
      · omega

/-- A header whose checksum is cleared, summed up and written. -/
theorem ipv4Header_of_written (room : iph + 20 ≤ data.length)
    (cleared : Bytes.read16 data (iph + 10) = 0) :
    Bytes.ChecksumValid
      (ipv4Header (Bytes.write16 data (iph + 10) (ipv4CsumInline data iph)) iph) := by
  have length := Bytes.length_slice room
  have total := (foldl_words_toNat data iph 10 (Nat.le_refl 10)).1
  rw [← Bytes.words_slice data iph 10 room] at total
  change _ = Bytes.wordSum (Bytes.slice data iph 20) at total
  rw [ipv4Header, Bytes.slice_write16_of_inside _ (by omega) (by omega) room,
    Nat.add_sub_cancel_left, Bytes.checksumValid_iff, ipv4CsumInline,
    ← Nat.zero_add (Bytes.wordSum _)]
  apply covered_of_written
  · rw [total, Nat.zero_add]
  · rw [← UInt64.toNat_inj, total, Nat.zero_add]
    rfl
  · decide
  · rw [length]
    decide
  · rw [Bytes.read16_slice data iph (by decide), cleared]

/-- The header that `create_v4_hdr` writes. -/
theorem createV4Hdr_checksum (cfg : BpfConfig) (tos : UInt8) (saddr daddr : UInt32)
    (pktBytes : UInt16) (proto : UInt8) (room : iph + 20 ≤ data.length) :
    Bytes.ChecksumValid
      (ipv4Header (createV4Hdr cfg data iph tos saddr daddr pktBytes proto) iph) := by
  unfold createV4Hdr
  apply ipv4Header_of_written
  · simp only [Bytes.length_write8, Bytes.length_write16, Bytes.length_write32]
    exact room
  · simp (disch := omega) only [Bytes.read16_write8_of_outside, Bytes.read16_write32_of_outside,
      Bytes.read16_write16_of_outside]
    apply Bytes.read16_write16
    simp only [Bytes.length_write8, Bytes.length_write16]
    omega

/-- Exchanging the Ethernet addresses leaves everything behind them alone. -/
theorem slice_swapMacAndSend (data : List UInt8) {start : Nat} (size : Nat) (behind : 12 ≤ start) :
    Bytes.slice (swapMacAndSend data) start size = Bytes.slice data start size := by
  unfold swapMacAndSend Bytes.copy
  rw [Bytes.slice_write_of_outside _ (.inl ?_), Bytes.slice_write_of_outside _ (.inl ?_)]
  · rw [List.length_take]
    omega
  · rw [List.length_take]
    omega

private theorem sendIcmpReply_tx (cfg : BpfConfig) (long : 14 + 20 + 8 ≤ data.length) :
    (sendIcmpReply cfg data).1 = .tx := by
  unfold sendIcmpReply
  rw [if_neg (by omega)]

/-- The header that `send_icmp_reply` rewrites. -/
theorem sendIcmpReply_checksum (cfg : BpfConfig) (long : 14 + 20 + 8 ≤ data.length) :
    Bytes.ChecksumValid (ipv4Header (sendIcmpReply cfg data).2 14) := by
  unfold sendIcmpReply
  rw [if_neg (by omega)]
  dsimp only
  rw [ipv4Header, slice_swapMacAndSend _ 20 (by decide), ← ipv4Header]
  apply @ipv4Header_of_written _ 14
  · simp only [Bytes.length_write8, Bytes.length_write16, Bytes.length_write32]
    omega
  · apply Bytes.read16_write16
    simp only [Bytes.length_write8, Bytes.length_write16, Bytes.length_write32]
    omega

/-- **IPv4 headers are checksummed.** The folded sum agrees with the sum in one's complement
arithmetic for every 64-bit value, and the headers that are summed up, those of tunnels and of
answers to echo requests, are valid whatever was in their place before. -/
theorem ipv4_headers_checksummed :
    (∀ csum : UInt64, ∃ half : UInt16, Folded csum half) ∧
    (∀ (cfg : BpfConfig) (data : List UInt8) (iph : Nat) (tos : UInt8) (saddr daddr : UInt32)
        (pktBytes : UInt16) (proto : UInt8), iph + 20 ≤ data.length →
      Bytes.ChecksumValid
        (ipv4Header (createV4Hdr cfg data iph tos saddr daddr pktBytes proto) iph)) ∧
    ∀ (cfg : BpfConfig) (data : List UInt8), 14 + 20 + 8 ≤ data.length →
      (sendIcmpReply cfg data).1 = .tx ∧
        Bytes.ChecksumValid (ipv4Header (sendIcmpReply cfg data).2 14) := by
  refine ⟨csumFoldHelper_folded, ?_, ?_⟩
  · intro cfg data iph tos saddr daddr pktBytes proto room
    exact createV4Hdr_checksum cfg tos saddr daddr pktBytes proto room
  · intro cfg data long
    exact ⟨sendIcmpReply_tx cfg long, sendIcmpReply_checksum cfg long⟩

/-- A header in a place that was all ones. -/
theorem ipv4_headers_checksummed_sample :
    Bytes.ChecksumValid (ipv4Header
      (createV4Hdr {} (List.replicate 40 0xff) 14 0 0x01010101 0x0101c80a 40 ipprotoIpip) 14) :=
  ipv4_headers_checksummed.2.1 {} (List.replicate 40 0xff) 14 0 0x01010101 0x0101c80a 40 ipprotoIpip
    (by decide)

/-! ## Adjusting a checksum -/

/-- What `decrement_ttl` leaves of an IPv4 packet that may go on. -/
structure TtlDecremented (data after : List UInt8) (offset : Nat) : Prop where
  length : after.length = data.length
  ttl : (Bytes.read8 after (offset + 8)).toNat + 1 = (Bytes.read8 data (offset + 8)).toNat
  checksum : Bytes.ChecksumValid (ipv4Header after offset)
  others : ∀ index, index ≠ offset + 8 → index ≠ offset + 10 → index ≠ offset + 11 →
    after[index]? = data[index]?

/-- Adding one to a checksum with the carry. -/
theorem incremented_toNat (check : UInt16) :
    (((check.toUInt32 + 1) &&& 0xffff) + ((check.toUInt32 + 1) >>> (16 : UInt32))).toUInt16.toNat =
      OnesComplement.fold 0xffff (check.toNat + 1) := by
  have small : check.toNat < 2 ^ 16 := check.toNat_lt
  have next : (check.toUInt32 + 1).toNat = check.toNat + 1 := by
    rw [UInt32.toNat_add, UInt16.toNat_toUInt32]
    change (_ + 1) % 2 ^ 32 = _
    omega
  have carry : ((check.toUInt32 + 1) >>> (16 : UInt32)).toNat = (check.toNat + 1) / 2 ^ 16 := by
    rw [UInt32.toNat_shiftRight, next, Nat.shiftRight_eq_div_pow]
    rfl
  have rest : ((check.toUInt32 + 1) &&& 0xffff).toNat = (check.toNat + 1) % 2 ^ 16 := by
    rw [UInt32.toNat_and, next]
    exact Nat.and_two_pow_sub_one_eq_mod _ 16
  rw [UInt32.toNat_toUInt16, UInt32.toNat_add, carry, rest, OnesComplement.fold]
  omega

/-- The header after the time to live and the checksum have been written. -/
theorem ipv4Header_of_decremented {offset : Nat} (ttl : UInt8) (check : UInt16)
    (room : offset + 20 ≤ data.length) :
    ipv4Header (Bytes.write16 (Bytes.write8 data (offset + 8) ttl) (offset + 10) check) offset =
      Bytes.write16 (Bytes.write8 (ipv4Header data offset) 8 ttl) 10 check := by
  have long : offset + 20 ≤ (Bytes.write8 data (offset + 8) ttl).length := by
    rw [Bytes.length_write8]
    exact room
  rw [ipv4Header, Bytes.slice_write16_of_inside _ (by omega) (by omega) long,
    Nat.add_sub_cancel_left, Bytes.slice_write8_of_inside _ (by omega) (by omega) room,
    Nat.add_sub_cancel_left, ipv4Header]

/-- A checksum that is incremented with the carry makes up for a time to live that is
decremented. -/
theorem checksumValid_of_decremented {header : List UInt8} {ttl : UInt8} {check : UInt16}
    (length : header.length = 20) (valid : Bytes.ChecksumValid header)
    (alive : 0 < (Bytes.read8 header 8).toNat)
    (smaller : ttl.toNat + 1 = (Bytes.read8 header 8).toNat)
    (adjusted : check.toNat = OnesComplement.fold 0xffff ((Bytes.read16 header 10).toNat + 1)) :
    Bytes.ChecksumValid (Bytes.write16 (Bytes.write8 header 8 ttl) 10 check) := by
  rw [Bytes.checksumValid_iff] at valid ⊢
  have small : (Bytes.read16 header 10).toNat < 2 ^ 16 := (Bytes.read16 header 10).toNat_lt
  have kept : Bytes.read16 (Bytes.write8 header 8 ttl) 10 = Bytes.read16 header 10 :=
    Bytes.read16_write8_of_outside header ttl (by decide)
  have first := Bytes.wordSum_write8 ttl (by decide : 8 % 2 = 0)
    (by rw [length]; decide : 8 + 2 ≤ header.length)
  have second := Bytes.wordSum_write16 check (by decide : 10 % 2 = 0)
    (by rw [Bytes.length_write8, length]; decide : 10 + 2 ≤ (Bytes.write8 header 8 ttl).length)
  -- what is left without the two fields
  have without := Bytes.wordSum_write16 0 (by decide : 10 % 2 = 0)
    (by rw [Bytes.length_write8, length]; decide : 10 + 2 ≤ (Bytes.write8 header 8 0).length)
  have rest := Bytes.wordSum_write8 0 (by decide : 8 % 2 = 0)
    (by rw [length]; decide : 8 + 2 ≤ header.length)
  rw [kept] at second
  rw [Bytes.read16_write8_of_outside header 0 (by decide)] at without
  change _ + _ = _ + 0 at without
  change _ + _ = _ + 0 at rest
  unfold OnesComplement.fold at adjusted
  exact ⟨by omega, by omega⟩

/-- **The TTL is decremented without recomputing the checksum.** The update of the checksum in
`decrement_ttl` keeps a valid header valid: whatever the other fields are, the packet goes on with
a TTL that is one less and a checksum that is valid again. -/
theorem decrementTtl_keeps_checksum {offset : Nat} (room : offset + 20 ≤ data.length)
    (valid : Bytes.ChecksumValid (ipv4Header data offset))
    (alive : 2 ≤ (Bytes.read8 data (offset + 8)).toNat) :
    (decrementTtl data offset false).1 = true ∧
      TtlDecremented data (decrementTtl data offset false).2 offset := by
  have byte : (Bytes.read8 data (offset + 8)).toNat < 2 ^ 8 :=
    (Bytes.read8 data (offset + 8)).toNat_lt
  have smaller : (Bytes.read8 data (offset + 8) - 1).toNat + 1 =
      (Bytes.read8 data (offset + 8)).toNat := by
    rw [UInt8.toNat_sub_of_le]
    · change _ - 1 + 1 = _
      omega
    · rw [UInt8.le_iff_toNat_le]
      change 1 ≤ _
      omega
  have left : ¬ Bytes.read8 data (offset + 8) - 1 = 0 := by
    intro vanished
    rw [vanished] at smaller
    change 0 + 1 = _ at smaller
    omega
  simp only [decrementTtl, Bool.false_eq_true, ↓reduceIte, Nat.not_lt.mpr room, left]
  rw [Bytes.read16_write8_of_outside data _ (by omega)]
  refine ⟨trivial, ?_, ?_, ?_, ?_⟩
  · simp only [Bytes.length_write16, Bytes.length_write8]
  · rw [Bytes.read8_write16_of_outside _ _ (by omega),
      Bytes.read8_write8_self _ (by omega), smaller]
  · rw [ipv4Header_of_decremented _ _ room]
    have length : (ipv4Header data offset).length = 20 := Bytes.length_slice room
    have ttl : Bytes.read8 (ipv4Header data offset) 8 = Bytes.read8 data (offset + 8) :=
      Bytes.read8_slice data offset (by decide)
    have check : Bytes.read16 (ipv4Header data offset) 10 = Bytes.read16 data (offset + 10) :=
      Bytes.read16_slice data offset (by decide)
    apply checksumValid_of_decremented length valid
    · rw [ttl]
      omega
    · rw [ttl]
      exact smaller
    · rw [check]
      exact incremented_toNat _
  · intro index notTtl notLow notHigh
    rw [Bytes.write16, Bytes.getElem?_write_of_outside _ ?_, Bytes.write8,
      Bytes.getElem?_write_of_outside _ ?_]
    · rw [List.length_singleton]
      omega
    · change index < offset + 10 ∨ offset + 10 + 2 ≤ index
      omega

/-- A header with an identification and a checksum. -/
def sampleHeader (id check : UInt16) : List UInt8 :=
  [0x45, 0, 0, 40] ++ Bytes.ofUInt16 id ++ [0x40, 0, 64, 6] ++ Bytes.ofUInt16 check ++
    [1, 1, 1, 1, 10, 200, 1, 1]

/-- The checksums that are close to a carry. -/
theorem decrementTtl_keeps_checksum_carry :
    TtlDecremented (sampleHeader 1581 0) (decrementTtl (sampleHeader 1581 0) 0 false).2 0 ∧
    TtlDecremented (sampleHeader 1582 0xfffe)
      (decrementTtl (sampleHeader 1582 0xfffe) 0 false).2 0 ∧
    TtlDecremented (sampleHeader 1581 0xffff)
      (decrementTtl (sampleHeader 1581 0xffff) 0 false).2 0 :=
  ⟨(decrementTtl_keeps_checksum (by decide) (by decide) (by decide)).2,
    (decrementTtl_keeps_checksum (by decide) (by decide) (by decide)).2,
    (decrementTtl_keeps_checksum (by decide) (by decide) (by decide)).2⟩

end Headers

/-! ## Answers to echoes -/

/-- Where an ICMP message starts in a frame. -/
def icmpOff (isIpv6 : Bool) : Nat := if isIpv6 then 54 else 34

/-- The length of an ICMP message, by the network header in front of it. -/
def icmpLength (isIpv6 : Bool) (data : List UInt8) : Nat :=
  if isIpv6 then (netBytes isIpv6 data).toNat else (netBytes isIpv6 data).toNat - 20

/-- What the checksum of an ICMP message covers: the message, behind a pseudo header if it is
an ICMPv6 message. -/
def icmpCovered (isIpv6 : Bool) (data : List UInt8) : List UInt8 :=
  let length := icmpLength isIpv6 data
  let message := Bytes.slice data (icmpOff isIpv6) length
  if isIpv6 then
    Bytes.slice data 22 16 ++ (Bytes.slice data 38 16 ++
      (Bytes.ofUInt32 (Bytes.bswap32 length.toUInt32) ++ ([0, 0, 0, ipprotoIcmpv6] ++ message)))
  else message

/-- The checksum in an ICMP message. -/
def icmpCheck (isIpv6 : Bool) (data : List UInt8) : UInt16 := Bytes.read16 data (icmpOff isIpv6 + 2)

/-- A frame with an ICMP echo request. -/
structure EchoRequest (isIpv6 : Bool) (data : List UInt8) : Prop where
  header : NetHeader isIpv6 data
  protocol : outerProto isIpv6 data = icmpProto isIpv6
  type : Bytes.read8 data (icmpOff isIpv6) = if isIpv6 then icmpv6EchoRequest else icmpEcho
  whole : 8 ≤ icmpLength isIpv6 data ∧ icmpOff isIpv6 + icmpLength isIpv6 data ≤ data.length

/-- `send_icmp_reply` or `send_icmp6_reply`. -/
def sendEchoReply (cfg : BpfConfig) (isIpv6 : Bool) (data : List UInt8) : Verdict × List UInt8 :=
  if isIpv6 then sendIcmp6Reply cfg data else sendIcmpReply cfg data

/-- The adjustment of the checksum does not leave the range of a half word. -/
def AdjustsInRange (isIpv6 : Bool) (data : List UInt8) : Prop :=
  if isIpv6 then icmpCheck isIpv6 data ≠ 0 else icmpCheck isIpv6 data < 0xfff8

section Echo

variable {data : List UInt8}

private theorem netBytes_sendIcmpReply (cfg : BpfConfig) (data : List UInt8) :
    netBytes false (sendIcmpReply cfg data).2 = netBytes false data := by
  have half : ∀ bytes, Bytes.read16 bytes 16 = Bytes.read16 (Bytes.slice bytes 14 4) 2 :=
    fun bytes => (Bytes.read16_slice bytes 14 (by decide : 2 + 2 ≤ 4)).symm
  unfold sendIcmpReply
  split
  · rfl
  · dsimp only [netBytes]
    rw [if_neg Bool.false_ne_true, half, slice_swapMacAndSend _ _ (by decide), ← half]
    simp (disch := omega) only [Bytes.read16_write16_of_outside, Bytes.read16_write32_of_outside,
      Bytes.read16_write8_of_outside]

private theorem sendIcmpReply_message (cfg : BpfConfig) {size : Nat} (small : 8 ≤ size)
    (whole : 34 + size ≤ data.length) :
    Bytes.slice (sendIcmpReply cfg data).2 34 size =
      Bytes.write16 (Bytes.write8 (Bytes.slice data 34 size) 0 icmpEchoreply) 2
        (Bytes.read16 data 36 + 8) := by
  have long : 34 + size ≤ (Bytes.write8 data 34 icmpEchoreply).length := by
    rw [Bytes.length_write8]
    exact whole
  unfold sendIcmpReply
  rw [if_neg (by omega)]
  dsimp only
  rw [slice_swapMacAndSend _ _ (by decide)]
  simp (disch := omega) only [Bytes.slice_write16_of_outside, Bytes.slice_write32_of_outside,
    Bytes.slice_write8_of_outside]
  rw [Bytes.slice_write16_of_inside _ (by decide) (by omega) long,
    Bytes.slice_write8_of_inside _ (by decide) (by omega) whole,
    Bytes.read16_write8_of_outside _ _ (by decide)]

/-- The sum of a message with another type and another checksum. -/
theorem wordSum_adjusted {message : List UInt8} (type : UInt8) (check : UInt16)
    (long : 8 ≤ message.length) :
    Bytes.wordSum (Bytes.write16 (Bytes.write8 message 0 type) 2 check) +
        (Bytes.read8 message 0).toNat + (Bytes.read16 message 2).toNat =
      Bytes.wordSum message + type.toNat + check.toNat := by
  have first :=
    Bytes.wordSum_write8 type (by decide : 0 % 2 = 0) (by omega : 0 + 2 ≤ message.length)
  have second := Bytes.wordSum_write16 check (by decide : 2 % 2 = 0)
    (by rw [Bytes.length_write8]; omega : 2 + 2 ≤ (Bytes.write8 message 0 type).length)
  rw [Bytes.read16_write8_of_outside _ _ (by decide)] at second
  omega

private theorem sendIcmpReply_valid_iff (cfg : BpfConfig) (request : EchoRequest false data)
    (valid : Bytes.ChecksumValid (icmpCovered false data)) :
    Bytes.ChecksumValid (icmpCovered false (sendIcmpReply cfg data).2) ↔
      icmpCheck false data < 0xfff8 := by
  have small := request.whole.1
  have whole : 34 + icmpLength false data ≤ data.length := request.whole.2
  have type : Bytes.read8 (Bytes.slice data 34 (icmpLength false data)) 0 = 8 :=
    (Bytes.read8_slice data 34 (by omega)).trans request.type
  have check : Bytes.read16 (Bytes.slice data 34 (icmpLength false data)) 2 =
      icmpCheck false data :=
    Bytes.read16_slice data 34 (by omega)
  have sum := wordSum_adjusted icmpEchoreply (icmpCheck false data + 8)
    (by rw [Bytes.length_slice whole]; exact small :
      8 ≤ (Bytes.slice data 34 (icmpLength false data)).length)
  rw [type, check, UInt16.toNat_add] at sum
  change _ + 8 + _ = _ + 0 + (_ + 8) % 2 ^ 16 at sum
  have answered : icmpCovered false (sendIcmpReply cfg data).2 =
      Bytes.write16 (Bytes.write8 (Bytes.slice data 34 (icmpLength false data)) 0 icmpEchoreply) 2
        (icmpCheck false data + 8) := by
    have same : icmpLength false (sendIcmpReply cfg data).2 = icmpLength false data := by
      rw [icmpLength, netBytes_sendIcmpReply, icmpLength]
    rw [icmpCovered, same]
    exact sendIcmpReply_message cfg small whole
  change Bytes.ChecksumValid (Bytes.slice data 34 (icmpLength false data)) at valid
  have half : (icmpCheck false data).toNat < 2 ^ 16 := (icmpCheck false data).toNat_lt
  rw [answered, Bytes.checksumValid_iff, UInt16.lt_iff_toNat_lt]
  rw [Bytes.checksumValid_iff] at valid
  change _ ↔ _ < 0xfff8
  omega

/-! ### ICMPv6 -/

private theorem sendIcmp6Reply_tx (cfg : BpfConfig) (long : 14 + 40 + 8 ≤ data.length) :
    (sendIcmp6Reply cfg data).1 = .tx := by
  unfold sendIcmp6Reply
  rw [if_neg (by omega)]

private theorem netBytes_sendIcmp6Reply (cfg : BpfConfig) (data : List UInt8) :
    netBytes true (sendIcmp6Reply cfg data).2 = netBytes true data := by
  have half : ∀ bytes, Bytes.read16 bytes 18 = Bytes.read16 (Bytes.slice bytes 14 8) 4 :=
    fun bytes => (Bytes.read16_slice bytes 14 (by decide : 4 + 2 ≤ 8)).symm
  unfold sendIcmp6Reply
  split
  · rfl
  · dsimp only [netBytes]
    rw [if_pos rfl, half, slice_swapMacAndSend _ _ (by decide), ← half]
    simp (disch := omega) only [Bytes.read16_write16_of_outside, Bytes.read16_write128_of_outside,
      Bytes.read16_write8_of_outside]

/-- The message is adjusted, and the addresses are exchanged. -/
theorem sendIcmp6Reply_slices (cfg : BpfConfig) {size : Nat} (small : 8 ≤ size)
    (whole : 54 + size ≤ data.length) :
    Bytes.slice (sendIcmp6Reply cfg data).2 54 size =
        Bytes.write16 (Bytes.write8 (Bytes.slice data 54 size) 0 icmpv6EchoReply) 2
          (Bytes.read16 data 56 - 1) ∧
      Bytes.slice (sendIcmp6Reply cfg data).2 22 16 = Bytes.slice data 38 16 ∧
      Bytes.slice (sendIcmp6Reply cfg data).2 38 16 = Bytes.slice data 22 16 := by
  have long : 54 + size ≤ (Bytes.write8 data 54 icmpv6EchoReply).length := by
    rw [Bytes.length_write8]
    exact whole
  unfold sendIcmp6Reply
  rw [if_neg (by omega)]
  dsimp only
  rw [slice_swapMacAndSend _ _ (by decide), slice_swapMacAndSend _ _ (by decide),
    slice_swapMacAndSend _ _ (by decide)]
  refine ⟨?_, ?_, ?_⟩
  · simp (disch := omega) only [Bytes.slice_write128_of_outside, Bytes.slice_write8_of_outside]
    rw [Bytes.slice_write16_of_inside _ (by decide) (by omega) long,
      Bytes.slice_write8_of_inside _ (by decide) (by omega) whole,
      Bytes.read16_write8_of_outside _ _ (by decide)]
  · rw [Bytes.slice_write128_of_outside _ _ (by decide), Bytes.slice_write128,
      Bytes.ofBe32x4_read128 (by omega)]
    simp only [Bytes.length_write8, Bytes.length_write16]
    omega
  · rw [Bytes.slice_write128, Bytes.ofBe32x4_read128 (by omega)]
    simp only [Bytes.length_write8, Bytes.length_write16, Bytes.length_write128]
    omega

/-- The sum of an ICMPv6 message with its pseudo header. -/
theorem wordSum_pseudoHeader {source target length : List UInt8} (message : List UInt8)
    (sixteen : source.length = 16) (other : target.length = 16) (four : length.length = 4) :
    Bytes.wordSum (source ++ (target ++ (length ++ ([0, 0, 0, ipprotoIcmpv6] ++ message)))) =
      Bytes.wordSum source + (Bytes.wordSum target + (Bytes.wordSum length +
        (Bytes.wordSum [0, 0, 0, ipprotoIcmpv6] + Bytes.wordSum message))) := by
  rw [Bytes.wordSum_append _ (by rw [sixteen]), Bytes.wordSum_append _ (by rw [other]),
    Bytes.wordSum_append _ (by rw [four]), Bytes.wordSum_append _ (by rfl)]

private theorem sendIcmp6Reply_valid_iff (cfg : BpfConfig) (request : EchoRequest true data)
    (valid : Bytes.ChecksumValid (icmpCovered true data)) :
    Bytes.ChecksumValid (icmpCovered true (sendIcmp6Reply cfg data).2) ↔
      icmpCheck true data ≠ 0 := by
  have small := request.whole.1
  have whole : 54 + icmpLength true data ≤ data.length := request.whole.2
  have type : Bytes.read8 (Bytes.slice data 54 (icmpLength true data)) 0 = 128 :=
    (Bytes.read8_slice data 54 (by omega)).trans request.type
  have check : Bytes.read16 (Bytes.slice data 54 (icmpLength true data)) 2 = icmpCheck true data :=
    Bytes.read16_slice data 54 (by omega)
  have sum := wordSum_adjusted icmpv6EchoReply (icmpCheck true data - 1)
    (by rw [Bytes.length_slice whole]; exact small :
      8 ≤ (Bytes.slice data 54 (icmpLength true data)).length)
  rw [type, check, UInt16.toNat_sub] at sum
  change _ + 128 + _ = _ + 129 + (2 ^ 16 - 1 + _) % 2 ^ 16 at sum
  obtain ⟨message, source, target⟩ := sendIcmp6Reply_slices cfg small whole
  change _ = Bytes.write16 _ 2 (icmpCheck true data - 1) at message
  have same : icmpLength true (sendIcmp6Reply cfg data).2 = icmpLength true data := by
    rw [icmpLength, netBytes_sendIcmp6Reply, icmpLength]
  have half : (icmpCheck true data).toNat < 2 ^ 16 := (icmpCheck true data).toNat_lt
  rw [Bytes.checksumValid_iff, icmpCovered] at valid
  rw [Bytes.checksumValid_iff, icmpCovered, same]
  simp only [↓reduceIte, icmpOff] at valid ⊢
  rw [wordSum_pseudoHeader _ (Bytes.length_slice (by omega)) (Bytes.length_slice (by omega)) rfl]
    at valid
  rw [message, source, target, wordSum_pseudoHeader _ (Bytes.length_slice (by omega))
    (Bytes.length_slice (by omega)) rfl, ne_eq (icmpCheck true data), ← UInt16.toNat_inj]
  change _ ↔ ¬ _ = 0
  omega

/-- An echo request is answered. -/
theorem processL3Headers_of_echo (cfg : BpfConfig) {isIpv6 : Bool}
    (request : EchoRequest isIpv6 data) :
    processL3Headers cfg data 14 isIpv6 = .done .tx (sendEchoReply cfg isIpv6 data).2 := by
  obtain ⟨small, whole⟩ := request.whole
  have type := request.type
  rw [processL3Headers_of_icmp cfg request.header request.protocol]
  cases isIpv6 with
  | true =>
      change 54 + _ ≤ _ at whole
      change Bytes.read8 data 54 = icmpv6EchoRequest at type
      have answered := sendIcmp6Reply_tx cfg (by omega : 14 + 40 + 8 ≤ data.length)
      have long : ¬ 54 + 8 > data.length := by omega
      simp only [parseIcmpOf, parseIcmpv6, sendEchoReply, type, answered, long, ↓reduceIte]
  | false =>
      change 34 + _ ≤ _ at whole
      change Bytes.read8 data 34 = icmpEcho at type
      have answered := sendIcmpReply_tx cfg (by omega : 14 + 20 + 8 ≤ data.length)
      have long : ¬ 34 + 8 > data.length := by omega
      simp only [parseIcmpOf, parseIcmp, sendEchoReply, type, answered, long, Bool.false_eq_true,
        ↓reduceIte]

/-- **Answers to echo requests are valid, unless the adjustment needs a carry.** A request with
a valid checksum is answered, for both families, and the checksum of the answer is valid exactly
if the difference of the types can be added without leaving the sixteen bits. -/
theorem echo_reply_valid_iff (cfg : BpfConfig) {isIpv6 : Bool} (request : EchoRequest isIpv6 data)
    (valid : Bytes.ChecksumValid (icmpCovered isIpv6 data)) :
    processL3Headers cfg data 14 isIpv6 = .done .tx (sendEchoReply cfg isIpv6 data).2 ∧
      (Bytes.ChecksumValid (icmpCovered isIpv6 (sendEchoReply cfg isIpv6 data).2) ↔
        AdjustsInRange isIpv6 data) := by
  refine ⟨processL3Headers_of_echo cfg request, ?_⟩
  cases isIpv6 with
  | true => exact sendIcmp6Reply_valid_iff cfg request valid
  | false => exact sendIcmpReply_valid_iff cfg request valid

/-- An ICMP echo request with an identifier and a checksum. -/
def sampleEcho (id check : UInt16) : List UInt8 :=
  [2, 0, 0, 0, 0, 2, 2, 0, 0, 0, 0, 3, 8, 0, 0x45, 0, 0, 28, 0, 0, 0x40, 0, 64, 1, 0, 0, 1, 1, 1, 1,
    10, 200, 1, 1] ++ [8, 0] ++ Bytes.ofUInt16 check ++ Bytes.ofUInt16 id ++ [0, 0]

/-- An ICMPv6 echo request with an identifier and a checksum. -/
def sampleEcho6 (id check : UInt16) : List UInt8 :=
  [2, 0, 0, 0, 0, 2, 2, 0, 0, 0, 0, 3, 0x86, 0xdd, 0x60, 0, 0, 0, 0, 8, 58, 64,
    0xfc, 0, 0, 0, 0, 0, 0, 0, 0, 0, 0, 0, 0, 0, 0, 1,
    0xfc, 0, 0, 0, 0, 0, 0, 0, 0, 0, 0, 0, 0, 0, 0, 2] ++
    [128, 0] ++ Bytes.ofUInt16 check ++ Bytes.ofUInt16 id ++ [0, 1]

private theorem sampleEcho_request :
    EchoRequest false (sampleEcho 0xffff 0xfff7) ∧ EchoRequest false (sampleEcho 0xfffe 0xfff8) ∧
      EchoRequest true (sampleEcho6 46983 0) :=
  ⟨⟨⟨by decide, by decide, by decide⟩, by decide, by decide, by decide⟩,
    ⟨⟨by decide, by decide, by decide⟩, by decide, by decide, by decide⟩,
    ⟨⟨by decide, by decide⟩, by decide, by decide, by decide⟩⟩

/-- The largest checksum that can be adjusted. -/
theorem echo_reply_valid_iff_sample :
    Bytes.ChecksumValid (icmpCovered false (sendEchoReply {} false (sampleEcho 0xffff 0xfff7)).2) :=
  (echo_reply_valid_iff {} sampleEcho_request.1 (by decide)).2.mpr
    (by decide : icmpCheck false (sampleEcho 0xffff 0xfff7) < 0xfff8)

/-- Requests with valid checksums that are answered with invalid ones. -/
theorem echo_reply_invalid :
    (EchoRequest false (sampleEcho 0xfffe 0xfff8) ∧
      Bytes.ChecksumValid (icmpCovered false (sampleEcho 0xfffe 0xfff8)) ∧
      ¬ Bytes.ChecksumValid
        (icmpCovered false (sendEchoReply {} false (sampleEcho 0xfffe 0xfff8)).2)) ∧
    EchoRequest true (sampleEcho6 46983 0) ∧
      Bytes.ChecksumValid (icmpCovered true (sampleEcho6 46983 0)) ∧
      ¬ Bytes.ChecksumValid (icmpCovered true (sendEchoReply {} true (sampleEcho6 46983 0)).2) := by
  refine ⟨⟨sampleEcho_request.2.1, ?_, ?_⟩, sampleEcho_request.2.2, ?_, ?_⟩
  all_goals decide +kernel

end Echo

end Katran
