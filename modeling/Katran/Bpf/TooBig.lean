import Katran.Bpf.Checksum

/-! # Errors for packets that are too big

A packet for a VIP that is too big is cut, and sent back behind a network and an ICMP header.
The new headers are written over the Ethernet header of the packet, from which the new one is
copied before, and over headroom. Whatever the headroom holds, the frame is an error for the
sender that quotes the start of its packet, and its checksums are valid (`tooBig_wellFormed`).
-/

namespace Katran

open Foundation

/-! ## The helper that sums bytes -/

/-- A word of 32 bits in a 64-bit variable. The helper is declared to return an `int`, so that
a word may have its sign extended. -/
def IsWord (csum : UInt64) : Prop := csum.toNat < 2 ^ 32 ∨ 2 ^ 64 - 2 ^ 31 ≤ csum.toNat

/-- What the helper is relied on for: it adds the one's-complement sum of some bytes, a multiple
of four, to a word. Such a sum is zero only if nothing but zeros is added. -/
structure SumsBytes (csumDiff : CsumDiff) : Prop where
  word : ∀ bytes seed, 4 ∣ bytes.length → IsWord seed → IsWord (csumDiff bytes seed)
  sum : ∀ bytes seed, 4 ∣ bytes.length → IsWord seed →
    (csumDiff bytes seed).toNat ≡ seed.toNat + Bytes.wordSum bytes [MOD 65535]
  zero : ∀ bytes seed, 4 ∣ bytes.length → IsWord seed →
    (csumDiff bytes seed = 0 ↔ seed = 0 ∧ Bytes.wordSum bytes = 0)

/-- A variable holds the one's-complement sum of some half words, which add up to a number. -/
structure HoldsSum (csum : UInt64) (total : Nat) : Prop where
  word : IsWord csum
  congruent : csum.toNat ≡ total [MOD 65535]
  zero : csum = 0 ↔ total = 0

section Sums

variable {csumDiff : CsumDiff} {csum : UInt64} {total : Nat} {bytes : List UInt8}

private theorem holdsSum_zero : HoldsSum 0 0 := ⟨.inl (by decide), rfl, by decide⟩

private theorem HoldsSum.more (sums : SumsBytes csumDiff) (holds : HoldsSum csum total)
    (whole : 4 ∣ bytes.length) : HoldsSum (csumDiff bytes csum) (total + Bytes.wordSum bytes) where
  word := sums.word bytes csum whole holds.word
  congruent := (sums.sum bytes csum whole holds.word).trans (holds.congruent.add_right _)
  zero := by rw [sums.zero bytes csum whole holds.word, holds.zero, Nat.add_eq_zero_iff]

end Sums

/-! ## Frames -/

/-- What is quoted of a packet, with its Ethernet header. -/
def toobigSize (isIpv6 : Bool) : Nat := if isIpv6 then icmp6ToobigSize else icmpToobigSize

/-- The length of the headers in front of what is quoted, without the Ethernet header. -/
def toobigHlen (isIpv6 : Bool) : Nat := if isIpv6 then 48 else 28

/-- The bytes of the source address of a frame. -/
def saddrBytes (isIpv6 : Bool) (data : List UInt8) : List UInt8 :=
  if isIpv6 then Bytes.slice data 22 16 else Bytes.slice data 26 4

/-- The bytes of the destination address of a frame. -/
def daddrBytes (isIpv6 : Bool) (data : List UInt8) : List UInt8 :=
  if isIpv6 then Bytes.slice data 38 16 else Bytes.slice data 30 4

/-- A frame is an error for the sender of another one, which was too big. -/
structure TooBigError (isIpv6 : Bool) (orig frame : List UInt8) : Prop where
  macs : Bytes.slice frame 0 6 = Bytes.slice orig 6 6 ∧ Bytes.slice frame 6 6 = Bytes.slice orig 0 6
  addresses : saddrBytes isIpv6 frame = daddrBytes isIpv6 orig ∧
    daddrBytes isIpv6 frame = saddrBytes isIpv6 orig
  protocol : outerProto isIpv6 frame = icmpProto isIpv6
  type : Bytes.read8 frame (icmpOff isIpv6) = if isIpv6 then icmpv6PktToobig else icmpDestUnreach
  length : (netBytes isIpv6 frame).toNat + 14 + (if isIpv6 then 40 else 0) = frame.length
  quoted : frame.drop (quoteOff isIpv6) = Bytes.slice orig 14 (toobigSize isIpv6 - 14)
  header : isIpv6 = false → Bytes.ChecksumValid (ipv4Header frame 14)
  message : Bytes.ChecksumValid (icmpCovered isIpv6 frame)

namespace Bytes

variable {data : List UInt8} {off start size : Nat}

private theorem slice_write32_self (value : UInt32) (room : off + 4 ≤ data.length) :
    slice (write32 data off value) off 4 = ofUInt32 value :=
  @slice_write data (ofUInt32 value) off room

private theorem slice_copy_of_outside (data : List UInt8) {dst src count : Nat}
    (outside : dst + count ≤ start ∨ start + size ≤ dst) :
    slice (copy data dst src count) start size = slice data start size := by
  apply slice_write_of_outside
  rw [List.length_take]
  omega

private theorem slice_copy_self {dst src count : Nat} (room : dst + count ≤ data.length)
    (inside : src + count ≤ data.length) :
    slice (copy data dst src count) dst count = slice data src count := by
  have length : (slice data src count).length = count := length_slice inside
  have written := @slice_write data (slice data src count) dst (by omega)
  rw [length] at written
  exact written

end Bytes

section Frames

variable {data : List UInt8} {origEth : Nat}

private theorem length_swapMac (data : List UInt8) (origEth : Nat) :
    (swapMac data origEth).length = data.length := by
  simp only [swapMac, Bytes.length_copy]

/-- The addresses of the Ethernet header are exchanged. -/
theorem swapMac_macs (behind : 14 ≤ origEth) (room : origEth + 14 ≤ data.length) :
    Bytes.slice (swapMac data origEth) 0 6 = Bytes.slice data (origEth + 6) 6 ∧
      Bytes.slice (swapMac data origEth) 6 6 = Bytes.slice data origEth 6 := by
  unfold swapMac
  dsimp only
  constructor
  · rw [Bytes.slice_copy_of_outside _ (.inr (by decide)),
      Bytes.slice_copy_self (by rw [Bytes.length_copy]; omega) (by rw [Bytes.length_copy]; omega),
      Bytes.slice_copy_of_outside _ (.inl (by omega))]
  · rw [Bytes.slice_copy_of_outside _ (.inr (by decide)),
      Bytes.slice_copy_of_outside _ (.inl (by decide)),
      Bytes.slice_copy_self (by omega) (by omega)]

private theorem slice_of_drop {first second : List UInt8} {start other : Nat}
    (same : first.drop start = second.drop other) (off size : Nat) :
    Bytes.slice first (start + off) size = Bytes.slice second (other + off) size := by
  rw [Bytes.slice, Bytes.slice, ← List.drop_drop, same, List.drop_drop]

/-- The start of a frame behind new headers is read there. -/
theorem slice_of_kept {orig wide : List UInt8} {hlen total off size : Nat}
    (kept : wide.drop hlen = orig.take total) (inside : off + size ≤ total) :
    Bytes.slice wide (hlen + off) size = Bytes.slice orig off size := by
  rw [Bytes.slice, ← List.drop_drop, kept, List.drop_take, List.take_take,
    Nat.min_eq_left (by omega), Bytes.slice]

private theorem drop_of_kept {orig wide : List UInt8} {hlen total : Nat}
    (kept : wide.drop hlen = orig.take total) (off : Nat) :
    wide.drop (hlen + off) = Bytes.slice orig off (total - off) := by
  rw [← List.drop_drop, kept, List.drop_take, Bytes.slice]

end Frames

/-! ## IPv4 -/

/-- The part of `send_icmp4_too_big` up to the sum over the ICMP message. -/
def toobigMessage (cfg : BpfConfig) (data : List UInt8) : List UInt8 :=
  let data := swapMac data 28
  let data := Bytes.write8 data 34 icmpDestUnreach
  let data := Bytes.write8 data 35 icmpFragNeeded
  let data := Bytes.write16 data 40 (Bytes.htons (cfg.maxPcktSize.toUInt16 - 14))
  Bytes.write16 data 36 0

/-- The part of `send_icmp4_too_big` that writes the IP header, up to the sum over it. -/
def toobigHeader (cfg : BpfConfig) (data : List UInt8) : List UInt8 :=
  let data := Bytes.write8 data 22 cfg.defaultTtl
  let data := Bytes.write32 data 30 (Bytes.read32 data 54)
  let data := Bytes.write32 data 26 (Bytes.read32 data 58)
  let data := Bytes.write8 data 14 0x45
  let data := Bytes.write8 data 23 ipprotoIcmp
  let data := Bytes.write8 data 15 0
  let data := Bytes.write16 data 16 (Bytes.htons (icmpToobigSize + 28 - 14).toUInt16)
  Bytes.write16 data 24 0

section Ipv4

variable {cfg : BpfConfig} {csumDiff : CsumDiff} {xdp wide : XdpMd} {data : List UInt8}

private theorem sendIcmp4TooBig_eq (cfg : BpfConfig) (csumDiff : CsumDiff)
    (grown : xdp.growHead 28 = some wide) (long : icmpToobigSize + 28 ≤ wide.data.length) :
    sendIcmp4TooBig cfg csumDiff xdp =
      let message := toobigMessage cfg wide.data
      let summed := Bytes.write16 message 36
        (ipv4Csum csumDiff (Bytes.slice message 34 icmpToobigPayloadSize))
      let header := toobigHeader cfg summed
      (.tx, { wide with
        data := Bytes.write16 header 24 (ipv4Csum csumDiff (Bytes.slice header 14 20)) }) := by
  have enough : ¬ icmpToobigSize + 28 > wide.data.length := Nat.not_lt.mpr long
  simp only [sendIcmp4TooBig, grown, enough, ↓reduceIte]
  rfl

/-- The ICMP header is in place, with a cleared checksum. -/
theorem toobigMessage_spec (cfg : BpfConfig) (long : 42 ≤ data.length) :
    let message := toobigMessage cfg data
    message.length = data.length ∧ Bytes.slice message 0 6 = Bytes.slice data 34 6 ∧
      Bytes.slice message 6 6 = Bytes.slice data 28 6 ∧ message.drop 42 = data.drop 42 ∧
      Bytes.read8 message 34 = icmpDestUnreach ∧ Bytes.read16 message 36 = 0 := by
  obtain ⟨first, second⟩ := swapMac_macs (by decide : 14 ≤ 28) long
  have length := length_swapMac data 28
  dsimp only [toobigMessage]
  refine ⟨?_, ?_, ?_, ?_, ?_, ?_⟩
  · simp only [Bytes.length_write8, Bytes.length_write16, length]
  · simp (disch := omega) only [Bytes.slice_write8_of_outside, Bytes.slice_write16_of_outside,
      first]
  · simp (disch := omega) only [Bytes.slice_write8_of_outside, Bytes.slice_write16_of_outside,
      second]
  · rw [Bytes.drop_write16 _ _ (by decide), Bytes.drop_write16 _ _ (by decide),
      Bytes.drop_write8 _ _ (by decide), Bytes.drop_write8 _ _ (by decide), swapMac,
      Bytes.drop_copy _ (by decide), Bytes.drop_copy _ (by decide), Bytes.drop_copy _ (by decide)]
  · simp (disch := omega) only [Bytes.read8_write16_of_outside, Bytes.read8_write8_of_ne]
    exact Bytes.read8_write8_self _ (by omega)
  · apply Bytes.read16_write16
    simp only [Bytes.length_write8, Bytes.length_write16]
    omega

/-- The IP header is in place, with a cleared checksum. -/
theorem toobigHeader_spec (cfg : BpfConfig) (long : 62 ≤ data.length) :
    let header := toobigHeader cfg data
    header.length = data.length ∧
      (∀ start size, start + size ≤ 14 →
        Bytes.slice header start size = Bytes.slice data start size) ∧
      header.drop 34 = data.drop 34 ∧ saddrBytes false header = Bytes.slice data 58 4 ∧
      daddrBytes false header = Bytes.slice data 54 4 ∧ Bytes.read8 header 23 = ipprotoIcmp ∧
      Bytes.read16 header 16 = Bytes.htons 112 ∧ Bytes.read16 header 24 = 0 := by
  have far : ∀ (bytes : List UInt8) (off : Nat) (value : UInt32), off + 4 ≤ 58 →
      Bytes.read32 (Bytes.write32 bytes off value) 58 = Bytes.read32 bytes 58 :=
    fun bytes off value before => Bytes.read32_write_of_outside bytes (.inr before)
  have ttl : ∀ index, 23 ≤ index →
      Bytes.read32 (Bytes.write8 data 22 cfg.defaultTtl) index = Bytes.read32 data index :=
    fun index behind => Bytes.read32_write_of_outside data (.inr behind)
  dsimp only [toobigHeader]
  rw [far _ 30 _ (by decide), ttl 54 (by decide), ttl 58 (by decide)]
  refine ⟨?_, ?_, ?_, ?_, ?_, ?_, ?_, ?_⟩
  · simp only [Bytes.length_write8, Bytes.length_write16, Bytes.length_write32]
  · intro start size before
    simp (disch := omega) only [Bytes.slice_write8_of_outside, Bytes.slice_write16_of_outside,
      Bytes.slice_write32_of_outside]
  · rw [Bytes.drop_write16 _ _ (by decide), Bytes.drop_write16 _ _ (by decide),
      Bytes.drop_write8 _ _ (by decide), Bytes.drop_write8 _ _ (by decide),
      Bytes.drop_write8 _ _ (by decide), Bytes.drop_write32 _ _ (by decide),
      Bytes.drop_write32 _ _ (by decide), Bytes.drop_write8 _ _ (by decide)]
  · simp (disch := omega) only [saddrBytes, Bool.false_eq_true, ↓reduceIte,
      Bytes.slice_write8_of_outside, Bytes.slice_write16_of_outside]
    rw [Bytes.slice_write32_self _ (by rw [Bytes.length_write32, Bytes.length_write8]; omega),
      Bytes.ofUInt32_read32_eq_slice (by omega)]
  · simp (disch := omega) only [daddrBytes, Bool.false_eq_true, ↓reduceIte,
      Bytes.slice_write8_of_outside, Bytes.slice_write16_of_outside, Bytes.slice_write32_of_outside]
    rw [Bytes.slice_write32_self _ (by rw [Bytes.length_write8]; omega),
      Bytes.ofUInt32_read32_eq_slice (by omega)]
  · simp (disch := omega) only [Bytes.read8_write16_of_outside, Bytes.read8_write8_of_ne]
    apply Bytes.read8_write8_self
    simp only [Bytes.length_write8, Bytes.length_write32]
    omega
  · simp (disch := omega) only [Bytes.read16_write16_of_outside]
    apply Bytes.read16_write16
    simp only [Bytes.length_write8, Bytes.length_write32]
    omega
  · apply Bytes.read16_write16
    simp only [Bytes.length_write8, Bytes.length_write16, Bytes.length_write32]
    omega

/-- A slice whose checksum is cleared, summed up and written. -/
theorem slice_checksummed (sums : SumsBytes csumDiff) {start size off : Nat}
    (whole : 4 ∣ size) (even : off % 2 = 0) (inside : off + 2 ≤ size)
    (room : start + size ≤ data.length) (cleared : Bytes.read16 data (start + off) = 0) :
    Bytes.ChecksumValid (Bytes.slice (Bytes.write16 data (start + off)
      (ipv4Csum csumDiff (Bytes.slice data start size))) start size) := by
  have length := Bytes.length_slice room
  have holds : HoldsSum (csumDiff (Bytes.slice data start size) 0)
      (0 + Bytes.wordSum (Bytes.slice data start size)) :=
    holdsSum_zero.more sums (by rw [length]; exact whole)
  have valid := covered_of_written holds.congruent holds.zero even (by omega)
    (by rw [Bytes.read16_slice data start inside, cleared])
  rw [Bytes.slice_write16_of_inside _ (by omega) (by omega) room, Nat.add_sub_cancel_left,
    Bytes.checksumValid_iff]
  rw [Nat.zero_add] at valid
  exact valid

/-- The ICMP message has its checksum. -/
theorem toobigMessage_summed (cfg : BpfConfig) (sums : SumsBytes csumDiff)
    (length : data.length = 126) :
    let summed := Bytes.write16 (toobigMessage cfg data) 36
      (ipv4Csum csumDiff (Bytes.slice (toobigMessage cfg data) 34 92))
    summed.length = 126 ∧ Bytes.slice summed 0 6 = Bytes.slice data 34 6 ∧
      Bytes.slice summed 6 6 = Bytes.slice data 28 6 ∧ summed.drop 42 = data.drop 42 ∧
      Bytes.read8 summed 34 = icmpDestUnreach ∧ Bytes.ChecksumValid (Bytes.slice summed 34 92) := by
  obtain ⟨same, dest, source, quote, type, cleared⟩ :=
    toobigMessage_spec cfg (by omega : 42 ≤ data.length)
  generalize toobigMessage cfg data = message at *
  dsimp only
  refine ⟨?_, ?_, ?_, ?_, ?_, ?_⟩
  · rw [Bytes.length_write16, same, length]
  · rw [Bytes.slice_write16_of_outside _ _ (by decide), dest]
  · rw [Bytes.slice_write16_of_outside _ _ (by decide), source]
  · rw [Bytes.drop_write16 _ _ (by decide), quote]
  · rw [Bytes.read8_write16_of_outside _ _ (by decide), type]
  · exact @slice_checksummed csumDiff message sums 34 92 2 (by decide) (by decide) (by decide)
      (by omega) cleared

/-- What `send_icmp4_too_big` makes of a packet behind enough headroom. -/
theorem tooBigError_ipv4 (cfg : BpfConfig) (sums : SumsBytes csumDiff) {orig wide : List UInt8}
    (length : wide.length = 126) (kept : wide.drop 28 = orig.take 98) :
    let summed := Bytes.write16 (toobigMessage cfg wide) 36
      (ipv4Csum csumDiff (Bytes.slice (toobigMessage cfg wide) 34 92))
    let header := toobigHeader cfg summed
    TooBigError false orig
      (Bytes.write16 header 24 (ipv4Csum csumDiff (Bytes.slice header 14 20))) := by
  dsimp only
  obtain ⟨summedLength, dest, source, quote, type, message⟩ :=
    toobigMessage_summed cfg sums length
  generalize Bytes.write16 (toobigMessage cfg wide) 36
    (ipv4Csum csumDiff (Bytes.slice (toobigMessage cfg wide) 34 92)) = summed at *
  obtain ⟨headerLength, front, behind, saddr, daddr, protocol, total, cleared⟩ :=
    toobigHeader_spec cfg (by omega : 62 ≤ summed.length)
  generalize toobigHeader cfg summed = bytes at *
  have header := @slice_checksummed csumDiff bytes sums 14 20 10 (by decide) (by decide) (by decide)
    (by omega) cleared
  change Bytes.ChecksumValid (Bytes.slice (Bytes.write16 bytes 24 _) 14 20) at header
  generalize ipv4Csum csumDiff (Bytes.slice bytes 14 20) = check at *
  have quoted : ∀ off size, off + size ≤ 84 →
      Bytes.slice summed (42 + off) size = Bytes.slice orig (14 + off) size := by
    intro off size inside
    rw [slice_of_drop quote, ← slice_of_kept kept (by omega : 14 + off + size ≤ 98),
      ← Nat.add_assoc]
  have total : netBytes false (Bytes.write16 bytes 24 check) = 112 := by
    change Bytes.htons (Bytes.read16 (Bytes.write16 bytes 24 check) 16) = 112
    rw [Bytes.read16_write16_of_outside _ _ (by decide), total]
    decide
  have later : bytes.drop 42 = wide.drop 42 := by
    have rest := congrArg (List.drop 8) behind
    rw [List.drop_drop, List.drop_drop] at rest
    exact rest.trans quote
  have read : Bytes.read8 bytes 34 = Bytes.read8 summed 34 := by
    rw [← Nat.add_zero 34, ← Bytes.read8_drop, behind, Bytes.read8_drop]
  refine ⟨⟨?_, ?_⟩, ⟨?_, ?_⟩, ?_, ?_, ?_, ?_, fun _ => header, ?_⟩
  · rw [Bytes.slice_write16_of_outside _ _ (by decide), front 0 6 (by decide), dest]
    exact slice_of_kept kept (by decide : 6 + 6 ≤ _)
  · rw [Bytes.slice_write16_of_outside _ _ (by decide), front 6 6 (by decide), source]
    exact slice_of_kept kept (by decide : 0 + 6 ≤ _)
  · refine (Bytes.slice_write16_of_outside bytes check (.inl (by decide : 24 + 2 ≤ 26))).trans ?_
    exact saddr.trans (quoted 16 4 (by decide))
  · refine (Bytes.slice_write16_of_outside bytes check (.inl (by decide : 24 + 2 ≤ 30))).trans ?_
    exact daddr.trans (quoted 12 4 (by decide))
  · exact (Bytes.read8_write16_of_outside bytes check (by decide)).trans protocol
  · exact (Bytes.read8_write16_of_outside bytes check (by decide)).trans (read.trans type)
  · rw [total, Bytes.length_write16, headerLength, summedLength]
    decide
  · refine (Bytes.drop_write16 bytes check (by decide : 24 + 2 ≤ 42)).trans (later.trans ?_)
    exact drop_of_kept kept 14
  · have covered : icmpCovered false (Bytes.write16 bytes 24 check) = Bytes.slice summed 34 92 := by
      rw [icmpCovered, icmpLength, total]
      refine (Bytes.slice_write16_of_outside bytes check (.inl (by decide : 24 + 2 ≤ 34))).trans ?_
      exact slice_of_drop behind 0 92
    rw [covered]
    exact message

end Ipv4

/-! ## IPv6 -/

/-- The part of `send_icmp6_too_big` up to the addresses. -/
def toobigHeader6 (cfg : BpfConfig) (data : List UInt8) : List UInt8 :=
  let data := swapMac data 48
  let data := Bytes.write8 data 14 0x60
  let data := Bytes.write8 data 20 ipprotoIcmpv6
  let data := Bytes.write8 data 21 cfg.defaultTtl
  let data := Bytes.write16 data 18 (Bytes.htons icmp6ToobigPayloadSize.toUInt16)
  Bytes.write data 15 [0, 0, 0]

/-- The part of `send_icmp6_too_big` from the addresses up to the sum over the ICMPv6
message. -/
def toobigMessage6 (cfg : BpfConfig) (data : List UInt8) : List UInt8 :=
  let data := Bytes.write128 data 38 (Bytes.read128 data 70)
  let data := Bytes.write128 data 22 (Bytes.read128 data 86)
  let data := Bytes.write8 data 54 icmpv6PktToobig
  let data := Bytes.write8 data 55 0
  let data := Bytes.write32 data 58 (Bytes.bswap32 (cfg.maxPcktSize.toUInt32 - 14))
  Bytes.write16 data 56 0

section Ipv6

variable {cfg : BpfConfig} {csumDiff : CsumDiff} {xdp wide : XdpMd} {data : List UInt8}

private theorem sendIcmp6TooBig_eq (cfg : BpfConfig) (csumDiff : CsumDiff)
    (grown : xdp.growHead 48 = some wide) (long : icmp6ToobigSize + 48 ≤ wide.data.length) :
    sendIcmp6TooBig cfg csumDiff xdp =
      let headers := toobigMessage6 cfg (toobigHeader6 cfg wide.data)
      (.tx, { wide with
        data := Bytes.write16 headers 56 (ipv6Csum csumDiff
          (Bytes.slice headers 54 icmp6ToobigPayloadSize) (Bytes.slice headers 22 16)
          (Bytes.slice headers 38 16) (Bytes.read8 headers 20)) }) := by
  have enough : ¬ icmp6ToobigSize + 48 > wide.data.length := Nat.not_lt.mpr long
  simp only [sendIcmp6TooBig, grown, enough, ↓reduceIte]
  rfl

/-- The IP header is in place, without the addresses. -/
theorem toobigHeader6_spec (cfg : BpfConfig) (long : 62 ≤ data.length) :
    let header := toobigHeader6 cfg data
    header.length = data.length ∧ Bytes.slice header 0 6 = Bytes.slice data 54 6 ∧
      Bytes.slice header 6 6 = Bytes.slice data 48 6 ∧ header.drop 22 = data.drop 22 ∧
      Bytes.read8 header 20 = ipprotoIcmpv6 ∧ Bytes.read16 header 18 = Bytes.htons 256 := by
  obtain ⟨first, second⟩ := swapMac_macs (by decide : 14 ≤ 48) long
  have length := length_swapMac data 48
  dsimp only [toobigHeader6]
  refine ⟨?_, ?_, ?_, ?_, ?_, ?_⟩
  · simp only [Bytes.length_write, Bytes.length_write8, Bytes.length_write16, length]
  · rw [Bytes.slice_write_of_outside _ (.inr (by decide))]
    simp (disch := omega) only [Bytes.slice_write8_of_outside, Bytes.slice_write16_of_outside,
      first]
  · rw [Bytes.slice_write_of_outside _ (.inr (by decide))]
    simp (disch := omega) only [Bytes.slice_write8_of_outside, Bytes.slice_write16_of_outside,
      second]
  · rw [Bytes.drop_write _ (by decide), Bytes.drop_write16 _ _ (by decide),
      Bytes.drop_write8 _ _ (by decide), Bytes.drop_write8 _ _ (by decide),
      Bytes.drop_write8 _ _ (by decide), swapMac, Bytes.drop_copy _ (by decide),
      Bytes.drop_copy _ (by decide), Bytes.drop_copy _ (by decide)]
  · rw [Bytes.read8_write_of_outside _ (.inr (by decide)),
      Bytes.read8_write16_of_outside _ _ (by decide), Bytes.read8_write8_of_ne _ _ (by decide)]
    apply Bytes.read8_write8_self
    rw [Bytes.length_write8, length]
    omega
  · refine (Bytes.read16_write_of_outside _ (.inr (by decide : 15 + 3 ≤ 18))).trans ?_
    apply Bytes.read16_write16
    simp only [Bytes.length_write8, length]
    omega

/-- The addresses and the ICMPv6 header are in place, with a cleared checksum. -/
theorem toobigMessage6_spec (cfg : BpfConfig) (long : 102 ≤ data.length) :
    let message := toobigMessage6 cfg data
    message.length = data.length ∧
      (∀ start size, start + size ≤ 22 →
        Bytes.slice message start size = Bytes.slice data start size) ∧
      message.drop 62 = data.drop 62 ∧ saddrBytes true message = Bytes.slice data 86 16 ∧
      daddrBytes true message = Bytes.slice data 70 16 ∧
      Bytes.read8 message 54 = icmpv6PktToobig ∧ Bytes.read16 message 56 = 0 := by
  have far : ∀ (bytes : List UInt8) (value : Be32x4),
      Bytes.read128 (Bytes.write128 bytes 38 value) 86 = Bytes.read128 bytes 86 :=
    fun bytes value => Bytes.read128_write_of_outside bytes (.inr (by decide : 38 + 16 ≤ 86))
  dsimp only [toobigMessage6]
  rw [far]
  refine ⟨?_, ?_, ?_, ?_, ?_, ?_, ?_⟩
  · simp only [Bytes.length_write8, Bytes.length_write16, Bytes.length_write32,
      Bytes.length_write128]
  · intro start size before
    simp (disch := omega) only [Bytes.slice_write8_of_outside, Bytes.slice_write16_of_outside,
      Bytes.slice_write32_of_outside, Bytes.slice_write128_of_outside]
  · rw [Bytes.drop_write16 _ _ (by decide), Bytes.drop_write32 _ _ (by decide),
      Bytes.drop_write8 _ _ (by decide), Bytes.drop_write8 _ _ (by decide),
      Bytes.drop_write128 _ _ (by decide), Bytes.drop_write128 _ _ (by decide)]
  · simp (disch := omega) only [saddrBytes, ↓reduceIte, Bytes.slice_write8_of_outside,
      Bytes.slice_write16_of_outside, Bytes.slice_write32_of_outside]
    rw [Bytes.slice_write128 _ (by rw [Bytes.length_write128]; omega),
      Bytes.ofBe32x4_read128 (by omega)]
  · simp (disch := omega) only [daddrBytes, ↓reduceIte, Bytes.slice_write8_of_outside,
      Bytes.slice_write16_of_outside, Bytes.slice_write32_of_outside,
      Bytes.slice_write128_of_outside]
    rw [Bytes.slice_write128 _ (by omega), Bytes.ofBe32x4_read128 (by omega)]
  · simp (disch := omega) only [Bytes.read8_write16_of_outside, Bytes.read8_write32_of_outside,
      Bytes.read8_write8_of_ne]
    apply Bytes.read8_write8_self
    rw [Bytes.length_write128, Bytes.length_write128]
    omega
  · apply Bytes.read16_write16
    simp only [Bytes.length_write8, Bytes.length_write32, Bytes.length_write128]
    omega

/-- `ipv6_csum` folds the sum over the pseudo header and the message. -/
theorem ipv6Csum_holds (sums : SumsBytes csumDiff) {payload source target : List UInt8}
    (whole : 4 ∣ payload.length) (sixteen : source.length = 16) (other : target.length = 16) :
    ∃ csum, ipv6Csum csumDiff payload source target ipprotoIcmpv6 = csumFoldHelper csum ∧
      HoldsSum csum (Bytes.wordSum source + Bytes.wordSum target +
        Bytes.wordSum (Bytes.ofUInt32 (Bytes.bswap32 payload.length.toUInt32)) +
        Bytes.wordSum [0, 0, 0, ipprotoIcmpv6] + Bytes.wordSum payload) := by
  have protocol : Bytes.ofUInt32 (Bytes.bswap32 ipprotoIcmpv6.toUInt32) =
      [0, 0, 0, ipprotoIcmpv6] := by decide
  refine ⟨_, rfl, ?_⟩
  rw [protocol]
  have first := holdsSum_zero.more sums (by rw [sixteen]; decide : 4 ∣ source.length)
  rw [Nat.zero_add] at first
  have second := first.more sums (by rw [other]; decide : 4 ∣ target.length)
  have four : (Bytes.ofUInt32 (Bytes.bswap32 payload.length.toUInt32)).length = 4 := rfl
  have third := second.more sums (dvd_of_eq four.symm)
  have fourth := third.more sums (by decide : 4 ∣ [0, 0, 0, ipprotoIcmpv6].length)
  exact fourth.more sums whole

/-- The headers with the checksum. -/
theorem toobigMessage6_valid (sums : SumsBytes csumDiff) (long : 310 ≤ data.length)
    (protocol : Bytes.read8 data 20 = ipprotoIcmpv6)
    (total : Bytes.read16 data 18 = Bytes.htons 256) (cleared : Bytes.read16 data 56 = 0) :
    Bytes.ChecksumValid (icmpCovered true (Bytes.write16 data 56 (ipv6Csum csumDiff
      (Bytes.slice data 54 256) (Bytes.slice data 22 16) (Bytes.slice data 38 16)
      (Bytes.read8 data 20)))) := by
  have size := @Bytes.length_slice data 54 256 (by omega)
  have sixteen := @Bytes.length_slice data 22 16 (by omega)
  have other := @Bytes.length_slice data 38 16 (by omega)
  obtain ⟨csum, folds, holds⟩ := ipv6Csum_holds sums (by rw [size]; decide) sixteen other
  have valid := covered_of_written holds.congruent holds.zero (by decide : 2 % 2 = 0) (by omega)
    (by rw [Bytes.read16_slice data 54 (by decide)]; exact cleared)
  rw [protocol, folds]
  generalize csumFoldHelper csum = check at *
  have length : icmpLength true (Bytes.write16 data 56 check) = 256 := by
    change (Bytes.htons (Bytes.read16 (Bytes.write16 data 56 check) 18)).toNat = 256
    rw [Bytes.read16_write16_of_outside _ _ (by decide), total]
    decide
  have source := Bytes.slice_write16_of_outside data check (.inr (by decide : 22 + 16 ≤ 56))
  have target := Bytes.slice_write16_of_outside data check (.inr (by decide : 38 + 16 ≤ 56))
  have message := @Bytes.slice_write16_of_inside data 56 54 256 check (by decide) (by decide)
    (by omega)
  rw [Bytes.checksumValid_iff, icmpCovered, length]
  simp only [↓reduceIte, icmpOff]
  rw [source, target, message, wordSum_pseudoHeader _ sixteen other rfl]
  rw [size] at valid
  simp only [Nat.add_assoc] at valid
  exact valid

/-- What `send_icmp6_too_big` makes of a packet behind enough headroom. -/
theorem tooBigError_ipv6 (cfg : BpfConfig) (sums : SumsBytes csumDiff) {orig wide : List UInt8}
    (length : wide.length = 310) (kept : wide.drop 48 = orig.take 262) :
    let headers := toobigMessage6 cfg (toobigHeader6 cfg wide)
    TooBigError true orig (Bytes.write16 headers 56 (ipv6Csum csumDiff
      (Bytes.slice headers 54 256) (Bytes.slice headers 22 16) (Bytes.slice headers 38 16)
      (Bytes.read8 headers 20))) := by
  dsimp only
  obtain ⟨headerLength, dest, source, quote, protocol, total⟩ :=
    toobigHeader6_spec cfg (by omega : 62 ≤ wide.length)
  generalize toobigHeader6 cfg wide = header at *
  obtain ⟨sameLength, front, behind, saddr, daddr, type, cleared⟩ :=
    toobigMessage6_spec cfg (by omega : 102 ≤ header.length)
  generalize toobigMessage6 cfg header = bytes at *
  have six : Bytes.slice bytes 18 4 = Bytes.slice header 18 4 := front 18 4 (by decide)
  have bytesProtocol : Bytes.read8 bytes 20 = ipprotoIcmpv6 := by
    have read := Bytes.read8_slice bytes 18 (by decide : 2 < 4)
    rw [six, Bytes.read8_slice header 18 (by decide)] at read
    exact read.symm.trans protocol
  have bytesTotal : Bytes.read16 bytes 18 = Bytes.htons 256 := by
    have read := Bytes.read16_slice bytes 18 (by decide : 0 + 2 ≤ 4)
    rw [six, Bytes.read16_slice header 18 (by decide)] at read
    exact read.symm.trans total
  have message := toobigMessage6_valid sums (by omega : 310 ≤ bytes.length) bytesProtocol bytesTotal
    cleared
  generalize ipv6Csum csumDiff (Bytes.slice bytes 54 256) (Bytes.slice bytes 22 16)
    (Bytes.slice bytes 38 16) (Bytes.read8 bytes 20) = check at *
  have quoted : ∀ off size, off + size ≤ 248 →
      Bytes.slice header (62 + off) size = Bytes.slice orig (14 + off) size := by
    intro off size inside
    have later := slice_of_drop quote (40 + off) size
    rw [← slice_of_kept kept (by omega : 14 + off + size ≤ 262)]
    simp only [← Nat.add_assoc] at later ⊢
    exact later
  refine ⟨⟨?_, ?_⟩, ⟨?_, ?_⟩, ?_, ?_, ?_, ?_, fun four => (Bool.noConfusion four), message⟩
  · rw [Bytes.slice_write16_of_outside _ _ (by decide), front 0 6 (by decide), dest]
    exact slice_of_kept kept (by decide : 6 + 6 ≤ _)
  · rw [Bytes.slice_write16_of_outside _ _ (by decide), front 6 6 (by decide), source]
    exact slice_of_kept kept (by decide : 0 + 6 ≤ _)
  · refine (Bytes.slice_write16_of_outside bytes check (.inr (by decide : 22 + 16 ≤ 56))).trans ?_
    exact saddr.trans (quoted 24 16 (by decide))
  · refine (Bytes.slice_write16_of_outside bytes check (.inr (by decide : 38 + 16 ≤ 56))).trans ?_
    exact daddr.trans (quoted 8 16 (by decide))
  · exact (Bytes.read8_write16_of_outside bytes check (by decide)).trans bytesProtocol
  · exact (Bytes.read8_write16_of_outside bytes check (by decide)).trans type
  · change (Bytes.htons (Bytes.read16 (Bytes.write16 bytes 56 check) 18)).toNat + 14 + 40 = _
    rw [Bytes.read16_write16_of_outside _ _ (by decide), bytesTotal, Bytes.length_write16,
      sameLength, headerLength, length]
    decide
  · refine (Bytes.drop_write16 bytes check (by decide : 56 + 2 ≤ 62)).trans (behind.trans ?_)
    have later := congrArg (List.drop 40) quote
    rw [List.drop_drop, List.drop_drop] at later
    exact later.trans (drop_of_kept kept 14)

end Ipv6

/-! ## Both families -/

section Both

variable {csumDiff : CsumDiff} {isIpv6 : Bool} {xdp short wide : XdpMd}

/-- What the helpers leave of a packet: its start, behind some of the headroom. -/
theorem wide_of_helpers
    (cut : xdp.adjustTail (toobigSize isIpv6 - xdp.data.length) = some short)
    (grown : short.growHead (toobigHlen isIpv6) = some wide) :
    wide.data.length = toobigSize isIpv6 + toobigHlen isIpv6 ∧
      wide.data.drop (toobigHlen isIpv6) = xdp.data.take (toobigSize isIpv6) := by
  unfold XdpMd.adjustTail at cut
  split at cut
  next shrinks =>
    obtain rfl := Option.some.inj cut
    have size : ((xdp.data.length : Int) + (toobigSize isIpv6 - xdp.data.length)).toNat =
        toobigSize isIpv6 := by omega
    rw [size] at grown
    unfold XdpMd.growHead at grown
    split at grown
    next room =>
      obtain rfl := Option.some.inj grown
      dsimp only at room ⊢
      have added : (xdp.headroom.drop (xdp.headroom.length - toobigHlen isIpv6)).length =
          toobigHlen isIpv6 := by
        rw [List.length_drop]
        omega
      constructor
      · rw [List.length_append, added, List.length_take]
        omega
      · rw [List.drop_left' added]
    next => cases grown
  next => cases cut

/-- **The errors are well formed.** Where the helpers succeed, a packet that is too big is
answered with an error for its sender, whatever the headroom holds. -/
theorem tooBig_wellFormed (cfg : BpfConfig) (sums : SumsBytes csumDiff)
    (cut : xdp.adjustTail (toobigSize isIpv6 - xdp.data.length) = some short)
    (grown : short.growHead (toobigHlen isIpv6) = some wide) :
    (sendIcmpTooBig cfg csumDiff isIpv6 xdp).1 = .tx ∧
      TooBigError isIpv6 xdp.data (sendIcmpTooBig cfg csumDiff isIpv6 xdp).2.data := by
  obtain ⟨length, kept⟩ := wide_of_helpers cut grown
  cases isIpv6 with
  | true =>
      change xdp.adjustTail ((icmp6ToobigSize : Nat) - xdp.data.length) = some short at cut
      have sends : sendIcmpTooBig cfg csumDiff true xdp = sendIcmp6TooBig cfg csumDiff short := by
        simp only [sendIcmpTooBig, ↓reduceIte, cut]
      rw [sends, sendIcmp6TooBig_eq cfg csumDiff grown (Nat.le_of_eq length.symm)]
      exact ⟨rfl, tooBigError_ipv6 cfg sums length kept⟩
  | false =>
      change xdp.adjustTail ((icmpToobigSize : Nat) - xdp.data.length) = some short at cut
      have sends : sendIcmpTooBig cfg csumDiff false xdp = sendIcmp4TooBig cfg csumDiff short := by
        simp only [sendIcmpTooBig, Bool.false_eq_true, ↓reduceIte, cut]
      rw [sends, sendIcmp4TooBig_eq cfg csumDiff grown (Nat.le_of_eq length.symm)]
      exact ⟨rfl, tooBigError_ipv4 cfg sums length kept⟩

end Both

/-! ## A helper that sums words -/

/-- Half words in pairs. -/
def wordPairs : List UInt16 → List Nat
  | [] => []
  | [last] => [last.toNat]
  | low :: high :: rest => (low.toNat + 2 ^ 16 * high.toNat) :: wordPairs rest

private theorem wordPairs_le (words : List UInt16) :
    ∀ pair ∈ wordPairs words, pair ≤ 0xffffffff := by
  fun_induction wordPairs words with
  | case1 => nofun
  | case2 last =>
      have small := last.toNat_lt
      simp only [List.mem_singleton, forall_eq]
      omega
  | case3 low high rest bounded =>
      have first := low.toNat_lt
      have second := high.toNat_lt
      rw [List.forall_mem_cons]
      exact ⟨by omega, bounded⟩

/-- Pairs add up to what the half words do, modulo the carries. -/
theorem wordPairs_sum (words : List UInt16) :
    (wordPairs words).sum ≡ (words.map UInt16.toNat).sum [MOD 65535] ∧
      ((wordPairs words).sum = 0 ↔ (words.map UInt16.toNat).sum = 0) := by
  unfold Nat.ModEq
  fun_induction wordPairs words with
  | case1 => exact ⟨rfl, Iff.rfl⟩
  | case2 last => exact ⟨rfl, Iff.rfl⟩
  | case3 low high rest same =>
      obtain ⟨congruent, zero⟩ := same
      simp only [List.sum_cons, List.map_cons]
      exact ⟨by omega, by omega⟩

/-- The sum of the words of 32 bits, with the sign extended. -/
def csumPartial : CsumDiff := fun bytes seed =>
  let word := OnesComplement.sum 0xffffffff (seed.toNat % 2 ^ 32 :: wordPairs (Bytes.words bytes))
  if word < 2 ^ 31 then word.toUInt64 else (2 ^ 64 - 2 ^ 32 + word).toUInt64

private theorem csumPartial_toNat (bytes : List UInt8) (seed : UInt64) :
    ∃ word, word ≤ 0xffffffff ∧
      (csumPartial bytes seed).toNat = (if word < 2 ^ 31 then word else 2 ^ 64 - 2 ^ 32 + word) ∧
      word ≡ seed.toNat % 2 ^ 32 + (wordPairs (Bytes.words bytes)).sum [MOD 0xffffffff] ∧
      (word = 0 ↔ seed.toNat % 2 ^ 32 + (wordPairs (Bytes.words bytes)).sum = 0) := by
  have bounded := @OnesComplement.sum_le 0xffffffff
    (seed.toNat % 2 ^ 32 :: wordPairs (Bytes.words bytes))
    (List.forall_mem_cons.mpr ⟨by omega, wordPairs_le _⟩)
  have congruent := OnesComplement.sum_modEq 0xffffffff
    (seed.toNat % 2 ^ 32 :: wordPairs (Bytes.words bytes))
  have zero := OnesComplement.sum_eq_zero_iff 0xffffffff
    (seed.toNat % 2 ^ 32 :: wordPairs (Bytes.words bytes))
  rw [List.sum_cons] at congruent zero
  refine ⟨_, bounded, ?_, congruent, zero⟩
  rw [csumPartial]
  split
  · rw [UInt64.toNat_ofNat', Nat.mod_eq_of_lt (by omega)]
  · rw [UInt64.toNat_ofNat', Nat.mod_eq_of_lt (by omega)]

private theorem csumPartial_sums : SumsBytes csumPartial := by
  have seeds : ∀ seed, IsWord seed → seed.toNat % 2 ^ 32 % 65535 = seed.toNat % 65535 ∧
      (seed.toNat % 2 ^ 32 = 0 ↔ seed = 0) := by
    intro seed word
    have bound := seed.toNat_lt
    unfold IsWord at word
    rw [← UInt64.toNat_inj]
    change _ ∧ (_ ↔ seed.toNat = 0)
    omega
  refine ⟨?_, ?_, ?_⟩
  · intro bytes seed _ _
    obtain ⟨word, bounded, value, _⟩ := csumPartial_toNat bytes seed
    unfold IsWord
    rw [value]
    split
    · omega
    · omega
  · intro bytes seed _ word
    have same := (seeds seed word).1
    have pairs := (wordPairs_sum (Bytes.words bytes)).1
    obtain ⟨word, _, value, congruent, _⟩ := csumPartial_toNat bytes seed
    have half := congruent.of_dvd (by decide : 65535 ∣ 0xffffffff)
    unfold Nat.ModEq at half pairs ⊢
    rw [value, Bytes.wordSum]
    split
    · omega
    · omega
  · intro bytes seed _ word
    have same := (seeds seed word).2
    have pairs := (wordPairs_sum (Bytes.words bytes)).2
    obtain ⟨word, _, value, _, zero⟩ := csumPartial_toNat bytes seed
    rw [← UInt64.toNat_inj, value, Bytes.wordSum, ← same, ← pairs, ← Nat.add_eq_zero_iff, ← zero]
    change (if word < 2 ^ 31 then word else 2 ^ 64 - 2 ^ 32 + word) = 0 ↔ word = 0
    split
    · exact Iff.rfl
    · omega

/-- A frame over IPv4 or IPv6 that is too big, behind a headroom of ones. -/
def tooBigSample (isIpv6 : Bool) : XdpMd where
  headroom := List.replicate 64 0xff
  data := [2, 0, 0, 0, 0, 2, 2, 0, 0, 0, 0, 3] ++
    (if isIpv6 then
      [0x86, 0xdd, 0x60, 0, 0, 0, 5, 220, 6, 64] ++ List.replicate 16 1 ++ List.replicate 16 2
      else [8, 0, 0x45, 0, 5, 240, 0, 0, 0, 0, 64, 6, 0, 0, 1, 1, 1, 1, 10, 200, 1, 1]) ++
    List.replicate 1500 7

/-- The frame after the first and after the second helper. -/
def tooBigCut (isIpv6 : Bool) : XdpMd :=
  { tooBigSample isIpv6 with data := (tooBigSample isIpv6).data.take (toobigSize isIpv6) }

/-- A packet that is too big, with room in front for the headers of the answer. -/
def tooBigWide (isIpv6 : Bool) : XdpMd where
  headroom := List.replicate (64 - toobigHlen isIpv6) 0xff
  data := List.replicate (toobigHlen isIpv6) 0xff ++ (tooBigCut isIpv6).data

/-- Packets of both families are answered with an error that is well formed. -/
theorem tooBig_wellFormed_both :
    ((sendIcmpTooBig {} csumPartial false (tooBigSample false)).1 = .tx ∧
      TooBigError false (tooBigSample false).data
        (sendIcmpTooBig {} csumPartial false (tooBigSample false)).2.data) ∧
    (sendIcmpTooBig {} csumPartial true (tooBigSample true)).1 = .tx ∧
      TooBigError true (tooBigSample true).data
        (sendIcmpTooBig {} csumPartial true (tooBigSample true)).2.data := by
  have cut : ∀ isIpv6, (tooBigSample isIpv6).adjustTail
      (toobigSize isIpv6 - (tooBigSample isIpv6).data.length) = some (tooBigCut isIpv6) := by
    decide +kernel
  have grown : ∀ isIpv6, (tooBigCut isIpv6).growHead (toobigHlen isIpv6) =
      some (tooBigWide isIpv6) := by
    decide +kernel
  exact ⟨tooBig_wellFormed {} csumPartial_sums (cut false) (grown false),
    tooBig_wellFormed {} csumPartial_sums (cut true) (grown true)⟩

end Katran
