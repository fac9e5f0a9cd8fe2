import Katran.Bpf.Decap
import Katran.Bpf.OuterHeaders
import Katran.Foundation.Agreement
import Katran.System.Traceless

/-! # What the headroom shows

The bytes in front of a frame are whatever was in memory. Making room for outer headers
exposes them, and what is transmitted depends on them if a header is not written as a whole.
The IPv6 headers are; an IPv4 header in front of a packet keeps the identification, and the
one of an ICMP error the fragment offset too. Headers that have been removed from the frame
itself are known bytes, so that only a frame which is wrapped or answered when it is first
looked at exposes anything (`transmitted_independent_iff`).
-/

namespace Katran

open Foundation

/-! ## Writing to memory that is known in part -/

namespace Bytes

variable {known : Nat → Prop} {first second : List UInt8}

/-- Writing the same bytes makes them known. -/
theorem agree_write (agree : Agree known first second) (off : Nat) (bytes : List UInt8) :
    Agree (fun index => known index ∨ (off ≤ index ∧ index < off + bytes.length))
      (write first off bytes) (write second off bytes) where
  length := by rw [length_write, length_write, agree.length]
  getElem? := by
    intro index place
    by_cases written : off ≤ index ∧ index < off + bytes.length
    · obtain ⟨more, rfl⟩ : ∃ more, index = off + more := ⟨index - off, by omega⟩
      have length := agree.length
      by_cases inside : off + more < first.length
      · have start : ∀ data : List UInt8, data.length = first.length →
            (write data off bytes)[off + more]? = (bytes.take (first.length - off))[more]? := by
          intro data same
          have before : (data.take off).length = off := by
            rw [List.length_take]
            omega
          rw [write, List.append_assoc, List.getElem?_append_right (by omega), before,
            Nat.add_sub_cancel_left, same, List.getElem?_append_left]
          rw [List.length_take]
          omega
        rw [start first rfl, start second length.symm]
      · rw [List.getElem?_eq_none (by rw [length_write]; omega),
          List.getElem?_eq_none (by rw [length_write]; omega)]
    · rw [getElem?_write_of_outside _ (by omega), getElem?_write_of_outside _ (by omega)]
      exact agree.getElem? index (place.resolve_right written)

private theorem agree_write8 (agree : Agree known first second) (off : Nat) (value : UInt8) :
    Agree (fun index => known index ∨ (off ≤ index ∧ index < off + 1))
      (write8 first off value) (write8 second off value) := agree_write agree off [value]

private theorem agree_write16 (agree : Agree known first second) (off : Nat) (value : UInt16) :
    Agree (fun index => known index ∨ (off ≤ index ∧ index < off + 2))
      (write16 first off value) (write16 second off value) := agree_write agree off (ofUInt16 value)

private theorem agree_write128 (agree : Agree known first second) (off : Nat) (value : Be32x4) :
    Agree (fun index => known index ∨ (off ≤ index ∧ index < off + 16))
      (write128 first off value) (write128 second off value) :=
      agree_write agree off (ofBe32x4 value)

/-- Copying known bytes. -/
theorem agree_copy (agree : Agree known first second) (dst src size : Nat)
    (source : ∀ index, src ≤ index → index < src + size → known index)
    (long : src + size ≤ first.length) :
    Agree (fun index => known index ∨ (dst ≤ index ∧ index < dst + size))
      (copy first dst src size) (copy second dst src size) := by
  have same := agree.slice source
  have length : ((first.drop src).take size).length = size := by
    rw [List.length_take, List.length_drop]
    omega
  have written := agree_write agree dst ((first.drop src).take size)
  rw [length] at written
  rw [copy, copy, ← same]
  exact written

/-- Four words of texts that agree there. -/
theorem read128_of_agree (agree : Agree known first second) {off : Nat}
    (inside : ∀ index, off ≤ index → index < off + 16 → known index) :
    read128 first off = read128 second off := by
  have byte : ∀ more, more < 16 → read8 first (off + more) = read8 second (off + more) := by
    intro more below
    simp only [read8, List.getD_eq_getElem?_getD,
      agree.getElem? _ (inside _ (Nat.le_add_right off more) (Nat.add_lt_add_left below off))]
  have half : ∀ more, more + 1 < 16 → read16 first (off + more) = read16 second (off + more) := by
    intro more below
    rw [read16, read16, byte more (by omega), Nat.add_assoc, byte (more + 1) below]
  have word : ∀ more, more + 3 < 16 → read32 first (off + more) = read32 second (off + more) := by
    intro more below
    rw [read32, read32, half more (by omega), Nat.add_assoc, half (more + 2) (by omega)]
  rw [read128, read128, word 4 (by decide), word 8 (by decide), word 12 (by decide)]
  have front := word 0 (by decide)
  rw [Nat.add_zero] at front
  rw [front]

/-- Writing an address that is read from known bytes. -/
theorem agree_write128_read (agree : Agree known first second) (off src : Nat)
    (source : ∀ index, src ≤ index → index < src + 16 → known index) :
    Agree (fun index => known index ∨ (off ≤ index ∧ index < off + 16))
      (write128 first off (read128 first src)) (write128 second off (read128 second src)) := by
  rw [read128_of_agree agree source]
  exact agree_write128 agree off _

end Bytes

/-! ## Headers -/

section Headers

variable {cfg : BpfConfig} {start : Nat} {first second mac : List UInt8}

/-- The Ethernet header of a frame that is wrapped. -/
theorem writeEth_agree (agree : Agree (start ≤ ·) first second) (six : mac.length = 6)
    {oldEth : Nat} (old : start ≤ oldEth) (long : oldEth + 14 ≤ first.length) (ethProto : UInt16) :
    Agree (fun index => start ≤ index ∨ index < 14) (writeEth mac first oldEth ethProto)
      (writeEth mac second oldEth ethProto) := by
  have whole : mac.take 6 = mac := List.take_of_length_le (Nat.le_of_eq six)
  have dest := Bytes.agree_write agree 0 (mac.take 6)
  have source := Bytes.agree_copy dest 6 oldEth 6 (fun index _ _ => .inl (by omega))
    (by rw [Bytes.length_write]; omega)
  refine (Bytes.agree_write16 source 12 ethProto).mono ?_
  intro index place
  rw [whole, six]
  omega

/-- The Ethernet header of an answer. -/
theorem swapMac_agree (agree : Agree (start ≤ ·) first second) {origEth : Nat}
    (old : start ≤ origEth) (long : origEth + 14 ≤ first.length) :
    Agree (fun index => start ≤ index ∨ index < 14) (swapMac first origEth)
      (swapMac second origEth) := by
  have source := Bytes.agree_copy agree 6 origEth 6 (fun index _ _ => by omega) (by omega)
  have dest := Bytes.agree_copy source 0 (origEth + 6) 6 (fun index _ _ => .inl (by omega))
    (by rw [Bytes.length_copy]; omega)
  refine (Bytes.agree_copy dest 12 (origEth + 12) 2 (fun index _ _ => .inl (.inl (by omega)))
    (by rw [Bytes.length_copy, Bytes.length_copy]; omega)).mono ?_
  intro index place
  omega

/-- An IPv6 header is written as a whole. -/
theorem createV6Hdr_agree (agree : Agree (fun index => start ≤ index ∨ index < 14) first second)
    (known : start ≤ 54) (tc : UInt8) (saddr daddr : Be32x4) (payloadLen : UInt16) (proto : UInt8) :
    createV6Hdr cfg first 14 tc saddr daddr payloadLen proto =
      createV6Hdr cfg second 14 tc saddr daddr payloadLen proto := by
  have version := Bytes.agree_write agree 14
    [0x60 ||| ((tc &&& 0xf0) >>> (4 : UInt8)), (tc &&& 0x0f) <<< (4 : UInt8), 0, 0]
  have nexthdr := Bytes.agree_write8 version (14 + 6) proto
  have length := Bytes.agree_write16 nexthdr (14 + 4) (Bytes.htons payloadLen)
  have hopLimit := Bytes.agree_write8 length (14 + 7) cfg.defaultTtl
  have source := Bytes.agree_write128 hopLimit (14 + 8) saddr
  refine (Bytes.agree_write128 source (14 + 24) daddr).eq ?_
  intro index
  simp only [List.length_cons, List.length_nil]
  omega

private theorem createUdpHdr_agree {udph : Nat}
    (agree : Agree (fun index => start ≤ index ∨ index < 14) first second)
    (sport dport len : UInt16) :
    Agree (fun index => start ≤ index ∨ index < 14) (createUdpHdr first udph sport dport len)
      (createUdpHdr second udph sport dport len) := by
  have source := Bytes.agree_write16 agree udph sport
  have dest := Bytes.agree_write16 source (udph + 2) (Bytes.htons dport)
  have length := Bytes.agree_write16 dest (udph + 4) (Bytes.htons len)
  refine (Bytes.agree_write16 length (udph + 6) 0).mono ?_
  intro index place
  omega

end Headers

/-! ## Two headrooms -/

/-- Frames with the same bytes behind headrooms of one length, of which the last bytes are
known. -/
structure Behind (known : Nat) (first second : XdpMd) : Prop where
  data : first.data = second.data
  length : first.headroom.length = second.headroom.length
  recent : first.headroom.drop (first.headroom.length - known) =
    second.headroom.drop (second.headroom.length - known)

section Room

variable {known size : Nat} {first second : XdpMd}

/-- What is exposed is the same but for its start. -/
theorem Behind.growHead (behind : Behind known first second) (size : Nat) :
    (first.growHead size = none ∧ second.growHead size = none) ∨
    ∃ left right, first.growHead size = some left ∧ second.growHead size = some right ∧
      Agree (size - known ≤ ·) left.data right.data := by
  have length := behind.length
  unfold XdpMd.growHead
  by_cases room : size ≤ first.headroom.length
  · rw [if_pos room, if_pos (length ▸ room)]
    refine .inr ⟨_, _, rfl, rfl, ?_⟩
    dsimp only
    rw [behind.data]
    have exposed : ∀ headroom : List UInt8, headroom.length = first.headroom.length →
        (headroom.drop (headroom.length - size)).length = size := by
      intro headroom same
      rw [List.length_drop]
      omega
    refine ⟨?_, ?_⟩
    · rw [List.length_append, List.length_append, exposed _ rfl, exposed _ length.symm]
    · intro index recent
      by_cases inside : index < size
      · rw [List.getElem?_append_left (by rw [exposed _ rfl]; exact inside),
          List.getElem?_append_left (by rw [exposed _ length.symm]; exact inside),
          List.getElem?_drop, List.getElem?_drop]
        obtain ⟨more, place⟩ : ∃ more, first.headroom.length - size + index =
            first.headroom.length - known + more :=
          Nat.exists_eq_add_of_le (by omega)
        rw [← length, place, ← List.getElem?_drop, behind.recent, List.getElem?_drop, length]
      · rw [List.getElem?_append_right (by rw [exposed _ rfl]; omega),
          List.getElem?_append_right (by rw [exposed _ length.symm]; omega), exposed _ rfl,
          exposed _ length.symm]
  · rw [if_neg room, if_neg (length ▸ room)]
    exact .inl ⟨rfl, rfl⟩

/-- Room for outer headers is made in both or in none, and headers that are written as a whole
are the same. -/
theorem Behind.wrap (behind : Behind known first second) (size : Nat) {header : XdpMd → XdpMd}
    (same : ∀ left right : XdpMd, Agree (size - known ≤ ·) left.data right.data →
      size + 14 ≤ left.data.length → (header left).data = (header right).data) :
    ((makeRoom first size).map header).map (·.data) =
      ((makeRoom second size).map header).map (·.data) := by
  unfold makeRoom
  rcases behind.growHead size with ⟨none, alsoNone⟩ | ⟨left, right, grown, alsoGrown, agree⟩
  · rw [none, alsoNone]
  · rw [grown, alsoGrown, Option.bind_some, Option.bind_some, ← agree.length]
    split
    · rfl
    next long =>
      rw [Option.map_some, Option.map_some, Option.map_some, Option.map_some,
        same left right agree (by omega)]

/-- A frame is wrapped behind both headrooms or behind none. -/
theorem Behind.isSome_pcktEncap (behind : Behind known first second) (cfg : BpfConfig)
    (maps : ConfigMaps) (isIpv6 : Bool) (pckt : PacketDescription) (dst : RealDefinition)
    (pktBytes : UInt16) :
    (pcktEncap cfg maps isIpv6 pckt dst pktBytes first).isSome =
      (pcktEncap cfg maps isIpv6 pckt dst pktBytes second).isSome := by
  have room : ∀ size, (makeRoom first size).isSome = (makeRoom second size).isSome := by
    intro size
    have same := congrArg Option.isSome
      (@Behind.wrap _ _ _ behind size (fun _ => ⟨[], []⟩) fun _ _ _ _ => rfl)
    simpa only [Option.isSome_map] using same
  unfold pcktEncap
  split
  · split
    · simp only [gueEncapV6, Option.isSome_map, room]
    · simp only [encapV6, Option.isSome_map, room]
  · split
    · simp only [gueEncapV4, Option.isSome_map, room]
    · simp only [encapV4, Option.isSome_map, room]

/-- A packet for an IPv6 real is wrapped the same way behind both headrooms; one for an IPv4
real, if twenty bytes are known. -/
theorem Behind.pcktEncap_data (behind : Behind known first second) (cfg : BpfConfig)
    {maps : ConfigMaps} (six : maps.ctlMac.length = 6) (isIpv6 : Bool) (pckt : PacketDescription)
    {dst : RealDefinition} (safe : dst.isIpv6 = true ∨ 20 ≤ known) (pktBytes : UInt16) :
    (pcktEncap cfg maps isIpv6 pckt dst pktBytes first).map (·.data) =
      (pcktEncap cfg maps isIpv6 pckt dst pktBytes second).map (·.data) := by
  unfold pcktEncap
  split
  · split
    · apply behind.wrap 48
      intro left right agree long
      have eth := writeEth_agree agree six (by omega) long beEthPIpv6
      exact createV6Hdr_agree (createUdpHdr_agree eth ..) (by omega) ..
    · apply behind.wrap 40
      intro left right agree long
      have eth := writeEth_agree agree six (by omega) long beEthPIpv6
      exact createV6Hdr_agree eth (by omega) ..
  next four =>
    have enough := safe.resolve_left four
    split
    · apply behind.wrap 28
      intro left right agree long
      dsimp only
      rw [(writeEth_agree agree six (by omega) long beEthPIp).eq (fun index => by omega)]
    · apply behind.wrap 20
      intro left right agree long
      dsimp only
      rw [(writeEth_agree agree six (by omega) long beEthPIp).eq (fun index => by omega)]

/-- The same verdict, the same bytes if they are transmitted, and twenty more known bytes in
front of a frame that is processed again. -/
structure SameFate (left right : Verdict × XdpMd) : Prop where
  verdict : left.1 = right.1
  transmitted : left.1 = .tx → left.2.data = right.2.data
  again : left.1 = .recirculate → Behind 20 left.2 right.2

/-- The header of an ICMPv6 error is written as a whole. -/
theorem sendIcmp6TooBig_behind (behind : Behind known first second) (cfg : BpfConfig)
    (csumDiff : CsumDiff) :
    SameFate (sendIcmp6TooBig cfg csumDiff first) (sendIcmp6TooBig cfg csumDiff second) := by
  unfold sendIcmp6TooBig
  rcases behind.growHead 48 with ⟨none, alsoNone⟩ | ⟨left, right, grown, alsoGrown, agree⟩
  · rw [none, alsoNone]
    exact ⟨rfl, nofun, nofun⟩
  · rw [grown, alsoGrown]
    dsimp only
    rw [← agree.length]
    split
    · exact ⟨rfl, nofun, nofun⟩
    next long =>
      refine ⟨rfl, fun _ => ?_, nofun⟩
      change ¬ 262 + 48 > _ at long
      have eth := swapMac_agree agree (Nat.sub_le 48 known) (by omega)
      have version := Bytes.agree_write8 eth 14 0x60
      have nexthdr := Bytes.agree_write8 version 20 ipprotoIcmpv6
      have hopLimit := Bytes.agree_write8 nexthdr 21 cfg.defaultTtl
      have length := Bytes.agree_write16 hopLimit 18 (Bytes.htons icmp6ToobigPayloadSize.toUInt16)
      have label := Bytes.agree_write length 15 [0, 0, 0]
      have dest := Bytes.agree_write128_read label 38 70 fun index _ _ => by omega
      have source := Bytes.agree_write128_read dest 22 86 fun index _ _ => by omega
      have same := source.eq fun index => by
        simp only [List.length_cons, List.length_nil]
        omega
      dsimp only
      rw [same]

/-- With twenty known bytes an ICMP error is the same. -/
theorem sendIcmp4TooBig_behind (behind : Behind known first second) (cfg : BpfConfig)
    (csumDiff : CsumDiff) (safe : 20 ≤ known) :
    SameFate (sendIcmp4TooBig cfg csumDiff first) (sendIcmp4TooBig cfg csumDiff second) := by
  unfold sendIcmp4TooBig
  rcases behind.growHead 28 with ⟨none, alsoNone⟩ | ⟨left, right, grown, alsoGrown, agree⟩
  · rw [none, alsoNone]
    exact ⟨rfl, nofun, nofun⟩
  · rw [grown, alsoGrown]
    dsimp only
    rw [← agree.length]
    split
    · exact ⟨rfl, nofun, nofun⟩
    next long =>
      refine ⟨rfl, fun _ => ?_, nofun⟩
      change ¬ 98 + 28 > _ at long
      have same := (swapMac_agree agree (Nat.sub_le 28 known) (by omega)).eq fun index => by omega
      dsimp only
      rw [same]

/-- Whether an ICMP error is sent depends on the length of the headroom only. -/
theorem sendIcmp4TooBig_verdict (behind : Behind known first second) (cfg : BpfConfig)
    (csumDiff : CsumDiff) :
    (sendIcmp4TooBig cfg csumDiff first).1 = (sendIcmp4TooBig cfg csumDiff second).1 := by
  unfold sendIcmp4TooBig
  rcases behind.growHead 28 with ⟨none, alsoNone⟩ | ⟨left, right, grown, alsoGrown, agree⟩
  · rw [none, alsoNone]
  · rw [grown, alsoGrown]
    dsimp only
    rw [← agree.length]
    split <;> rfl

private theorem Behind.adjustTail (behind : Behind known first second) (size : Int) :
    (first.adjustTail size = none ∧ second.adjustTail size = none) ∨
    ∃ left right, first.adjustTail size = some left ∧ second.adjustTail size = some right ∧
      Behind known left right := by
  unfold XdpMd.adjustTail
  rw [behind.data]
  split
  · exact .inr ⟨_, _, rfl, rfl, rfl, behind.length, behind.recent⟩
  · exact .inl ⟨rfl, rfl⟩

/-- An answer to a packet that is too big. -/
theorem sendIcmpTooBig_behind (behind : Behind known first second) (cfg : BpfConfig)
    (csumDiff : CsumDiff) (isIpv6 : Bool) :
    (sendIcmpTooBig cfg csumDiff isIpv6 first).1 = (sendIcmpTooBig cfg csumDiff isIpv6 second).1 ∧
    (isIpv6 = true ∨ 20 ≤ known ∨ first.data.length < icmpToobigSize →
      (sendIcmpTooBig cfg csumDiff isIpv6 first).1 = .tx →
        (sendIcmpTooBig cfg csumDiff isIpv6 first).2.data =
          (sendIcmpTooBig cfg csumDiff isIpv6 second).2.data) := by
  unfold sendIcmpTooBig
  dsimp only
  rw [← behind.data]
  rcases behind.adjustTail (((if isIpv6 then icmp6ToobigSize else icmpToobigSize : Nat) : Int) -
    first.data.length) with ⟨none, alsoNone⟩ | ⟨left, right, cut, alsoCut, cutBehind⟩
  · rw [none, alsoNone]
    exact ⟨rfl, nofun⟩
  · rw [cut, alsoCut]
    cases isIpv6 with
    | true =>
        obtain ⟨verdict, bytes, _⟩ := sendIcmp6TooBig_behind cutBehind cfg csumDiff
        exact ⟨verdict, fun _ => bytes⟩
    | false =>
        refine ⟨sendIcmp4TooBig_verdict cutBehind cfg csumDiff, ?_⟩
        rintro (six | safe | short)
        · cases six
        · exact (sendIcmp4TooBig_behind cutBehind cfg csumDiff safe).transmitted
        · unfold XdpMd.adjustTail at cut
          rw [if_neg] at cut
          · cases cut
          · rintro ⟨shrinks, _⟩
            simp only [Bool.false_eq_true, ↓reduceIte] at shrinks
            omega

/-- The headers that are removed are known. -/
theorem Behind.decap (behind : Behind known first second) {size : Nat} (large : 20 ≤ size)
    (ethProto : UInt16) :
    (Katran.decap first size ethProto = none ∧ Katran.decap second size ethProto = none) ∨
    ∃ left right, Katran.decap first size ethProto = some left ∧
      Katran.decap second size ethProto = some right ∧ Behind 20 left right := by
  unfold Katran.decap XdpMd.shrinkHead
  dsimp only
  rw [← behind.data]
  generalize Bytes.write16 _ _ _ = data
  split
  next long =>
    refine .inr ⟨_, _, rfl, rfl, rfl, ?_, ?_⟩
    · rw [List.length_append, List.length_append, behind.length]
    · have removed : (data.take size).length = size := by
        rw [List.length_take]
        omega
      have last : ∀ headroom : List UInt8,
          (headroom ++ data.take size).drop ((headroom ++ data.take size).length - 20) =
            (data.take size).drop (size - 20) := by
        intro headroom
        have place : headroom.length + size - 20 = headroom.length + (size - 20) := by omega
        rw [List.length_append, removed, place, List.drop_append, List.drop_of_length_le (by omega),
          Nat.add_sub_cancel_left, List.nil_append]
      rw [last, last]
  next => exact .inl ⟨rfl, rfl⟩

private theorem decapTunnel_behind (behind : Behind known first second) {size : Nat}
    (large : 20 ≤ size) (offset : Nat) (innerIpv6 pass : Bool) (ethProto : UInt16) :
    SameFate (decapTunnel first offset innerIpv6 pass (decap · size ethProto))
      (decapTunnel second offset innerIpv6 pass (decap · size ethProto)) := by
  unfold decapTunnel
  rw [← behind.data]
  dsimp only
  have cut : Behind known { first with data := (decrementTtl first.data offset innerIpv6).2 }
      { second with data := (decrementTtl first.data offset innerIpv6).2 } :=
    ⟨rfl, behind.length, behind.recent⟩
  rcases cut.decap large ethProto with ⟨none, alsoNone⟩ | ⟨left, right, removed, alsoRemoved, known⟩
  · rw [none, alsoNone]
    exact ⟨rfl, nofun, nofun⟩
  · rw [removed, alsoRemoved]
    dsimp only [finishDecap]
    split
    · exact ⟨rfl, nofun, nofun⟩
    · split
      · exact ⟨rfl, nofun, nofun⟩
      · exact ⟨rfl, nofun, fun _ => known⟩

private theorem processEncapedIpipPckt_behind (behind : Behind known first second) (isIpv6 : Bool)
    (protocol : UInt8) (pass : Bool) :
    SameFate (processEncapedIpipPckt first isIpv6 protocol pass)
      (processEncapedIpipPckt second isIpv6 protocol pass) := by
  unfold processEncapedIpipPckt
  rw [← behind.data]
  split
  · split
    · split
      · exact ⟨rfl, nofun, nofun⟩
      · exact decapTunnel_behind behind (by decide) ..
    · split
      · exact ⟨rfl, nofun, nofun⟩
      · exact decapTunnel_behind behind (by decide) ..
  · split
    · exact ⟨rfl, nofun, nofun⟩
    · exact decapTunnel_behind behind (by decide) ..

private theorem processEncapedGuePckt_behind (behind : Behind known first second)
    (isIpv6 pass : Bool) :
    SameFate (processEncapedGuePckt first isIpv6 pass)
      (processEncapedGuePckt second isIpv6 pass) := by
  unfold processEncapedGuePckt
  rw [← behind.data]
  split
  · split
    · exact ⟨rfl, nofun, nofun⟩
    · split
      · exact decapTunnel_behind behind (by decide) ..
      · exact decapTunnel_behind behind (by decide) ..
  · split
    · exact ⟨rfl, nofun, nofun⟩
    · exact decapTunnel_behind behind (by decide) ..

end Room

/-! ## Processing a packet -/

section Process

variable {cfg : BpfConfig} {maps : ConfigMaps} {env : PacketEnv} {isIpv6 : Bool} {known : Nat}
  {first second : XdpMd} {flow : FlowMaps}

private theorem processTunnel_behind {pckt : PacketDescription} {cpu : Nat}
    {left right : Bool → Verdict × XdpMd} (fate : ∀ pass, SameFate (left pass) (right pass)) :
    ∃ verdict after other later,
      processTunnel cfg maps cpu isIpv6 pckt left first flow = .final verdict after later ∧
      processTunnel cfg maps cpu isIpv6 pckt right second flow = .final verdict other later ∧
      SameFate (verdict, after) (verdict, other) := by
  unfold processTunnel
  rcases checkDecapDst cfg maps cpu isIpv6 pckt flow with ⟨_ | pass, later⟩
  · exact ⟨_, _, _, _, rfl, rfl, rfl, nofun, nofun⟩
  · obtain ⟨verdict, transmitted, again⟩ := fate pass
    refine ⟨(left pass).1, (left pass).2, (right pass).2, later, rfl, ?_, rfl, transmitted, again⟩
    dsimp only
    rw [verdict]

/-- A packet that the network header decides about is not processed again. -/
theorem processL3Headers_done_verdict {data answer : List UInt8} {verdict : Verdict}
    (done : processL3Headers cfg data 14 isIpv6 = .done verdict answer) :
    verdict ≠ .recirculate := by
  have reply : (sendIcmpReply cfg data).1 ≠ .recirculate := by
    unfold sendIcmpReply
    split <;> nofun
  have reply6 : (sendIcmp6Reply cfg data).1 ≠ .recirculate := by
    unfold sendIcmp6Reply
    split <;> nofun
  rcases processL3Headers_done_cases done with ⟨rfl | rfl, _⟩ | replied | replied
  · nofun
  · nofun
  · rw [← replied] at reply
    exact reply
  · rw [← replied] at reply6
    exact reply6

/-- Parsing does not look at the headroom. -/
theorem parsePacket_behind (behind : Behind known first second) (cpu : Nat) (flow : FlowMaps) :
    (∃ pckt pktBytes, parsePacket cfg maps cpu isIpv6 first flow = .described pckt pktBytes ∧
      parsePacket cfg maps cpu isIpv6 second flow = .described pckt pktBytes) ∨
    ∃ verdict after other later,
      parsePacket cfg maps cpu isIpv6 first flow = .final verdict after later ∧
      parsePacket cfg maps cpu isIpv6 second flow = .final verdict other later ∧
      SameFate (verdict, after) (verdict, other) := by
  unfold parsePacket
  rw [← behind.data]
  split
  next verdict data done =>
    refine .inr ⟨_, _, _, _, rfl, rfl, rfl, fun _ => rfl, ?_⟩
    intro again
    exact (processL3Headers_done_verdict done again).elim
  · dsimp only
    split
    · exact .inr (processTunnel_behind fun pass => processEncapedIpipPckt_behind behind _ _ pass)
    · split
      · split
        · exact .inr ⟨_, _, _, _, rfl, rfl, rfl, nofun, nofun⟩
        · exact .inl ⟨_, _, rfl, rfl⟩
      · split
        · split
          · exact .inr ⟨_, _, _, _, rfl, rfl, rfl, nofun, nofun⟩
          · split
            · exact .inr (processTunnel_behind fun pass =>
                processEncapedGuePckt_behind behind _ pass)
            · exact .inl ⟨_, _, rfl, rfl⟩
        · exact .inr ⟨_, _, _, _, rfl, rfl, rfl, nofun, nofun⟩

/-- What shows the headroom of a frame for a VIP: an IPv4 frame that is too big is answered, or
a packet is sent to an IPv4 real. -/
def BalanceExposes (cfg : BpfConfig) (maps : ConfigMaps) (env : PacketEnv) (isIpv6 : Bool)
    (data : List UInt8) (info : VipMeta) (described : PacketDescription) (flow : FlowMaps) : Prop :=
  if data.length > cfg.maxPcktSize then
    isIpv6 = false ∧ cfg.icmpToobigGeneration = true ∧
      cfg.maxVips + icmpToobigCntrs < cfg.statsMapSize ∧ icmpToobigSize ≤ data.length
  else
    info.vipNum < cfg.statsMapSize ∧
      ∃ chosen, (chooseDst cfg maps env isIpv6 data info described flow).1 = some chosen ∧
        chosen.dst.isIpv6 = false

/-- The verdict and what is transmitted, and what is processed again. -/
structure SameOutcome (left right : Outcome) : Prop where
  verdict : left.verdict = right.verdict
  transmitted : left.verdict = .tx → left.xdp.data = right.xdp.data
  again : left.verdict = .recirculate → Behind 20 left.xdp right.xdp ∧ left.flow = right.flow

private theorem SameOutcome.of_ended {left right : Outcome} (verdict : left.verdict = right.verdict)
    (ended : left.verdict = .drop ∨ left.verdict = .pass) : SameOutcome left right where
  verdict := verdict
  transmitted := by
    intro sent
    rw [sent] at ended
    rcases ended with other | other <;> cases other
  again := by
    intro again
    rw [again] at ended
    rcases ended with other | other <;> cases other

private theorem processTooBig_behind (behind : Behind known first second) (env : PacketEnv)
    (flow : FlowMaps) (safe : 20 ≤ known ∨ ¬ (isIpv6 = false ∧ cfg.icmpToobigGeneration = true ∧
      cfg.maxVips + icmpToobigCntrs < cfg.statsMapSize ∧ icmpToobigSize ≤ first.data.length)) :
    SameOutcome (processTooBig cfg env isIpv6 first flow)
      (processTooBig cfg env isIpv6 second flow) := by
  unfold processTooBig
  split
  next generates =>
    split
    next => exact .of_ended rfl (.inl rfl)
    next counted counting =>
      obtain ⟨present, _⟩ := countStats_eq_some.mp counting
      obtain ⟨verdict, bytes⟩ := sendIcmpTooBig_behind behind cfg env.csumDiff isIpv6
      refine ⟨verdict, bytes ?_, fun again => ?_⟩
      · rcases safe with known | safe
        · exact .inr (.inl known)
        · by_cases six : isIpv6 = true
          · exact .inl six
          · refine .inr (.inr (Nat.lt_of_not_le fun long => safe ?_))
            exact ⟨Bool.eq_false_iff.mpr six, generates, present, long⟩
      · exact (sendIcmpTooBig_verdict cfg env.csumDiff isIpv6 first again).elim
  next => exact .of_ended rfl (.inl rfl)

private theorem sendToReal_behind (behind : Behind known first second)
    (six : maps.ctlMac.length = 6)
    (cpu : Nat) (vip : VipDefinition) {info : VipMeta} (pktBytes : UInt16) {chosen : Chosen}
    (flow : FlowMaps)
    (safe : 20 ≤ known ∨ ¬ (info.vipNum < cfg.statsMapSize ∧ chosen.dst.isIpv6 = false)) :
    SameOutcome (sendToReal cfg maps cpu isIpv6 vip info pktBytes chosen first flow)
      (sendToReal cfg maps cpu isIpv6 vip info pktBytes chosen second flow) := by
  have both := behind.isSome_pcktEncap cfg maps isIpv6 chosen.pckt chosen.dst pktBytes
  unfold sendToReal
  cases wrapped : pcktEncap cfg maps isIpv6 chosen.pckt chosen.dst pktBytes first with
  | none =>
      rw [wrapped, Option.isSome_none, eq_comm, Option.isSome_eq_false_iff,
        Option.isNone_iff_eq_none] at both
      rw [both]
      exact .of_ended rfl (.inl rfl)
  | some left =>
      rw [wrapped, Option.isSome_some, eq_comm, Option.isSome_iff_exists] at both
      obtain ⟨right, alsoWrapped⟩ := both
      rw [alsoWrapped]
      dsimp only
      split
      next => exact .of_ended rfl (.inl rfl)
      next counted counting =>
        obtain ⟨present, _⟩ := countStats_eq_some.mp counting
        split
        next inside =>
          refine ⟨rfl, fun _ => ?_, nofun⟩
          have family : chosen.dst.isIpv6 = true ∨ 20 ≤ known := by
            rcases safe with known | safe
            · exact .inr known
            · refine .inl (Bool.not_eq_false _ ▸ fun four => safe ⟨present, four⟩)
          have same := behind.pcktEncap_data cfg six isIpv6 chosen.pckt family pktBytes
          rw [wrapped, alsoWrapped] at same
          exact Option.some.inj same
        next => exact .of_ended rfl (.inl rfl)

private theorem balancePacket_behind (behind : Behind known first second)
    (six : maps.ctlMac.length = 6)
    (env : PacketEnv) (pckt : PacketDescription) (pktBytes : UInt16) (flow : FlowMaps)
    (safe : 20 ≤ known ∨ ∀ vip info described,
      lookupVip maps isIpv6 pckt = some (vip, info, described) →
        ¬ BalanceExposes cfg maps env isIpv6 first.data info described flow) :
    SameOutcome (balancePacket cfg maps env isIpv6 pckt pktBytes first flow)
      (balancePacket cfg maps env isIpv6 pckt pktBytes second flow) := by
  unfold balancePacket
  rw [← behind.data]
  split
  next => exact .of_ended rfl (.inr rfl)
  next vip info described found =>
    split
    next big =>
      apply processTooBig_behind behind
      refine safe.imp_right fun safe exposes => safe vip info described found ?_
      rw [BalanceExposes, if_pos big]
      exact exposes
    next fits =>
      cases chooses : chooseDst cfg maps env isIpv6 first.data info described flow with
      | mk decided later =>
          cases decided with
          | none => exact .of_ended rfl (.inl rfl)
          | some chosen =>
              apply sendToReal_behind behind six
              refine safe.imp_right fun safe exposes => safe vip info described found ?_
              rw [BalanceExposes, if_neg fits, chooses]
              exact ⟨exposes.1, chosen, rfl, exposes.2⟩

/-- A frame that shows its headroom when it is first looked at. -/
def ExposesHeadroom (cfg : BpfConfig) (maps : ConfigMaps) (env : PacketEnv) (xdp : XdpMd)
    (flow : FlowMaps) : Prop :=
  xdp.IsIp ∧ ∃ pckt pktBytes vip info described,
    describe cfg xdp.frameIpv6 xdp.data = some (pckt, pktBytes) ∧
    lookupVip maps xdp.frameIpv6 pckt = some (vip, info, described) ∧
    BalanceExposes cfg maps env xdp.frameIpv6 xdp.data info described flow

private theorem processPacket_behind (behind : Behind known first second)
    (six : maps.ctlMac.length = 6) (env : PacketEnv) (flow : FlowMaps) (ip : first.IsIp)
    (safe : 20 ≤ known ∨ ¬ ExposesHeadroom cfg maps env first flow) :
    SameOutcome (processPacket cfg maps env first.frameIpv6 first flow)
      (processPacket cfg maps env first.frameIpv6 second flow) := by
  unfold processPacket
  rcases @parsePacket_behind cfg maps first.frameIpv6 _ _ _ behind env.cpu flow with
    ⟨pckt, pktBytes, parsed, alsoParsed⟩ | ⟨verdict, left, right, later, parsed, alsoParsed, fate⟩
  · rw [parsed, alsoParsed]
    apply balancePacket_behind behind six
    refine safe.imp_right fun safe vip info described found exposes => safe ⟨ip, ?_⟩
    rcases parsePacket_spec cfg maps env.cpu first.frameIpv6 first flow with
      ⟨_, _, same, goesOn⟩ | ⟨_, _, _, _, ends, _⟩
    · cases parsed.symm.trans goesOn
      exact ⟨pckt, pktBytes, vip, info, described, same, found, exposes⟩
    · cases parsed.symm.trans ends
  · rw [parsed, alsoParsed]
    exact ⟨rfl, fate.transmitted, fun again => ⟨fate.again again, rfl⟩⟩

/-- The result of the program is the same for both frames. -/
def SameResult (left right : Outcome) : Prop :=
  left.verdict = right.verdict ∧ (left.verdict = .tx → left.xdp.data = right.xdp.data)

private theorem Behind.frameIpv6 (behind : Behind known first second) :
    second.frameIpv6 = first.frameIpv6 := by
  rw [XdpMd.frameIpv6, XdpMd.frameIpv6, behind.data]

private theorem Behind.isIp (behind : Behind known first second) : second.IsIp ↔ first.IsIp := by
  rw [XdpMd.IsIp, XdpMd.IsIp, behind.data]

/-- A frame that is not processed again. -/
theorem balancerIngress_behind_settled (behind : Behind known first second)
    (six : maps.ctlMac.length = 6) (env : PacketEnv) (tailCalls : Nat) (flow : FlowMaps)
    (safe : 20 ≤ known ∨ ¬ ExposesHeadroom cfg maps env first flow)
    (settled : first.IsIp →
      (processPacket cfg maps env first.frameIpv6 first flow).verdict ≠ .recirculate) :
    SameResult (balancerIngress cfg maps env tailCalls first flow)
      (balancerIngress cfg maps env tailCalls second flow) := by
  by_cases ip : first.IsIp
  · have same := processPacket_behind behind six env flow ip safe
    have alsoSettled : (processPacket cfg maps env second.frameIpv6 second flow).verdict ≠
        .recirculate := by
      rw [behind.frameIpv6, ← same.verdict]
      exact settled ip
    rw [balancerIngress_settled tailCalls flow ip (settled ip),
      balancerIngress_settled tailCalls flow (behind.isIp.mpr ip) alsoSettled, behind.frameIpv6]
    exact ⟨same.verdict, same.transmitted⟩
  · rw [balancerIngress_other tailCalls flow ip,
      balancerIngress_other tailCalls flow (fun other => ip (behind.isIp.mp other))]
    refine ⟨?_, fun _ => behind.data⟩
    dsimp only
    rw [behind.data]

/-- Frames that are processed again have twenty known bytes in front of them. -/
theorem recirculated_behind (behind : Behind known first second) (six : maps.ctlMac.length = 6)
    (env : PacketEnv) (flow : FlowMaps)
    (safe : 20 ≤ known ∨ ¬ ExposesHeadroom cfg maps env first flow)
    (again : first.IsIp ∧
      (processPacket cfg maps env first.frameIpv6 first flow).verdict = .recirculate) :
    second.IsIp ∧
      (processPacket cfg maps env second.frameIpv6 second flow).verdict = .recirculate ∧
      Behind 20 (processPacket cfg maps env first.frameIpv6 first flow).xdp
        (processPacket cfg maps env second.frameIpv6 second flow).xdp ∧
      (processPacket cfg maps env first.frameIpv6 first flow).flow =
        (processPacket cfg maps env second.frameIpv6 second flow).flow := by
  have same := processPacket_behind behind six env flow again.1 safe
  rw [behind.frameIpv6]
  exact ⟨behind.isIp.mpr again.1, same.verdict.symm.trans again.2, same.again again.2⟩

/-- A whole run: after the first time the bytes in front of a frame are known. -/
theorem balancerIngress_behind (behind : Behind known first second) (six : maps.ctlMac.length = 6)
    (env : PacketEnv) (tailCalls : Nat) (flow : FlowMaps)
    (safe : 20 ≤ known ∨ ¬ ExposesHeadroom cfg maps env first flow) :
    SameResult (balancerIngress cfg maps env tailCalls first flow)
      (balancerIngress cfg maps env tailCalls second flow) := by
  induction tailCalls generalizing known first second flow with
  | zero =>
      by_cases again : first.IsIp ∧
          (processPacket cfg maps env first.frameIpv6 first flow).verdict = .recirculate
      · obtain ⟨alsoIp, alsoAgain, _⟩ := recirculated_behind behind six env flow safe again
        rw [balancerIngress_exhausted flow again.1 again.2,
          balancerIngress_exhausted flow alsoIp alsoAgain]
        exact ⟨rfl, nofun⟩
      · exact balancerIngress_behind_settled behind six env 0 flow safe fun ip other =>
          again ⟨ip, other⟩
  | succ tailCalls ih =>
      by_cases again : first.IsIp ∧
          (processPacket cfg maps env first.frameIpv6 first flow).verdict = .recirculate
      · obtain ⟨alsoIp, alsoAgain, inner, counted⟩ :=
          recirculated_behind behind six env flow safe again
        rw [balancerIngress_recirculated tailCalls flow again.1 again.2,
          balancerIngress_recirculated tailCalls flow alsoIp alsoAgain, ← counted]
        exact ih inner _ (.inl (Nat.le_refl 20))
      · exact balancerIngress_behind_settled behind six env (tailCalls + 1) flow safe
          fun ip other => again ⟨ip, other⟩

end Process

/-! ## Headroom that shows -/

section Shown

variable {cfg : BpfConfig} {maps : ConfigMaps} {env : PacketEnv} {byte : UInt8} {data : List UInt8}
  {wide wrapped : XdpMd} {size : Nat}

/-- A frame behind a headroom full of one byte. -/
def XdpMd.filled (byte : UInt8) (data : List UInt8) : XdpMd where
  headroom := List.replicate 48 byte
  data := data

private theorem growHead_filled (room : size ≤ 48) :
    (XdpMd.filled byte data).growHead size =
      some ⟨List.replicate (48 - size) byte, List.replicate size byte ++ data⟩ := by
  simp only [XdpMd.growHead, XdpMd.filled, List.length_replicate, room, ↓reduceIte,
    List.take_replicate, List.drop_replicate, Nat.sub_sub_self room,
    Nat.min_eq_left (Nat.sub_le 48 size)]

private theorem makeRoom_filled (room : size ≤ 48)
    (made : makeRoom (XdpMd.filled byte data) size = some wide) :
    wide.data = List.replicate size byte ++ data := by
  rw [makeRoom, growHead_filled room, Option.bind_some] at made
  split at made
  · cases made
  · obtain rfl := Option.some.inj made
    rfl

private theorem read8_replicate_append {index : Nat} (inside : index < size) :
    Bytes.read8 (List.replicate size byte ++ data) index = byte := by
  rw [Bytes.read8_append_left _ (by rw [List.length_replicate]; exact inside), Bytes.read8,
    List.getD_eq_getElem?_getD, List.getElem?_replicate, if_pos inside]
  rfl

private theorem read8_writeEth (mac data : List UInt8) (oldEth : Nat) (ethProto : UInt16)
    {index : Nat} (after : 14 ≤ index) :
    Bytes.read8 (writeEth mac data oldEth ethProto) index = Bytes.read8 data index := by
  have six : (mac.take 6).length ≤ 6 := List.length_take_le 6 mac
  have copied : ∀ bytes : List UInt8, ((bytes.drop oldEth).take 6).length ≤ 6 :=
    fun bytes => List.length_take_le 6 _
  rw [writeEth, Bytes.read8_write16_of_outside _ _ (by omega), Bytes.copy,
    Bytes.read8_write_of_outside _
      (.inr (Nat.le_trans (Nat.add_le_add_left (copied _) 6) (by omega))),
    Bytes.read8_write_of_outside _ (by omega)]

/-- The identification of an outer IPv4 header is not written. -/
theorem read8_createV4Hdr (cfg : BpfConfig) (data : List UInt8) (tos : UInt8) (saddr daddr : UInt32)
    (pktBytes : UInt16) (proto : UInt8) :
    Bytes.read8 (createV4Hdr cfg data 14 tos saddr daddr pktBytes proto) 18 =
      Bytes.read8 data 18 := by
  simp (disch := omega) only [createV4Hdr, Bytes.read8_write16_of_outside,
    Bytes.read8_write8_of_ne, Bytes.read8_write32_of_outside]

/-- A packet for an IPv4 real shows a byte of the headroom. -/
theorem pcktEncap_filled {isIpv6 : Bool} {pckt : PacketDescription} {dst : RealDefinition}
    {pktBytes : UInt16} (four : dst.isIpv6 = false)
    (wraps : pcktEncap cfg maps isIpv6 pckt dst pktBytes (XdpMd.filled byte data) = some wrapped) :
    Bytes.read8 wrapped.data 18 = byte := by
  simp only [pcktEncap, four, Bool.false_eq_true, ↓reduceIte] at wraps
  split at wraps
  · obtain ⟨wide, made, rfl⟩ := Option.map_eq_some_iff.mp wraps
    dsimp only
    rw [read8_createV4Hdr, createUdpHdr, Bytes.read8_write16_of_outside _ _ (by decide),
      Bytes.read8_write16_of_outside _ _ (by decide),
      Bytes.read8_write16_of_outside _ _ (by decide),
      Bytes.read8_write16_of_outside _ _ (by decide), read8_writeEth _ _ _ _ (by decide),
      makeRoom_filled (by decide) made, read8_replicate_append (by decide)]
  · obtain ⟨wide, made, rfl⟩ := Option.map_eq_some_iff.mp wraps
    dsimp only
    rw [read8_createV4Hdr, read8_writeEth _ _ _ _ (by decide), makeRoom_filled (by decide) made,
      read8_replicate_append (by decide)]

private theorem read8_swapMac (data : List UInt8) (origEth : Nat) {index : Nat}
    (after : 14 ≤ index) :
    Bytes.read8 (swapMac data origEth) index = Bytes.read8 data index := by
  have copied : ∀ (bytes : List UInt8) size, (bytes.take size).length ≤ size :=
    fun bytes size => List.length_take_le size bytes
  have outside : ∀ (bytes : List UInt8) dst src size, dst + size ≤ 14 →
      Bytes.read8 (Bytes.copy bytes dst src size) index = Bytes.read8 bytes index := by
    intro bytes dst src size below
    have short := copied (bytes.drop src) size
    exact Bytes.read8_write_of_outside _ (by omega)
  rw [swapMac, outside _ _ _ _ (by decide), outside _ _ _ _ (by decide),
    outside _ _ _ _ (by decide)]

/-- The answer to an IPv4 frame that is too big shows a byte of the headroom. -/
theorem sendIcmpTooBig_filled (cfg : BpfConfig) (csumDiff : CsumDiff) (byte : UInt8)
    (long : icmpToobigSize ≤ data.length) :
    (sendIcmpTooBig cfg csumDiff false (XdpMd.filled byte data)).1 = .tx ∧
      Bytes.read8 (sendIcmpTooBig cfg csumDiff false (XdpMd.filled byte data)).2.data 18 =
        byte := by
  have cut : (XdpMd.filled byte data).adjustTail ((icmpToobigSize : Int) - data.length) =
      some (XdpMd.filled byte (data.take icmpToobigSize)) := by
    have size : ((data.length : Int) + ((icmpToobigSize : Int) - data.length)).toNat =
        icmpToobigSize := by omega
    have shrinks : (icmpToobigSize : Int) - data.length ≤ 0 ∧
        (XdpMd.ethHlen : Int) ≤ data.length + ((icmpToobigSize : Int) - data.length) := by
      have least : XdpMd.ethHlen ≤ icmpToobigSize := by decide
      omega
    simp only [XdpMd.adjustTail, XdpMd.filled, shrinks, and_self, ↓reduceIte, size]
  have length : (data.take icmpToobigSize).length = icmpToobigSize := by
    rw [List.length_take, Nat.min_eq_left long]
  have whole : ¬ icmpToobigSize + 28 >
      (List.replicate 28 byte ++ data.take icmpToobigSize).length := by
    rw [List.length_append, List.length_replicate, length]
    decide
  have answers : sendIcmpTooBig cfg csumDiff false (XdpMd.filled byte data) =
      sendIcmp4TooBig cfg csumDiff (XdpMd.filled byte (data.take icmpToobigSize)) := by
    have offset : (XdpMd.filled byte data).data.length = data.length := rfl
    simp only [sendIcmpTooBig, Bool.false_eq_true, ↓reduceIte, offset, cut]
  rw [answers]
  unfold sendIcmp4TooBig
  rw [growHead_filled (by decide)]
  dsimp only
  rw [if_neg whole]
  refine ⟨rfl, ?_⟩
  simp (disch := omega) only [Bytes.read8_write16_of_outside, Bytes.read8_write8_of_ne,
    Bytes.read8_write32_of_outside, read8_swapMac]
  exact read8_replicate_append (by decide)

/-- A frame that shows its headroom is transmitted with a byte of it. -/
theorem processPacket_filled {xdp : XdpMd} {flow : FlowMaps}
    (exposes : ExposesHeadroom cfg maps env xdp flow) (byte : UInt8) :
    (processPacket cfg maps env xdp.frameIpv6 (XdpMd.filled byte xdp.data) flow).verdict = .tx ∧
      Bytes.read8
        (processPacket cfg maps env xdp.frameIpv6 (XdpMd.filled byte xdp.data) flow).xdp.data
        18 = byte := by
  obtain ⟨ip, pckt, pktBytes, vip, info, described, parsed, found, exposes⟩ := exposes
  unfold BalanceExposes at exposes
  split at exposes
  next big =>
    obtain ⟨four, generates, present, long⟩ := exposes
    rcases parsePacket_spec cfg maps env.cpu xdp.frameIpv6 (XdpMd.filled byte xdp.data) flow with
      ⟨_, _, same, goesOn⟩ | ⟨undescribed, _⟩
    · obtain ⟨rfl, rfl⟩ := Prod.mk.inj (Option.some.inj (parsed.symm.trans same))
      have large : (XdpMd.filled byte xdp.data).data.length > cfg.maxPcktSize := big
      simp only [processPacket, goesOn, balancePacket, found, large, ↓reduceIte, processTooBig,
        generates, countStats, present]
      rw [four]
      exact sendIcmpTooBig_filled cfg env.csumDiff byte long
    · cases undescribed.symm.trans parsed
  next fits =>
    obtain ⟨counted, chosen, chooses, four⟩ := exposes
    have same : describe cfg xdp.frameIpv6 (XdpMd.filled byte xdp.data).data =
        some (pckt, pktBytes) :=
      parsed
    have room : 48 ≤ (XdpMd.filled byte xdp.data).headroom.length :=
      Nat.le_of_eq List.length_replicate.symm
    have balanced := processPacket_balanced env flow same found (Nat.le_of_not_lt fits)
    have known := (Chooses.chooseDst cfg maps env xdp.frameIpv6 xdp.data info described flow).known
      chosen chooses
    have sending := balanced.sends chosen chooses room counted known
    obtain ⟨_, _, _, wraps⟩ := pcktEncap_of_sent sending
    have sends : (processPacket cfg maps env xdp.frameIpv6 (XdpMd.filled byte xdp.data) flow).sent ≠
        none := by
      rw [sending]
      exact Option.some_ne_none _
    exact ⟨(processPacket_verdict cfg maps env xdp.frameIpv6 _ flow).resolve_left sends,
      pcktEncap_filled four wraps⟩

end Shown

/-- The result does not depend on the bytes in front of a frame. -/
def HeadroomHidden (cfg : BpfConfig) (maps : ConfigMaps) (env : PacketEnv) (tailCalls : Nat)
    (xdp : XdpMd) (flow : FlowMaps) : Prop :=
  ∀ first second : List UInt8, first.length = second.length →
    SameResult (balancerIngress cfg maps env tailCalls { xdp with headroom := first } flow)
      (balancerIngress cfg maps env tailCalls { xdp with headroom := second } flow)

/-- **What is transmitted does not depend on the headroom.** For every frame, state and number
of tail calls this is so unless a frame that is not processed again is wrapped in, or answered
with, an IPv4 header: the identification of that header is never written. -/
theorem transmitted_independent_iff {cfg : BpfConfig} {maps : ConfigMaps}
    (six : maps.ctlMac.length = 6) (env : PacketEnv) (tailCalls : Nat) (xdp : XdpMd)
    (flow : FlowMaps) :
    HeadroomHidden cfg maps env tailCalls xdp flow ↔ ¬ ExposesHeadroom cfg maps env xdp flow := by
  constructor
  · intro hidden exposes
    have shown : ∀ byte, Bytes.read8
        (balancerIngress cfg maps env tailCalls (XdpMd.filled byte xdp.data) flow).xdp.data
          18 = byte ∧
        (balancerIngress cfg maps env tailCalls (XdpMd.filled byte xdp.data) flow).verdict =
          .tx := by
      intro byte
      obtain ⟨verdict, shows⟩ := processPacket_filled exposes byte
      have settled : (processPacket cfg maps env (XdpMd.filled byte xdp.data).frameIpv6
          (XdpMd.filled byte xdp.data) flow).verdict ≠ .recirculate := by
        intro again
        cases verdict.symm.trans again
      have ip : (XdpMd.filled byte xdp.data).IsIp := exposes.1
      rw [balancerIngress_settled tailCalls flow ip settled]
      exact ⟨shows, verdict⟩
    have same := (hidden (List.replicate 48 0) (List.replicate 48 1) rfl).2 (shown 0).2
    have bytes := congrArg (Bytes.read8 · 18) same
    exact absurd ((shown 0).1.symm.trans (bytes.trans (shown 1).1)) (by decide)
  · intro unexposed first second length
    have behind : Behind 0 { xdp with headroom := first } { xdp with headroom := second } := by
      refine ⟨rfl, length, ?_⟩
      simp only [Nat.sub_zero, List.drop_length]
    exact balancerIngress_behind behind six env tailCalls flow (.inr unexposed)

/-- A packet for an IPv6 real. -/
theorem transmitted_independent_iff_six :
    HeadroomHidden smallConfig (oneReal ⟨⟨0xfc, 0, 0, 1⟩, 1⟩) (sampleEnv 0) 2 (statedTcp 40)
      .fresh := by
  refine (transmitted_independent_iff rfl ..).mpr ?_
  rintro ⟨_, pckt, pktBytes, vip, info, described, parsed, found, exposes⟩
  unfold BalanceExposes at exposes
  rw [if_neg (by decide)] at exposes
  obtain ⟨_, chosen, chooses, four⟩ := exposes
  have balanced := processPacket_balanced (sampleEnv 0) .fresh parsed found (by decide)
  rw [chooses] at balanced
  have called : encapDst smallConfig (oneReal ⟨⟨0xfc, 0, 0, 1⟩, 1⟩) (sampleEnv 0)
      (statedTcp 40).frameIpv6 (statedTcp 40) .fresh = some ⟨⟨0xfc, 0, 0, 1⟩, 1⟩ := by
    decide +kernel
  have same := Option.some.inj (called.symm.trans (encapDst_of_balanced parsed found balanced))
  rw [← same] at four
  exact absurd four (by decide)

/-- A packet for an IPv4 real leaves with two bytes of the headroom. -/
theorem headroom_transmitted :
    (balancerIngress smallConfig (oneReal ⟨.ofV4 0x0a00000a, 0⟩) (sampleEnv 0) 2
      (XdpMd.filled 7 (statedTcp 40).data) .fresh).verdict = .tx ∧
    (((balancerIngress smallConfig (oneReal ⟨.ofV4 0x0a00000a, 0⟩) (sampleEnv 0) 2
      (XdpMd.filled 7 (statedTcp 40).data) .fresh).xdp.data.drop 18).take 2) = [7, 7] ∧
    ¬ HeadroomHidden smallConfig (oneReal ⟨.ofV4 0x0a00000a, 0⟩) (sampleEnv 0) 2 (statedTcp 40)
      .fresh := by
  refine ⟨by decide +kernel, by decide +kernel, ?_⟩
  intro hidden
  have same := (hidden (List.replicate 48 0) (List.replicate 48 1) rfl).2 (by decide +kernel)
  exact absurd same (by decide +kernel)

end Katran
