import Katran.Bpf.Bytes
import Katran.Bpf.Process

/-! # The decapsulation program

A server runs `xdp-decap` on the frames that the balancer sends to it. The program removes
one outer IP header and leaves the Ethernet addresses of the frame in place, so that it
undoes what `encapV4` and `encapV6` have done (`xdpdecap_undoes_encap`): the outer headers
that these write are ones that the program accepts, and the number of the tunnel protocol
tells it which EtherType to restore.
-/

namespace Katran

namespace XdpDecap

/-- `struct decap_stats` -/
structure DecapStats where
  decapV4 : UInt64 := 0
  decapV6 : UInt64 := 0
  total : UInt64 := 0
deriving DecidableEq, Repr

/-- The entries of the program's `stats`. -/
def statsMapSize : Nat := 4

/-- The counters, by core and key. -/
abbrev Stats := Nat → Nat → DecapStats

/-- The protocol, and the length that the network header gives. -/
def processL3Headers (data : List UInt8) (off : Nat) (isIpv6 : Bool) : Action (UInt8 × UInt16) :=
  if isIpv6 then
    if off + 40 > data.length then .done .drop data
    else
      let protocol := Bytes.read8 data (off + 6)
      let pktBytes := Bytes.htons (Bytes.read16 data (off + 4))
      if protocol = ipprotoFragment then .done .drop data else .further (protocol, pktBytes)
  else
    if off + 20 > data.length then .done .drop data
    else if Bytes.read8 data off &&& 0x0f ≠ 5 then .done .drop data
    else
      let protocol := Bytes.read8 data (off + 9)
      let pktBytes := Bytes.htons (Bytes.read16 data (off + 2))
      if Bytes.read16 data (off + 6) &&& pcktFragmented ≠ 0 then .done .drop data
      else .further (protocol, pktBytes)

/-- `process_encaped_pckt`: the packet without its outer header, unless it is dropped. -/
def processEncapedPckt (xdp : XdpMd) (isIpv6 : Bool) (protocol : UInt8) : Option XdpMd :=
  if protocol = ipprotoIpip then
    if isIpv6 then
      if 40 + 14 > xdp.data.length then none else decapV6 xdp true
    else
      if 20 + 14 > xdp.data.length then none else decapV4 xdp
  else if protocol = ipprotoIpv6 then
    if 40 + 14 > xdp.data.length then none else decapV6 xdp false
  else some xdp

/-- Count in an entry of `stats`. -/
def updateStats (stats : Stats) (cpu key : Nat) (change : DecapStats → DecapStats) : Stats :=
  Function.update stats cpu (Function.update (stats cpu) key (change (stats cpu key)))

/-- `process_packet` of `decap_kern.c`. -/
def processPacket (cpu : Nat) (isIpv6 : Bool) (xdp : XdpMd) (stats : Stats) :
    Verdict × XdpMd × Stats :=
  match processL3Headers xdp.data 14 isIpv6 with
  | .done verdict _ => (verdict, xdp, stats)
  | .further (protocol, _) =>
      if 0 < statsMapSize then
        let stats := updateStats stats cpu 0 fun entry => { entry with total := entry.total + 1 }
        if protocol = ipprotoIpip ∨ protocol = ipprotoIpv6 then
          let stats := updateStats stats cpu 0 fun entry =>
            if isIpv6 then { entry with decapV6 := entry.decapV6 + 1 }
            else { entry with decapV4 := entry.decapV4 + 1 }
          match processEncapedPckt xdp isIpv6 protocol with
          | none => (.drop, xdp, stats)
          | some xdp => (.pass, xdp, stats)
        else (.pass, xdp, stats)
      else (.pass, xdp, stats)

/-- The program `xdpdecap`. -/
def xdpdecap (cpu : Nat) (xdp : XdpMd) (stats : Stats) : Verdict × XdpMd × Stats :=
  if 14 > xdp.data.length then (.drop, xdp, stats)
  else
    let ethProto := Bytes.read16 xdp.data 12
    if ethProto = beEthPIp then processPacket cpu false xdp stats
    else if ethProto = beEthPIpv6 then processPacket cpu true xdp stats
    else (.pass, xdp, stats)

end XdpDecap

/-! ## Removing a header -/

/-- The frame without an outer header: its own Ethernet addresses, the EtherType that is
given, and what was behind the outer header. -/
theorem decap_spec {xdp : XdpMd} {size : Nat} (ethProto : UInt16)
    (long : size + 14 ≤ xdp.data.length) (large : 12 ≤ size) :
    (decap xdp size ethProto).map (·.data) =
      some (xdp.data.take 12 ++ Bytes.ofUInt16 ethProto ++ xdp.data.drop (size + 14)) := by
  simp only [decap, XdpMd.shrinkHead, Bytes.write16, Bytes.length_write, Bytes.length_copy,
    XdpMd.ethHlen, long, ↓reduceIte, Option.map_some, Option.some.injEq]
  have start : (xdp.data.take 12).length = 12 := by
    rw [List.length_take]
    omega
  have proto : (Bytes.ofUInt16 ethProto).length = 2 := rfl
  apply List.ext_getElem?
  intro index
  rw [List.getElem?_drop, List.append_assoc]
  by_cases address : index < 12
  · rw [Bytes.getElem?_write_of_outside _ (.inl (by omega)), List.getElem?_append_left (by omega),
      List.getElem?_take, if_pos address]
    by_cases dest : index < 6
    · rw [Bytes.getElem?_copy_inside (by rw [Bytes.length_copy]; omega)
        (by rw [Bytes.length_copy]; omega) dest, Bytes.getElem?_copy_of_outside _ (.inl (by omega)),
        Nat.zero_add]
    · obtain ⟨more, rfl⟩ : ∃ more, index = 6 + more := ⟨index - 6, by omega⟩
      rw [Bytes.getElem?_copy_of_outside _ (.inr (by omega)), ← Nat.add_assoc,
        Bytes.getElem?_copy_inside (by omega) (by omega) (by omega)]
  · obtain ⟨more, rfl⟩ : ∃ more, index = 12 + more := ⟨index - 12, by omega⟩
    rw [List.getElem?_append_right (by omega), start, Nat.add_sub_cancel_left, ← Nat.add_assoc]
    by_cases type : more < 2
    · rw [Bytes.getElem?_write_inside (by simp only [Bytes.length_copy]; omega) type,
        List.getElem?_append_left type]
    · rw [Bytes.getElem?_write_of_outside _ (.inr (by omega)),
        Bytes.getElem?_copy_of_outside _ (.inr (by omega)),
        Bytes.getElem?_copy_of_outside _ (.inr (by omega)), List.getElem?_append_right (by omega),
        List.getElem?_drop]
      congr 1
      omega

/-! ## Adding a header -/

/-- The headers of some size that are written in front of a packet are not behind it. -/
theorem makeRoom_spec {xdp wide : XdpMd} {size : Nat} (made : makeRoom xdp size = some wide) :
    wide.data.length = size + xdp.data.length ∧ wide.data.drop size = xdp.data ∧
      14 ≤ xdp.data.length := by
  obtain ⟨grown, growing, rest⟩ := Option.bind_eq_some_iff.mp made
  unfold XdpMd.growHead at growing
  split at growing
  next room =>
    obtain rfl := Option.some.inj growing
    dsimp only at rest
    have exposed : (xdp.headroom.drop (xdp.headroom.length - size)).length = size := by
      rw [List.length_drop]
      omega
    split at rest
    next => cases rest
    next long =>
      obtain rfl := Option.some.inj rest
      rw [List.length_append, exposed] at long
      refine ⟨?_, ?_, by omega⟩
      · rw [List.length_append, exposed]
      · rw [List.drop_append, exposed, Nat.sub_self, List.drop_zero, List.drop_of_length_le
          (Nat.le_of_eq exposed), List.nil_append]
  next => cases growing

/-- An Ethernet header that is written in front of a tunnel. -/
theorem writeEth_spec (mac data : List UInt8) (oldEth : Nat) (ethProto : UInt16)
    (room : 14 ≤ data.length) :
    (writeEth mac data oldEth ethProto).length = data.length ∧
      Bytes.read16 (writeEth mac data oldEth ethProto) 12 =
        Bytes.read16 (Bytes.ofUInt16 ethProto) 0 ∧
      (writeEth mac data oldEth ethProto).drop 14 = data.drop 14 := by
  have six : (mac.take 6).length ≤ 6 := List.length_take_le 6 mac
  refine ⟨?_, ?_, ?_⟩
  · simp only [writeEth, Bytes.write16, Bytes.length_write, Bytes.length_copy]
  · apply Bytes.read16_write16_self
    rw [Bytes.length_copy, Bytes.length_write]
    exact room
  · rw [writeEth, Bytes.drop_write16 _ _ (by omega), Bytes.drop_copy _ (by omega),
      Bytes.drop_write _ (by omega)]

/-- What `xdp-decap` reads of an IPv4 header, and the rest of the frame. -/
theorem createV4Hdr_spec (cfg : BpfConfig) {data : List UInt8} (tos : UInt8) (saddr daddr : UInt32)
    (pktBytes : UInt16) (proto : UInt8) (room : 34 ≤ data.length) :
    let wrapped := createV4Hdr cfg data 14 tos saddr daddr pktBytes proto
    wrapped.length = data.length ∧ Bytes.read8 wrapped 14 = 0x45 ∧ Bytes.read16 wrapped 20 = 0 ∧
      Bytes.read8 wrapped 23 = proto ∧ Bytes.read16 wrapped 12 = Bytes.read16 data 12 ∧
      wrapped.drop 34 = data.drop 34 := by
  dsimp only [createV4Hdr]
  refine ⟨?_, ?_, ?_, ?_, ?_, ?_⟩
  · simp only [Bytes.length_write8, Bytes.length_write16, Bytes.length_write32]
  · simp (disch := omega) only [Bytes.read8_write16_of_outside, Bytes.read8_write8_of_ne,
      Bytes.read8_write32_of_outside, Bytes.read8_write8_self]
  · simp (disch := omega) only [Bytes.read16_write16_of_outside, Bytes.read16_write8_of_outside,
      Bytes.read16_write32_of_outside]
    rw [Bytes.read16_write16_self]
    · rfl
    · rw [Bytes.length_write8]
      omega
  · simp (disch := omega) only [Bytes.read8_write16_of_outside, Bytes.read8_write8_of_ne,
      Bytes.read8_write32_of_outside]
    rw [Bytes.read8_write8_self]
    rw [Bytes.length_write16, Bytes.length_write8]
    omega
  · simp (disch := omega) only [Bytes.read16_write16_of_outside, Bytes.read16_write8_of_outside,
      Bytes.read16_write32_of_outside]
  · simp (disch := omega) only [Bytes.drop_write8, Bytes.drop_write16, Bytes.drop_write32]

/-- The same for an IPv6 header. -/
theorem createV6Hdr_spec (cfg : BpfConfig) {data : List UInt8} (tc : UInt8) (saddr daddr : Be32x4)
    (payloadLen : UInt16) (proto : UInt8) (room : 54 ≤ data.length) :
    let wrapped := createV6Hdr cfg data 14 tc saddr daddr payloadLen proto
    wrapped.length = data.length ∧ Bytes.read8 wrapped 20 = proto ∧
      Bytes.read16 wrapped 12 = Bytes.read16 data 12 ∧ wrapped.drop 54 = data.drop 54 := by
  dsimp only [createV6Hdr]
  refine ⟨?_, ?_, ?_, ?_⟩
  · simp only [Bytes.length_write8, Bytes.length_write16, Bytes.length_write128,
      Bytes.length_write]
  · simp (disch := omega) only [Bytes.read8_write128_of_outside, Bytes.read8_write8_of_ne,
      Bytes.read8_write16_of_outside]
    rw [Bytes.read8_write8_self]
    rw [Bytes.length_write]
    omega
  · simp (disch := omega) only [Bytes.read16_write128_of_outside, Bytes.read16_write8_of_outside,
      Bytes.read16_write16_of_outside]
    apply Bytes.read16_write_of_outside
    exact .inl (by omega)
  · simp (disch := omega) only [Bytes.drop_write128, Bytes.drop_write8, Bytes.drop_write16]
    exact Bytes.drop_write _ (by simp only [List.length_cons, List.length_nil]; omega)

/-! ## Decapsulation after encapsulation -/

open XdpDecap

/-- A frame that is wrapped in an IPv4 header. -/
structure WrappedV4 (xdp wrapped : XdpMd) : Prop where
  length : wrapped.data.length = 20 + xdp.data.length
  long : 14 ≤ xdp.data.length
  ethProto : Bytes.read16 wrapped.data 12 = beEthPIp
  version : Bytes.read8 wrapped.data 14 = 0x45
  unfragmented : Bytes.read16 wrapped.data 20 = 0
  protocol : Bytes.read8 wrapped.data 23 = ipprotoIpip
  payload : wrapped.data.drop 34 = xdp.data.drop 14

private theorem encapV4_wrapped {cfg : BpfConfig} {mac : List UInt8} {pckt : PacketDescription}
    {dst : RealDefinition} {pktBytes : UInt16} {xdp wrapped : XdpMd}
    (encapsulated : encapV4 cfg mac pckt dst pktBytes xdp = some wrapped) :
    WrappedV4 xdp wrapped := by
  obtain ⟨wide, made, rfl⟩ := Option.map_eq_some_iff.mp encapsulated
  obtain ⟨length, behind, long⟩ := makeRoom_spec made
  obtain ⟨sameLength, ethProto, rest⟩ := writeEth_spec mac wide.data 20 beEthPIp (by omega)
  obtain ⟨total, version, unfragmented, protocol, type, payload⟩ :=
    createV4Hdr_spec cfg pckt.tos
      (((0xffff0000 : UInt32) &&& (((Bytes.htons pckt.flow.srcPort).toUInt32 <<< (16 : UInt32)) ^^^
        pckt.flow.srcv6.w0)) ||| cfg.ipipV4Prefix) dst.dstv6.w0 pktBytes ipprotoIpip
      (by rw [sameLength]; omega : 34 ≤ (writeEth mac wide.data 20 beEthPIp).length)
  refine ⟨?_, long, ?_, version, unfragmented, protocol, ?_⟩
  · exact total.trans (sameLength.trans length)
  · exact type.trans ethProto
  · calc
      _ = (writeEth mac wide.data 20 beEthPIp).drop 34 := payload
      _ = ((writeEth mac wide.data 20 beEthPIp).drop 14).drop 20 := by rw [List.drop_drop]
      _ = (wide.data.drop 20).drop 14 := by rw [rest, List.drop_drop, List.drop_drop]
      _ = xdp.data.drop 14 := by rw [behind]

/-- A frame that is wrapped in an IPv6 header. -/
structure WrappedV6 (isIpv6 : Bool) (xdp wrapped : XdpMd) : Prop where
  length : wrapped.data.length = 40 + xdp.data.length
  long : 14 ≤ xdp.data.length
  ethProto : Bytes.read16 wrapped.data 12 = beEthPIpv6
  protocol : Bytes.read8 wrapped.data 20 = if isIpv6 then ipprotoIpv6 else ipprotoIpip
  payload : wrapped.data.drop 54 = xdp.data.drop 14

private theorem encapV6_wrapped {cfg : BpfConfig} {mac : List UInt8} {isIpv6 : Bool}
    {pckt : PacketDescription} {dst : RealDefinition} {pktBytes : UInt16} {xdp wrapped : XdpMd}
    (encapsulated : encapV6 cfg mac isIpv6 pckt dst pktBytes xdp = some wrapped) :
    WrappedV6 isIpv6 xdp wrapped := by
  obtain ⟨wide, made, rfl⟩ := Option.map_eq_some_iff.mp encapsulated
  obtain ⟨length, behind, long⟩ := makeRoom_spec made
  obtain ⟨sameLength, ethProto, rest⟩ := writeEth_spec mac wide.data 40 beEthPIpv6 (by omega)
  have wraps : ∀ saddr payloadLen proto,
      let wrapped := createV6Hdr cfg (writeEth mac wide.data 40 beEthPIpv6) 14 pckt.tos saddr
        dst.dstv6 payloadLen proto
      wrapped.length = 40 + xdp.data.length ∧ Bytes.read16 wrapped 12 = beEthPIpv6 ∧
        Bytes.read8 wrapped 20 = proto ∧ wrapped.drop 54 = xdp.data.drop 14 := by
    intro saddr payloadLen proto
    obtain ⟨total, protocol, type, payload⟩ := createV6Hdr_spec cfg pckt.tos saddr dst.dstv6
      payloadLen proto
      (by rw [sameLength]; omega : 54 ≤ (writeEth mac wide.data 40 beEthPIpv6).length)
    refine ⟨total.trans (sameLength.trans length), type.trans ethProto, protocol, ?_⟩
    calc
      _ = (writeEth mac wide.data 40 beEthPIpv6).drop 54 := payload
      _ = ((writeEth mac wide.data 40 beEthPIpv6).drop 14).drop 40 := by rw [List.drop_drop]
      _ = (wide.data.drop 40).drop 14 := by rw [rest, List.drop_drop, List.drop_drop]
      _ = xdp.data.drop 14 := by rw [behind]
  cases isIpv6 with
  | true =>
      obtain ⟨total, type, protocol, payload⟩ := wraps _ _ _
      exact ⟨total, long, type, protocol, payload⟩
  | false =>
      obtain ⟨total, type, protocol, payload⟩ := wraps _ _ _
      exact ⟨total, long, type, protocol, payload⟩

/-- A tunnel packet is passed on without its outer header. -/
theorem processPacket_passes {isIpv6 : Bool} {protocol : UInt8} {pktBytes : UInt16}
    {wrapped final : XdpMd}
    (headers : XdpDecap.processL3Headers wrapped.data 14 isIpv6 = .further (protocol, pktBytes))
    (tunnel : protocol = ipprotoIpip ∨ protocol = ipprotoIpv6)
    (removed : processEncapedPckt wrapped isIpv6 protocol = some final) (cpu : Nat)
    (stats : Stats) :
    ∃ counted, XdpDecap.processPacket cpu isIpv6 wrapped stats = (.pass, final, counted) := by
  have present : 0 < statsMapSize := by decide
  simp only [XdpDecap.processPacket, headers, present, tunnel, removed, ↓reduceIte]
  exact ⟨_, rfl⟩

/-- An IPv6 tunnel packet is passed on as the frame that was wrapped, with the Ethernet
addresses of the tunnel. -/
theorem xdpdecap_of_wrappedV6 {isIpv6 : Bool} {xdp wrapped : XdpMd}
    (type : Bytes.read16 xdp.data 12 = if isIpv6 then beEthPIpv6 else beEthPIp)
    (wraps : WrappedV6 isIpv6 xdp wrapped) (cpu : Nat) (stats : Stats) :
    ∃ final counted, xdpdecap cpu wrapped stats = (.pass, final, counted) ∧
      final.data = wrapped.data.take 12 ++ xdp.data.drop 12 := by
  obtain ⟨length, long, ethProto, protocol, payload⟩ := wraps
  have headers : ∃ bytes, XdpDecap.processL3Headers wrapped.data 14 true =
      .further (if isIpv6 then ipprotoIpv6 else ipprotoIpip, bytes) := by
    have whole : ¬ 14 + 40 > wrapped.data.length := by omega
    have unfragmented : ¬ (if isIpv6 then ipprotoIpv6 else ipprotoIpip) = ipprotoFragment := by
      cases isIpv6 <;> decide
    simp only [XdpDecap.processL3Headers, whole, protocol, unfragmented, ↓reduceIte]
    exact ⟨_, rfl⟩
  obtain ⟨bytes, headers⟩ := headers
  obtain ⟨final, removed, same⟩ := Option.map_eq_some_iff.mp
    (decap_spec (if isIpv6 then beEthPIpv6 else beEthPIp)
      (by omega : 40 + 14 ≤ wrapped.data.length) (by omega))
  have unwraps : processEncapedPckt wrapped true (if isIpv6 then ipprotoIpv6 else ipprotoIpip) =
      some final := by
    have whole : ¬ 40 + 14 > wrapped.data.length := by omega
    cases isIpv6 with
    | true =>
        have other : ¬ ipprotoIpv6 = ipprotoIpip := by decide
        simp only [processEncapedPckt, decapV6, other, whole, Bool.false_eq_true, ↓reduceIte]
        exact removed
    | false =>
        simp only [processEncapedPckt, decapV6, whole, Bool.false_eq_true, ↓reduceIte]
        exact removed
  obtain ⟨counted, passes⟩ :=
    processPacket_passes headers (by cases isIpv6 <;> decide) unwraps cpu stats
  refine ⟨final, counted, ?_, ?_⟩
  · have whole : ¬ 14 > wrapped.data.length := by omega
    have other : ¬ beEthPIpv6 = beEthPIp := by decide
    simp only [xdpdecap, whole, ethProto, other, ↓reduceIte]
    exact passes
  · rw [same, payload, List.append_assoc, ← type, Bytes.read16_append_drop long]

/-- The same for an IPv4 tunnel packet. -/
theorem xdpdecap_of_wrappedV4 {xdp wrapped : XdpMd} (type : Bytes.read16 xdp.data 12 = beEthPIp)
    (wraps : WrappedV4 xdp wrapped) (cpu : Nat) (stats : Stats) :
    ∃ final counted, xdpdecap cpu wrapped stats = (.pass, final, counted) ∧
      final.data = wrapped.data.take 12 ++ xdp.data.drop 12 := by
  obtain ⟨length, long, ethProto, version, unfragmented, protocol, payload⟩ := wraps
  have headers : ∃ bytes, XdpDecap.processL3Headers wrapped.data 14 false =
      .further (ipprotoIpip, bytes) := by
    have whole : ¬ 14 + 20 > wrapped.data.length := by omega
    have plain : ¬ (0x45 : UInt8) &&& 0x0f ≠ 5 := by decide
    have unmasked : ¬ (0 : UInt16) &&& pcktFragmented ≠ 0 := by decide
    simp only [XdpDecap.processL3Headers, whole, version, plain, unfragmented, unmasked, protocol,
      Bool.false_eq_true, ↓reduceIte]
    exact ⟨_, rfl⟩
  obtain ⟨bytes, headers⟩ := headers
  obtain ⟨final, removed, same⟩ := Option.map_eq_some_iff.mp
    (decap_spec beEthPIp (by omega : 20 + 14 ≤ wrapped.data.length) (by omega))
  have unwraps : processEncapedPckt wrapped false ipprotoIpip = some final := by
    have whole : ¬ 20 + 14 > wrapped.data.length := by omega
    simp only [processEncapedPckt, whole, Bool.false_eq_true, ↓reduceIte]
    exact removed
  obtain ⟨counted, passes⟩ := processPacket_passes headers (.inl rfl) unwraps cpu stats
  refine ⟨final, counted, ?_, ?_⟩
  · have whole : ¬ 14 > wrapped.data.length := by omega
    simp only [xdpdecap, whole, ethProto, ↓reduceIte]
    exact passes
  · rw [same, payload, List.append_assoc, ← type, Bytes.read16_append_drop long]

/-- **Unwrapping undoes wrapping.** Running the decapsulation program on a frame that has been
wrapped for a real gives the frame back, with the Ethernet addresses of the tunnel. -/
theorem xdpdecap_undoes_encap {cfg : BpfConfig} {mac : List UInt8} {isIpv6 : Bool}
    {pckt : PacketDescription} {dst : RealDefinition} {pktBytes : UInt16} {xdp wrapped : XdpMd}
    (type : Bytes.read16 xdp.data 12 = if isIpv6 then beEthPIpv6 else beEthPIp)
    (encapsulated : encapV6 cfg mac isIpv6 pckt dst pktBytes xdp = some wrapped ∨
      (isIpv6 = false ∧ encapV4 cfg mac pckt dst pktBytes xdp = some wrapped))
    (cpu : Nat) (stats : Stats) :
    ∃ final counted, xdpdecap cpu wrapped stats = (.pass, final, counted) ∧
      final.data = wrapped.data.take 12 ++ xdp.data.drop 12 := by
  rcases encapsulated with encapsulated | ⟨rfl, encapsulated⟩
  · exact xdpdecap_of_wrappedV6 type (encapV6_wrapped encapsulated) cpu stats
  · exact xdpdecap_of_wrappedV4 type (encapV4_wrapped encapsulated) cpu stats

/-- A packet wrapped for an IPv4 real. -/
theorem xdpdecap_undoes_encap_sample :
    ∃ wrapped final counted,
      encapV4 smallConfig [2, 0, 0, 0, 0, 1] {} { dstv6 := .ofV4 0x0100000a } 40
        (sampleTcp 0x01010101 0x0101c80a 4000 80 true) = some wrapped ∧
      xdpdecap 0 wrapped (fun _ _ => {}) = (.pass, final, counted) ∧
      final.data = [2, 0, 0, 0, 0, 1, 2, 0, 0, 0, 0, 2] ++
        (sampleTcp 0x01010101 0x0101c80a 4000 80 true).data.drop 12 := by
  have wraps : (encapV4 smallConfig [2, 0, 0, 0, 0, 1] {} { dstv6 := .ofV4 0x0100000a } 40
      (sampleTcp 0x01010101 0x0101c80a 4000 80 true)).map (·.data.take 12) =
        some [2, 0, 0, 0, 0, 1, 2, 0, 0, 0, 0, 2] := by
    decide +kernel
  obtain ⟨wrapped, encapsulated, addresses⟩ := Option.map_eq_some_iff.mp wraps
  obtain ⟨final, counted, passes, same⟩ :=
    xdpdecap_undoes_encap (by decide) (.inr ⟨rfl, encapsulated⟩) 0 fun _ _ => {}
  rw [addresses] at same
  exact ⟨wrapped, final, counted, encapsulated, passes, same⟩

section Sent

variable {cfg : BpfConfig} {maps : ConfigMaps} {env : PacketEnv} {isIpv6 : Bool} {xdp : XdpMd}
  {flow : FlowMaps} {sent : Sent}

private theorem sendToReal_xdp {cpu : Nat} {vip : VipDefinition} {info : VipMeta}
    {pktBytes : UInt16} {chosen : Chosen}
    (sending : (sendToReal cfg maps cpu isIpv6 vip info pktBytes chosen xdp flow).sent =
      some sent) :
    pcktEncap cfg maps isIpv6 sent.pckt sent.dst pktBytes xdp =
      some (sendToReal cfg maps cpu isIpv6 vip info pktBytes chosen xdp flow).xdp := by
  obtain ⟨rfl, counted⟩ := sendToReal_of_sent sending
  unfold sendToReal countStats at sending ⊢
  cases encapsulated : pcktEncap cfg maps isIpv6 chosen.pckt chosen.dst pktBytes xdp with
  | none =>
      rw [encapsulated] at sending
      cases sending
  | some wrapped =>
      simp only [counted, ↓reduceIte]
      split <;> rfl

/-- What is transmitted for a packet that has been sent to a real. -/
theorem pcktEncap_of_sent
    (sending : (Katran.processPacket cfg maps env isIpv6 xdp flow).sent = some sent) :
    ∃ pckt pktBytes, describe cfg isIpv6 xdp.data = some (pckt, pktBytes) ∧
      pcktEncap cfg maps isIpv6 sent.pckt sent.dst pktBytes xdp =
        some (Katran.processPacket cfg maps env isIpv6 xdp flow).xdp := by
  rcases parsePacket_spec cfg maps env.cpu isIpv6 xdp flow with
    ⟨pckt, pktBytes, described, parsed⟩ | ⟨_, _, _, _, parsed, _⟩
  · rcases processPacket_cases cfg maps env isIpv6 xdp flow with
      ⟨unsent, _, _⟩ | ⟨_, _, vip, info, _, decided, same, found, balanced⟩
    · cases unsent.symm.trans sending
    · obtain ⟨rfl, rfl⟩ := Prod.mk.inj (Option.some.inj (described.symm.trans same))
      obtain ⟨chosen, rfl, _, _⟩ := balanced.of_sent sent sending
      refine ⟨pckt, pktBytes, described, ?_⟩
      have small : ¬ xdp.data.length > cfg.maxPcktSize := Nat.not_lt.mpr balanced.fits
      have chooses := balanced.chooses
      simp only [Katran.processPacket, parsed, balancePacket, found, small, ↓reduceIte] at sending ⊢
      cases returned : chooseDst cfg maps env isIpv6 xdp.data info _ flow with
      | mk first later =>
          rw [returned] at chooses sending
          dsimp only at chooses
          subst chooses
          exact sendToReal_xdp sending
  · simp only [Katran.processPacket, parsed] at sending
    cases sending

/-- A server that runs the decapsulation program gets the client's packet back, unless it is
an IPv6 packet that has been sent to an IPv4 address. -/
theorem xdpdecap_of_sent (ipip : cfg.gueEncap = false)
    (type : Bytes.read16 xdp.data 12 = if isIpv6 then beEthPIpv6 else beEthPIp)
    (sending : (Katran.processPacket cfg maps env isIpv6 xdp flow).sent = some sent)
    (families : isIpv6 = true → sent.dst.isIpv6 = true) (cpu : Nat) (stats : Stats) :
    let wrapped := (Katran.processPacket cfg maps env isIpv6 xdp flow).xdp
    ∃ final counted, xdpdecap cpu wrapped stats = (.pass, final, counted) ∧
      final.data = wrapped.data.take 12 ++ xdp.data.drop 12 := by
  obtain ⟨_, pktBytes, _, encapsulated⟩ := pcktEncap_of_sent sending
  unfold pcktEncap at encapsulated
  rw [ipip] at encapsulated
  split at encapsulated
  · exact xdpdecap_of_wrappedV6 type (encapV6_wrapped encapsulated) cpu stats
  next other =>
    cases isIpv6 with
    | true => exact (other (families rfl)).elim
    | false => exact xdpdecap_of_wrappedV4 type (encapV4_wrapped encapsulated) cpu stats

end Sent

end Katran
