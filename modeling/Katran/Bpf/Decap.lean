import Katran.Bpf.Icmp
import Katran.Bpf.XdpDecap

/-! # Tunnels that end here

The balancer and `xdp-decap` remove the outer headers of a packet whose tunnel ends at the
host. How much they remove and where they look for the inner time to live is decided by the
protocol first (`DecapCall.seenOff`), which is right unless an IPv6 packet comes in an IPv4
tunnel (`decap_strips_outer_iff`). A time to live is decremented before it is compared with
zero, so that a packet that had none left goes on with 255 (`hop_consumed_iff`).
-/

namespace Katran

namespace Bytes

/-- A write behind a point, seen from there. -/
theorem drop_write_after {data bytes : List UInt8} {start off : Nat}
    (room : start + off + bytes.length ≤ data.length) :
    (write data (start + off) bytes).drop start = write (data.drop start) off bytes := by
  have rest : (data.drop start).length = data.length - start := List.length_drop
  apply List.ext_getElem?
  intro index
  rw [List.getElem?_drop]
  by_cases written : off ≤ index ∧ index < off + bytes.length
  · obtain ⟨more, rfl⟩ : ∃ more, index = off + more := ⟨index - off, by omega⟩
    rw [← Nat.add_assoc, getElem?_write_inside room (by omega),
      getElem?_write_inside (by omega) (by omega)]
  · rw [getElem?_write_of_outside _ (by omega), getElem?_write_of_outside _ (by omega),
      List.getElem?_drop]

end Bytes

/-! ## Decrementing a time to live -/

/-- The length of a network header. -/
def netHlen (isIpv6 : Bool) : Nat := if isIpv6 then 40 else 20

/-- The offset of the time to live in a network header, or of the hop limit. -/
def hopOff (isIpv6 : Bool) : Nat := if isIpv6 then 7 else 8

/-- The time to live of the packet at an offset, or its hop limit. -/
def hopLimit (data : List UInt8) (offset : Nat) (isIpv6 : Bool) : UInt8 :=
  Bytes.read8 data (offset + hopOff isIpv6)

section Decrement

variable {data : List UInt8} {offset : Nat} {isIpv6 : Bool}

/-- Decrementing the hop limit keeps the length. -/
theorem decrementTtl_length (data : List UInt8) (offset : Nat) (isIpv6 : Bool) :
    (decrementTtl data offset isIpv6).2.length = data.length := by
  unfold decrementTtl
  split
  · split
    · rfl
    · exact Bytes.length_write8 ..
  · split
    · rfl
    · dsimp only
      split
      · exact Bytes.length_write8 ..
      · rw [Bytes.length_write16, Bytes.length_write8]

private theorem sub_one_eq_zero_iff (byte : UInt8) : byte - 1 = 0 ↔ byte = 1 := by
  rw [UInt8.sub_eq_iff_eq_add, UInt8.zero_add]

/-- A packet goes on if its header is whole and its time to live is not one. -/
theorem decrementTtl_goesOn_iff (data : List UInt8) (offset : Nat) (isIpv6 : Bool) :
    (decrementTtl data offset isIpv6).1 = true ↔
      offset + netHlen isIpv6 ≤ data.length ∧ hopLimit data offset isIpv6 ≠ 1 := by
  cases isIpv6 with
  | true =>
      change _ ↔ offset + 40 ≤ data.length ∧ Bytes.read8 data (offset + 7) ≠ 1
      simp only [decrementTtl, ↓reduceIte]
      split
      next short =>
        refine ⟨nofun, ?_⟩
        rintro ⟨whole, _⟩
        omega
      next whole =>
        rw [decide_eq_true_eq, ne_eq, sub_one_eq_zero_iff]
        exact ⟨fun left => ⟨by omega, left⟩, fun left => left.2⟩
  | false =>
      change _ ↔ offset + 20 ≤ data.length ∧ Bytes.read8 data (offset + 8) ≠ 1
      simp only [decrementTtl, Bool.false_eq_true, ↓reduceIte, sub_one_eq_zero_iff]
      split
      next short =>
        refine ⟨nofun, ?_⟩
        rintro ⟨whole, _⟩
        omega
      next whole =>
        split
        next last => exact ⟨nofun, fun left => absurd last left.2⟩
        next left => exact ⟨fun _ => ⟨by omega, left⟩, fun _ => rfl⟩

/-- Only bytes of the header change. -/
theorem decrementTtl_take (data : List UInt8) {index : Nat} (isIpv6 : Bool)
    (before : index ≤ offset) :
    (decrementTtl data offset isIpv6).2.take index = data.take index := by
  unfold decrementTtl
  split
  · split
    · rfl
    · exact Bytes.take_write _ _ (by omega)
  · split
    · rfl
    · dsimp only
      split
      · exact Bytes.take_write _ _ (by omega)
      · rw [Bytes.write16, Bytes.take_write _ _ (by omega), Bytes.write8,
          Bytes.take_write _ _ (by omega)]

/-- The packet at an offset is treated as it would be at the front. -/
theorem decrementTtl_drop (whole : offset + netHlen isIpv6 ≤ data.length) :
    (decrementTtl data offset isIpv6).2.drop offset =
      (decrementTtl (data.drop offset) 0 isIpv6).2 := by
  have length : (data.drop offset).length = data.length - offset := List.length_drop
  have read : ∀ off, Bytes.read8 data (offset + off) =
      Bytes.read8 (data.drop offset) (0 + off) := by
    intro off
    rw [Nat.zero_add, Bytes.read8_drop]
  cases isIpv6 with
  | true =>
      change offset + 40 ≤ _ at whole
      simp only [decrementTtl, ↓reduceIte]
      rw [if_neg (by omega), if_neg (by omega)]
      dsimp only
      rw [Bytes.write8, Bytes.drop_write_after (by rw [List.length_singleton]; omega), read]
      rfl
  | false =>
      change offset + 20 ≤ _ at whole
      have long : ¬ offset + 20 > data.length := by omega
      have rest : ¬ 0 + 20 > (data.drop offset).length := by omega
      have half : ∀ ttl, Bytes.read16 (Bytes.write8 data (offset + 8) ttl) (offset + 10) =
          Bytes.read16 (Bytes.write8 (data.drop offset) (0 + 8) ttl) (0 + 10) := by
        intro ttl
        rw [Bytes.read16_write8_of_outside _ _ (by omega),
          Bytes.read16_write8_of_outside _ _ (by omega),
          Bytes.read16, Bytes.read16, Nat.add_assoc, read, read]
      have ttlWritten : ∀ ttl, (Bytes.write8 data (offset + 8) ttl).drop offset =
          Bytes.write8 (data.drop offset) (0 + 8) ttl := by
        intro ttl
        rw [Bytes.write8, Bytes.drop_write_after (by rw [List.length_singleton]; omega),
          Bytes.write8, Nat.zero_add]
      simp only [decrementTtl, Bool.false_eq_true, ↓reduceIte, long, rest, read, half]
      split
      · exact ttlWritten _
      · have checkRoom : ∀ ttl (check : UInt16), offset + 10 + (Bytes.ofUInt16 check).length ≤
            (Bytes.write8 data (offset + 8) ttl).length := by
          intro ttl check
          rw [Bytes.length_write8]
          change offset + 10 + 2 ≤ _
          omega
        rw [Bytes.write16, Bytes.drop_write_after (checkRoom _ _), ttlWritten, Bytes.write16,
          Nat.zero_add 10]

/-- The hop limit is one less afterwards. -/
theorem hopLimit_decrementTtl (whole : offset + netHlen isIpv6 ≤ data.length) :
    hopLimit (decrementTtl data offset isIpv6).2 offset isIpv6 =
      hopLimit data offset isIpv6 - 1 := by
  cases isIpv6 with
  | true =>
      change offset + 40 ≤ _ at whole
      have long : ¬ offset + 40 > data.length := by omega
      simp only [decrementTtl, ↓reduceIte, long, hopLimit, hopOff]
      rw [Bytes.read8_write8_self _ (by omega)]
  | false =>
      change offset + 20 ≤ _ at whole
      have long : ¬ offset + 20 > data.length := by omega
      simp only [decrementTtl, Bool.false_eq_true, ↓reduceIte, long, hopLimit, hopOff]
      split
      · rw [Bytes.read8_write8_self _ (by omega)]
      · rw [Bytes.read8_write16_of_outside _ _ (by omega), Bytes.read8_write8_self _ (by omega)]

end Decrement

/-! ## The routines -/

section Routines

variable {xdp : XdpMd} {isIpv6 pass : Bool} {size : Nat} {ethProto : UInt16}

/-- What becomes of a packet of a tunnel: it is dropped, or goes on without its outer
headers. -/
theorem decapTunnel_spec (xdp : XdpMd) (innerIpv6 pass : Bool) (ethProto : UInt16)
    (large : 12 ≤ size) (long : size + 14 ≤ xdp.data.length) :
    let result := decapTunnel xdp (size + 14) innerIpv6 pass (decap · size ethProto)
    let after := (decrementTtl xdp.data (size + 14) innerIpv6).2
    result.1 = (if (decrementTtl xdp.data (size + 14) innerIpv6).1 then
        (if pass then .pass else .recirculate) else .drop) ∧
      result.2.data = xdp.data.take 12 ++ Bytes.ofUInt16 ethProto ++ after.drop (size + 14) := by
  dsimp only
  have length := decrementTtl_length xdp.data (size + 14) innerIpv6
  have start := decrementTtl_take xdp.data innerIpv6 (by omega : 12 ≤ size + 14)
  have removed := @decap_spec
    { xdp with data := (decrementTtl xdp.data (size + 14) innerIpv6).2 } size ethProto
    (by dsimp only; omega) large
  obtain ⟨final, decapsulated, bytes⟩ := Option.map_eq_some_iff.mp removed
  dsimp only at bytes
  rw [start] at bytes
  simp only [decapTunnel, decapsulated, finishDecap]
  by_cases left : (decrementTtl xdp.data (size + 14) innerIpv6).1 = true
  · simp only [left, not_true_eq_false, ↓reduceIte]
    cases pass with
    | true => exact ⟨rfl, bytes⟩
    | false => exact ⟨rfl, bytes⟩
  · simp only [left, not_false_eq_true, ↓reduceIte, bytes, true_and, Bool.false_eq_true]

/-- The bytes of a tunnel packet in front of the inner packet. -/
def DecapCall.innerOff (call : DecapCall) (isIpv6 : Bool) : Nat :=
  match call with
  | .ipip _ => netHlen isIpv6 + 14
  | .gue => netHlen isIpv6 + 8 + 14

/-- Whether the inner packet is an IPv6 packet, by the protocol in front of it or, as GUE has
none, by its version. -/
def DecapCall.innerIpv6 (call : DecapCall) (isIpv6 : Bool) (data : List UInt8) : Bool :=
  match call with
  | .ipip protocol => protocol = ipprotoIpv6
  | .gue => Bytes.read8 data (call.innerOff isIpv6) &&& guev1Ipv6mask ≠ 0

/-- Where a routine takes the inner packet to be. -/
def DecapCall.seenOff (call : DecapCall) (isIpv6 : Bool) : Nat :=
  match call with
  | .ipip protocol => if protocol = ipprotoIpip then netHlen isIpv6 + 14 else 54
  | .gue => netHlen isIpv6 + 8 + 14

/-- Whether a routine takes the inner packet for an IPv6 packet. -/
def DecapCall.seenIpv6 (call : DecapCall) (isIpv6 : Bool) (data : List UInt8) : Bool :=
  match call with
  | .ipip protocol => protocol ≠ ipprotoIpip
  | .gue => isIpv6 ∧ Bytes.read8 data 62 &&& guev1Ipv6mask ≠ 0

/-- A routine is called for the protocols of its tunnels. -/
def DecapCall.Tunnel (call : DecapCall) : Prop :=
  match call with
  | .ipip protocol => protocol = ipprotoIpip ∨ protocol = ipprotoIpv6
  | .gue => True

/-- What a routine does, with the place and the family that it takes the inner packet to
have. -/
structure DecapCall.Does (call : DecapCall) (xdp : XdpMd) (isIpv6 pass : Bool)
    (result : Verdict × XdpMd) : Prop where
  verdict : result.1 =
    if (decrementTtl xdp.data (call.seenOff isIpv6) (call.seenIpv6 isIpv6 xdp.data)).1 then
      (if pass then .pass else .recirculate) else .drop
  bytes : result.1 ≠ .drop → result.2.data =
    xdp.data.take 12 ++
      Bytes.ofUInt16 (if call.seenIpv6 isIpv6 xdp.data then beEthPIpv6 else beEthPIp) ++
      (decrementTtl xdp.data (call.seenOff isIpv6) (call.seenIpv6 isIpv6 xdp.data)).2.drop
        (call.seenOff isIpv6)

private theorem DecapCall.does_of_short {call : DecapCall} (pass : Bool)
    (short : xdp.data.length < call.seenOff isIpv6 + 20) :
    call.Does xdp isIpv6 pass (.drop, xdp) := by
  refine ⟨?_, fun kept => absurd rfl kept⟩
  rw [if_neg]
  rw [decrementTtl_goesOn_iff]
  rintro ⟨whole, _⟩
  have least : 20 ≤ netHlen (call.seenIpv6 isIpv6 xdp.data) := by
    unfold netHlen
    split <;> decide
  omega

private theorem DecapCall.does_of_decap {call : DecapCall} (pass : Bool) {size : Nat}
    {innerIpv6 : Bool} (large : 12 ≤ size) (off : call.seenOff isIpv6 = size + 14)
    (family : call.seenIpv6 isIpv6 xdp.data = innerIpv6) (long : size + 14 ≤ xdp.data.length) :
    call.Does xdp isIpv6 pass (decapTunnel xdp (size + 14) innerIpv6 pass
      (decap · size (if innerIpv6 then beEthPIpv6 else beEthPIp))) := by
  obtain ⟨verdict, bytes⟩ := decapTunnel_spec xdp innerIpv6 pass
    (if innerIpv6 then beEthPIpv6 else beEthPIp) large long
  refine ⟨?_, ?_⟩
  · rw [off, family]
    exact verdict
  · intro _
    rw [off, family]
    exact bytes

/-- What the routines for tunnels do. -/
theorem DecapCall.run_does (call : DecapCall) (xdp : XdpMd) (isIpv6 pass : Bool) :
    call.Does xdp isIpv6 pass (call.run xdp isIpv6 pass) := by
  cases call with
  | ipip protocol =>
      simp only [DecapCall.run, processEncapedIpipPckt]
      by_cases ipip : protocol = ipprotoIpip
      · rw [if_pos ipip]
        have place : (DecapCall.ipip protocol).seenOff isIpv6 = netHlen isIpv6 + 14 := if_pos ipip
        have family : (DecapCall.ipip protocol).seenIpv6 isIpv6 xdp.data = false := by
          simp only [DecapCall.seenIpv6, ipip, ne_eq, not_true_eq_false, decide_false]
        cases isIpv6 with
        | true =>
            rw [if_pos rfl]
            split
            next short => exact does_of_short pass (by rw [place]; change _ < 40 + 14 + 20; omega)
            next long => exact does_of_decap pass (by decide : 12 ≤ 40) place family (by omega)
        | false =>
            rw [if_neg Bool.false_ne_true]
            split
            next short => exact does_of_short pass (by rw [place]; change _ < 20 + 14 + 20; omega)
            next long => exact does_of_decap pass (by decide : 12 ≤ 20) place family (by omega)
      · rw [if_neg ipip]
        have place : (DecapCall.ipip protocol).seenOff isIpv6 = 40 + 14 := if_neg ipip
        have family : (DecapCall.ipip protocol).seenIpv6 isIpv6 xdp.data = true := by
          simp only [DecapCall.seenIpv6, ipip, ne_eq, not_false_eq_true, decide_true]
        split
        next short => exact does_of_short pass (by rw [place]; omega)
        next long => exact does_of_decap pass (by decide : 12 ≤ 40) place family (by omega)
  | gue =>
      simp only [DecapCall.run, processEncapedGuePckt]
      cases isIpv6 with
      | true =>
          rw [if_pos rfl]
          split
          next short =>
            exact does_of_short pass (by change _ < 40 + 8 + 14 + 20; omega)
          next long =>
            split
            next six =>
              refine does_of_decap pass (by decide : 12 ≤ 48) rfl ?_ (by omega)
              simp only [DecapCall.seenIpv6, six, ne_eq, not_false_eq_true, and_self, decide_true]
            next four =>
              refine does_of_decap pass (by decide : 12 ≤ 48) rfl ?_ (by omega)
              simp only [DecapCall.seenIpv6, four, and_false, decide_false]
      | false =>
          rw [if_neg Bool.false_ne_true]
          split
          next short =>
            exact does_of_short pass (by change _ < 20 + 8 + 14 + 20; omega)
          next long =>
            refine does_of_decap pass (by decide : 12 ≤ 28) rfl ?_ (by omega)
            simp only [DecapCall.seenIpv6, Bool.false_eq_true, false_and, decide_false]

/-- The inner packet is where the routine takes it to be, unless it is an IPv6 packet in an
IPv4 tunnel. -/
theorem DecapCall.seen_eq_inner {call : DecapCall} {data : List UInt8} (tunnel : call.Tunnel)
    (families : call.innerIpv6 isIpv6 data = true → isIpv6 = true) :
    call.seenOff isIpv6 = call.innerOff isIpv6 ∧
      call.seenIpv6 isIpv6 data = call.innerIpv6 isIpv6 data := by
  cases call with
  | ipip protocol =>
      rcases tunnel with rfl | rfl
      · exact ⟨rfl, rfl⟩
      · obtain rfl : isIpv6 = true := families rfl
        exact ⟨rfl, rfl⟩
  | gue =>
      refine ⟨rfl, ?_⟩
      cases isIpv6 with
      | true => simp only [DecapCall.seenIpv6, DecapCall.innerIpv6, true_and]; rfl
      | false =>
          have four : DecapCall.gue.innerIpv6 false data = false :=
            Bool.eq_false_iff.mpr fun six => Bool.false_ne_true (families six)
          rw [four]
          rfl

end Routines

/-! ## Outer headers -/

section Outer

variable {xdp : XdpMd} {isIpv6 : Bool}

/-- A frame that consists of an Ethernet header and a packet of a tunnel protocol. -/
def Framed (protocol : UInt8) (packet frame : List UInt8) : Prop :=
  ∃ addresses : List UInt8, addresses.length = 12 ∧
    frame = addresses ++ Bytes.ofUInt16 (if protocol = ipprotoIpv6 then beEthPIpv6 else beEthPIp) ++
      packet

private theorem Framed.length {protocol : UInt8} {packet frame : List UInt8}
    (framed : Framed protocol packet frame) : frame.length = 14 + packet.length := by
  obtain ⟨addresses, length, rfl⟩ := framed
  rw [List.length_append, List.length_append, length]
  rfl

/-- What `xdp-decap` passes on is the packet behind the outer header. -/
def XdpDecap.Strips (xdp : XdpMd) (isIpv6 : Bool) : Prop :=
  ∀ cpu stats, (xdpdecap cpu xdp stats).1 = .pass →
    Framed (outerProto isIpv6 xdp.data) (xdp.data.drop (netHlen isIpv6 + 14))
      (xdpdecap cpu xdp stats).2.1.data

/-- What the balancer passes on or processes again is the packet behind the outer header, with
its time to live decremented. -/
def BalancerStrips (cfg : BpfConfig) (maps : ConfigMaps) (env : PacketEnv) (flow : FlowMaps)
    (xdp : XdpMd) (isIpv6 : Bool) : Prop :=
  let outcome := processPacket cfg maps env isIpv6 xdp flow
  outcome.verdict = .pass ∨ outcome.verdict = .recirculate →
    Framed (outerProto isIpv6 xdp.data)
      (decrementTtl (xdp.data.drop (netHlen isIpv6 + 14)) 0
        (outerProto isIpv6 xdp.data = ipprotoIpv6)).2 outcome.xdp.data

/-- An IPv6 packet in an IPv4 header. -/
def SixInFour (isIpv6 : Bool) (data : List UInt8) : Prop :=
  isIpv6 = false ∧ outerProto isIpv6 data = ipprotoIpv6

/-- The routines for IP in IP look for the inner packet where it is, unless it is an IPv6
packet in an IPv4 header. -/
theorem seen_of_not_sixInFour {data : List UInt8}
    (tunnel : (DecapCall.ipip (outerProto isIpv6 data)).Tunnel)
    (matching : ¬ SixInFour isIpv6 data) :
    (DecapCall.ipip (outerProto isIpv6 data)).seenOff isIpv6 = netHlen isIpv6 + 14 ∧
      (DecapCall.ipip (outerProto isIpv6 data)).seenIpv6 isIpv6 data =
        decide (outerProto isIpv6 data = ipprotoIpv6) := by
  apply DecapCall.seen_eq_inner tunnel
  intro six
  by_contra four
  exact matching ⟨Bool.eq_false_iff.mpr four, of_decide_eq_true six⟩

private theorem seenOff_of_sixInFour {data : List UInt8} (crossed : SixInFour isIpv6 data) :
    (DecapCall.ipip (outerProto isIpv6 data)).seenOff isIpv6 = 54 ∧
      (DecapCall.ipip (outerProto isIpv6 data)).seenIpv6 isIpv6 data = true := by
  rw [crossed.2]
  exact ⟨rfl, rfl⟩

/-- `xdp-decap` reads the network header as the balancer does. -/
theorem XdpDecap.processL3Headers_of_netHeader {data : List UInt8}
    (header : NetHeader isIpv6 data) :
    XdpDecap.processL3Headers data 14 isIpv6 =
      .further (outerProto isIpv6 data, netBytes isIpv6 data) := by
  cases isIpv6 with
  | true =>
      obtain ⟨long, whole⟩ : 54 ≤ data.length ∧ Bytes.read8 data 20 ≠ ipprotoFragment := header
      have large : ¬ 14 + 40 > data.length := by omega
      simp only [XdpDecap.processL3Headers, large, whole, ↓reduceIte]
      rfl
  | false =>
      obtain ⟨long, plain, whole⟩ : 34 ≤ data.length ∧ Bytes.read8 data 14 &&& 0x0f = 5 ∧
        Bytes.read16 data 20 &&& pcktFragmented = 0 := header
      have large : ¬ 14 + 20 > data.length := by omega
      simp only [XdpDecap.processL3Headers, large, plain, whole, ne_eq, not_true_eq_false,
        Bool.false_eq_true, ↓reduceIte]
      rfl

/-- What `xdp-decap` does with a packet of a tunnel. -/
theorem XdpDecap.processEncapedPckt_spec {protocol : UInt8} (xdp : XdpMd) (isIpv6 : Bool)
    (tunnel : (DecapCall.ipip protocol).Tunnel) :
    (processEncapedPckt xdp isIpv6 protocol).map (·.data) =
      if (DecapCall.ipip protocol).seenOff isIpv6 > xdp.data.length then none
      else some (xdp.data.take 12 ++
        Bytes.ofUInt16 (if protocol = ipprotoIpv6 then beEthPIpv6 else beEthPIp) ++
        xdp.data.drop ((DecapCall.ipip protocol).seenOff isIpv6)) := by
  have removes : ∀ size ethProto, 12 ≤ size →
      (if size + 14 > xdp.data.length then none else decap xdp size ethProto).map (·.data) =
        if size + 14 > xdp.data.length then none
        else some (xdp.data.take 12 ++ Bytes.ofUInt16 ethProto ++ xdp.data.drop (size + 14)) := by
    intro size ethProto large
    split
    next => rfl
    next long => exact decap_spec ethProto (by omega) large
  rcases tunnel with rfl | rfl
  · cases isIpv6 with
    | true => exact removes 40 beEthPIp (by decide)
    | false => exact removes 20 beEthPIp (by decide)
  · exact removes 40 beEthPIpv6 (by decide)

/-- What `xdp-decap` does with the frame of a tunnel. -/
theorem XdpDecap.xdpdecap_of_tunnel
    (type : Bytes.read16 xdp.data 12 = if isIpv6 then beEthPIpv6 else beEthPIp)
    (header : NetHeader isIpv6 xdp.data)
    (tunnel : outerProto isIpv6 xdp.data = ipprotoIpip ∨ outerProto isIpv6 xdp.data = ipprotoIpv6)
    (cpu : Nat) (stats : Stats) :
    (processEncapedPckt xdp isIpv6 (outerProto isIpv6 xdp.data) = none ∧
      (xdpdecap cpu xdp stats).1 = .drop) ∨
    (processEncapedPckt xdp isIpv6 (outerProto isIpv6 xdp.data) =
      some (xdpdecap cpu xdp stats).2.1 ∧ (xdpdecap cpu xdp stats).1 = .pass) := by
  have long : ¬ 14 > xdp.data.length := by
    cases isIpv6 with
    | true => exact Nat.not_lt.mpr (Nat.le_trans (by decide) header.1)
    | false => exact Nat.not_lt.mpr (Nat.le_trans (by decide) header.1)
  have runs : xdpdecap cpu xdp stats = processPacket cpu isIpv6 xdp stats := by
    have other : ¬ beEthPIpv6 = beEthPIp := by decide
    cases isIpv6 with
    | true => simp only [xdpdecap, long, type, other, ↓reduceIte]
    | false => simp only [xdpdecap, long, type, Bool.false_eq_true, ↓reduceIte]
  have present : 0 < statsMapSize := by decide
  rw [runs]
  simp only [processPacket, processL3Headers_of_netHeader header, present, tunnel, ↓reduceIte]
  cases processEncapedPckt xdp isIpv6 (outerProto isIpv6 xdp.data) with
  | none => exact .inl ⟨rfl, rfl⟩
  | some final => exact .inr ⟨rfl, rfl⟩

private theorem XdpDecap.strips_iff
    (type : Bytes.read16 xdp.data 12 = if isIpv6 then beEthPIpv6 else beEthPIp)
    (header : NetHeader isIpv6 xdp.data)
    (tunnel : (DecapCall.ipip (outerProto isIpv6 xdp.data)).Tunnel) :
    Strips xdp isIpv6 ↔ ¬ (SixInFour isIpv6 xdp.data ∧ 54 ≤ xdp.data.length) := by
  have removed := processEncapedPckt_spec xdp isIpv6 tunnel
  constructor
  · rintro strips ⟨crossed, long⟩
    rw [(seenOff_of_sixInFour crossed).1, if_neg (by omega)] at removed
    obtain ⟨final, encaped, bytes⟩ := Option.map_eq_some_iff.mp removed
    rcases xdpdecap_of_tunnel type header tunnel 0 (fun _ _ => {}) with ⟨none, _⟩ | ⟨some, passes⟩
    · cases encaped.symm.trans none
    · obtain rfl := Option.some.inj (encaped.symm.trans some)
      -- twenty bytes of the inner packet are missing
      have length := (strips 0 (fun _ _ => {}) passes).length
      rw [bytes, crossed.1, List.length_append, List.length_append, List.length_take,
        Nat.min_eq_left (by omega), List.length_drop, List.length_drop] at length
      change 12 + 2 + (xdp.data.length - 54) = 14 + (xdp.data.length - 34) at length
      omega
  · intro matching cpu stats passes
    rcases xdpdecap_of_tunnel type header tunnel cpu stats with ⟨_, drops⟩ | ⟨some, _⟩
    · cases passes.symm.trans drops
    · rw [some, Option.map_some] at removed
      split at removed
      next => cases removed
      next long =>
        have parallel : ¬ SixInFour isIpv6 xdp.data := by
          intro crossed
          rw [(seenOff_of_sixInFour crossed).1] at long
          exact matching ⟨crossed, by omega⟩
        rw [(seen_of_not_sixInFour tunnel parallel).1] at removed long
        refine ⟨xdp.data.take 12, ?_, Option.some.inj removed⟩
        rw [List.length_take]
        omega

/-- What the balancer does with a packet of a tunnel of IP in IP. -/
theorem processPacket_of_ipip {cfg : BpfConfig} (maps : ConfigMaps) (env : PacketEnv)
    (flow : FlowMaps) (inline : cfg.inlineDecapIpip = true) (header : NetHeader isIpv6 xdp.data)
    (tunnel : (DecapCall.ipip (outerProto isIpv6 xdp.data)).Tunnel) :
    let outcome := processPacket cfg maps env isIpv6 xdp flow
    (¬ DecapCounted cfg maps isIpv6 (ownPckt isIpv6 xdp.data).flow ∧ outcome.verdict = .drop) ∨
    (DecapCounted cfg maps isIpv6 (ownPckt isIpv6 xdp.data).flow ∧
      ∃ pass, (DecapCall.ipip (outerProto isIpv6 xdp.data)).Does xdp isIpv6 pass
        (outcome.verdict, outcome.xdp)) := by
  dsimp only
  have notIcmp : outerProto isIpv6 xdp.data ≠ icmpProto isIpv6 := by
    rcases tunnel with same | same
    · rw [same]
      cases isIpv6 <;> decide
    · rw [same]
      cases isIpv6 <;> decide
  have further := processL3Headers_of_own cfg header notIcmp
  have proto := ownPckt_proto isIpv6 xdp.data
  by_cases counted : DecapCounted cfg maps isIpv6 (ownPckt isIpv6 xdp.data).flow
  · have called : decapCall cfg maps env.cpu isIpv6 xdp.data flow =
        some (.ipip (outerProto isIpv6 xdp.data)) := by
      refine decapCall_eq_some_iff.mpr ⟨_, _, further, counted, .inl ⟨inline, ?_, ?_⟩⟩
      · rw [proto]
        exact tunnel
      · rw [proto]
    obtain ⟨pass, later, parsed⟩ := parsePacket_of_decapCall called
    refine .inr ⟨counted, pass, ?_⟩
    simp only [processPacket, parsed]
    exact DecapCall.run_does _ xdp isIpv6 pass
  · have unchecked : (checkDecapDst cfg maps env.cpu isIpv6 (ownPckt isIpv6 xdp.data) flow).1 =
        none := by
      rw [← Option.not_isSome_iff_eq_none, checkDecapDst_isSome]
      exact counted
    have ipip : cfg.inlineDecapIpip = true ∧ ((ownPckt isIpv6 xdp.data).flow.proto = ipprotoIpip ∨
        (ownPckt isIpv6 xdp.data).flow.proto = ipprotoIpv6) := by
      rw [proto]
      exact ⟨inline, tunnel⟩
    obtain ⟨later, ended⟩ := processTunnel_of_not_check unchecked
    refine .inl ⟨counted, ?_⟩
    simp only [processPacket, parsePacket, further]
    rw [if_pos ipip, ended]

private theorem balancerStrips_iff {cfg : BpfConfig} (maps : ConfigMaps) (env : PacketEnv)
    (flow : FlowMaps) (inline : cfg.inlineDecapIpip = true) (header : NetHeader isIpv6 xdp.data)
    (tunnel : (DecapCall.ipip (outerProto isIpv6 xdp.data)).Tunnel) :
    BalancerStrips cfg maps env flow xdp isIpv6 ↔
      ¬ (SixInFour isIpv6 xdp.data ∧ 94 ≤ xdp.data.length ∧ Bytes.read8 xdp.data 61 ≠ 1 ∧
        DecapCounted cfg maps isIpv6 (ownPckt isIpv6 xdp.data).flow) := by
  have kept : ∀ {verdict : Verdict}, verdict = .pass ∨ verdict = .recirculate →
      verdict ≠ .drop := by
    rintro verdict (rfl | rfl)
    · decide
    · decide
  rcases processPacket_of_ipip maps env flow inline header tunnel with
    ⟨uncounted, drops⟩ | ⟨counted, pass, does⟩
  · refine ⟨fun _ bad => uncounted bad.2.2.2, ?_⟩
    intro _ passes
    exact absurd drops (kept passes)
  · constructor
    · rintro strips ⟨crossed, long, more, _⟩
      obtain ⟨place, family⟩ := seenOff_of_sixInFour crossed
      have verdict := does.verdict
      rw [place, family,
        if_pos ((decrementTtl_goesOn_iff xdp.data 54 true).mpr ⟨long, more⟩)] at verdict
      dsimp only at verdict
      have passes : (processPacket cfg maps env isIpv6 xdp flow).verdict = .pass ∨
          (processPacket cfg maps env isIpv6 xdp flow).verdict = .recirculate := by
        rw [verdict]
        cases pass with
        | true => exact .inl rfl
        | false => exact .inr rfl
      -- twenty bytes of the inner packet are missing
      have length := (strips passes).length
      rw [does.bytes (kept passes), place, family, crossed.1, List.length_append,
        List.length_append,
        List.length_take, Nat.min_eq_left (by omega), List.length_drop, decrementTtl_length,
        decrementTtl_length, List.length_drop] at length
      change 12 + 2 + (xdp.data.length - 54) = 14 + (xdp.data.length - 34) at length
      omega
    · intro matching passes
      have bytes := does.bytes (kept passes)
      have verdict := does.verdict
      split at verdict
      next goesOn =>
        have parallel : ¬ SixInFour isIpv6 xdp.data := by
          intro crossed
          obtain ⟨place, family⟩ := seenOff_of_sixInFour crossed
          rw [place, family, decrementTtl_goesOn_iff] at goesOn
          exact matching ⟨crossed, goesOn.1, goesOn.2, counted⟩
        obtain ⟨place, family⟩ := seen_of_not_sixInFour tunnel parallel
        rw [place, family] at goesOn bytes
        have whole := ((decrementTtl_goesOn_iff ..).mp goesOn).1
        rw [decrementTtl_drop whole] at bytes
        refine ⟨xdp.data.take 12, ?_, ?_⟩
        · rw [List.length_take]
          omega
        · simpa only [decide_eq_true_eq] using bytes
      next => exact absurd verdict (kept passes)

/-- **Exactly the outer header is removed, unless an IPv6 packet is in an IPv4 header.** For
both programs and every frame of a tunnel, what is left is the packet that was inside, except
for IPv6 packets in IPv4 headers that are long enough to be unwrapped. -/
theorem decap_strips_outer_iff
    (type : Bytes.read16 xdp.data 12 = if isIpv6 then beEthPIpv6 else beEthPIp)
    (header : NetHeader isIpv6 xdp.data)
    (tunnel : outerProto isIpv6 xdp.data = ipprotoIpip ∨ outerProto isIpv6 xdp.data = ipprotoIpv6) :
    (XdpDecap.Strips xdp isIpv6 ↔ ¬ (SixInFour isIpv6 xdp.data ∧ 54 ≤ xdp.data.length)) ∧
    ∀ cfg maps env flow, cfg.inlineDecapIpip = true →
      (BalancerStrips cfg maps env flow xdp isIpv6 ↔
        ¬ (SixInFour isIpv6 xdp.data ∧ 94 ≤ xdp.data.length ∧ Bytes.read8 xdp.data 61 ≠ 1 ∧
          DecapCounted cfg maps isIpv6 (ownPckt isIpv6 xdp.data).flow)) := by
  refine ⟨XdpDecap.strips_iff type header tunnel, ?_⟩
  intro cfg maps env flow inline
  exact balancerStrips_iff maps env flow inline header tunnel

/-- An IPv4 header for `10.200.1.1` with a time to live. -/
def innerHeader (ttl : UInt8) : List UInt8 :=
  [0x45, 0, 0, 20, 0, 0, 0, 0, ttl, ipprotoUdp, 0, 0, 192, 168, 1, 3, 10, 200, 1, 1]

/-- A frame for `172.16.100.1` that carries another packet. -/
def carrierFrame (protocol : UInt8) (inner : List UInt8) : List UInt8 :=
  [1, 0, 0, 0, 0, 0, 2, 0, 0, 0, 0, 0, 8, 0] ++
  [0x45, 0, 0, 20 + inner.length.toUInt8, 0, 0, 0, 0, 64, protocol, 0, 0, 10, 0, 0, 1, 172, 16, 100,
    1] ++ inner

/-- An IPv6 packet with twenty bytes behind its header. -/
def innerV6 : List UInt8 :=
  [0x60, 0, 0, 0, 0, 20, ipprotoUdp, 64] ++ [0xfc, 0] ++ List.replicate 13 0 ++ [1] ++
  [0xfc, 0] ++ List.replicate 13 0 ++ [2] ++ List.replicate 20 7

/-- Both programs strip the header of an IPv4 tunnel around an IPv4 packet. -/
theorem decap_strips_outer_iff_four :
    XdpDecap.Strips ⟨[], carrierFrame ipprotoIpip (innerHeader 2)⟩ false ∧
    BalancerStrips decapConfig noVips (sampleEnv 0) .fresh
      ⟨[], carrierFrame ipprotoIpip (innerHeader 2)⟩ false := by
  have matching : ¬ SixInFour false (carrierFrame ipprotoIpip (innerHeader 2)) := by
    rintro ⟨_, six⟩
    revert six
    decide
  obtain ⟨decap, balancer⟩ :=
    @decap_strips_outer_iff ⟨[], carrierFrame ipprotoIpip (innerHeader 2)⟩ false (by decide)
      ⟨by decide, by decide, by decide⟩ (.inl (by decide))
  refine ⟨decap.mpr (fun bad => matching bad.1), ?_⟩
  exact (balancer decapConfig noVips (sampleEnv 0) .fresh rfl).mpr fun bad => matching bad.1

/-- Of an IPv6 packet in an IPv4 header, both programs remove the first twenty bytes too. -/
theorem six_in_four_cut :
    ¬ XdpDecap.Strips ⟨[], carrierFrame ipprotoIpv6 innerV6⟩ false ∧
    ¬ BalancerStrips decapConfig noVips (sampleEnv 0) .fresh
      ⟨[], carrierFrame ipprotoIpv6 innerV6⟩ false := by
  have header : NetHeader false (carrierFrame ipprotoIpv6 innerV6) :=
    ⟨by decide, by decide, by decide⟩
  have crossed : SixInFour false (carrierFrame ipprotoIpv6 innerV6) := ⟨rfl, by decide⟩
  have tunnel : (DecapCall.ipip (outerProto false (carrierFrame ipprotoIpv6 innerV6))).Tunnel :=
    .inr crossed.2
  constructor
  · rw [@XdpDecap.strips_iff ⟨[], carrierFrame ipprotoIpv6 innerV6⟩ false (by decide) header tunnel]
    exact not_not_intro ⟨crossed, by decide⟩
  · rw [@balancerStrips_iff ⟨[], carrierFrame ipprotoIpv6 innerV6⟩ false decapConfig noVips
      (sampleEnv 0) .fresh rfl header tunnel]
    refine not_not_intro ⟨crossed, by decide, by decide, ?_⟩
    intro listed
    cases listed

end Outer

/-! ## Hop limits -/

section Hops

variable {call : DecapCall} {xdp : XdpMd} {isIpv6 pass : Bool}

/-- The time to live of the inner packet, or its hop limit. -/
def DecapCall.innerHop (call : DecapCall) (isIpv6 : Bool) (data : List UInt8) : UInt8 :=
  hopLimit data (call.innerOff isIpv6) (call.innerIpv6 isIpv6 data)

/-- A packet that goes on has spent one of at least two hops, and one that has fewer is
dropped. -/
structure HopConsumed (call : DecapCall) (xdp : XdpMd) (isIpv6 pass : Bool) : Prop where
  spent : (call.run xdp isIpv6 pass).1 = .pass ∨ (call.run xdp isIpv6 pass).1 = .recirculate →
    2 ≤ (call.innerHop isIpv6 xdp.data).toNat ∧
      (hopLimit (call.run xdp isIpv6 pass).2.data 14 (call.innerIpv6 isIpv6 xdp.data)).toNat + 1 =
        (call.innerHop isIpv6 xdp.data).toNat
  exhausted : (call.innerHop isIpv6 xdp.data).toNat ≤ 1 → (call.run xdp isIpv6 pass).1 = .drop

/-- A packet whose hops are miscounted: none is left, or another byte is taken for the hop
limit of an IPv6 packet in an IPv4 tunnel. -/
def HopMiscounted (call : DecapCall) (isIpv6 : Bool) (data : List UInt8) : Prop :=
  if isIpv6 = false ∧ call.innerIpv6 isIpv6 data = true then
    match call with
    | .ipip _ => 94 ≤ data.length ∧ Bytes.read8 data 61 ≠ 1 ∧
        (Bytes.read8 data 61 = 0 ∨ Bytes.read8 data 61 ≠ Bytes.read8 data 41)
    | .gue => 62 ≤ data.length ∧ Bytes.read8 data 50 ≠ 1
  else
    call.innerOff isIpv6 + netHlen (call.innerIpv6 isIpv6 data) ≤ data.length ∧
      call.innerHop isIpv6 data = 0

private theorem hopConsumed_of_dropped (dropped : (call.run xdp isIpv6 pass).1 = .drop) :
    HopConsumed call xdp isIpv6 pass := by
  refine ⟨?_, fun _ => dropped⟩
  rw [dropped]
  rintro (other | other)
  · cases other
  · cases other

/-- The byte of the time to live in the packet that goes on. -/
theorem hopLimit_of_does {result : Verdict × XdpMd} (does : call.Does xdp isIpv6 pass result)
    (kept : result.1 ≠ .drop) (innerIpv6 : Bool) (long : 12 ≤ xdp.data.length) :
    hopLimit result.2.data 14 innerIpv6 =
      hopLimit (decrementTtl xdp.data (call.seenOff isIpv6) (call.seenIpv6 isIpv6 xdp.data)).2
        (call.seenOff isIpv6) innerIpv6 := by
  have front : (xdp.data.take 12 ++
      Bytes.ofUInt16 (if call.seenIpv6 isIpv6 xdp.data then beEthPIpv6 else beEthPIp)).length =
        14 := by
    rw [List.length_append, List.length_take, Nat.min_eq_left long]
    rfl
  rw [does.bytes kept, hopLimit, Bytes.read8_append_right _ (by omega), front,
    Nat.add_sub_cancel_left, Bytes.read8_drop, hopLimit]

/-- Once a packet goes on, its hops have to be counted right. -/
theorem hopConsumed_iff_of_goesOn
    (goesOn :
    (decrementTtl xdp.data (call.seenOff isIpv6) (call.seenIpv6 isIpv6 xdp.data)).1 = true) :
    HopConsumed call xdp isIpv6 pass ↔ 2 ≤ (call.innerHop isIpv6 xdp.data).toNat ∧
      (hopLimit (decrementTtl xdp.data (call.seenOff isIpv6) (call.seenIpv6 isIpv6 xdp.data)).2
        (call.seenOff isIpv6) (call.innerIpv6 isIpv6 xdp.data)).toNat + 1 =
        (call.innerHop isIpv6 xdp.data).toNat := by
  have does := call.run_does xdp isIpv6 pass
  have verdict := does.verdict
  rw [if_pos goesOn] at verdict
  have passes : (call.run xdp isIpv6 pass).1 = .pass ∨
      (call.run xdp isIpv6 pass).1 = .recirculate := by
    rw [verdict]
    cases pass with
    | true => exact .inl rfl
    | false => exact .inr rfl
  have kept : (call.run xdp isIpv6 pass).1 ≠ .drop := by
    intro dropped
    rw [dropped] at passes
    rcases passes with other | other <;> cases other
  have long : 12 ≤ xdp.data.length := by
    have whole := ((decrementTtl_goesOn_iff ..).mp goesOn).1
    have place : 14 ≤ call.seenOff isIpv6 := by
      unfold DecapCall.seenOff netHlen
      split
      · split <;> omega
      · omega
    omega
  rw [← hopLimit_of_does does kept _ long]
  constructor
  · intro consumed
    exact consumed.spent passes
  · intro counted
    refine ⟨fun _ => counted, ?_⟩
    intro few
    omega

private theorem hopConsumed_of_not_goesOn
    (ends : ¬ (decrementTtl xdp.data (call.seenOff isIpv6) (call.seenIpv6 isIpv6 xdp.data)).1 =
      true) :
    HopConsumed call xdp isIpv6 pass := by
  apply hopConsumed_of_dropped
  rw [(call.run_does xdp isIpv6 pass).verdict, if_neg ends]

/-- One less than a byte, for a byte that is not one. -/
theorem hop_counted_iff {hop seen : UInt8} (more : seen ≠ 1) :
    2 ≤ hop.toNat ∧ (seen - 1).toNat + 1 = hop.toNat ↔ ¬ (seen = 0 ∨ seen ≠ hop) := by
  have small : hop.toNat < 2 ^ 8 := hop.toNat_lt
  have byte : seen.toNat < 2 ^ 8 := seen.toNat_lt
  rw [ne_eq, ← UInt8.toNat_inj] at more
  rw [UInt8.toNat_sub, ne_eq, ← UInt8.toNat_inj, ← UInt8.toNat_inj]
  change ¬ _ = 1 at more
  change 2 ≤ _ ∧ (2 ^ 8 - 1 + _) % 2 ^ 8 + 1 = _ ↔ ¬ (_ = 0 ∨ _)
  omega

/-- Families that go together. -/
theorem hopConsumed_iff_of_families (tunnel : call.Tunnel) (pass : Bool)
    (families : call.innerIpv6 isIpv6 xdp.data = true → isIpv6 = true) :
    HopConsumed call xdp isIpv6 pass ↔
      ¬ (call.innerOff isIpv6 + netHlen (call.innerIpv6 isIpv6 xdp.data) ≤ xdp.data.length ∧
        call.innerHop isIpv6 xdp.data = 0) := by
  obtain ⟨place, family⟩ := call.seen_eq_inner tunnel families
  by_cases goesOn :
      (decrementTtl xdp.data (call.seenOff isIpv6) (call.seenIpv6 isIpv6 xdp.data)).1 = true
  · rw [hopConsumed_iff_of_goesOn goesOn, place, family]
    rw [place, family, decrementTtl_goesOn_iff] at goesOn
    obtain ⟨whole, more⟩ := goesOn
    change call.innerHop isIpv6 xdp.data ≠ 1 at more
    rw [hopLimit_decrementTtl whole, ← DecapCall.innerHop, hop_counted_iff more]
    simp only [whole, ne_eq, not_true_eq_false, or_false, true_and]
  · refine ⟨fun _ => ?_, fun _ => hopConsumed_of_not_goesOn goesOn⟩
    rintro ⟨whole, none⟩
    rw [place, family, decrementTtl_goesOn_iff] at goesOn
    apply goesOn
    refine ⟨whole, ?_⟩
    rw [← DecapCall.innerHop, none]
    decide

/-- An IPv6 packet in an IPv4 header is looked for twenty bytes too late. -/
theorem hopConsumed_iff_of_sixInFour (xdp : XdpMd) (pass : Bool) :
    HopConsumed (.ipip ipprotoIpv6) xdp false pass ↔
      ¬ (94 ≤ xdp.data.length ∧ Bytes.read8 xdp.data 61 ≠ 1 ∧
        (Bytes.read8 xdp.data 61 = 0 ∨ Bytes.read8 xdp.data 61 ≠ Bytes.read8 xdp.data 41)) := by
  by_cases goesOn : (decrementTtl xdp.data 54 true).1 = true
  · obtain ⟨whole, more⟩ := (decrementTtl_goesOn_iff ..).mp goesOn
    change 94 ≤ _ at whole
    change Bytes.read8 xdp.data 61 ≠ 1 at more
    have consumed := @hopConsumed_iff_of_goesOn (.ipip ipprotoIpv6) xdp false pass goesOn
    change _ ↔ _ ∧ (hopLimit (decrementTtl xdp.data 54 true).2 54 true).toNat + 1 = _ at consumed
    rw [consumed, hopLimit_decrementTtl whole]
    change 2 ≤ (Bytes.read8 xdp.data 41).toNat ∧ (Bytes.read8 xdp.data 61 - 1).toNat + 1 =
      (Bytes.read8 xdp.data 41).toNat ↔ _
    rw [hop_counted_iff more]
    simp only [whole, more, ne_eq, not_false_eq_true, true_and]
  · refine ⟨fun _ => ?_, fun _ => hopConsumed_of_not_goesOn goesOn⟩
    rintro ⟨whole, more, _⟩
    exact goesOn ((decrementTtl_goesOn_iff ..).mpr ⟨whole, more⟩)

/-- An IPv6 packet in a UDP packet of an IPv4 tunnel is taken for an IPv4 packet. -/
theorem hopConsumed_iff_of_gueSixInFour (pass : Bool)
    (six : DecapCall.gue.innerIpv6 false xdp.data = true) :
    HopConsumed .gue xdp false pass ↔
      ¬ (62 ≤ xdp.data.length ∧ Bytes.read8 xdp.data 50 ≠ 1) := by
  by_cases goesOn : (decrementTtl xdp.data 42 false).1 = true
  · obtain ⟨whole, more⟩ := (decrementTtl_goesOn_iff ..).mp goesOn
    have consumed := @hopConsumed_iff_of_goesOn .gue xdp false pass goesOn
    rw [DecapCall.innerHop, six] at consumed
    change _ ↔ _ ∧ (Bytes.read8 (decrementTtl xdp.data 42 false).2 49).toNat + 1 =
      (Bytes.read8 xdp.data 49).toNat at consumed
    have kept : Bytes.read8 (decrementTtl xdp.data 42 false).2 49 = Bytes.read8 xdp.data 49 := by
      have long : ¬ 42 + 20 > xdp.data.length := Nat.not_lt.mpr whole
      simp only [decrementTtl, Bool.false_eq_true, ↓reduceIte, long]
      split
      · exact Bytes.read8_write8_of_ne _ _ (by decide)
      · rw [Bytes.read8_write16_of_outside _ _ (by decide),
          Bytes.read8_write8_of_ne _ _ (by decide)]
    rw [consumed, kept]
    refine ⟨?_, fun other => absurd ⟨whole, more⟩ other⟩
    rintro ⟨_, spent⟩
    omega
  · refine ⟨fun _ => ?_, fun _ => hopConsumed_of_not_goesOn goesOn⟩
    rintro ⟨whole, more⟩
    exact goesOn ((decrementTtl_goesOn_iff ..).mpr ⟨whole, more⟩)

/-- **A tunnel consumes a hop, unless the hops are miscounted.** Of every frame of a tunnel: a
packet that goes on has one hop less and one without hops to spare is dropped, exactly if it
does not come with none left, and no other byte is taken for the hop limit of an IPv6 packet in
an IPv4 tunnel. -/
theorem hop_consumed_iff (tunnel : call.Tunnel) (xdp : XdpMd) (isIpv6 pass : Bool) :
    HopConsumed call xdp isIpv6 pass ↔ ¬ HopMiscounted call isIpv6 xdp.data := by
  unfold HopMiscounted
  by_cases crossed : isIpv6 = false ∧ call.innerIpv6 isIpv6 xdp.data = true
  · rw [if_pos crossed]
    obtain ⟨rfl, six⟩ := crossed
    cases call with
    | ipip protocol =>
        obtain rfl : protocol = ipprotoIpv6 := of_decide_eq_true six
        exact hopConsumed_iff_of_sixInFour xdp pass
    | gue => exact hopConsumed_iff_of_gueSixInFour pass six
  · rw [if_neg crossed]
    apply hopConsumed_iff_of_families tunnel
    intro six
    by_contra four
    exact crossed ⟨Bool.eq_false_iff.mpr four, six⟩

/-- A packet with two hops left is unwrapped, and has one left. -/
theorem hop_consumed_iff_two :
    HopConsumed (.ipip ipprotoIpip) ⟨[], carrierFrame ipprotoIpip (innerHeader 2)⟩ false true ∧
      ((DecapCall.ipip ipprotoIpip).run ⟨[], carrierFrame ipprotoIpip (innerHeader 2)⟩
        false true).1 =
        .pass := by
  refine ⟨(@hop_consumed_iff (.ipip ipprotoIpip) (Or.inl rfl) _ _ _).mpr ?_, by decide +kernel⟩
  unfold HopMiscounted
  rw [if_neg (by decide)]
  rintro ⟨_, none⟩
  revert none
  decide

/-- A packet without hops goes on with 255 of them. -/
theorem exhausted_hops_wrap :
    ((DecapCall.ipip ipprotoIpip).run ⟨[], carrierFrame ipprotoIpip (innerHeader 0)⟩ false true).1 =
      .pass ∧
    hopLimit ((DecapCall.ipip ipprotoIpip).run ⟨[], carrierFrame ipprotoIpip (innerHeader 0)⟩ false
      true).2.data 14 false = 255 ∧
    ¬ HopConsumed (.ipip ipprotoIpip) ⟨[], carrierFrame ipprotoIpip (innerHeader 0)⟩ false
      true := by
  have passes :
      ((DecapCall.ipip ipprotoIpip).run ⟨[], carrierFrame ipprotoIpip (innerHeader 0)⟩
        false true).1 =
        .pass := by
    decide +kernel
  refine ⟨passes, by decide +kernel, ?_⟩
  intro consumed
  have dropped := consumed.exhausted (by decide)
  rw [passes] at dropped
  cases dropped

end Hops

end Katran
