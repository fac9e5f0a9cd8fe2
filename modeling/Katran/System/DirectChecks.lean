import Katran.System.Healthchecks
import Katran.System.Simulator
import Katran.System.TunnelSource

/-! # Direct health checks

The program `healthchecker` of `healthchecking_kern.c` wraps a marked packet for the
destination of its mark itself, instead of sending it through the tunnel devices of the host.
Reals unwrap what they get with the program `xdp-decap`.

A health check gets to the real that the library has for its mark, with source addresses and
Ethernet addresses of the host, and is unwrapped there to the packet that was sent, but for an
IPv6 packet to an IPv4 real: the EtherType of the frame is not rewritten for an IPv4 header
(`direct_checks_delivered`).
-/

namespace Katran

open Foundation UnorderedMap

namespace DirectHc

/-! ## The program -/

/-- The parts of a packet that the program reads or writes. The bytes that the program may
access are followed by those in other pages. -/
structure Frame where
  mark : UInt32
  data : List UInt8
  paged : List UInt8
deriving DecidableEq, Repr

/-- The packet as it is sent. -/
def Frame.wire (frame : Frame) : List UInt8 := frame.data ++ frame.paged

/-- `skb->len` -/
def Frame.len (frame : Frame) : Nat := frame.wire.length

/-- `struct hc_mac` -/
structure HcMac where
  mac : List UInt8
  six : mac.length = 6
deriving DecidableEq, Repr

/-- The maps that the program reads. -/
structure Maps where
  hcRealsMap : UInt32 → Option HcRealDefinition
  hcCtrlMap : Nat → UInt32
  hcPcktSrcsMap : Nat → HcRealDefinition
  hcPcktMacs : Nat → HcMac

/-- `HC_MAX_PACKET_SIZE` -/
def hcMaxPacketSize : Nat := 1474
/-- `HC_MAIN_INTF_POSITION` -/
def hcMainIntfPosition : Nat := 3
/-- `HC_SRC_MAC_POS` -/
def hcSrcMacPos : Nat := 0
/-- `HC_DST_MAC_POS` -/
def hcDstMacPos : Nat := 1
/-- The size of `hc_pckt_macs`. -/
def hcPcktMacsSize : Nat := 2
/-- The size of `hc_pckt_srcs_map`. -/
def hcPcktSrcsMapSize : Nat := 2
/-- `DEFAULT_TOS` -/
def defaultTos : UInt8 := 0

/-- Whether room can be made in a packet, and what is then in the new bytes. -/
structure RoomEnv where
  adjusts : Bool
  fill : Nat → UInt8

/-- `bpf_skb_adjust_room` behind the Ethernet header. -/
def adjustRoom (env : RoomEnv) (size : Nat) (frame : Frame) : Option Frame :=
  if env.adjusts then
    some { frame with
      data := frame.data.take 14 ++ ((List.range size).map env.fill ++ frame.data.drop 14) }
  else none

/-- The source port of a GUE header, by the words of the real's address. -/
def gueSport (seed : UInt32) : UInt16 := ((seed ^^^ (seed >>> (16 : UInt32))) &&& 0xffff).toUInt16

/-- The size of a UDP header, if there is one. -/
def udpSize (gue : Bool) : Nat := if gue then 8 else 0

section Encap

variable (cfg : BpfConfig) (env : RoomEnv) (srcs : Nat → HcRealDefinition)

/-- What `hc_encap_ipip` and `hc_encap_gue` do: an IP header, and for the latter a UDP header. -/
def hcEncap (gue : Bool) (real : HcRealDefinition) (isIpv6 : Bool) (frame : Frame) :
    Option Frame :=
  let pktLen := UInt16.ofNat (frame.len - 14) + UInt16.ofNat (udpSize gue)
  if real.flags = v6Daddr then
    (adjustRoom env (40 + udpSize gue) frame).bind fun frame =>
      if ¬ v6SrcIndex < hcPcktSrcsMapSize ∨ 54 + udpSize gue > frame.data.length then none
      else
        let data := Bytes.write16 frame.data 12 beEthPIpv6
        let data :=
          if gue then createUdpHdr data 54 (gueSport (real.v6daddr.w0 ||| real.v6daddr.w3))
            cfg.gueDport pktLen else data
        let proto := if gue then ipprotoUdp else if isIpv6 then ipprotoIpv6 else ipprotoIpip
        some { frame with
          data := createV6Hdr cfg data 14 defaultTos (srcs v6SrcIndex).v6daddr real.v6daddr pktLen
            proto }
  else
    (adjustRoom env (20 + udpSize gue) frame).bind fun frame =>
      if ¬ v4SrcIndex < hcPcktSrcsMapSize ∨ 34 + udpSize gue > frame.data.length then none
      else
        let data := if gue then createUdpHdr frame.data 34 (gueSport real.v6daddr.w0) cfg.gueDport
            pktLen else frame.data
        let proto := if gue then ipprotoUdp else ipprotoIpip
        some { frame with
          data := createV4Hdr cfg data 14 defaultTos (srcs v4SrcIndex).v6daddr.w0 real.v6daddr.w0
            pktLen proto }

/-- `hc_encap_ipip` -/
def hcEncapIpip := hcEncap cfg env srcs false

/-- `hc_encap_gue` -/
def hcEncapGue := hcEncap cfg env srcs true

end Encap

/-- `HC_ENCAP` -/
def encap (cfg : BpfConfig) (env : RoomEnv) (srcs : Nat → HcRealDefinition) :
    HcRealDefinition → Bool → Frame → Option Frame :=
  if cfg.gueEncap then hcEncapGue cfg env srcs else hcEncapIpip cfg env srcs

/-- The program, and its counters. -/
def healthchecker (cfg : BpfConfig) (env : RoomEnv) (maps : Maps) (frame : Frame)
    (stats : HcStats) : TcAct × Frame × HcStats :=
  let dropped := { stats with pcktsDropped := stats.pcktsDropped + 1 }
  if ¬ genericStatsIndex < hcStatsSize then (.unspec, frame, stats)
  else if frame.mark = 0 then
    (.unspec, frame, { stats with pcktsSkipped := stats.pcktsSkipped + 1 })
  else
    match maps.hcRealsMap frame.mark with
    | none => (.unspec, frame, { stats with pcktsSkipped := stats.pcktsSkipped + 1 })
    | some real =>
        if frame.len > hcMaxPacketSize then
          (.shot, frame, { dropped with pcktsTooBig := stats.pcktsTooBig + 1 })
        else if ¬ (hcMainIntfPosition < ctrlMapSize ∧ hcSrcMacPos < hcPcktMacsSize ∧
            hcDstMacPos < hcPcktMacsSize ∧ 14 ≤ frame.data.length) then (.shot, frame, dropped)
        else
          let isIpv6 := decide (Bytes.read16 frame.data 12 = beEthPIpv6)
          -- the mark is cleared so that the packet is not wrapped again
          match encap cfg env maps.hcPcktSrcsMap real isIpv6 { frame with mark := 0 } with
          | none => (.shot, { frame with mark := 0 }, dropped)
          | some wrapped =>
              if 14 > wrapped.data.length then (.shot, wrapped, dropped)
              else
                let data := Bytes.write wrapped.data 6 (maps.hcPcktMacs hcSrcMacPos).mac
                let data := Bytes.write data 0 (maps.hcPcktMacs hcDstMacPos).mac
                (.redirect (maps.hcCtrlMap hcMainIntfPosition), { wrapped with data := data },
                  { stats with pcktsProcessed := stats.pcktsProcessed + 1 })

/-! ## Making room -/

variable {env : RoomEnv} {frame wide : Frame} {size : Nat}

private theorem adjustRoom_spec (made : adjustRoom env size frame = some wide)
    (long : 14 ≤ frame.data.length) :
    wide.data.length = size + frame.data.length ∧ wide.data.take 14 = frame.data.take 14 ∧
      wide.data.drop (14 + size) = frame.data.drop 14 ∧ wide.paged = frame.paged ∧
      wide.mark = frame.mark := by
  unfold adjustRoom at made
  split at made
  · obtain rfl := Option.some.inj made
    have start : (frame.data.take 14).length = 14 := by
      rw [List.length_take]
      omega
    have new : ((List.range size).map env.fill).length = size := by
      rw [List.length_map, List.length_range]
    refine ⟨?_, ?_, ?_, rfl, rfl⟩
    · rw [List.length_append, List.length_append, start, new, List.length_drop]
      omega
    · exact List.take_left' start
    · rw [← List.drop_drop, List.drop_left' start, List.drop_left' new]
  · cases made

/-! ## What is sent -/

/-- An IPv4 header behind an Ethernet header. -/
structure HeaderV4 (src dst : UInt32) (bytes : UInt16) (proto : UInt8) (data : List UInt8) :
    Prop where
  version : Bytes.read8 data 14 = 0x45
  unfragmented : Bytes.read16 data 20 = 0
  protocol : Bytes.read8 data 23 = proto
  bytes : netBytes false data = bytes
  source : Bytes.read32 data 26 = src
  destination : Bytes.read32 data 30 = dst

/-- An IPv6 header behind an Ethernet header. -/
structure HeaderV6 (src dst : Be32x4) (bytes : UInt16) (proto : UInt8) (data : List UInt8) :
    Prop where
  protocol : Bytes.read8 data 20 = proto
  bytes : netBytes true data = bytes
  source : Bytes.read128 data 22 = src
  destination : Bytes.read128 data 38 = dst

/-- A UDP header, if there is one. -/
def HeaderUdp (gue : Bool) (dport len : UInt16) (udph : Nat) (data : List UInt8) : Prop :=
  gue = true → Bytes.read16 data (udph + 2) = Bytes.htons dport ∧ udpBytes data udph = len

section Headers

variable {data wire : List UInt8} {dport bytes len : UInt16} {proto : UInt8} {udph : Nat}

private theorem headerV4_createV4Hdr (cfg : BpfConfig) (src dst : UInt32) (bytes : UInt16)
    (proto : UInt8) (room : 34 ≤ data.length) :
    HeaderV4 src dst (bytes + 20) proto
      (createV4Hdr cfg data 14 defaultTos src dst bytes proto) := by
  obtain ⟨_, version, unfragmented, protocol, _, _⟩ :=
    createV4Hdr_spec cfg defaultTos src dst bytes proto room
  exact ⟨version, unfragmented, protocol,
    netBytes_createV4Hdr cfg defaultTos src dst bytes proto room,
    read32_createV4Hdr cfg defaultTos src dst bytes proto room,
    KatranSimulator.createV4Hdr_daddr cfg defaultTos src dst bytes proto room⟩

private theorem headerV6_createV6Hdr (cfg : BpfConfig) (src dst : Be32x4) (bytes : UInt16)
    (proto : UInt8) (room : 54 ≤ data.length) :
    HeaderV6 src dst bytes proto (createV6Hdr cfg data 14 defaultTos src dst bytes proto) := by
  obtain ⟨_, protocol, _, _⟩ := createV6Hdr_spec cfg defaultTos src dst bytes proto room
  exact ⟨protocol, netBytes_createV6Hdr cfg defaultTos src dst bytes proto room,
    read128_createV6Hdr cfg defaultTos src dst bytes proto room,
    KatranSimulator.createV6Hdr_daddr cfg defaultTos src dst bytes proto room⟩

/-- Headers are those of every packet with the same bytes behind the Ethernet addresses. -/
theorem HeaderV4.of_quoted {src dst : UInt32} (header : HeaderV4 src dst bytes proto data)
    (quoted : data.drop 12 <+: wire.drop 12) (room : 34 ≤ data.length) :
    HeaderV4 src dst bytes proto wire where
  version := (Bytes.read8_of_quoted quoted 2 (by omega)).symm.trans header.version
  unfragmented := (Bytes.read16_of_quoted quoted 8 (by omega)).symm.trans header.unfragmented
  protocol := (Bytes.read8_of_quoted quoted 11 (by omega)).symm.trans header.protocol
  bytes := (congrArg Bytes.htons (Bytes.read16_of_quoted quoted 4 (by omega)).symm).trans
    header.bytes
  source := (Bytes.read32_of_quoted quoted 14 (by omega)).symm.trans header.source
  destination := (Bytes.read32_of_quoted quoted 18 (by omega)).symm.trans header.destination

private theorem HeaderV6.of_quoted {src dst : Be32x4} (header : HeaderV6 src dst bytes proto data)
    (quoted : data.drop 12 <+: wire.drop 12) (room : 54 ≤ data.length) :
    HeaderV6 src dst bytes proto wire where
  protocol := (Bytes.read8_of_quoted quoted 8 (by omega)).symm.trans header.protocol
  bytes := (congrArg Bytes.htons (Bytes.read16_of_quoted quoted 6 (by omega)).symm).trans
    header.bytes
  source := (Bytes.read128_of_quoted quoted 10 (by omega)).symm.trans header.source
  destination := (Bytes.read128_of_quoted quoted 26 (by omega)).symm.trans header.destination

private theorem HeaderUdp.of_quoted (header : HeaderUdp gue dport len udph data)
    (quoted : data.drop udph <+: wire.drop udph) (room : udph + udpSize gue ≤ data.length) :
    HeaderUdp gue dport len udph wire := by
  intro enabled
  obtain ⟨port, length⟩ := header enabled
  subst enabled
  have room : udph + 8 ≤ data.length := room
  exact ⟨(Bytes.read16_of_quoted quoted 2 (by omega)).symm.trans port,
    (congrArg Bytes.htons (Bytes.read16_of_quoted quoted 4 (by omega)).symm).trans length⟩

end Headers

/-- A frame that carries another one behind an IPv4 header. The EtherType is the one of the
frame that is carried. -/
structure CarriesV4 (cfg : BpfConfig) (gue : Bool) (src dst : UInt32) (frame wire : List UInt8) :
    Prop where
  length : wire.length = 20 + udpSize gue + frame.length
  type : Bytes.read16 wire 12 = Bytes.read16 frame 12
  header : HeaderV4 src dst (UInt16.ofNat (wire.length - 14))
    (if gue then ipprotoUdp else ipprotoIpip) wire
  udp : HeaderUdp gue cfg.gueDport (UInt16.ofNat (wire.length - 34)) 34 wire
  payload : wire.drop (34 + udpSize gue) = frame.drop 14

/-- A frame that carries another one behind an IPv6 header. -/
structure CarriesV6 (cfg : BpfConfig) (gue isIpv6 : Bool) (src dst : Be32x4)
    (frame wire : List UInt8) : Prop where
  length : wire.length = 40 + udpSize gue + frame.length
  type : Bytes.read16 wire 12 = beEthPIpv6
  header : HeaderV6 src dst (UInt16.ofNat (wire.length - 54))
    (if gue then ipprotoUdp else if isIpv6 then ipprotoIpv6 else ipprotoIpip) wire
  udp : HeaderUdp gue cfg.gueDport (UInt16.ofNat (wire.length - 54)) 54 wire
  payload : wire.drop (54 + udpSize gue) = frame.drop 14

/-- New Ethernet addresses do not change what is behind them, and the bytes in other pages
follow. -/
theorem withMacs_spec {data src dst : List UInt8} (paged : List UInt8) (srcSix : src.length = 6)
    (dstSix : dst.length = 6) (long : 12 ≤ data.length) :
    let wire := Bytes.write (Bytes.write data 6 src) 0 dst ++ paged
    wire.length = data.length + paged.length ∧ data.drop 12 <+: wire.drop 12 ∧
      ∀ off, 12 ≤ off → off ≤ data.length → wire.drop off = data.drop off ++ paged := by
  intro wire
  have behind : ∀ off, 12 ≤ off → off ≤ data.length → wire.drop off = data.drop off ++ paged := by
    intro off beyond inside
    have room : off ≤ (Bytes.write (Bytes.write data 6 src) 0 dst).length := by
      rw [Bytes.length_write, Bytes.length_write]
      exact inside
    rw [List.drop_append_of_le_length room, Bytes.drop_write _ (by omega),
      Bytes.drop_write _ (by omega)]
  refine ⟨?_, ⟨paged, (behind 12 (Nat.le_refl 12) long).symm⟩, behind⟩
  rw [List.length_append, Bytes.length_write, Bytes.length_write]

/-- The Ethernet addresses of a frame. -/
theorem take_withMacs {data src dst : List UInt8} (paged : List UInt8) (srcSix : src.length = 6)
    (dstSix : dst.length = 6) (long : 12 ≤ data.length) :
    (Bytes.write (Bytes.write data 6 src) 0 dst ++ paged).take 12 = dst ++ src := by
  have room : 12 ≤ (Bytes.write (Bytes.write data 6 src) 0 dst).length := by
    rw [Bytes.length_write, Bytes.length_write]
    exact long
  have first : (Bytes.write (Bytes.write data 6 src) 0 dst).take 6 = dst := by
    have written : ((Bytes.write (Bytes.write data 6 src) 0 dst).drop 0).take dst.length = dst :=
      Bytes.slice_write (by rw [Bytes.length_write]; omega)
    rw [List.drop_zero, dstSix] at written
    exact written
  have second : ((Bytes.write (Bytes.write data 6 src) 0 dst).drop 6).take 6 = src := by
    have written : ((Bytes.write data 6 src).drop 6).take src.length = src :=
      Bytes.slice_write (by omega)
    rw [Bytes.drop_write _ (by omega), ← srcSix]
    rw [srcSix] at written ⊢
    exact written
  rw [List.take_append_of_le_length room, show 12 = 6 + 6 from rfl, List.take_add, first, second]

private theorem read16_createUdpHdr_dport {data : List UInt8} {udph : Nat}
    (sport dport len : UInt16) (room : udph + 8 ≤ data.length) :
    Bytes.read16 (createUdpHdr data udph sport dport len) (udph + 2) = Bytes.htons dport := by
  rw [createUdpHdr, Bytes.read16_write16_of_outside _ _ (by omega),
    Bytes.read16_write16_of_outside _ _ (by omega), Bytes.read16_write16]
  rw [Bytes.length_write16]
  omega

private theorem drop_createUdpHdr (data : List UInt8) (udph : Nat) (sport dport len : UInt16) :
    (createUdpHdr data udph sport dport len).drop (udph + 8) = data.drop (udph + 8) := by
  rw [createUdpHdr, Bytes.drop_write16 _ _ (by omega), Bytes.drop_write16 _ _ (by omega),
    Bytes.drop_write16 _ _ (by omega), Bytes.drop_write16 _ _ (by omega)]

/-- A UDP header that is written or not. -/
theorem udp_spec (gue : Bool) {data : List UInt8} {udph : Nat} (sport dport len : UInt16)
    (behind : 14 ≤ udph) (room : udph + udpSize gue ≤ data.length) :
    let written := if gue then createUdpHdr data udph sport dport len else data
    written.length = data.length ∧ Bytes.read16 written 12 = Bytes.read16 data 12 ∧
      written.drop (udph + udpSize gue) = data.drop (udph + udpSize gue) ∧
      HeaderUdp gue dport len udph written := by
  cases gue with
  | false => exact ⟨rfl, rfl, rfl, nofun⟩
  | true =>
      obtain ⟨length, type⟩ := createUdpHdr_spec data sport dport len behind
      exact ⟨length, type, drop_createUdpHdr data udph sport dport len,
        fun _ => ⟨read16_createUdpHdr_dport sport dport len room,
          udpBytes_createUdpHdr sport dport len room⟩⟩

variable {cfg : BpfConfig} {srcs : Nat → HcRealDefinition} {gue isIpv6 : Bool}
  {real : HcRealDefinition} {wrapped : Frame} {src dst : List UInt8}

private theorem pktLen_eq (gue : Bool) {len : Nat} (long : 14 ≤ len) :
    UInt16.ofNat (len - 14) + UInt16.ofNat (udpSize gue) =
      UInt16.ofNat (udpSize gue + len - 14) := by
  rw [← UInt16.ofNat_add]
  congr 1
  omega

private theorem wire_length (frame : Frame) : frame.data.length ≤ frame.wire.length := by
  rw [Frame.wire, List.length_append]
  omega

/-- What the program has made of a frame: `size` bytes for a network header behind the Ethernet
header, then the UDP header, if there is one, and the packet. -/
structure Written (dport : UInt16) (gue : Bool) (size : Nat) (frame : Frame) (data : List UInt8) :
    Prop where
  length : data.length = size + udpSize gue + frame.data.length
  udp : HeaderUdp gue dport (UInt16.ofNat (udpSize gue + frame.len - 14)) (14 + size) data
  payload : data.drop (14 + size + udpSize gue) = frame.data.drop 14

namespace Written

variable {dport : UInt16} {data : List UInt8}

/-- Room has been made, and the UDP header is written into it. -/
theorem of_udp (sport dport : UInt16) (long : 14 ≤ frame.data.length)
    (length : data.length = size + udpSize gue + frame.data.length)
    (payload : data.drop (14 + size + udpSize gue) = frame.data.drop 14) :
    let written := if gue then createUdpHdr data (14 + size) sport dport
      (UInt16.ofNat (udpSize gue + frame.len - 14)) else data
    Written dport gue size frame written ∧ Bytes.read16 written 12 = Bytes.read16 data 12 := by
  obtain ⟨same, type, rest, udp⟩ := udp_spec gue sport dport
    (UInt16.ofNat (udpSize gue + frame.len - 14)) (by omega : 14 ≤ 14 + size)
    (by omega : 14 + size + udpSize gue ≤ data.length)
  exact ⟨⟨same.trans length, udp, rest.trans payload⟩, type⟩

/-- The network header is written into its room. -/
theorem header (written : Written dport gue size frame data) (long : 14 ≤ frame.data.length)
    {after : List UInt8} (length : after.length = data.length)
    (behind : after.drop (14 + size) = data.drop (14 + size)) :
    Written dport gue size frame after where
  length := length.trans written.length
  udp := by
    have total := written.length
    refine written.udp.of_quoted ?_ (by omega)
    rw [behind]
  payload := by
    rw [← List.drop_drop, behind, List.drop_drop, written.payload]

/-- The Ethernet addresses are written, and the bytes in other pages follow. -/
theorem wire (written : Written dport gue size frame data) (long : 14 ≤ frame.data.length)
    (srcSix : src.length = 6) (dstSix : dst.length = 6) :
    let wire := Bytes.write (Bytes.write data 6 src) 0 dst ++ frame.paged
    wire.length = size + udpSize gue + frame.len ∧ data.drop 12 <+: wire.drop 12 ∧
      Bytes.read16 wire 12 = Bytes.read16 data 12 ∧
      HeaderUdp gue dport (UInt16.ofNat (wire.length - (14 + size))) (14 + size) wire ∧
      wire.drop (14 + size + udpSize gue) = frame.wire.drop 14 := by
  have length := written.length
  obtain ⟨total, quoted, after⟩ :=
    withMacs_spec frame.paged srcSix dstSix (by omega : 12 ≤ data.length)
  intro wire
  have total : wire.length = size + udpSize gue + frame.len := by
    rw [total, length, Frame.len, Frame.wire, List.length_append]
    omega
  refine ⟨total, quoted, (Bytes.read16_of_quoted quoted 0 (by omega)).symm, ?_, ?_⟩
  · have inner : wire.length - (14 + size) = udpSize gue + frame.len - 14 := by omega
    rw [inner]
    refine written.udp.of_quoted ?_ (by omega)
    rw [after (14 + size) (by omega) (by omega)]
    exact List.prefix_append _ _
  · rw [after _ (by omega) (by omega), written.payload]
    exact (List.drop_append_of_le_length long).symm

end Written

/-- The frame that is sent to an IPv4 real. -/
theorem carriesV4_of_hcEncap (family : real.flags ≠ v6Daddr) (long : 14 ≤ frame.data.length)
    (encapsulated : hcEncap cfg env srcs gue real isIpv6 frame = some wrapped)
    (srcSix : src.length = 6) (dstSix : dst.length = 6) :
    14 ≤ wrapped.data.length ∧ wrapped.mark = frame.mark ∧
      CarriesV4 cfg gue (srcs v4SrcIndex).v6daddr.w0 real.v6daddr.w0 frame.wire
        (Bytes.write (Bytes.write wrapped.data 6 src) 0 dst ++ wrapped.paged) := by
  unfold hcEncap at encapsulated
  rw [if_neg family] at encapsulated
  obtain ⟨wide, made, rest⟩ := Option.bind_eq_some_iff.mp encapsulated
  obtain ⟨length, start, behind, paged, mark⟩ := adjustRoom_spec made long
  split at rest
  · cases rest
  · obtain rfl := Option.some.inj rest
    have whole : 14 ≤ frame.len := long.trans (wire_length frame)
    dsimp only
    rw [pktLen_eq gue whole, paged]
    obtain ⟨ported, udpType⟩ := Written.of_udp (gueSport real.v6daddr.w0) cfg.gueDport long length
      (by rw [Nat.add_assoc]; exact behind)
    have room := ported.length
    generalize (if gue then createUdpHdr wide.data 34 _ _ _ else wide.data) = data
      at ported udpType room ⊢
    have header := headerV4_createV4Hdr cfg (srcs v4SrcIndex).v6daddr.w0 real.v6daddr.w0
      (UInt16.ofNat (udpSize gue + frame.len - 14)) (if gue then ipprotoUdp else ipprotoIpip)
      (by omega : 34 ≤ data.length)
    obtain ⟨total, _, _, _, sameType, payload⟩ :=
      createV4Hdr_spec cfg defaultTos (srcs v4SrcIndex).v6daddr.w0 real.v6daddr.w0
        (UInt16.ofNat (udpSize gue + frame.len - 14)) (if gue then ipprotoUdp else ipprotoIpip)
        (by omega : 34 ≤ data.length)
    obtain ⟨size, quoted, wireType, udp, carried⟩ :=
      (ported.header long total payload).wire long srcSix dstSix
    refine ⟨by omega, mark, size, ?_, ?_, udp, carried⟩
    · have same : frame.data.take 14 = frame.wire.take 14 :=
        (List.take_append_of_le_length long).symm
      rw [wireType, sameType, udpType, Bytes.read16_of_take start (by omega)]
      exact Bytes.read16_of_take same (by omega)
    · have longer : (20 + udpSize gue + frame.len) - 14 =
          udpSize gue + frame.len - 14 + 20 := by omega
      rw [size, longer, UInt16.ofNat_add]
      exact header.of_quoted quoted (by omega)

/-- The frame that is sent to an IPv6 real. -/
theorem carriesV6_of_hcEncap (family : real.flags = v6Daddr) (long : 14 ≤ frame.data.length)
    (encapsulated : hcEncap cfg env srcs gue real isIpv6 frame = some wrapped)
    (srcSix : src.length = 6) (dstSix : dst.length = 6) :
    14 ≤ wrapped.data.length ∧ wrapped.mark = frame.mark ∧
      CarriesV6 cfg gue isIpv6 (srcs v6SrcIndex).v6daddr real.v6daddr frame.wire
        (Bytes.write (Bytes.write wrapped.data 6 src) 0 dst ++ wrapped.paged) := by
  unfold hcEncap at encapsulated
  rw [if_pos family] at encapsulated
  obtain ⟨wide, made, rest⟩ := Option.bind_eq_some_iff.mp encapsulated
  obtain ⟨length, start, behind, paged, mark⟩ := adjustRoom_spec made long
  split at rest
  · cases rest
  · obtain rfl := Option.some.inj rest
    have whole : 14 ≤ frame.len := long.trans (wire_length frame)
    dsimp only
    rw [pktLen_eq gue whole, paged]
    have type : Bytes.read16 (Bytes.write16 wide.data 12 beEthPIpv6) 12 = beEthPIpv6 :=
      Bytes.read16_write16 beEthPIpv6 (by omega)
    have typed : (Bytes.write16 wide.data 12 beEthPIpv6).drop (54 + udpSize gue) =
        frame.data.drop 14 := by
      rw [Bytes.drop_write16 _ _ (by omega), show 54 + udpSize gue = 14 + (40 + udpSize gue) by
        omega, behind]
    obtain ⟨ported, udpType⟩ := Written.of_udp (gueSport (real.v6daddr.w0 ||| real.v6daddr.w3))
      cfg.gueDport long ((Bytes.length_write16 wide.data 12 beEthPIpv6).trans length) typed
    have room := ported.length
    generalize (if gue then createUdpHdr (Bytes.write16 wide.data 12 beEthPIpv6) 54 _ _ _
      else Bytes.write16 wide.data 12 beEthPIpv6) = data at ported udpType room ⊢
    have header := headerV6_createV6Hdr cfg (srcs v6SrcIndex).v6daddr real.v6daddr
      (UInt16.ofNat (udpSize gue + frame.len - 14))
      (if gue then ipprotoUdp else if isIpv6 then ipprotoIpv6 else ipprotoIpip)
      (by omega : 54 ≤ data.length)
    obtain ⟨total, _, sameType, payload⟩ :=
      createV6Hdr_spec cfg defaultTos (srcs v6SrcIndex).v6daddr real.v6daddr
        (UInt16.ofNat (udpSize gue + frame.len - 14))
        (if gue then ipprotoUdp else if isIpv6 then ipprotoIpv6 else ipprotoIpip)
        (by omega : 54 ≤ data.length)
    obtain ⟨size, quoted, wireType, udp, carried⟩ :=
      (ported.header long total payload).wire long srcSix dstSix
    refine ⟨by omega, mark, size, ?_, ?_, udp, carried⟩
    · rw [wireType, sameType, udpType, type]
    · have shorter : (40 + udpSize gue + frame.len) - 54 = udpSize gue + frame.len - 14 := by
        omega
      rw [size, shorter]
      exact header.of_quoted quoted (by omega)

/-! ## At the real -/

/-- A frame is unwrapped to the one it carries, with Ethernet addresses of its own. -/
def Unwraps (wire frame : List UInt8) : Prop :=
  ∀ headroom cpu stats, ∃ final counted,
    XdpDecap.xdpdecap cpu ⟨headroom, wire⟩ stats = (.pass, final, counted) ∧
      final.data = wire.take 12 ++ frame.drop 12

section Unwrap

variable {wire inner : List UInt8}

private theorem CarriesV4.unwraps {src dst : UInt32}
    (carries : CarriesV4 cfg false src dst inner wire)
    (long : 14 ≤ inner.length) (type : Bytes.read16 inner 12 = beEthPIp) : Unwraps wire inner := by
  intro headroom cpu stats
  have wraps : WrappedV4 ⟨headroom, inner⟩ ⟨headroom, wire⟩ :=
    ⟨carries.length, long, carries.type.trans type, carries.header.version,
      carries.header.unfragmented, carries.header.protocol, carries.payload⟩
  exact xdpdecap_of_wrappedV4 type wraps cpu stats

private theorem CarriesV6.unwraps {src dst : Be32x4}
    (carries : CarriesV6 cfg false isIpv6 src dst inner wire) (long : 14 ≤ inner.length)
    (type : Bytes.read16 inner 12 = if isIpv6 then beEthPIpv6 else beEthPIp) :
    Unwraps wire inner := by
  intro headroom cpu stats
  have wraps : WrappedV6 isIpv6 ⟨headroom, inner⟩ ⟨headroom, wire⟩ :=
    ⟨carries.length, long, carries.type, carries.header.protocol, carries.payload⟩
  exact xdpdecap_of_wrappedV6 type wraps cpu stats

/-- An IPv4 header in a frame that is marked as IPv6 is not removed. -/
theorem CarriesV4.not_unwraps {src dst : UInt32} (carries : CarriesV4 cfg false src dst inner wire)
    (long : 14 ≤ inner.length) (type : Bytes.read16 inner 12 = beEthPIpv6) :
    ¬ Unwraps wire inner := by
  intro unwraps
  obtain ⟨final, counted, passes, same⟩ := unwraps [] 0 fun _ _ => {}
  have size : wire.length = 20 + inner.length := carries.length
  -- the byte in the place of the next header is one of the offset of fragments
  have next : Bytes.read8 wire (14 + 6) = 0 := by
    have zero := carries.header.unfragmented
    have bytes := Bytes.read16_toNat wire 20
    rw [zero] at bytes
    have small : (Bytes.read8 wire 20).toNat = 0 := by
      simp only [UInt16.toNat_zero] at bytes
      omega
    exact UInt8.toNat_inj.mp small
  have unchanged : final = ⟨[], wire⟩ := by
    have whole : ¬ 14 > wire.length := by omega
    have other : ¬ beEthPIpv6 = beEthPIp := by decide
    have plain : ¬ ((0 : UInt8) = ipprotoIpip ∨ (0 : UInt8) = ipprotoIpv6) := by decide
    have unfragmented : ¬ (0 : UInt8) = ipprotoFragment := by decide
    have present : 0 < XdpDecap.statsMapSize := by decide
    simp only [XdpDecap.xdpdecap, whole, carries.type, type, other, ↓reduceIte,
      XdpDecap.processPacket, XdpDecap.processL3Headers, next, unfragmented] at passes
    split at passes
    next verdict _ read =>
      cases passes
      rfl
    next protocol bytes read =>
      split at read
      · cases read
      · cases read
        simp only [present, plain, ↓reduceIte, Prod.mk.injEq] at passes
        exact passes.2.1.symm
  rw [unchanged] at same
  have lengths := congrArg List.length same
  rw [List.length_append, List.length_take, List.length_drop] at lengths
  dsimp only at lengths
  omega

end Unwrap

/-! ## The table of destinations -/

/-- A library for direct health checks: the program has the same destinations, as their bytes. -/
structure Mirrors (hc : KatranHc) : Prop where
  serving : hc.lb.config.testing = false
  direct : hc.directHealthchecking = true
  mirrored : ∀ mark, hc.hcRealsMap mark = (hc.hcReals.lookup mark).map (parseAddrToBeaddr · true)

section Library

variable {hc after : KatranHc} {mark : UInt32} {addr : Option IPAddress}

private theorem Mirrors.of_keeps (mirrors : Mirrors hc) (keeps : KatranHc.Keeps hc after) :
    Mirrors after where
  serving := by rw [keeps.config, mirrors.serving]
  direct := by rw [keeps.directHealthchecking, mirrors.direct]
  mirrored := by
    intro other
    rw [keeps.hcRealsMap, keeps.hcReals, mirrors.mirrored other]

private theorem Mirrors.of_sets (mirrors : Mirrors hc) (sets : KatranHc.Sets hc after mark addr) :
    Mirrors after where
  serving := by rw [sets.config, mirrors.serving]
  direct := by rw [sets.directHealthchecking, mirrors.direct]
  mirrored := by
    have written : hc.hcAddr = (parseAddrToBeaddr · true) := by
      funext addr
      rw [KatranHc.hcAddr, mirrors.direct, if_neg]
      exact fun both => both.2 rfl
    intro other
    rw [sets.hcReals, sets.hcRealsMap, written, Function.update_apply]
    cases addr with
    | none =>
        rw [lookup_erase_eq_ite]
        split
        · rfl
        · exact mirrors.mirrored other
    | some addr =>
        rw [lookup_insert_eq_ite]
        split
        · rfl
        · exact mirrors.mirrored other

/-- A call keeps the program's table a copy of the library's. -/
theorem Mirrors.perform (mirrors : Mirrors hc) (folly : Folly) (env : Env) (op : KatranHc.HcOp) :
    Mirrors (hc.perform folly env op).2 := by
  cases op with
  | addHealthcheckerDst mark dst =>
      rcases KatranHc.addHealthcheckerDst_cases mirrors.serving folly env mark dst with
        ⟨_, keeps⟩ | ⟨_, addr, _, _, sets⟩
      · exact mirrors.of_keeps keeps
      · exact mirrors.of_sets sets
  | delHealthcheckerDst mark =>
      rcases KatranHc.delHealthcheckerDst_cases mirrors.serving env mark with
        ⟨_, keeps⟩ | ⟨_, sets⟩
      · exact mirrors.of_keeps keeps
      · exact mirrors.of_sets sets

/-- The program's table is a copy of the library's after every run. -/
theorem Mirrors.run {folly : Folly} {lb : KatranLb} {enableHc : Bool} {ops : List KatranHc.HcOp}
    (serving : lb.config.testing = false)
    (run : Run (KatranHc.Step folly) (.new lb enableHc true) ops hc) : Mirrors hc := by
  refine run.invariant Mirrors ?_ ⟨serving, rfl, fun _ => rfl⟩
  rintro before op after mirrors ⟨env, rfl⟩
  exact mirrors.perform folly env op

end Library

/-! ## Where health checks go -/

/-- A frame for a destination, with a source address of its family. -/
def Carries (cfg : BpfConfig) (srcs : Nat → HcRealDefinition) (addr : IPAddress)
    (frame wire : List UInt8) : Prop :=
  match addr with
  | .v4 addr => CarriesV4 cfg cfg.gueEncap (srcs v4SrcIndex).v6daddr.w0 addr frame wire
  | .v6 addr => CarriesV6 cfg cfg.gueEncap (decide (Bytes.read16 frame 12 = beEthPIpv6))
      (srcs v6SrcIndex).v6daddr addr frame wire

/-- What becomes of a packet that the program sends. -/
structure Sent (cfg : BpfConfig) (maps : Maps) (addr : IPAddress) (frame : Frame)
    (result : TcAct × Frame × HcStats) : Prop where
  redirected : result.1 = .redirect (maps.hcCtrlMap hcMainIntfPosition)
  unmarked : result.2.1.mark = 0
  addresses : result.2.1.wire.take 12 =
    (maps.hcPcktMacs hcDstMacPos).mac ++ (maps.hcPcktMacs hcSrcMacPos).mac
  carries : Carries cfg maps.hcPcktSrcsMap addr frame.wire result.2.1.wire

private theorem encap_eq (cfg : BpfConfig) (env : RoomEnv) (srcs : Nat → HcRealDefinition) :
    encap cfg env srcs = hcEncap cfg env srcs cfg.gueEncap := by
  unfold encap hcEncapGue hcEncapIpip
  cases cfg.gueEncap with
  | true => rfl
  | false => rfl

/-- Packets are wrapped if room can be made. -/
theorem encap_isSome (cfg : BpfConfig) (env : RoomEnv) (srcs : Nat → HcRealDefinition)
    (real : HcRealDefinition) (isIpv6 : Bool) (frame : Frame) (long : 14 ≤ frame.data.length) :
    (encap cfg env srcs real isIpv6 frame).isSome = env.adjusts := by
  rw [encap_eq]
  unfold hcEncap
  cases adjusts : env.adjusts with
  | false => simp only [adjustRoom, adjusts, Bool.false_eq_true, ↓reduceIte, Option.bind_none,
      ite_self, Option.isSome_none]
  | true =>
      have room (size : Nat) : ∃ wide, adjustRoom env size frame = some wide ∧
          wide.data.length = size + frame.data.length := by
        obtain ⟨wide, made⟩ : ∃ wide, adjustRoom env size frame = some wide := by
          unfold adjustRoom
          rw [if_pos adjusts]
          exact ⟨_, rfl⟩
        exact ⟨wide, made, (adjustRoom_spec made long).1⟩
      obtain ⟨wideV6, madeV6, lengthV6⟩ := room (40 + udpSize cfg.gueEncap)
      obtain ⟨wideV4, madeV4, lengthV4⟩ := room (20 + udpSize cfg.gueEncap)
      have fitsV6 : ¬ (¬ v6SrcIndex < hcPcktSrcsMapSize ∨
          54 + udpSize cfg.gueEncap > wideV6.data.length) := by
        rw [not_or, not_not]
        exact ⟨by decide, by omega⟩
      have fitsV4 : ¬ (¬ v4SrcIndex < hcPcktSrcsMapSize ∨
          34 + udpSize cfg.gueEncap > wideV4.data.length) := by
        rw [not_or, not_not]
        exact ⟨by decide, by omega⟩
      dsimp only
      rw [madeV6, madeV4, Option.bind_some, Option.bind_some, if_neg fitsV6, if_neg fitsV4]
      split
      · rfl
      · rfl

/-- A frame that has been wrapped gets the Ethernet addresses of the host. -/
theorem carries_of_encap {maps : Maps} {addr : IPAddress} (long : 14 ≤ frame.data.length)
    (encapsulated : encap cfg env maps.hcPcktSrcsMap (parseAddrToBeaddr addr true)
      (decide (Bytes.read16 frame.data 12 = beEthPIpv6)) { frame with mark := 0 } = some wrapped)
    (src dst : HcMac) :
    14 ≤ wrapped.data.length ∧ wrapped.mark = 0 ∧ Carries cfg maps.hcPcktSrcsMap addr frame.wire
      (Bytes.write (Bytes.write wrapped.data 6 src.mac) 0 dst.mac ++ wrapped.paged) := by
  rw [encap_eq] at encapsulated
  have same : frame.data.take 14 = frame.wire.take 14 := (List.take_append_of_le_length long).symm
  rw [Bytes.read16_of_take same (by omega)] at encapsulated
  let unmarked : Frame := { frame with mark := 0 }
  cases addr with
  | v4 addr =>
      have family : (parseAddrToBeaddr (.v4 addr) true).flags ≠ v6Daddr := by
        change (0 : UInt8) ≠ v6Daddr
        decide
      have long : 14 ≤ unmarked.data.length := long
      exact carriesV4_of_hcEncap family long encapsulated src.six dst.six
  | v6 addr =>
      have long : 14 ≤ unmarked.data.length := long
      exact carriesV6_of_hcEncap rfl long encapsulated src.six dst.six

/-- A packet that is registered is dropped if it is too big, if its Ethernet header cannot be
accessed, or if no room can be made, and is sent otherwise. -/
theorem healthchecker_registered {maps : Maps} {addr : IPAddress} (marked : frame.mark ≠ 0)
    (registered : maps.hcRealsMap frame.mark = some (parseAddrToBeaddr addr true))
    (stats : HcStats) :
    let result := healthchecker cfg env maps frame stats
    (result.1 = .shot ↔
      frame.len > hcMaxPacketSize ∨ frame.data.length < 14 ∨ env.adjusts = false) ∧
    (result.1 ≠ .shot → Sent cfg maps addr frame result) := by
  have present : ¬ ¬ genericStatsIndex < hcStatsSize := by decide
  simp only [healthchecker, present, marked, registered, ↓reduceIte]
  by_cases big : frame.len > hcMaxPacketSize
  · rw [if_pos big]
    exact ⟨⟨fun _ => .inl big, fun _ => rfl⟩, fun sent => (sent rfl).elim⟩
  · rw [if_neg big]
    by_cases long : 14 ≤ frame.data.length
    · rw [if_neg (not_not.mpr ⟨by decide, by decide, by decide, long⟩)]
      have wraps := encap_isSome cfg env maps.hcPcktSrcsMap (parseAddrToBeaddr addr true)
        (decide (Bytes.read16 frame.data 12 = beEthPIpv6)) { frame with mark := 0 } long
      cases encapsulated : encap cfg env maps.hcPcktSrcsMap (parseAddrToBeaddr addr true)
          (decide (Bytes.read16 frame.data 12 = beEthPIpv6)) { frame with mark := 0 } with
      | none =>
          rw [encapsulated] at wraps
          exact ⟨⟨fun _ => .inr (.inr wraps.symm), fun _ => rfl⟩, fun sent => (sent rfl).elim⟩
      | some wrapped =>
          rw [encapsulated] at wraps
          obtain ⟨room, unmarked, carries⟩ := carries_of_encap long encapsulated
            (maps.hcPcktMacs hcSrcMacPos) (maps.hcPcktMacs hcDstMacPos)
          dsimp only
          rw [if_neg (by omega : ¬ 14 > wrapped.data.length)]
          refine ⟨⟨nofun, ?_⟩, fun _ => ⟨rfl, unmarked, ?_, carries⟩⟩
          · rintro (tooBig | short | refused)
            · exact (big tooBig).elim
            · omega
            · cases wraps.trans refused
          · exact take_withMacs wrapped.paged (maps.hcPcktMacs hcSrcMacPos).six
              (maps.hcPcktMacs hcDstMacPos).six (by omega)
    · rw [if_pos fun fits => long fits.2.2.2]
      exact ⟨⟨fun _ => .inr (.inl (by omega)), fun _ => rfl⟩, fun sent => (sent rfl).elim⟩

/-- A packet that is sent can be unwrapped, unless it is an IPv6 packet for an IPv4 real. -/
theorem Sent.unwraps_iff {maps : Maps} {addr : IPAddress} {result : TcAct × Frame × HcStats}
    (sent : Sent cfg maps addr frame result) (long : 14 ≤ frame.wire.length)
    (ipip : cfg.gueEncap = false)
    (type : Bytes.read16 frame.wire 12 = beEthPIp ∨ Bytes.read16 frame.wire 12 = beEthPIpv6) :
    Unwraps result.2.1.wire frame.wire ↔
      ¬ (addr.isV4 = true ∧ Bytes.read16 frame.wire 12 = beEthPIpv6) := by
  have carries := sent.carries
  cases addr with
  | v4 addr =>
      unfold Carries at carries
      rw [ipip] at carries
      constructor
      · intro unwraps crossed
        exact carries.not_unwraps long crossed.2 unwraps
      · intro plain
        have other : Bytes.read16 frame.wire 12 = beEthPIp :=
          type.resolve_right fun ipv6 => plain ⟨rfl, ipv6⟩
        exact carries.unwraps long other
  | v6 addr =>
      unfold Carries at carries
      rw [ipip] at carries
      refine ⟨fun _ crossed => Bool.false_ne_true crossed.1, fun _ => carries.unwraps long ?_⟩
      rcases type with ipv4 | ipv6
      · rw [ipv4]
        rfl
      · rw [ipv6]
        rfl

/-- **Direct health checks are delivered.** Whatever calls of the library have failed: a packet
with a mark that is not registered is left alone, and one with a mark that is goes to the
destination of its mark, unless it is dropped for one of three reasons. If it is wrapped in IP
alone, the real unwraps it unless it crosses to IPv4. -/
theorem direct_checks_delivered {folly : Folly} {lb : KatranLb} {enableHc : Bool} {hc : KatranHc}
    {ops : List KatranHc.HcOp} (serving : lb.config.testing = false)
    (run : Run (KatranHc.Step folly) (.new lb enableHc true) ops hc) {maps : Maps}
    (same : maps.hcRealsMap = hc.hcRealsMap) (marked : frame.mark ≠ 0) (cfg : BpfConfig)
    (env : RoomEnv) (stats : HcStats) :
    let result := healthchecker cfg env maps frame stats
    (hc.hcReals.lookup frame.mark = none → result.1 = .unspec ∧ result.2.1 = frame) ∧
    ∀ addr, hc.hcReals.lookup frame.mark = some addr →
      (result.1 = .shot ↔
        frame.len > hcMaxPacketSize ∨ frame.data.length < 14 ∨ env.adjusts = false) ∧
      (result.1 ≠ .shot → Sent cfg maps addr frame result ∧
        (cfg.gueEncap = false →
          Bytes.read16 frame.wire 12 = beEthPIp ∨ Bytes.read16 frame.wire 12 = beEthPIpv6 →
          (Unwraps result.2.1.wire frame.wire ↔
            ¬ (addr.isV4 = true ∧ Bytes.read16 frame.wire 12 = beEthPIpv6)))) := by
  have mirrored := (Mirrors.run serving run).mirrored frame.mark
  rw [← same] at mirrored
  intro result
  constructor
  · intro unknown
    rw [unknown, Option.map_none] at mirrored
    have present : ¬ ¬ genericStatsIndex < hcStatsSize := by decide
    simp only [result, healthchecker, present, marked, mirrored, ↓reduceIte, and_self]
  · intro addr known
    rw [known, Option.map_some] at mirrored
    obtain ⟨dropped, sent⟩ := healthchecker_registered marked mirrored stats
    refine ⟨dropped, ?_⟩
    intro kept
    have sent := sent kept
    refine ⟨sent, fun ipip type => sent.unwraps_iff ?_ ipip type⟩
    have long : ¬ frame.data.length < 14 := fun short => kept (dropped.mpr (.inr (.inl short)))
    exact (Nat.not_lt.mp long).trans (wire_length frame)

/-- A library with a health check of 10.0.0.1 under the mark 7. -/
def directlyChecking : KatranHc :=
  ((KatranHc.new (.new { maxReals := 2 } {} (.fresh [2, 0, 0, 0, 0, 1] fun _ => true)) true
    true).perform .small (.plain 0) (.addHealthcheckerDst 7 "10.0.0.1")).2

/-- The maps of a host that has one destination for its checks. -/
def directMaps : Maps where
  hcRealsMap := directlyChecking.hcRealsMap
  hcCtrlMap := fun _ => 3
  hcPcktSrcsMap := fun _ => parseAddrToBeaddr (.v4 0x0200000a) true
  hcPcktMacs := fun position =>
    ⟨[2, 0, 0, 0, 0, UInt8.ofNat position], rfl⟩

/-- A packet of some EtherType, with zeros for its content. -/
def checkFrame (type : List UInt8) : Frame where
  mark := 7
  data := List.replicate 12 0 ++ type ++ List.replicate 20 0
  paged := List.replicate 20 0

/-- A health check is delivered to a real and unwrapped there. -/
theorem direct_checks_delivered_small :
    let sent (type : List UInt8) :=
      (healthchecker {} ⟨true, fun _ => 0⟩ directMaps (checkFrame type) {}).2.1.wire
    Unwraps (sent [8, 0]) (checkFrame [8, 0]).wire ∧
      ¬ Unwraps (sent [0x86, 0xdd]) (checkFrame [0x86, 0xdd]).wire := by
  intro sent
  have run : Run (KatranHc.Step .small)
      (.new (.new { maxReals := 2 } {} (.fresh [2, 0, 0, 0, 0, 1] fun _ => true)) true true)
      [.addHealthcheckerDst 7 "10.0.0.1"] directlyChecking :=
    .cons ⟨.plain 0, rfl⟩ (.nil directlyChecking)
  have known : directlyChecking.hcReals.lookup 7 = some (.v4 0x0100000a) := by decide +kernel
  have marked (type : List UInt8) : (checkFrame type).mark ≠ 0 := by
    change (7 : UInt32) ≠ 0
    decide
  have delivered (type : List UInt8) (kept : (healthchecker {} ⟨true, fun _ => 0⟩ directMaps
      (checkFrame type) {}).1 ≠ .shot) :=
    ((direct_checks_delivered rfl run rfl (marked type) {}
      ⟨true, fun _ => 0⟩ {}).2 _ known).2 kept
  constructor
  · exact ((delivered [8, 0] (by decide +kernel)).2 rfl (by decide +kernel)).mpr
      (by decide +kernel)
  · exact fun unwraps => ((delivered [0x86, 0xdd] (by decide +kernel)).2 rfl
      (by decide +kernel)).mp unwraps (by decide +kernel)

end DirectHc

end Katran
