import Katran.Bpf.Parsing

/-! # Adding and removing headers

A packet for a real is wrapped in an IP header, or an IP and a UDP header, in front
of its own network header; the Ethernet header moves to the new front. The bytes in
front of a packet are whatever the headroom has, and header fields that are not
written keep them.
-/

namespace Katran

/-- Write a new Ethernet header: from the address the packet was sent to, to the
default router. -/
def writeEth (mac : List UInt8) (data : List UInt8) (oldEth : Nat) (ethProto : UInt16) :
    List UInt8 :=
  let data := Bytes.write data 0 (mac.take 6)
  let data := Bytes.copy data 6 oldEth 6
  Bytes.write16 data 12 ethProto

/-- `create_v4_hdr`; the identification is not written. -/
def createV4Hdr (cfg : BpfConfig) (data : List UInt8) (iph : Nat) (tos : UInt8)
    (saddr daddr : UInt32) (pktBytes : UInt16) (proto : UInt8) : List UInt8 :=
  let data := Bytes.write8 data iph 0x45
  let data := Bytes.write16 data (iph + 6) 0
  let data := Bytes.write8 data (iph + 9) proto
  let data := Bytes.write16 data (iph + 10) 0
  let data := Bytes.write8 data (iph + 1) tos
  let data := Bytes.write16 data (iph + 2) (Bytes.htons (pktBytes + 20))
  let data := Bytes.write32 data (iph + 16) daddr
  let data := Bytes.write32 data (iph + 12) saddr
  let data := Bytes.write8 data (iph + 8) cfg.defaultTtl
  Bytes.write16 data (iph + 10) (ipv4CsumInline data iph)

/-- `create_v6_hdr` -/
def createV6Hdr (cfg : BpfConfig) (data : List UInt8) (ip6h : Nat) (tc : UInt8)
    (saddr daddr : Be32x4) (payloadLen : UInt16) (proto : UInt8) : List UInt8 :=
  let priority : UInt8 := (tc &&& 0xf0) >>> (4 : UInt8)
  let flowLbl0 : UInt8 := (tc &&& 0x0f) <<< (4 : UInt8)
  let data := Bytes.write data ip6h [0x60 ||| priority, flowLbl0, 0, 0]
  let data := Bytes.write8 data (ip6h + 6) proto
  let data := Bytes.write16 data (ip6h + 4) (Bytes.htons payloadLen)
  let data := Bytes.write8 data (ip6h + 7) cfg.defaultTtl
  let data := Bytes.write128 data (ip6h + 8) saddr
  Bytes.write128 data (ip6h + 24) daddr

/-- `create_udp_hdr` with the checksum `GUE_CSUM`. -/
def createUdpHdr (data : List UInt8) (udph : Nat) (sport dport len : UInt16) : List UInt8 :=
  let data := Bytes.write16 data udph sport
  let data := Bytes.write16 data (udph + 2) (Bytes.htons dport)
  let data := Bytes.write16 data (udph + 4) (Bytes.htons len)
  Bytes.write16 data (udph + 6) 0

/-- Make room for outer headers of a size; the old Ethernet header has to be there. -/
def makeRoom (xdp : XdpMd) (size : Nat) : Option XdpMd :=
  (xdp.growHead size).bind fun xdp => if size + 14 > xdp.data.length then none else some xdp

/-! ## IP in IP -/

/-- `encap_v6`: an IPv6 header in front of the packet, with a source made from the flow. -/
def encapV6 (cfg : BpfConfig) (mac : List UInt8) (isIpv6 : Bool) (pckt : PacketDescription)
    (dst : RealDefinition) (pktBytes : UInt16) (xdp : XdpMd) : Option XdpMd :=
  (makeRoom xdp 40).map fun xdp =>
    let data := writeEth mac xdp.data 40 beEthPIpv6
    let flow := pckt.flow
    let (proto, ipSuffix, payloadLen) :=
      if isIpv6 then (ipprotoIpv6, flow.srcv6.w3 ^^^ flow.srcPort.toUInt32, pktBytes + 40)
      else (ipprotoIpip, flow.srcv6.w0 ^^^ flow.srcPort.toUInt32, pktBytes)
    let saddr : Be32x4 := ⟨cfg.ipipV6Prefix1, cfg.ipipV6Prefix2, cfg.ipipV6Prefix3, ipSuffix⟩
    { xdp with data := createV6Hdr cfg data 14 pckt.tos saddr dst.dstv6 payloadLen proto }

/-- `encap_v4`: an IPv4 header in front of the packet, with a source made from the flow. -/
def encapV4 (cfg : BpfConfig) (mac : List UInt8) (pckt : PacketDescription) (dst : RealDefinition)
    (pktBytes : UInt16) (xdp : XdpMd) : Option XdpMd :=
  let ipSuffix :=
    ((Bytes.htons pckt.flow.srcPort).toUInt32 <<< (16 : UInt32)) ^^^ pckt.flow.srcv6.w0
  (makeRoom xdp 20).map fun xdp =>
    let data := writeEth mac xdp.data 20 beEthPIp
    let saddr := ((0xffff0000 : UInt32) &&& ipSuffix) ||| cfg.ipipV4Prefix
    { xdp with data := createV4Hdr cfg data 14 pckt.tos saddr dst.dstv6.w0 pktBytes ipprotoIpip }

/-! ## Generic UDP encapsulation -/

/-- `V4_SRC_INDEX` -/
def v4SrcIndex : Nat := 0
/-- `V6_SRC_INDEX` -/
def v6SrcIndex : Nat := 1

/-- `gue_encap_v4`: an IPv4 and a UDP header, with the source of the balancer. -/
def gueEncapV4 (cfg : BpfConfig) (pcktSrcs : Nat → RealDefinition) (mac : List UInt8)
    (pckt : PacketDescription) (dst : RealDefinition) (pktBytes : UInt16) (xdp : XdpMd) :
    Option XdpMd :=
  let sport := Bytes.htons pckt.flow.srcPort ^^^ (pckt.flow.srcv6.w0 >>> (16 : UInt32)).toUInt16
  (makeRoom xdp 28).map fun xdp =>
    let data := writeEth mac xdp.data 28 beEthPIp
    let data := createUdpHdr data 34 sport cfg.gueDport (pktBytes + 8)
    let saddr := (pcktSrcs v4SrcIndex).dstv6.w0
    let data := createV4Hdr cfg data 14 pckt.tos saddr dst.dstv6.w0 (pktBytes + 8) ipprotoUdp
    { xdp with data := data }

/-- `gue_encap_v6`: an IPv6 and a UDP header, with the source of the balancer. -/
def gueEncapV6 (cfg : BpfConfig) (pcktSrcs : Nat → RealDefinition) (mac : List UInt8)
    (isIpv6 : Bool) (pckt : PacketDescription) (dst : RealDefinition) (pktBytes : UInt16)
    (xdp : XdpMd) : Option XdpMd :=
  (makeRoom xdp 48).map fun xdp =>
    let data := writeEth mac xdp.data 48 beEthPIpv6
    let flow := pckt.flow
    let (sport, length) :=
      if isIpv6 then (flow.srcv6.w3.toUInt16 ^^^ flow.srcPort, pktBytes + 48)
      else ((flow.srcv6.w0 >>> (16 : UInt32)).toUInt16 ^^^ flow.srcPort, pktBytes + 8)
    let data := createUdpHdr data 54 sport cfg.gueDport length
    let saddr := (pcktSrcs v6SrcIndex).dstv6
    { xdp with data := createV6Hdr cfg data 14 pckt.tos saddr dst.dstv6 length ipprotoUdp }

/-- `PCKT_ENCAP_V4` or `PCKT_ENCAP_V6`, according to the real. -/
def pcktEncap (cfg : BpfConfig) (maps : ConfigMaps) (isIpv6 : Bool) (pckt : PacketDescription)
    (dst : RealDefinition) (pktBytes : UInt16) (xdp : XdpMd) : Option XdpMd :=
  if dst.isIpv6 then
    if cfg.gueEncap then gueEncapV6 cfg maps.pcktSrcs maps.ctlMac isIpv6 pckt dst pktBytes xdp
    else encapV6 cfg maps.ctlMac isIpv6 pckt dst pktBytes xdp
  else
    if cfg.gueEncap then gueEncapV4 cfg maps.pcktSrcs maps.ctlMac pckt dst pktBytes xdp
    else encapV4 cfg maps.ctlMac pckt dst pktBytes xdp

/-! ## Decapsulation -/

/-- Move the Ethernet header over outer headers of a size and drop them. -/
def decap (xdp : XdpMd) (size : Nat) (ethProto : UInt16) : Option XdpMd :=
  let data := Bytes.copy xdp.data (size + 6) 6 6
  let data := Bytes.copy data size 0 6
  let data := Bytes.write16 data (size + 12) ethProto
  { xdp with data := data }.shrinkHead size

/-- `decap_v6`: the EtherType becomes that of the packet inside. -/
def decapV6 (xdp : XdpMd) (innerV4 : Bool) : Option XdpMd :=
  decap xdp 40 (if innerV4 then beEthPIp else beEthPIpv6)

/-- `decap_v4`: the EtherType is taken for that of IPv4. -/
def decapV4 (xdp : XdpMd) : Option XdpMd := decap xdp 20 beEthPIp

/-- `gue_decap_v6`: the same with a UDP header. -/
def gueDecapV6 (xdp : XdpMd) (innerV4 : Bool) : Option XdpMd :=
  decap xdp 48 (if innerV4 then beEthPIp else beEthPIpv6)

/-- `gue_decap_v4`: the same with a UDP header. -/
def gueDecapV4 (xdp : XdpMd) : Option XdpMd := decap xdp 28 beEthPIp

/-- `decrement_ttl`: whether the packet may go on, and its bytes. -/
def decrementTtl (data : List UInt8) (offset : Nat) (isIpv6 : Bool) : Bool × List UInt8 :=
  if isIpv6 then
    if offset + 40 > data.length then (false, data)
    else
      let hopLimit := Bytes.read8 data (offset + 7) - 1
      (hopLimit ≠ 0, Bytes.write8 data (offset + 7) hopLimit)
  else
    if offset + 20 > data.length then (false, data)
    else
      let ttl := Bytes.read8 data (offset + 8) - 1
      let data := Bytes.write8 data (offset + 8) ttl
      if ttl = 0 then (false, data)
      else
        let csum : UInt32 := (Bytes.read16 data (offset + 10)).toUInt32 + 1
        let check : UInt32 := (csum &&& 0xffff) + (csum >>> (16 : UInt32))
        (true, Bytes.write16 data (offset + 10) check.toUInt16)

/-- How a tunnel packet ends: dropped, passed to the kernel, or processed again. -/
def finishDecap (ttlLeft : Bool) (pass : Bool) (xdp : XdpMd) : Verdict × XdpMd :=
  if ¬ ttlLeft then (.drop, xdp)
  else if pass then (.pass, xdp)
  else (.recirculate, xdp)

/-- Decrement the inner packet's time to live and drop the outer headers. -/
def decapTunnel (xdp : XdpMd) (offset : Nat) (innerIpv6 pass : Bool)
    (decap : XdpMd → Option XdpMd) : Verdict × XdpMd :=
  let (ttlLeft, data) := decrementTtl xdp.data offset innerIpv6
  match decap { xdp with data := data } with
  | none => (.drop, xdp)
  | some xdp => finishDecap ttlLeft pass xdp

/-- `process_encaped_ipip_pckt`: the outer header is removed by the families. -/
def processEncapedIpipPckt (xdp : XdpMd) (isIpv6 : Bool) (protocol : UInt8) (pass : Bool) :
    Verdict × XdpMd :=
  if protocol = ipprotoIpip then
    if isIpv6 then
      if 54 > xdp.data.length then (.drop, xdp)
      else decapTunnel xdp 54 false pass (decapV6 · true)
    else
      if 34 > xdp.data.length then (.drop, xdp)
      else decapTunnel xdp 34 false pass decapV4
  else
    -- the outer header is taken for an IPv6 header whatever the packet's family is
    if 54 > xdp.data.length then (.drop, xdp)
    else decapTunnel xdp 54 true pass (decapV6 · false)

/-- `process_encaped_gue_pckt`: the family is read from the first byte behind the UDP header. -/
def processEncapedGuePckt (xdp : XdpMd) (isIpv6 pass : Bool) : Verdict × XdpMd :=
  if isIpv6 then
    if 62 + 1 > xdp.data.length then (.drop, xdp)
    else if Bytes.read8 xdp.data 62 &&& guev1Ipv6mask ≠ 0 then
      decapTunnel xdp 62 true pass (gueDecapV6 · false)
    else decapTunnel xdp 62 false pass (gueDecapV6 · true)
  else
    if 42 > xdp.data.length then (.drop, xdp)
    else decapTunnel xdp 42 false pass gueDecapV4

/-! ## ICMP errors for packets that are too big -/

/-- `ICMP_FRAG_NEEDED` -/
def icmpFragNeeded : UInt8 := 4

/-- `swap_mac`: an Ethernet header back to the sender. -/
def swapMac (data : List UInt8) (origEth : Nat) : List UInt8 :=
  let data := Bytes.copy data 6 origEth 6
  let data := Bytes.copy data 0 (origEth + 6) 6
  Bytes.copy data 12 (origEth + 12) 2

/-- `send_icmp4_too_big`; half of the word before the MTU, and the identification and
fragment offset of the IP header, are not written. -/
def sendIcmp4TooBig (cfg : BpfConfig) (csumDiff : CsumDiff) (xdp : XdpMd) : Verdict × XdpMd :=
  match xdp.growHead 28 with
  | none => (.drop, xdp)
  | some xdp =>
      if icmpToobigSize + 28 > xdp.data.length then (.drop, xdp)
      else
        let data := swapMac xdp.data 28
        let data := Bytes.write8 data 34 icmpDestUnreach
        let data := Bytes.write8 data 35 icmpFragNeeded
        let data := Bytes.write16 data 40 (Bytes.htons (cfg.maxPcktSize.toUInt16 - 14))
        let data := Bytes.write16 data 36 0
        let csum := ipv4Csum csumDiff ((data.drop 34).take icmpToobigPayloadSize)
        let data := Bytes.write16 data 36 csum
        let data := Bytes.write8 data 22 cfg.defaultTtl
        let data := Bytes.write32 data 30 (Bytes.read32 data 54)
        let data := Bytes.write32 data 26 (Bytes.read32 data 58)
        let data := Bytes.write8 data 14 0x45
        let data := Bytes.write8 data 23 ipprotoIcmp
        let data := Bytes.write8 data 15 0
        let data := Bytes.write16 data 16 (Bytes.htons (icmpToobigSize + 28 - 14).toUInt16)
        let data := Bytes.write16 data 24 0
        let csum := ipv4Csum csumDiff ((data.drop 14).take 20)
        (.tx, { xdp with data := Bytes.write16 data 24 csum })

/-- `send_icmp6_too_big` -/
def sendIcmp6TooBig (cfg : BpfConfig) (csumDiff : CsumDiff) (xdp : XdpMd) : Verdict × XdpMd :=
  match xdp.growHead 48 with
  | none => (.drop, xdp)
  | some xdp =>
      if icmp6ToobigSize + 48 > xdp.data.length then (.drop, xdp)
      else
        let data := swapMac xdp.data 48
        let data := Bytes.write8 data 14 0x60
        let data := Bytes.write8 data 20 ipprotoIcmpv6
        let data := Bytes.write8 data 21 cfg.defaultTtl
        let data := Bytes.write16 data 18 (Bytes.htons icmp6ToobigPayloadSize.toUInt16)
        let data := Bytes.write data 15 [0, 0, 0]
        let data := Bytes.write128 data 38 (Bytes.read128 data 70)
        let data := Bytes.write128 data 22 (Bytes.read128 data 86)
        let data := Bytes.write8 data 54 icmpv6PktToobig
        let data := Bytes.write8 data 55 0
        let data := Bytes.write32 data 58 (Bytes.bswap32 (cfg.maxPcktSize.toUInt32 - 14))
        let data := Bytes.write16 data 56 0
        let csum := ipv6Csum csumDiff ((data.drop 54).take icmp6ToobigPayloadSize)
          ((data.drop 22).take 16) ((data.drop 38).take 16) (Bytes.read8 data 20)
        (.tx, { xdp with data := Bytes.write16 data 56 csum })

/-- `send_icmp_too_big`: the packet is cut and sent back inside an error. -/
def sendIcmpTooBig (cfg : BpfConfig) (csumDiff : CsumDiff) (isIpv6 : Bool) (xdp : XdpMd) :
    Verdict × XdpMd :=
  let size := if isIpv6 then icmp6ToobigSize else icmpToobigSize
  match xdp.adjustTail (size - xdp.data.length) with
  | none => (.drop, xdp)
  | some xdp =>
      if isIpv6 then sendIcmp6TooBig cfg csumDiff xdp else sendIcmp4TooBig cfg csumDiff xdp

end Katran
