import Katran.Kernel.Maps

/-! # Constants and structures of the forwarding plane

The constants that can be set at compile time, and the optional features, are the
fields of `BpfConfig`. Fields of packets are kept as a little-endian host reads
them, so that ports and addresses are compared without conversion.
-/

namespace Katran

/-- What the program is compiled with. -/
structure BpfConfig where
  ringSize : Nat := 65537
  maxVips : Nat := 512
  maxReals : Nat := 4096
  maxSupportedCpus : Nat := 128
  lruUdpTimeout : UInt64 := 30000000000
  maxPcktSize : Nat := 1514
  maxConnRate : UInt64 := 125000
  defaultTtl : UInt8 := 64
  ipipV4Prefix : UInt32 := 4268
  ipipV6Prefix1 : UInt32 := 1
  ipipV6Prefix2 : UInt32 := 0
  ipipV6Prefix3 : UInt32 := 0
  gueDport : UInt16 := 6080
  quicMinConnidLen : UInt8 := 8
  quicConnidVersion : UInt8 := 1
  lpmSrcLookup : Bool := false
  inlineDecapIpip : Bool := false
  inlineDecapGue : Bool := false
  icmpToobigGeneration : Bool := false
  gueEncap : Bool := false
deriving DecidableEq, Repr

namespace BpfConfig

/-- `CH_RINGS_SIZE` -/
def chRingsSize (cfg : BpfConfig) : Nat := cfg.maxVips * cfg.ringSize

/-- `STATS_MAP_SIZE` -/
def statsMapSize (cfg : BpfConfig) : Nat := cfg.maxVips * 2

/-- `INIT_JHASH_SEED` -/
def initJhashSeed (cfg : BpfConfig) : UInt32 := cfg.chRingsSize.toUInt32

/-- `INIT_JHASH_SEED_V6` -/
def initJhashSeedV6 (cfg : BpfConfig) : UInt32 := cfg.maxVips.toUInt32

end BpfConfig

/-- `BE_ETH_P_IP` -/
def beEthPIp : UInt16 := 8
/-- `BE_ETH_P_IPV6` -/
def beEthPIpv6 : UInt16 := 56710

/-- `GUEV1_IPV6MASK` -/
def guev1Ipv6mask : UInt8 := 0x30

/-- Mask of the more-fragments flag and the fragment offset, in network order. -/
def pcktFragmented : UInt16 := 65343

/-- `MAX_QUIC_REALS` -/
def maxQuicReals : Nat := 65535

/-- `ONE_SEC` -/
def oneSec : UInt64 := 1000000000

/-- `ICMP_TOOBIG_SIZE` -/
def icmpToobigSize : Nat := 98
/-- `ICMP6_TOOBIG_SIZE` -/
def icmp6ToobigSize : Nat := 262
/-- `ICMP_TOOBIG_PAYLOAD_SIZE` -/
def icmpToobigPayloadSize : Nat := icmpToobigSize - 6
/-- `ICMP6_TOOBIG_PAYLOAD_SIZE` -/
def icmp6ToobigPayloadSize : Nat := icmp6ToobigSize - 6

/-! ## Offsets of the counters -/

/-- `LRU_CNTRS` -/
def lruCntrs : Nat := 0
/-- `LRU_MISS_CNTR` -/
def lruMissCntr : Nat := 1
/-- `NEW_CONN_RATE_CNTR` -/
def newConnRateCntr : Nat := 2
/-- `FALLBACK_LRU_CNTR` -/
def fallbackLruCntr : Nat := 3
/-- `ICMP_TOOBIG_CNTRS` -/
def icmpToobigCntrs : Nat := 4
/-- `LPM_SRC_CNTRS` -/
def lpmSrcCntrs : Nat := 5
/-- `REMOTE_ENCAP_CNTRS` -/
def remoteEncapCntrs : Nat := 6
/-- `QUIC_ROUTE_STATS` -/
def quicRouteStats : Nat := 7

/-! ## Protocols -/

/-- `IPPROTO_ICMP` -/
def ipprotoIcmp : UInt8 := 1
/-- `IPPROTO_IPIP` -/
def ipprotoIpip : UInt8 := 4
/-- `IPPROTO_TCP` -/
def ipprotoTcp : UInt8 := 6
/-- `IPPROTO_UDP` -/
def ipprotoUdp : UInt8 := 17
/-- `IPPROTO_IPV6` -/
def ipprotoIpv6 : UInt8 := 41
/-- `IPPROTO_FRAGMENT` -/
def ipprotoFragment : UInt8 := 44
/-- `IPPROTO_ICMPV6` -/
def ipprotoIcmpv6 : UInt8 := 58

/-! ## Flags -/

namespace RealDefinition

/-- `F_IPV6`: the address is an IPv6 address. -/
def isIpv6 (real : RealDefinition) : Bool := real.flags &&& 1 != 0

end RealDefinition

namespace VipMeta

/-- `F_HASH_NO_SRC_PORT`: the client's port is not hashed. -/
def hashNoSrcPort (info : VipMeta) : Bool := info.flags &&& 1 != 0

/-- `F_LRU_BYPASS`: connections are neither looked up nor recorded. -/
def lruBypass (info : VipMeta) : Bool := info.flags &&& 2 != 0

/-- `F_QUIC_VIP`: the connection id chooses the real. -/
def quicVip (info : VipMeta) : Bool := info.flags &&& 4 != 0

/-- `F_HASH_DPORT_ONLY`: only the destination port is hashed. -/
def hashDportOnly (info : VipMeta) : Bool := info.flags &&& 8 != 0

/-- `F_SRC_ROUTING`: the source address may choose the real. -/
def srcRouting (info : VipMeta) : Bool := info.flags &&& 16 != 0

end VipMeta

/-! ## Structures -/

/-- `struct flow_key` -/
structure FlowKey where
  srcv6 : Be32x4 := .zero
  dstv6 : Be32x4 := .zero
  srcPort : UInt16 := 0
  dstPort : UInt16 := 0
  proto : UInt8 := 0
deriving DecidableEq, Repr

namespace FlowKey

/-- Both ports as one word. -/
def ports (flow : FlowKey) : UInt32 := flow.srcPort.toUInt32 ||| (flow.dstPort.toUInt32 <<< 16)

end FlowKey

/-- `struct packet_description` -/
structure PacketDescription where
  flow : FlowKey := {}
  realIndex : Nat := 0
  /-- `F_ICMP`: the description was made from an ICMP message. -/
  icmp : Bool := false
  /-- `F_SYN_SET`: the TCP packet has the SYN flag. -/
  synSet : Bool := false
  tos : UInt8 := 0
deriving DecidableEq, Repr

/-- `struct real_pos_lru` -/
structure RealPosLru where
  pos : Nat
  atime : UInt64
deriving DecidableEq, Repr

/-- `struct lb_stats` -/
structure LbStats where
  v1 : UInt64 := 0
  v2 : UInt64 := 0
deriving DecidableEq, Repr

/-- The result of the program. A packet that is recirculated is handed to the
program again. -/
inductive Verdict where
  | drop
  | pass
  | tx
  | recirculate
deriving DecidableEq, Repr

end Katran
