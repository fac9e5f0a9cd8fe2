import Katran.Bpf.Encap
import Katran.Bpf.Jhash
import Katran.Foundation.Tables
import Mathlib.Algebra.Group.Nat.Defs

/-! # The forwarding plane

`processPacket` parses a packet, finds its VIP, chooses a real through the QUIC
connection id, the connection table or the VIP's ring, and wraps the packet for the
real. It reads the maps of the control plane (`ConfigMaps`) and writes the
connection tables and counters (`FlowMaps`). What a packet cannot control is its
core and the clock (`PacketEnv`).

An entry of an array map exists if its key is below the size of the map; a missing
entry drops the packet.
-/

namespace Katran

open Foundation

/-- The maps that the forwarding plane writes. The connection tables are one for
each core and a fallback; counters are kept for each core. -/
structure FlowMaps where
  lru : Option Nat → FlowKey → Option RealPosLru
  stats : Nat → Nat → LbStats
  realsStats : Nat → Nat → LbStats

namespace FlowMaps

/-- The maps before the first packet. -/
def fresh : FlowMaps where
  lru := fun _ _ => none
  stats := fun _ _ => {}
  realsStats := fun _ _ => {}

/-- Writes an entry of a connection table. -/
def lruUpdate (flow : FlowMaps) (lruMap : Option Nat) (key : FlowKey) (entry : RealPosLru) :
    FlowMaps :=
  { flow with lru := store flow.lru lruMap key entry }

/-- An entry is evicted, because the table is full. -/
def lruEvict (flow : FlowMaps) (lruMap : Option Nat) (key : FlowKey) : FlowMaps :=
  { flow with lru := evict flow.lru lruMap key }

/-- Changes the counter of a core in `stats`. -/
def updateStats (flow : FlowMaps) (cpu key : Nat) (change : LbStats → LbStats) : FlowMaps :=
  { flow with
    stats := Function.update flow.stats cpu
      (Function.update (flow.stats cpu) key (change (flow.stats cpu key))) }

/-- Changes the counter of a core in `reals_stats`. -/
def updateRealsStats (flow : FlowMaps) (cpu key : Nat) (change : LbStats → LbStats) : FlowMaps :=
  { flow with
    realsStats := Function.update flow.realsStats cpu
      (Function.update (flow.realsStats cpu) key (change (flow.realsStats cpu key))) }

end FlowMaps

namespace LbStats

/-- Counts in `v1`. -/
def addV1 (stats : LbStats) : LbStats := { stats with v1 := stats.v1 + 1 }

/-- Counts in `v2`. -/
def addV2 (stats : LbStats) : LbStats := { stats with v2 := stats.v2 + 1 }

/-- One more packet of some bytes. -/
def addPacket (pktBytes : UInt16) (stats : LbStats) : LbStats :=
  { v1 := stats.v1 + 1, v2 := stats.v2 + pktBytes.toUInt64 }

end LbStats

/-- What a packet cannot control: the core, the clock when the connection table is
searched and, later, when the rate of connections is checked, and the helper that
sums bytes. -/
structure PacketEnv where
  cpu : Nat
  lookupTime : UInt64
  floodTime : UInt64
  csumDiff : CsumDiff

/-- A real for a packet. -/
structure Chosen where
  pckt : PacketDescription
  dst : RealDefinition
deriving DecidableEq, Repr

section Choice

variable (cfg : BpfConfig) (maps : ConfigMaps)

/-- Count in an entry of `stats`, which may be missing. -/
def countStats (cpu key : Nat) (change : LbStats → LbStats) (flow : FlowMaps) : Option FlowMaps :=
  if key < cfg.statsMapSize then some (flow.updateStats cpu key change) else none

/-- `is_under_flood`: whether there are too many new connections in this second. -/
def isUnderFlood (cpu : Nat) (curTime : UInt64) (flow : FlowMaps) : Bool × FlowMaps :=
  let key := cfg.maxVips + newConnRateCntr
  if key < cfg.statsMapSize then
    let stats := flow.stats cpu key
    if curTime - stats.v2 > oneSec then
      (false, flow.updateStats cpu key fun _ => { v1 := 1, v2 := curTime })
    else
      (stats.v1 + 1 > cfg.maxConnRate, flow.updateStats cpu key LbStats.addV1)
  else (true, flow)

/-- The real of the longest prefix of the source address. -/
def lpmSrcLookup (isIpv6 : Bool) (flow : FlowKey) : Option Nat :=
  if isIpv6 then LpmTrie.lookup maps.lpmSrcV6 flow.srcv6.bits
  else LpmTrie.lookup maps.lpmSrcV4 (wordBits flow.srcv6.w0)

/-- The part of `get_packet_dst` that routes by source. -/
def srcRoute (cpu : Nat) (isIpv6 underFlood : Bool) (info : VipMeta) (pckt : PacketDescription)
    (flow : FlowMaps) : Option Nat × FlowMaps :=
  if cfg.lpmSrcLookup ∧ info.srcRouting ∧ ¬ underFlood then
    let found := lpmSrcLookup maps isIpv6 pckt.flow
    let count := if found.isSome then LbStats.addV2 else LbStats.addV1
    (found, (countStats cfg cpu (cfg.maxVips + lpmSrcCntrs) count flow).getD flow)
  else (none, flow)

/-- The flow whose hash picks the slot of the ring. -/
def hashedFlow (info : VipMeta) (flow : FlowKey) : FlowKey :=
  if info.hashDportOnly then { flow with srcPort := flow.dstPort, srcv6 := .zero } else flow

/-- The key of the slot of the ring. -/
def ringKey (isIpv6 : Bool) (info : VipMeta) (flow : FlowKey) : Nat :=
  (cfg.ringSize * info.vipNum + (getPacketHash cfg flow isIpv6).toNat % cfg.ringSize) % 2 ^ 32

/-- The real of a ring's slot, which may be missing. -/
def chRingsLookup (key : Nat) : Option Nat :=
  if key < cfg.chRingsSize then some (maps.chRings key) else none

/-- The real of an index, which may be missing. -/
def realsLookup (key : Nat) : Option RealDefinition :=
  if key < cfg.maxReals then some (maps.reals key) else none

/-- The end of `get_packet_dst`: the real of an index is looked up and the connection
recorded. -/
def recordDst (lruMap : Option Nat) (curTime : UInt64) (underFlood : Bool) (info : VipMeta)
    (pckt : PacketDescription) (key : Nat) (flow : FlowMaps) : Option Chosen × FlowMaps :=
  match realsLookup cfg maps key with
  | none => (none, flow)
  | some dst =>
      let atime := if pckt.flow.proto = ipprotoUdp then curTime else 0
      (some { pckt := { pckt with realIndex := key }, dst := dst },
        if ¬ info.lruBypass ∧ ¬ underFlood then
          flow.lruUpdate lruMap pckt.flow { pos := key, atime := atime }
        else flow)

/-- `get_packet_dst`. A VIP that hashes the destination port only changes the flow
before the connection is recorded under it. -/
def getPacketDst (env : PacketEnv) (isIpv6 : Bool) (lruMap : Option Nat) (info : VipMeta)
    (pckt : PacketDescription) (flow : FlowMaps) : Option Chosen × FlowMaps :=
  let (underFlood, flow) := isUnderFlood cfg env.cpu env.floodTime flow
  let (srcFound, flow) := srcRoute cfg maps env.cpu isIpv6 underFlood info pckt flow
  match srcFound with
  | some key => recordDst cfg maps lruMap env.floodTime underFlood info pckt key flow
  | none =>
      let pckt := { pckt with flow := hashedFlow info pckt.flow }
      match chRingsLookup cfg maps (ringKey cfg isIpv6 info pckt.flow) with
      | none => (none, flow)
      | some key => recordDst cfg maps lruMap env.floodTime underFlood info pckt key flow

/-- Whether the entry of a connection has timed out. -/
def lruExpired (curTime : UInt64) (proto : UInt8) (entry : RealPosLru) : Bool :=
  proto = ipprotoUdp ∧ curTime - entry.atime > cfg.lruUdpTimeout

/-- `connection_table_lookup` -/
def connectionTableLookup (curTime : UInt64) (lruMap : Option Nat) (pckt : PacketDescription)
    (flow : FlowMaps) : Option Chosen × FlowMaps :=
  match flow.lru lruMap pckt.flow with
  | none => (none, flow)
  | some entry =>
      if lruExpired cfg curTime pckt.flow.proto entry then (none, flow)
      else
        ((realsLookup cfg maps entry.pos).map fun dst =>
            { pckt := { pckt with realIndex := entry.pos }, dst := dst },
          if pckt.flow.proto = ipprotoUdp then
            flow.lruUpdate lruMap pckt.flow { entry with atime := curTime }
          else flow)

/-- The part of `process_packet` that routes by QUIC connection id: the packet is
dropped, or goes to a real, or goes on. -/
def quicDst (cpu : Nat) (isIpv6 : Bool) (data : List UInt8) (pckt : PacketDescription)
    (flow : FlowMaps) : Option (Option Chosen) × FlowMaps :=
  let statsKey := cfg.maxVips + quicRouteStats
  if statsKey < cfg.statsMapSize then
    match parseQuic cfg data isIpv6 pckt with
    | some (index + 1) =>
        if index + 1 < maxQuicReals then
          let key := maps.quicMapping (index + 1)
          match realsLookup cfg maps key with
          | none => (none, flow)
          | some dst =>
              (some (some { pckt := { pckt with realIndex := key }, dst := dst }),
                flow.updateStats cpu statsKey LbStats.addV2)
        else (some none, flow.updateStats cpu statsKey LbStats.addV1)
    | _ => (some none, flow.updateStats cpu statsKey LbStats.addV1)
  else (none, flow)

/-- The connection table of a core. -/
def lruMapOf (cpu : Nat) : Option Nat :=
  if cpu < cfg.maxSupportedCpus ∧ maps.lruMapsMapping cpu then some cpu else none

/-- Using the fallback is counted. -/
def countFallback (cpu : Nat) (flow : FlowMaps) : Option FlowMaps :=
  if lruMapOf cfg maps cpu = none then
    countStats cfg cpu (cfg.maxVips + fallbackLruCntr) LbStats.addV1 flow
  else some flow

/-- TCP packets without an entry are counted. -/
def countMiss (cpu : Nat) (pckt : PacketDescription) (flow : FlowMaps) : Option FlowMaps :=
  if pckt.flow.proto = ipprotoTcp then
    countStats cfg cpu (cfg.maxVips + lruMissCntr)
      (if pckt.synSet then LbStats.addV1 else LbStats.addV2) flow
  else some flow

/-- The description with which the connection table is searched. -/
def lruPckt (info : VipMeta) (pckt : PacketDescription) : PacketDescription :=
  if info.hashNoSrcPort then { pckt with flow := { pckt.flow with srcPort := 0 } } else pckt

/-- The connection table is searched, unless a connection starts or the VIP does not
use it. -/
def lookupDst (env : PacketEnv) (lruMap : Option Nat) (info : VipMeta) (pckt : PacketDescription)
    (flow : FlowMaps) : Option Chosen × FlowMaps :=
  if ¬ pckt.synSet ∧ ¬ info.lruBypass then
    connectionTableLookup cfg maps env.lookupTime lruMap pckt flow
  else (none, flow)

/-- The part of `process_packet` for a packet without an entry. -/
def missDst (env : PacketEnv) (isIpv6 : Bool) (lruMap : Option Nat) (info : VipMeta)
    (pckt : PacketDescription) (flow : FlowMaps) : Option Chosen × FlowMaps :=
  match countMiss cfg env.cpu pckt flow with
  | none => (none, flow)
  | some flow =>
      match getPacketDst cfg maps env isIpv6 lruMap info pckt flow with
      | (none, flow) => (none, flow)
      | (some chosen, flow) =>
          (some chosen, flow.updateStats env.cpu (cfg.maxVips + lruCntrs) LbStats.addV2)

/-- The part of `process_packet` that chooses a real through the connection table or
the ring. -/
def lruDst (env : PacketEnv) (isIpv6 : Bool) (info : VipMeta) (pckt : PacketDescription)
    (flow : FlowMaps) : Option Chosen × FlowMaps :=
  let pckt := lruPckt info pckt
  let lruMap := lruMapOf cfg maps env.cpu
  match countFallback cfg maps env.cpu flow with
  | none => (none, flow)
  | some flow =>
      match lookupDst cfg maps env lruMap info pckt flow with
      | (some chosen, flow) => (some chosen, flow)
      | (none, flow) => missDst cfg maps env isIpv6 lruMap info pckt flow

/-- The part of `process_packet` that chooses a real. -/
def chooseDst (env : PacketEnv) (isIpv6 : Bool) (data : List UInt8) (info : VipMeta)
    (pckt : PacketDescription) (flow : FlowMaps) : Option Chosen × FlowMaps :=
  match countStats cfg env.cpu (cfg.maxVips + lruCntrs) LbStats.addV1 flow with
  | none => (none, flow)
  | some flow =>
      if info.quicVip then
        match quicDst cfg maps env.cpu isIpv6 data pckt flow with
        | (none, flow) => (none, flow)
        | (some (some chosen), flow) => (some chosen, flow)
        | (some none, flow) => lruDst cfg maps env isIpv6 info pckt flow
      else lruDst cfg maps env isIpv6 info pckt flow

end Choice

/-! ## Processing a packet -/

/-- Where a packet was sent: the VIP it was found to be for, its description when it
was sent, and the real. -/
structure Sent where
  vip : VipDefinition
  info : VipMeta
  pckt : PacketDescription
  dst : RealDefinition
deriving DecidableEq, Repr

/-- What becomes of a packet. A packet may also be transmitted without having been
sent to a real, as the answer to an ICMP echo or as an ICMP error. -/
structure Outcome where
  verdict : Verdict
  xdp : XdpMd
  flow : FlowMaps
  sent : Option Sent

/-- A packet whose fate is decided, or one with a description. -/
inductive Parsed where
  | final (verdict : Verdict) (xdp : XdpMd) (flow : FlowMaps)
  | described (pckt : PacketDescription) (pktBytes : UInt16)

section Process

variable (cfg : BpfConfig) (maps : ConfigMaps)

/-- The key of a destination among those of tunnels that end here or of VIPs. -/
def dstAddress (isIpv6 : Bool) (flow : FlowKey) : Be32x4 :=
  if isIpv6 then flow.dstv6 else .ofV4 flow.dstv6.w0

/-- `check_decap_dst`: whether the packet is passed on after decapsulation. -/
def checkDecapDst (cpu : Nat) (isIpv6 : Bool) (pckt : PacketDescription) (flow : FlowMaps) :
    Option Bool × FlowMaps :=
  if maps.decapDst (dstAddress isIpv6 pckt.flow) then
    match countStats cfg cpu (cfg.maxVips + remoteEncapCntrs) LbStats.addV1 flow with
    | none => (none, flow)
    | some flow => (some false, flow)
  else (some true, flow)

/-- A tunnel packet ends here. -/
def processTunnel (cpu : Nat) (isIpv6 : Bool) (pckt : PacketDescription)
    (decap : (pass : Bool) → Verdict × XdpMd) (xdp : XdpMd) (flow : FlowMaps) : Parsed :=
  match checkDecapDst cfg maps cpu isIpv6 pckt flow with
  | (none, flow) => .final .drop xdp flow
  | (some pass, flow) =>
      let result := decap pass
      .final result.1 result.2 flow

/-- The part of `process_packet` up to the lookup of the VIP. -/
def parsePacket (cpu : Nat) (isIpv6 : Bool) (xdp : XdpMd) (flow : FlowMaps) : Parsed :=
  match processL3Headers cfg xdp.data 14 isIpv6 with
  | .done verdict data => .final verdict { xdp with data := data } flow
  | .further (pckt, pktBytes) =>
      let protocol := pckt.flow.proto
      if cfg.inlineDecapIpip ∧ (protocol = ipprotoIpip ∨ protocol = ipprotoIpv6) then
        processTunnel cfg maps cpu isIpv6 pckt (processEncapedIpipPckt xdp isIpv6 protocol) xdp flow
      else if protocol = ipprotoTcp then
        match parseTcp xdp.data isIpv6 pckt with
        | none => .final .drop xdp flow
        | some pckt => .described pckt pktBytes
      else if protocol = ipprotoUdp then
        match parseUdp xdp.data isIpv6 pckt with
        | none => .final .drop xdp flow
        | some pckt =>
            if cfg.inlineDecapGue ∧ pckt.flow.dstPort = Bytes.htons cfg.gueDport then
              processTunnel cfg maps cpu isIpv6 pckt (processEncapedGuePckt xdp isIpv6) xdp flow
            else .described pckt pktBytes
      else .final .pass xdp flow

/-- The VIP of a packet, and the packet's description after a lookup without port. -/
def lookupVip (isIpv6 : Bool) (pckt : PacketDescription) :
    Option (VipDefinition × VipMeta × PacketDescription) :=
  let vip : VipDefinition :=
    { vipv6 := dstAddress isIpv6 pckt.flow, port := pckt.flow.dstPort, proto := pckt.flow.proto }
  match maps.vipMap vip with
  | some info => some (vip, info, pckt)
  | none =>
      let vip := { vip with port := 0 }
      match maps.vipMap vip with
      | none => none
      | some info =>
          some (vip, info, if info.hashDportOnly then pckt
            else { pckt with flow := { pckt.flow with dstPort := 0 } })

/-- A packet that is too big is dropped, or answered. -/
def processTooBig (env : PacketEnv) (isIpv6 : Bool) (xdp : XdpMd) (flow : FlowMaps) : Outcome :=
  if cfg.icmpToobigGeneration then
    match countStats cfg env.cpu (cfg.maxVips + icmpToobigCntrs)
        (if isIpv6 then LbStats.addV2 else LbStats.addV1) flow with
    | none => ⟨.drop, xdp, flow, none⟩
    | some flow =>
        let result := sendIcmpTooBig cfg env.csumDiff isIpv6 xdp
        ⟨result.1, result.2, flow, none⟩
  else ⟨.drop, xdp, flow, none⟩

/-- The end of `process_packet`: the packet is wrapped for its real and counted. -/
def sendToReal (cpu : Nat) (isIpv6 : Bool) (vip : VipDefinition) (info : VipMeta)
    (pktBytes : UInt16) (chosen : Chosen) (xdp : XdpMd) (flow : FlowMaps) : Outcome :=
  match pcktEncap cfg maps isIpv6 chosen.pckt chosen.dst pktBytes xdp with
  | none => ⟨.drop, xdp, flow, none⟩
  | some xdp =>
      match countStats cfg cpu info.vipNum (LbStats.addPacket pktBytes) flow with
      | none => ⟨.drop, xdp, flow, none⟩
      | some flow =>
          if chosen.pckt.realIndex < cfg.maxReals then
            ⟨.tx, xdp, flow.updateRealsStats cpu chosen.pckt.realIndex (LbStats.addPacket pktBytes),
              some ⟨vip, info, chosen.pckt, chosen.dst⟩⟩
          else ⟨.drop, xdp, flow, none⟩

/-- The part of `process_packet` for a packet with a description. -/
def balancePacket (env : PacketEnv) (isIpv6 : Bool) (pckt : PacketDescription) (pktBytes : UInt16)
    (xdp : XdpMd) (flow : FlowMaps) : Outcome :=
  match lookupVip maps isIpv6 pckt with
  | none => ⟨.pass, xdp, flow, none⟩
  | some (vip, info, pckt) =>
      if xdp.data.length > cfg.maxPcktSize then processTooBig cfg env isIpv6 xdp flow
      else
        match chooseDst cfg maps env isIpv6 xdp.data info pckt flow with
        | (none, flow) => ⟨.drop, xdp, flow, none⟩
        | (some chosen, flow) =>
            sendToReal cfg maps env.cpu isIpv6 vip info pktBytes chosen xdp flow

/-- A packet is parsed, and balanced if it gets that far. -/
def processPacket (env : PacketEnv) (isIpv6 : Bool) (xdp : XdpMd) (flow : FlowMaps) : Outcome :=
  match parsePacket cfg maps env.cpu isIpv6 xdp flow with
  | .final verdict xdp flow => ⟨verdict, xdp, flow, none⟩
  | .described pckt pktBytes => balancePacket cfg maps env isIpv6 pckt pktBytes xdp flow

/-- The program; a packet may be handed to it again a number of times. -/
def balancerIngress (env : PacketEnv) : (tailCalls : Nat) → XdpMd → FlowMaps → Outcome
  | tailCalls, xdp, flow =>
      if 14 > xdp.data.length then ⟨.drop, xdp, flow, none⟩
      else
        let ethProto := Bytes.read16 xdp.data 12
        if ethProto = beEthPIp ∨ ethProto = beEthPIpv6 then
          let outcome := processPacket cfg maps env (ethProto = beEthPIpv6) xdp flow
          match outcome.verdict, tailCalls with
          | .recirculate, tailCalls + 1 => balancerIngress env tailCalls outcome.xdp outcome.flow
          | .recirculate, 0 => { outcome with verdict := .pass }
          | _, _ => outcome
        else ⟨.pass, xdp, flow, none⟩

end Process

end Katran
