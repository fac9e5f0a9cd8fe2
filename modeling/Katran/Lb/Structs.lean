import Katran.Foundation.Assoc
import Katran.Foundation.RefPool
import Katran.Kernel.Maps
import Katran.Ring.Vip

/-! # Data of the control plane

The address library is a parameter (`Folly`): which strings are addresses or
networks, and the hash of an address. Its addresses compare equal if an IPv6
address is the mapped form of an IPv4 address, and hash maps keyed by an address
use that comparison; `IPAddress.key` is the representative of an address under
it.
-/

namespace Katran

open Foundation

/-- An address, in memory order. The empty address is `none` where it occurs. -/
inductive IPAddress where
  | v4 (addr : UInt32)
  | v6 (addr : Be32x4)
deriving DecidableEq, Repr

namespace IPAddress

/-- Whether an address is one of IPv4. -/
def isV4 : IPAddress → Bool
  | v4 _ => true
  | v6 _ => false

/-- Addresses are equal as keys of a hash map if these are. -/
def key : IPAddress → IPAddress
  | v4 addr => v4 addr
  | v6 addr => if addr.w0 = 0 ∧ addr.w1 = 0 ∧ addr.w2 = 0xffff0000 then v4 addr.w3 else v6 addr

end IPAddress

/-- An address and a prefix length. -/
structure CIDRNetwork where
  address : IPAddress
  prefixLength : UInt8
deriving DecidableEq, Repr

/-- Networks are equal as keys of a hash map if these are. -/
def CIDRNetwork.key (network : CIDRNetwork) : CIDRNetwork :=
  { network with address := network.address.key }

/-- The address library. -/
structure Folly where
  parse : String → Option IPAddress
  hash : IPAddress → UInt64
  tryCreateNetwork : String → Option CIDRNetwork

/-- The library restricted to a few addresses, for concrete runs. -/
def Folly.small : Folly where
  parse := fun text =>
    if text = "10.0.0.1" then some (.v4 0x0100000a)
    else if text = "10.0.0.2" then some (.v4 0x0200000a)
    else if text = "10.0.0.3" then some (.v4 0x0300000a)
    else if text = "10.0.0.4" then some (.v4 0x0400000a)
    else if text = "10.200.1.1" then some (.v4 0x0101c80a)
    else if text = "10.200.1.2" then some (.v4 0x0201c80a)
    else none
  hash := fun
    | .v4 addr => addr.toUInt64
    | .v6 addr => addr.w3.toUInt64
  tryCreateNetwork := fun text =>
    if text = "10.0.0.0/24" then some ⟨.v4 0x0000000a, 24⟩ else none

/-- Meta information about a real: its number and its reference count. -/
abbrev RealMeta := RefPool.Slot

/-- A real with its weight, as it is added to a VIP. -/
structure NewReal where
  address : String
  weight : UInt32
deriving DecidableEq, Repr

/-- A real with the id that is to be routed to it. -/
structure QuicReal where
  address : String
  id : UInt32
deriving DecidableEq, Repr

/-- What an address turns out to be. -/
inductive AddressType where
  | invalid
  | host
  | network
deriving DecidableEq, Repr

/-- A VIP as the caller names it. -/
structure VipKey where
  address : String
  port : UInt16
  proto : UInt8
deriving DecidableEq, Repr

/-- The parts of `KatranConfig` that the calls read, with its defaults. -/
structure KatranConfig where
  disableForwarding : Bool := false
  maxVips : UInt32 := 512
  maxReals : UInt32 := 4096
  chRingSize : UInt32 := 65537
  testing : Bool := false
  maxLpmSrcSize : UInt32 := 3000000
deriving DecidableEq, Repr

/-- The parts of `KatranFeatures` that the calls read. -/
structure KatranFeatures where
  srcRouting : Bool := false
deriving DecidableEq, Repr

/-- The parts of `KatranLbStats` that the calls count. -/
structure KatranLbStats where
  bpfFailedCalls : Nat := 0
  addrValidationFailed : Nat := 0
deriving DecidableEq, Repr

/-- A source routing rule: the network as it was first given, and its real. -/
structure SrcRule where
  src : CIDRNetwork
  rnum : Nat
deriving DecidableEq, Repr

/-- The largest connection id that is accepted. -/
def kMaxQuicId : UInt32 := 65535

/-- A 16-bit number in network byte order, on a little-endian host. -/
def endianBig (port : UInt16) : UInt16 := (port >>> 8) ||| (port <<< 8)

/-- The big-endian representation of an address. -/
def parseAddrToBe : IPAddress → RealDefinition
  | .v4 addr => { dstv6 := .ofV4 addr, flags := 0 }
  | .v6 addr => { dstv6 := addr, flags := 1 }

/-- The key under which a VIP is stored in `vip_map`. -/
def vipDefinition (addr : IPAddress) (vip : VipKey) : VipDefinition :=
  { vipv6 := (parseAddrToBe addr).dstv6, port := endianBig vip.port, proto := vip.proto }

/-- The bits of a network that a trie stores it under. -/
def CIDRNetwork.prefixBits (network : CIDRNetwork) : List Bool :=
  match network.address with
  | .v4 addr => (wordBits addr).take network.prefixLength.toNat
  | .v6 addr => addr.bits.take network.prefixLength.toNat

end Katran
