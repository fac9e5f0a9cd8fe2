import Mathlib.Logic.Function.Basic

/-! # Maps shared by the control plane and the forwarding plane

The control plane writes these maps with bpf calls and the forwarding plane
reads them for every packet. Addresses and ports are kept as they are in memory
(network byte order read by a little-endian host), so that the two sides agree
on keys without any conversion. The unions of an IPv4 word and four IPv6 words
are four words; an IPv4 address occupies the first one.

An array map holds zeros until it is written. A trie maps a bit string, the
first `prefixlen` bits of a key, to its value.
-/

namespace Katran

/-- A 128-bit address as four words in memory order. -/
structure Be32x4 where
  w0 : UInt32
  w1 : UInt32
  w2 : UInt32
  w3 : UInt32
deriving DecidableEq, Repr

namespace Be32x4

/-- The address with all bits clear. -/
def zero : Be32x4 := ⟨0, 0, 0, 0⟩

/-- The union after its IPv4 member has been written to zeroed memory. -/
def ofV4 (addr : UInt32) : Be32x4 := ⟨addr, 0, 0, 0⟩

end Be32x4

/-- Key of `vip_map`. -/
structure VipDefinition where
  vipv6 : Be32x4
  port : UInt16
  proto : UInt8
deriving DecidableEq, Repr

/-- Value of `vip_map`. -/
structure VipMeta where
  flags : UInt32
  vipNum : Nat
deriving DecidableEq, Repr

/-- Value of `reals` and `pckt_srcs`. -/
structure RealDefinition where
  dstv6 : Be32x4 := .zero
  flags : UInt8 := 0
deriving DecidableEq, Repr

/-- The bits of a byte, most significant first. -/
def byteBits (byte : UInt8) : List Bool :=
  (List.range 8).map fun index => byte.toNat.testBit (7 - index)

/-- The bits of a word in the order of its bytes in memory. -/
def wordBits (word : UInt32) : List Bool :=
  (List.range 4).flatMap fun index => byteBits (word >>> (8 * index).toUInt32).toUInt8

namespace Be32x4

/-- The bits of an address, from the first one on the wire. -/
def bits (addr : Be32x4) : List Bool :=
  wordBits addr.w0 ++ wordBits addr.w1 ++ wordBits addr.w2 ++ wordBits addr.w3

end Be32x4

/-- A longest-prefix-match trie. -/
abbrev LpmTrie := List Bool → Option Nat

namespace LpmTrie

/-- The value of the longest stored prefix of a key. -/
def lookup (trie : LpmTrie) (key : List Bool) : Option Nat :=
  (List.range (key.length + 1)).reverse.findSome? fun length => trie (key.take length)

end LpmTrie

/-- The maps that the control plane writes. -/
structure ConfigMaps where
  vipMap : VipDefinition → Option VipMeta
  chRings : Nat → Nat
  reals : Nat → RealDefinition
  quicMapping : Nat → Nat
  lpmSrcV4 : LpmTrie
  lpmSrcV6 : LpmTrie
  /-- The mac address of the default router, entry zero of `ctl_array`. -/
  ctlMac : List UInt8
  /-- The source addresses of GUE packets. -/
  pcktSrcs : Nat → RealDefinition
  /-- The destinations of tunnels that end here. -/
  decapDst : Be32x4 → Bool
  /-- The cores that have a connection table of their own. -/
  lruMapsMapping : Nat → Bool

namespace ConfigMaps

/-- The maps after the programs have been loaded. -/
def fresh (mac : List UInt8) (cores : Nat → Bool) : ConfigMaps where
  vipMap := fun _ => none
  chRings := fun _ => 0
  reals := fun _ => {}
  quicMapping := fun _ => 0
  lpmSrcV4 := fun _ => none
  lpmSrcV6 := fun _ => none
  ctlMac := mac
  pcktSrcs := fun _ => {}
  decapDst := fun _ => false
  lruMapsMapping := cores

end ConfigMaps

end Katran
