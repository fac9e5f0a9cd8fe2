import Katran.Bpf.Structs

/-! # The memory of a packet

A packet lies in a buffer behind its headroom, and moving the start of the packet
exposes bytes of the headroom or hides bytes of the packet. Reads and writes follow
a check of the packet's length; a read beyond the end gives zeros.
-/

namespace Katran

/-- The headroom, in memory order, and the bytes of the packet. -/
structure XdpMd where
  headroom : List UInt8
  data : List UInt8
deriving DecidableEq, Repr

namespace XdpMd

/-- The size of an Ethernet header, `ETH_HLEN`. -/
def ethHlen : Nat := 14

/-- `bpf_xdp_adjust_head` towards the headroom. -/
def growHead (xdp : XdpMd) (size : Nat) : Option XdpMd :=
  if size ≤ xdp.headroom.length then
    let kept := xdp.headroom.length - size
    some { headroom := xdp.headroom.take kept, data := xdp.headroom.drop kept ++ xdp.data }
  else none

/-- `bpf_xdp_adjust_head` towards the end; an Ethernet header has to remain. -/
def shrinkHead (xdp : XdpMd) (size : Nat) : Option XdpMd :=
  if size + ethHlen ≤ xdp.data.length then
    some { headroom := xdp.headroom ++ xdp.data.take size, data := xdp.data.drop size }
  else none

/-- `bpf_xdp_adjust_tail`, which only shrinks a packet and keeps an Ethernet header. -/
def adjustTail (xdp : XdpMd) (size : Int) : Option XdpMd :=
  if size ≤ 0 ∧ (ethHlen : Int) ≤ xdp.data.length + size then
    some { xdp with data := xdp.data.take (xdp.data.length + size).toNat }
  else none

end XdpMd

namespace Bytes

/-- A byte of a packet. -/
def read8 (data : List UInt8) (off : Nat) : UInt8 := data.getD off 0

/-- Two bytes as a little-endian host reads them. -/
def read16 (data : List UInt8) (off : Nat) : UInt16 :=
  (read8 data off).toUInt16 ||| ((read8 data (off + 1)).toUInt16 <<< 8)

/-- Four bytes as a little-endian host reads them. -/
def read32 (data : List UInt8) (off : Nat) : UInt32 :=
  (read16 data off).toUInt32 ||| ((read16 data (off + 2)).toUInt32 <<< 16)

/-- Four words of a packet, such as an IPv6 address. -/
def read128 (data : List UInt8) (off : Nat) : Be32x4 :=
  ⟨read32 data off, read32 data (off + 4), read32 data (off + 8), read32 data (off + 12)⟩

/-- `bpf_htons`, which is `bpf_ntohs`. -/
def htons (value : UInt16) : UInt16 := (value <<< 8) ||| (value >>> 8)

/-- `__builtin_bswap32`, which is `bpf_htonl`. -/
def bswap32 (value : UInt32) : UInt32 :=
  ((htons value.toUInt16).toUInt32 <<< 16) ||| (htons (value >>> 16).toUInt16).toUInt32

/-- The bytes of a half-word in memory. -/
def ofUInt16 (value : UInt16) : List UInt8 := [value.toUInt8, (value >>> 8).toUInt8]

/-- The bytes of a word in memory. -/
def ofUInt32 (value : UInt32) : List UInt8 :=
  ofUInt16 value.toUInt16 ++ ofUInt16 (value >>> 16).toUInt16

/-- The bytes of four words in memory. -/
def ofBe32x4 (value : Be32x4) : List UInt8 :=
  ofUInt32 value.w0 ++ ofUInt32 value.w1 ++ ofUInt32 value.w2 ++ ofUInt32 value.w3

/-- Overwrite bytes of a packet; the packet does not grow. -/
def write (data : List UInt8) (off : Nat) (bytes : List UInt8) : List UInt8 :=
  data.take off ++ bytes.take (data.length - off) ++ data.drop (off + bytes.length)

/-- Writes a byte. -/
def write8 (data : List UInt8) (off : Nat) (value : UInt8) : List UInt8 := write data off [value]

/-- Writes a half-word. -/
def write16 (data : List UInt8) (off : Nat) (value : UInt16) : List UInt8 :=
  write data off (ofUInt16 value)

/-- Writes a word. -/
def write32 (data : List UInt8) (off : Nat) (value : UInt32) : List UInt8 :=
  write data off (ofUInt32 value)

/-- Writes four words. -/
def write128 (data : List UInt8) (off : Nat) (value : Be32x4) : List UInt8 :=
  write data off (ofBe32x4 value)

/-- `memcpy` inside a packet. -/
def copy (data : List UInt8) (dst src size : Nat) : List UInt8 :=
  write data dst ((data.drop src).take size)

end Bytes

/-! ## Checksums -/

/-- Add the carries to the low half, if there are any. -/
def csumFold (csum : UInt64) : UInt64 :=
  if csum >>> 16 ≠ 0 then (csum &&& (0xffff : UInt64)) + (csum >>> 16) else csum

/-- `csum_fold_helper`, which folds four times. -/
def csumFoldHelper (csum : UInt64) : UInt16 :=
  (~~~(csumFold (csumFold (csumFold (csumFold csum))))).toUInt16

/-- `bpf_csum_diff` with nothing to subtract: the sum of some bytes and a seed. -/
abbrev CsumDiff := List UInt8 → UInt64 → UInt64

/-- `ipv4_csum` -/
def ipv4Csum (csumDiff : CsumDiff) (bytes : List UInt8) : UInt16 :=
  csumFoldHelper (csumDiff bytes 0)

/-- `ipv4_csum_inline`: the sum of the words of an IPv4 header. -/
def ipv4CsumInline (data : List UInt8) (off : Nat) : UInt16 :=
  csumFoldHelper ((List.range 10).foldl
    (fun csum index => csum + (Bytes.read16 data (off + 2 * index)).toUInt64) 0)

/-- `ipv6_csum`: the sum of the pseudo header and of the payload. -/
def ipv6Csum (csumDiff : CsumDiff) (payload : List UInt8) (saddr daddr : List UInt8)
    (nexthdr : UInt8) : UInt16 :=
  let csum := csumDiff saddr 0
  let csum := csumDiff daddr csum
  let csum := csumDiff (Bytes.ofUInt32 (Bytes.bswap32 payload.length.toUInt32)) csum
  let csum := csumDiff (Bytes.ofUInt32 (Bytes.bswap32 nexthdr.toUInt32)) csum
  csumFoldHelper (csumDiff payload csum)

end Katran
