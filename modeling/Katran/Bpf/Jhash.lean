import Katran.Bpf.Memory

/-! # The hash of a packet

Jenkins' hash as the kernel has it. A key is consumed in blocks of twelve bytes as
long as more than twelve are left; missing bytes of the last block count as zeros.
-/

namespace Katran

namespace Jhash

/-- Rotates a word to the left. -/
def rol32 (word : UInt32) (shift : UInt32) : UInt32 := (word <<< shift) ||| (word >>> (32 - shift))

/-- The three words that `jhash` mixes. -/
structure Lanes where
  a : UInt32
  b : UInt32
  c : UInt32

/-- `__jhash_mix` -/
def mix (lanes : Lanes) : Lanes :=
  let ⟨a, b, c⟩ := lanes
  let a := (a - c) ^^^ rol32 c 4
  let c := c + b
  let b := (b - a) ^^^ rol32 a 6
  let a := a + c
  let c := (c - b) ^^^ rol32 b 8
  let b := b + a
  let a := (a - c) ^^^ rol32 c 16
  let c := c + b
  let b := (b - a) ^^^ rol32 a 19
  let a := a + c
  let c := (c - b) ^^^ rol32 b 4
  let b := b + a
  ⟨a, b, c⟩

/-- `__jhash_final` -/
def final (lanes : Lanes) : UInt32 :=
  let ⟨a, b, c⟩ := lanes
  let c := (c ^^^ b) - rol32 b 14
  let a := (a ^^^ c) - rol32 c 11
  let b := (b ^^^ a) - rol32 a 25
  let c := (c ^^^ b) - rol32 b 16
  let a := (a ^^^ c) - rol32 c 4
  let b := (b ^^^ a) - rol32 a 14
  (c ^^^ b) - rol32 b 24

/-- `JHASH_INITVAL` -/
def initval : UInt32 := 0xdeadbeef

/-- Add a block of the key to the lanes. -/
def absorb (key : List UInt8) (lanes : Lanes) : Lanes :=
  ⟨lanes.a + Bytes.read32 key 0, lanes.b + Bytes.read32 key 4, lanes.c + Bytes.read32 key 8⟩

/-- Consume the key; every block of twelve bytes takes one round. -/
def consume : (rounds : Nat) → (key : List UInt8) → Lanes → UInt32
  | 0, _, lanes => lanes.c
  | rounds + 1, key, lanes =>
      if key.length > 12 then consume rounds (key.drop 12) (mix (absorb key lanes))
      else if key.length = 0 then lanes.c
      else final (absorb key lanes)

end Jhash

/-- The hash of a sequence of bytes. -/
def jhash (key : List UInt8) (seed : UInt32) : UInt32 :=
  let start := Jhash.initval + key.length.toUInt32 + seed
  Jhash.consume (key.length + 1) key ⟨start, start, start⟩

/-- The hash of two words, `jhash_2words`. -/
def jhash2words (a b seed : UInt32) : UInt32 :=
  let seed := seed + Jhash.initval + 8
  Jhash.final ⟨a + seed, b + seed, seed⟩

/-- `get_packet_hash` -/
def getPacketHash (cfg : BpfConfig) (flow : FlowKey) (hash16bytes : Bool) : UInt32 :=
  if hash16bytes then
    jhash2words (jhash (Bytes.ofBe32x4 flow.srcv6) cfg.initJhashSeedV6) flow.ports cfg.initJhashSeed
  else
    jhash2words flow.srcv6.w0 flow.ports cfg.initJhashSeed

end Katran
