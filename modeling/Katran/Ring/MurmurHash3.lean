import Mathlib.Data.UInt

/-! # The 64-bit hash behind the ring permutations -/

namespace Katran

/-- Rotate a 64-bit word to the left. -/
def rotl64 (x r : UInt64) : UInt64 := (x <<< r) ||| (x >>> (64 - r))

/-- The finalisation of one 64-bit lane. -/
def murmurFinal (h : UInt64) : UInt64 :=
  let h := h ^^^ (h >>> 33)
  let h := h * 0xff51afd7ed558ccd
  let h := h ^^^ (h >>> 33)
  let h := h * 0xc4ceb9fe1a85ec53
  h ^^^ (h >>> 33)

/-- The hash of two 64-bit words under a 32-bit seed. -/
def MurmurHash3_x64_64 (A B : UInt64) (seed : UInt32) : UInt64 :=
  let h1 := seed.toUInt64
  let h2 := seed.toUInt64
  let c1 : UInt64 := 0x87c37b91114253d5
  let c2 : UInt64 := 0x4cf5ad432745937f
  -- body
  let k1 := rotl64 (A * c1) 31 * c2
  let h1 := rotl64 (h1 ^^^ k1) 27
  let h1 := (h1 + h2) * 5 + 0x52dce729
  let k2 := rotl64 (B * c2) 33 * c1
  let h2 := rotl64 (h2 ^^^ k2) 31
  let h2 := (h2 + h1) * 5 + 0x38495ab5
  -- finalization
  let h1 := h1 ^^^ 16
  let h2 := h2 ^^^ 16
  let h1 := h1 + h2
  let h2 := h2 + h1
  murmurFinal h1 + murmurFinal h2

end Katran
