/-! # The xoshiro256++ word stream

Four 64-bit words are stirred once for each word taken, which is the upper half of a 64-bit result.
`ofSeed` fills them from consecutive values of the splitmix64 sequence of a seed.
-/

namespace Roshambo.Random

/-- Rotate a 64-bit word to the left by fewer than 64 places. -/
def rotateLeft64 (word places : UInt64) : UInt64 :=
  (word <<< places) ||| (word >>> ((64 - places) % 64))

/-- The four words of state of a xoshiro256++ stream. -/
structure Xoshiro where
  s0 : UInt64
  s1 : UInt64
  s2 : UInt64
  s3 : UInt64
deriving DecidableEq, Repr

namespace Xoshiro

def result (state : Xoshiro) : UInt64 := rotateLeft64 (state.s0 + state.s3) 23 + state.s0

def stir (state : Xoshiro) : Xoshiro :=
  let shifted := state.s1 <<< 17
  let s2 := state.s2 ^^^ state.s0
  let s3 := state.s3 ^^^ state.s1
  { s0 := state.s0 ^^^ s3
    s1 := state.s1 ^^^ s2
    s2 := s2 ^^^ shifted
    s3 := rotateLeft64 s3 45 }

def next (state : Xoshiro) : UInt32 × Xoshiro := ((state.result >>> 32).toUInt32, state.stir)

def scramble (word : UInt64) : UInt64 :=
  let word := (word ^^^ (word >>> 30)) * 0xBF58476D1CE4E5B9
  let word := (word ^^^ (word >>> 27)) * 0x94D049BB133111EB
  word ^^^ (word >>> 31)

/-- The distance between neighbours of the sequence before scrambling. -/
def stride : UInt64 := 0x9E3779B97F4A7C15

def ofSeed (seed : UInt64) : Xoshiro where
  s0 := scramble (seed + stride)
  s1 := scramble (seed + 2 * stride)
  s2 := scramble (seed + 3 * stride)
  s3 := scramble (seed + 4 * stride)

end Xoshiro

end Roshambo.Random
