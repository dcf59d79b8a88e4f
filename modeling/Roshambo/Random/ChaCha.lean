/-! # The twelve-round ChaCha word stream

A stream is a key and the number of words already taken from it. Word `n` is word `n % 16` of the
block with counter `n / 16`: no buffer is kept, so a word depends on the key and its place alone.
`ofSeed` spreads a 64-bit seed over the eight words of a key.
-/

namespace Roshambo.Random

/-- Rotate a word to the left by fewer than 32 places. -/
def rotateLeft32 (word places : UInt32) : UInt32 :=
  (word <<< places) ||| (word >>> ((32 - places) % 32))

def rotateRight32 (word places : UInt32) : UInt32 :=
  (word >>> places) ||| (word <<< ((32 - places) % 32))

namespace ChaCha

abbrev Block := Vector UInt32 16

/-- Mix four words of a block. -/
def quarterRound (block : Block) (a b c d : Fin 16) : Block :=
  let block := block.set a (block[a] + block[b])
  let block := block.set d (rotateLeft32 (block[d] ^^^ block[a]) 16)
  let block := block.set c (block[c] + block[d])
  let block := block.set b (rotateLeft32 (block[b] ^^^ block[c]) 12)
  let block := block.set a (block[a] + block[b])
  let block := block.set d (rotateLeft32 (block[d] ^^^ block[a]) 8)
  let block := block.set c (block[c] + block[d])
  block.set b (rotateLeft32 (block[b] ^^^ block[c]) 7)

/-- One round over the columns of a block and one over its diagonals. -/
def doubleRound (block : Block) : Block :=
  let block := quarterRound block 0 4 8 12
  let block := quarterRound block 1 5 9 13
  let block := quarterRound block 2 6 10 14
  let block := quarterRound block 3 7 11 15
  let block := quarterRound block 0 5 10 15
  let block := quarterRound block 1 6 11 12
  let block := quarterRound block 2 7 8 13
  quarterRound block 3 4 9 14

/-- The block before the first round: the constant text "expand 32-byte k", the key, the counter
in two words and an empty stream number. -/
def initial (key : Vector UInt32 8) (counter : Nat) : Block :=
  #v[0x61707865, 0x3320646E, 0x79622D32, 0x6B206574,
    key[0], key[1], key[2], key[3], key[4], key[5], key[6], key[7],
    UInt32.ofNat counter, UInt32.ofNat (counter / 0x100000000), 0, 0]

def block (key : Vector UInt32 8) (counter : Nat) : Block :=
  (initial key counter).zipWith (· + ·) (Nat.repeat doubleRound 6 (initial key counter))

end ChaCha

/-- A ChaCha word stream: its key, and how many of its words have been taken. -/
structure ChaCha where
  key : Vector UInt32 8
  position : Nat

namespace ChaCha

def word (key : Vector UInt32 8) (place : Nat) : UInt32 :=
  (block key (place / 16)).get ⟨place % 16, Nat.mod_lt _ (by decide)⟩

def next (stream : ChaCha) : UInt32 × ChaCha :=
  (word stream.key stream.position, { stream with position := stream.position + 1 })

/-- One step of the linear congruential sequence that spreads a seed. -/
def spread (state : UInt64) : UInt64 := state * 6364136223846793005 + 11634580027462260723

/-- The key word read off one state of that sequence: its folded upper bits, rotated to the right
by its five highest bits. -/
def keyWord (state : UInt64) : UInt32 :=
  rotateRight32 (((state >>> 18) ^^^ state) >>> 27).toUInt32 (state >>> 59).toUInt32

def ofSeed (seed : UInt64) : ChaCha where
  key := Vector.ofFn fun place => keyWord (Nat.repeat spread (place.val + 1) seed)
  position := 0

/-- The stream whose key is given by its bytes, four to a word with the lowest first. -/
def ofKeyBytes (bytes : List UInt8) : ChaCha where
  key := Vector.ofFn fun place =>
    ((bytes.drop (4 * place.val)).take 4).foldr (fun byte word => word * 256 + byte.toUInt32) 0
  position := 0

end ChaCha

end Roshambo.Random
