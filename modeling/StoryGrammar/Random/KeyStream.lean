set_option autoImplicit false

/-!
# Key streams

A block cipher in counter mode: sixteen 32-bit words at a time are computed from a key of eight
words and the number of the block, by twelve rounds of additions, exclusive ors and rotations.
-/

namespace StoryGrammar.Random

/-- The eight words that select a key stream. -/
abbrev Key := Vector UInt32 8

/-- The sixteen words that the rounds transform. -/
abbrev Block := Vector UInt32 16

/-- Rotation of a word to the left by fewer places than it has. -/
def rotateLeft (word places : UInt32) : UInt32 :=
  (word <<< places) ||| (word >>> (32 - places))

def rotateRight (word places : UInt32) : UInt32 :=
  (word >>> places) ||| (word <<< ((32 - places) % 32))

def quarterRound (block : Block) (a b c d : Fin 16) : Block :=
  let a₁ := block[a] + block[b]
  let d₁ := rotateLeft (block[d] ^^^ a₁) 16
  let c₁ := block[c] + d₁
  let b₁ := rotateLeft (block[b] ^^^ c₁) 12
  let a₂ := a₁ + b₁
  let d₂ := rotateLeft (d₁ ^^^ a₂) 8
  let c₂ := c₁ + d₂
  let b₂ := rotateLeft (b₁ ^^^ c₂) 7
  (((block.set a a₂).set b b₂).set c c₂).set d d₂

/-- A round on the four columns followed by a round on the four diagonals. -/
def doubleRound (block : Block) : Block :=
  let columns :=
    quarterRound (quarterRound (quarterRound (quarterRound block 0 4 8 12) 1 5 9 13) 2 6 10 14)
      3 7 11 15
  quarterRound (quarterRound (quarterRound (quarterRound columns 0 5 10 15) 1 6 11 12) 2 7 8 13)
    3 4 9 14

/-- The block before the first round: four constants, the key, the block number and two zeros. -/
def initialBlock (key : Key) (number : UInt64) : Block :=
  #v[0x61707865, 0x3320646e, 0x79622d32, 0x6b206574,
    key[0], key[1], key[2], key[3], key[4], key[5], key[6], key[7],
    number.toUInt32, (number >>> 32).toUInt32, 0, 0]

/-- The words of one block of the key stream. -/
def keyStreamBlock (key : Key) (number : UInt64) : Block :=
  let start := initialBlock key number
  let mixed := Nat.repeat doubleRound 6 start
  start.zipWith (· + ·) mixed

/-- One step of the linear congruential sequence that spreads a seed over a key. -/
def seedStep (state : UInt64) : UInt64 :=
  state * 6364136223846793005 + 11634580027462260723

/-- The word that a state of the seed sequence contributes to the key. -/
def seedWord (state : UInt64) : UInt32 :=
  rotateRight (((state >>> 18) ^^^ state) >>> 27).toUInt32 (state >>> 59).toUInt32

def Key.ofSeed (seed : UInt64) : Key :=
  Vector.ofFn fun index => seedWord (Nat.repeat seedStep (index.val + 1) seed)

end StoryGrammar.Random
