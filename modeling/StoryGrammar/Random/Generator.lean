import StoryGrammar.Random.KeyStream

set_option autoImplicit false

/-!
# Generators

A generator is an endless supply of words. It is a value: drawing a word gives the word and the
generator that supplies the words after it.
-/

namespace StoryGrammar.Random

/-- The widths of the words that can be asked for. -/
inductive Width where
  | single
  | double
  deriving DecidableEq, Repr

inductive Generator where
  /-- The key stream of a key: the words of the current block still to come, then the blocks from
  `nextBlock` on. -/
  | keyStream (key : Key) (nextBlock : UInt64) (pending : List UInt32)
  /-- The 64-bit words `next`, `next + increment`, …, reduced to 64 bits. -/
  | progression (next increment : UInt64)
  /-- The listed 64-bit words, then zeros. -/
  | listed (words : List UInt64)
  /-- Any other source: it answers each request by a word that may depend on all requests so far,
  newest first. -/
  | answering (answer : List Width → UInt64) (requests : List Width)

namespace Generator

def ofSeed (seed : UInt64) : Generator :=
  .keyStream (Key.ofSeed seed) 0 []

/-- The next word of a key stream, and the key stream after it. -/
def nextStreamWord (key : Key) (nextBlock : UInt64) :
    List UInt32 → UInt32 × UInt64 × List UInt32
  | word :: pending => (word, nextBlock, pending)
  | [] =>
      let block := keyStreamBlock key nextBlock
      (block[0], nextBlock + 1, block.toList.drop 1)

/-- The next 64-bit word. A key stream gives the low half first. -/
def next64 : Generator → UInt64 × Generator
  | .keyStream key nextBlock pending =>
      let (low, nextBlock, pending) := nextStreamWord key nextBlock pending
      let (high, nextBlock, pending) := nextStreamWord key nextBlock pending
      ((high.toUInt64 <<< 32) ||| low.toUInt64, .keyStream key nextBlock pending)
  | .progression next increment => (next, .progression (next + increment) increment)
  | .listed [] => (0, .listed [])
  | .listed (word :: words) => (word, .listed words)
  | .answering answer requests =>
      (answer (.double :: requests), .answering answer (.double :: requests))

/-- The next 32-bit word. A generator of 64-bit words gives the low half of its next word. -/
def next32 : Generator → UInt32 × Generator
  | .keyStream key nextBlock pending =>
      let (word, nextBlock, pending) := nextStreamWord key nextBlock pending
      (word, .keyStream key nextBlock pending)
  | .answering answer requests =>
      ((answer (.single :: requests)).toUInt32, .answering answer (.single :: requests))
  | generator =>
      let (word, generator) := generator.next64
      (word.toUInt32, generator)

end Generator

end StoryGrammar.Random
