import StoryGrammar.Unicode.CodeRange

set_option autoImplicit false

/-!
# Byte sequences

The encodings of the code points of a range, as sequences of ranges of bytes. A code point takes one
to four bytes, of which those after the first hold six bits each. Blocks whose last bytes take all
values share one sequence.
-/

namespace StoryGrammar.Unicode

/-- The ranges in which all code points are encoded with equally many bytes. Surrogates, which have
no encoding, lie between the third and the fourth. -/
def encodableRanges : List CodeRange :=
  [⟨0, 0x7F⟩, ⟨0x80, 0x7FF⟩, ⟨0x800, 0xD7FF⟩, ⟨0xE000, 0xFFFF⟩, ⟨0x10000, lastCode⟩]

def continuationLimit : Nat :=
  64

def encoding (code : Nat) : List Nat :=
  let final (code : Nat) := 0x80 + code % continuationLimit
  let shifted := code / continuationLimit
  if code < 0x80 then [code]
  else if code < 0x800 then [0xC0 + shifted, final code]
  else if code < 0x10000 then [0xE0 + shifted / continuationLimit, final shifted, final code]
  else
    [0xF0 + shifted / continuationLimit / continuationLimit, final (shifted / continuationLimit),
      final shifted, final code]

/-- The blocks of a range whose ends are multiples of `unit`. Within a block only one digit in base
64 takes part of its values, and the digits after it take all. -/
def blocks (unit : Nat) (range : CodeRange) : (levels : Nat) → List CodeRange
  | 0 => [range]
  | levels + 1 =>
      let next := unit * continuationLimit
      if range.first / next = range.last / next then [range]
      else
        let head :=
          if range.first % next = 0 then []
          else [⟨range.first, range.first / next * next + next - 1⟩]
        let tail :=
          if (range.last + 1) % next = 0 then [] else [⟨range.last / next * next, range.last⟩]
        let first := (range.first + next - 1) / next * next
        let limit := (range.last + 1) / next * next
        let middle := if first < limit then blocks next ⟨first, limit - 1⟩ levels else []
        head ++ middle ++ tail

/-- The sequences of byte ranges that encode the code points of ascending ranges, in their order. -/
def byteSequences (ranges : List CodeRange) : List (List (Nat × Nat)) :=
  (intersect ranges encodableRanges).flatMap fun range =>
    let parts := if range.last < 0x80 then [range] else blocks 1 range 3
    parts.map fun block => (encoding block.first).zip (encoding block.last)

end StoryGrammar.Unicode
