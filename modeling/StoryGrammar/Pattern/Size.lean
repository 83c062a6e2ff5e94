import StoryGrammar.Pattern.Basic
import StoryGrammar.Unicode.ByteSequence

set_option autoImplicit false

/-!
# Size of a pattern

Patterns are refused that take too much memory. What counts is the automaton that reads the bytes of
a text backwards: its states, and the edges of those that have several. A character set takes a
state for every range of bytes in the encodings of its characters, where encodings that begin alike
share the states of their common beginning.

The count is an approximation. It shares all that encodings have in common, while a compiler that
finds common beginnings through a table of bounded size misses some of them, and comes to automata
that are up to 0.3 % larger.
-/

namespace StoryGrammar

def commonLength {Member : Type} [DecidableEq Member] : List Member → List Member → Nat
  | left :: lefts, right :: rights => if left = right then commonLength lefts rights + 1 else 0
  | _, _ => 0

/-- The number of distinct beginnings of ascending sequences, the first of which follows
`previous`. Equal beginnings are next to each other. -/
def beginnings (previous : List (Nat × Nat)) : List (List (Nat × Nat)) → Nat
  | [] => 0
  | sequence :: sequences =>
      (sequence.length - commonLength previous sequence) + beginnings sequence sequences

def stateSize : Nat :=
  32

/-- The memory that an edge for a range of bytes takes in a state with several. -/
def byteEdgeSize : Nat :=
  8

/-- The memory that an edge for no byte takes in a state with several. -/
def freeEdgeSize : Nat :=
  4

/-- The memory that the code points of ascending ranges take. A single one has a state for each of
its bytes. Several have two states in common, and are one state's edges if each has one byte. -/
def rangesSize (ranges : List Unicode.CodeRange) : Nat :=
  let sequences := Unicode.byteSequences ranges
  let states := beginnings [] sequences * stateSize
  if ranges.map (fun range => range.last + 1 - range.first) = [1] then states
  else if ranges.all fun range => range.last < 128 then
    2 * stateSize + ranges.length * byteEdgeSize
  else 2 * stateSize + sequences.length * freeEdgeSize + states

def CharacterSet.size (set : CharacterSet) : Nat :=
  rangesSize set.ranges

namespace Pattern

/-- The set of characters that a pattern chooses from, if that is all it does. -/
def choices? : Pattern → Option CharacterSet
  | .oneOf set => some set
  | .alternation left right => do return .union (← left.choices?) (← right.choices?)
  | _ => none

/-- The memory that a pattern takes, within alternatives or outside them. A choice between
characters is a set, and other alternatives have a state before them and one after them in
common. -/
def sizeWithin (alternative : Bool) : Pattern → Nat
  | .empty => stateSize
  | .oneOf set => set.size
  | .holds _ => stateSize
  | .concatenation first second => first.sizeWithin false + second.sizeWithin false
  | .alternation left right =>
      let both := left.sizeWithin true + right.sizeWithin true + 2 * freeEdgeSize
      if alternative then both
      else
        match (Pattern.alternation left right).choices? with
        | some set => set.size
        | none => 2 * stateSize + both
  | .repetition body => body.sizeWithin false + stateSize + 2 * freeEdgeSize

def size (pattern : Pattern) : Nat :=
  pattern.sizeWithin false

def sizeLimit : Nat :=
  10 * 1024 * 1024

end Pattern

end StoryGrammar
