set_option autoImplicit false

/-!
# Ranges of code points

A character property is a list of ranges of code points, ends included. Lists whose ranges ascend
without touching each other are combined by the operations on sets.
-/

namespace StoryGrammar.Unicode

structure CodeRange where
  first : Nat
  last : Nat
  deriving DecidableEq, Repr

def CodeRange.contains (range : CodeRange) (code : Nat) : Bool :=
  range.first ≤ code && code ≤ range.last

def inRanges (ranges : List CodeRange) (character : Char) : Bool :=
  ranges.any (·.contains character.toNat)

/-! ## Operations on ascending ranges -/

def lastCode : Nat :=
  0x10FFFF

/-- The code points from `start` on that lie in none of the ranges. -/
def complementFrom (start : Nat) : List CodeRange → List CodeRange
  | [] => if start ≤ lastCode then [⟨start, lastCode⟩] else []
  | range :: ranges =>
      if start < range.first then
        ⟨start, range.first - 1⟩ :: complementFrom (max start (range.last + 1)) ranges
      else complementFrom (max start (range.last + 1)) ranges

def complement (ranges : List CodeRange) : List CodeRange :=
  complementFrom 0 ranges

def intersect : List CodeRange → List CodeRange → List CodeRange
  | [], _ => []
  | _ :: _, [] => []
  | left :: lefts, right :: rights =>
      let first := max left.first right.first
      let last := min left.last right.last
      let others :=
        if left.last < right.last then intersect lefts (right :: rights)
        else intersect (left :: lefts) rights
      if first ≤ last then ⟨first, last⟩ :: others else others
termination_by lefts rights => lefts.length + rights.length

/-- The code points that lie in one of two lists of ranges or in both. -/
def unite (lefts rights : List CodeRange) : List CodeRange :=
  complement (intersect (complement lefts) (complement rights))

def uniteAll (lists : List (List CodeRange)) : List CodeRange :=
  lists.foldl unite []

/-- The code points that lie in the first list of ranges and not in the second. -/
def subtract (lefts rights : List CodeRange) : List CodeRange :=
  intersect lefts (complement rights)

def rangesOfCodes (codes : List Nat) : List CodeRange :=
  complement (complement ((codes.mergeSort (· ≤ ·)).map fun code => ⟨code, code⟩))

end StoryGrammar.Unicode
