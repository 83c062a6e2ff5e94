import StoryGrammar.Unicode.Earlier

set_option autoImplicit false

/-!
# Character sets

The sets of characters that a pattern can name, as expressions, and membership in them.
-/

namespace StoryGrammar

inductive CharacterSet where
  | nothing
  /-- The characters from `first` to `last`, ends included. -/
  | range (first last : Char)
  | decimalDigit
  | blank
  | word
  | category (major : Unicode.MajorCategory)
  | union (left right : CharacterSet)
  | intersection (left right : CharacterSet)
  | difference (left right : CharacterSet)
  | symmetricDifference (left right : CharacterSet)
  | complement (set : CharacterSet)
  /-- The characters of a set and all their case variants. -/
  | ignoringCase (set : CharacterSet)
  /-- The characters of a set and the case variants of its unaccented Latin letters. -/
  | ignoringLatinCase (set : CharacterSet)
  deriving DecidableEq, Repr

namespace CharacterSet

def latinVariants (character : Char) : List Char :=
  if character.isUpper then [character.toLower]
  else if character.isLower then [character.toUpper]
  else []

def contains : CharacterSet → Char → Bool
  | .nothing, _ => false
  | .range first last, character => first ≤ character && character ≤ last
  | .decimalDigit, character => Unicode.Earlier.isDecimalDigit character
  | .blank, character => Unicode.isBlank character
  | .word, character => Unicode.Earlier.isWord character
  | .category major, character => Unicode.Earlier.inCategory major character
  | .union left right, character => left.contains character || right.contains character
  | .intersection left right, character => left.contains character && right.contains character
  | .difference left right, character => left.contains character && !right.contains character
  | .symmetricDifference left right, character =>
      left.contains character != right.contains character
  | .complement set, character => !set.contains character
  | .ignoringCase set, character =>
      set.contains character || (Unicode.Earlier.caseVariants character).any fun variant =>
        set.contains variant
  | .ignoringLatinCase set, character =>
      set.contains character || (latinVariants character).any fun variant => set.contains variant

/-- The ranges of the characters of a set, ascending and apart from each other. Surrogates, which
are code points of no character, may be among them. -/
def ranges : CharacterSet → List Unicode.CodeRange
  | .nothing => []
  | .range first last => if first ≤ last then [⟨first.toNat, last.toNat⟩] else []
  | .decimalDigit => Unicode.Earlier.decimalDigits
  | .blank => Unicode.blankRanges
  | .word => Unicode.Earlier.words
  | .category major => Unicode.Earlier.categoryRanges major
  | .union left right => Unicode.unite left.ranges right.ranges
  | .intersection left right => Unicode.intersect left.ranges right.ranges
  | .difference left right => Unicode.subtract left.ranges right.ranges
  | .symmetricDifference left right =>
      Unicode.unite (Unicode.subtract left.ranges right.ranges)
        (Unicode.subtract right.ranges left.ranges)
  | .complement set => Unicode.complement set.ranges
  | .ignoringCase set =>
      let members := set.ranges
      let added := Unicode.Earlier.casedLetters.filter fun letter =>
        letter.2.any fun variant => members.any (·.contains variant)
      Unicode.unite members (Unicode.rangesOfCodes (added.map (·.1)))
  | .ignoringLatinCase set =>
      let members := set.ranges
      let added := (List.range 128).filter fun code =>
        (latinVariants (Char.ofNat code)).any fun variant => Unicode.inRanges members variant
      Unicode.unite members (Unicode.rangesOfCodes added)

def single (character : Char) : CharacterSet :=
  range character character

def ofRanges : List (Char × Char) → CharacterSet
  | [] => nothing
  | (first, last) :: ranges => ranges.foldl (fun set (first, last) => union set (range first last))
      (range first last)

end CharacterSet

end StoryGrammar
