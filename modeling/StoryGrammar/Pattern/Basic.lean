import StoryGrammar.Pattern.CharacterSet

set_option autoImplicit false

/-!
# Patterns

Regular patterns over characters, with assertions about the place a match stands at. Which stretch
of a text a match spans is all that matters here, so repetition has no preference for long or short
matches and groups capture nothing.
-/

namespace StoryGrammar

inductive Assertion where
  | textStart
  | textEnd
  /-- The start of a line; with `carriageReturns`, lines also end in a carriage return. -/
  | lineStart (carriageReturns : Bool)
  | lineEnd (carriageReturns : Bool)
  /-- Exactly one of the two neighbours belongs to the set of word characters. -/
  | wordBoundary (words : CharacterSet)
  | notWordBoundary (words : CharacterSet)
  | wordStart (words : CharacterSet)
  | wordEnd (words : CharacterSet)
  deriving DecidableEq, Repr

/-- Whether an assertion holds between two neighbours, `none` standing for an end of the text. -/
def Assertion.holdsBetween (assertion : Assertion) (before after : Option Char) : Bool :=
  match assertion with
  | .textStart => before.isNone
  | .textEnd => after.isNone
  | .lineStart false => before.isNone || before == some '\n'
  | .lineEnd false => after.isNone || after == some '\n'
  | .lineStart true =>
      before.isNone || before == some '\n' || (before == some '\r' && after != some '\n')
  | .lineEnd true =>
      after.isNone || after == some '\r' || (after == some '\n' && before != some '\r')
  | .wordBoundary words => before.any words.contains != after.any words.contains
  | .notWordBoundary words => before.any words.contains == after.any words.contains
  | .wordStart words => !before.any words.contains && after.any words.contains
  | .wordEnd words => before.any words.contains && !after.any words.contains

inductive Pattern where
  /-- Matches between characters, anywhere. -/
  | empty
  /-- Matches one character of the set. -/
  | oneOf (set : CharacterSet)
  /-- Matches between characters where the assertion holds. -/
  | holds (assertion : Assertion)
  | concatenation (first second : Pattern)
  | alternation (left right : Pattern)
  /-- Matches one or more matches in a row. -/
  | repetition (body : Pattern)
  deriving DecidableEq, Repr

namespace Pattern

def characterBefore (text : List Char) (place : Nat) : Option Char :=
  if place = 0 then none else text[place - 1]?

/-- A match of the pattern spans the text from the first place to the second. Places count the
characters before them. -/
inductive Spans (text : List Char) : Pattern → Nat → Nat → Prop where
  | empty (place : Nat) : Spans text .empty place place
  | oneOf (set : CharacterSet) (place : Nat) (member : Char)
      (present : text[place]? = some member) (contained : set.contains member = true) :
      Spans text (.oneOf set) place (place + 1)
  | holds (assertion : Assertion) (place : Nat)
      (holding : assertion.holdsBetween (characterBefore text place) text[place]? = true) :
      Spans text (.holds assertion) place place
  | concatenation (first second : Pattern) (start middle stop : Nat)
      (firstSpans : Spans text first start middle)
      (secondSpans : Spans text second middle stop) :
      Spans text (.concatenation first second) start stop
  | alternationLeft (left right : Pattern) (start stop : Nat)
      (spans : Spans text left start stop) : Spans text (.alternation left right) start stop
  | alternationRight (left right : Pattern) (start stop : Nat)
      (spans : Spans text right start stop) : Spans text (.alternation left right) start stop
  | repetitionOnce (body : Pattern) (start stop : Nat)
      (once : Spans text body start stop) : Spans text (.repetition body) start stop
  | repetitionMore (body : Pattern) (start middle stop : Nat)
      (once : Spans text body start middle)
      (more : Spans text (.repetition body) middle stop) :
      Spans text (.repetition body) start stop

end Pattern

end StoryGrammar
