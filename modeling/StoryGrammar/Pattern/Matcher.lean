import StoryGrammar.Pattern.Basic

set_option autoImplicit false

/-!
# Matching

A text is read from left to right, all matches at once. What the matches under way have in common is
kept as marks on the pattern: a set is marked when some match has just read a character as a member
of that set. Each character is read by one walk over the pattern, so no pattern takes more time than
its size allows.
-/

namespace StoryGrammar

inductive MarkedPattern where
  | empty
  | oneOf (set : CharacterSet) (marked : Bool)
  | holds (assertion : Assertion)
  | concatenation (first second : MarkedPattern)
  | alternation (left right : MarkedPattern)
  | repetition (body : MarkedPattern)
  deriving DecidableEq, Repr

def Pattern.unmarked : Pattern → MarkedPattern
  | .empty => .empty
  | .oneOf set => .oneOf set false
  | .holds assertion => .holds assertion
  | .concatenation first second => .concatenation first.unmarked second.unmarked
  | .alternation left right => .alternation left.unmarked right.unmarked
  | .repetition body => .repetition body.unmarked

namespace MarkedPattern

/-- Whether the pattern has a match that spans no characters, between two neighbours. -/
def matchesBetween (before after : Option Char) : MarkedPattern → Bool
  | .empty => true
  | .oneOf _ _ => false
  | .holds assertion => assertion.holdsBetween before after
  | .concatenation first second =>
      first.matchesBetween before after && second.matchesBetween before after
  | .alternation left right =>
      left.matchesBetween before after || right.matchesBetween before after
  | .repetition body => body.matchesBetween before after

/-- Whether a match under way ends between two neighbours, the first of which was read last. -/
def endsBetween (before after : Option Char) : MarkedPattern → Bool
  | .empty => false
  | .oneOf _ marked => marked
  | .holds _ => false
  | .concatenation first second =>
      second.endsBetween before after ||
        first.endsBetween before after && second.matchesBetween before after
  | .alternation left right => left.endsBetween before after || right.endsBetween before after
  | .repetition body => body.endsBetween before after

/-- The pattern after the next character is read. With `starts`, matches may begin before it. -/
def read (before : Option Char) (next : Char) (starts : Bool) : MarkedPattern → MarkedPattern
  | .empty => .empty
  | .oneOf set _ => .oneOf set (starts && set.contains next)
  | .holds assertion => .holds assertion
  | .concatenation first second =>
      let reached :=
        first.endsBetween before (some next) ||
          starts && first.matchesBetween before (some next)
      .concatenation (first.read before next starts) (second.read before next reached)
  | .alternation left right =>
      .alternation (left.read before next starts) (right.read before next starts)
  | .repetition body =>
      .repetition (body.read before next (starts || body.endsBetween before (some next)))

/-- Whether a match ends somewhere in the rest of a text, matches beginning anywhere in it. -/
def occursIn (before : Option Char) (pattern : MarkedPattern) : List Char → Bool
  | [] => pattern.matchesBetween before none || pattern.endsBetween before none
  | next :: rest =>
      pattern.matchesBetween before (some next) || pattern.endsBetween before (some next) ||
        occursIn (some next) (pattern.read before next true) rest

end MarkedPattern

def Pattern.occursIn (pattern : Pattern) (text : String) : Bool :=
  pattern.unmarked.occursIn none text.toList

end StoryGrammar
