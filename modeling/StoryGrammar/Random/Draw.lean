import StoryGrammar.Random.Generator

set_option autoImplicit false

/-!
# Draws

Choosing a number below a bound without favouring any. A word is multiplied by the bound; the high
part of the product is the choice, and words whose low part lies beyond a zone are passed over, so
that every choice is left with the same number of words.
-/

namespace StoryGrammar.Random

/-- A computation that draws words. It has no result when a draw passes over words for ever. -/
abbrev Draw := StateT Generator Option

/-- The result for the first word that is accepted, and the generator after it. There is none where
no word ever is. -/
def Generator.firstAccepted {α : Type} (generator : Generator)
    (next : Generator → Nat × Generator) (accept : Nat → Option α) : Option (α × Generator) :=
  match accept (next generator).1 with
  | some result => some (result, (next generator).2)
  | none => (next generator).2 |>.firstAccepted next accept
partial_fixpoint

/-- The largest low part of a product that a uniform draw accepts: the bound with its leading zeros
among `bits` places shifted out, less one. -/
def uniformZone (bits bound : Nat) : Nat :=
  bound <<< (bits - 1 - bound.log2) - 1

/-- The largest low part of a product that a weighted draw accepts. -/
def weightedZone (total : Nat) : Nat :=
  UInt64.size - 1 - (UInt64.size - total) % total

/-- The choice below `bound` that a word of the given width makes, if its low part is in the
zone. -/
def choice? (bits bound zone word : Nat) : Option Nat :=
  if word * bound % Nat.pow 2 bits ≤ zone then some (word * bound / Nat.pow 2 bits) else none

/-- A number below a bound, from 64-bit words. -/
def below64 (bound : Nat) : Draw Nat :=
  fun generator => generator.firstAccepted
    (fun generator => (generator.next64.1.toNat, generator.next64.2))
    (choice? 64 bound (uniformZone 64 bound))

/-- A number below a bound, from 32-bit words. -/
def below32 (bound : Nat) : Draw Nat :=
  fun generator => generator.firstAccepted
    (fun generator => (generator.next32.1.toNat, generator.next32.2))
    (choice? 32 bound (uniformZone 32 bound))

/-- A number below a total of weights, from 64-bit words. -/
def belowTotal (total : Nat) : Draw Nat :=
  fun generator => generator.firstAccepted
    (fun generator => (generator.next64.1.toNat, generator.next64.2))
    (choice? 64 total (weightedZone total))

end StoryGrammar.Random
