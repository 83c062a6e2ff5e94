set_option autoImplicit false

/-!
# Written numbers

Natural numbers as people type them: decimal digits after an optional plus sign.
-/

namespace StoryGrammar.Text

def digitsValue (digits : List Char) : Nat :=
  digits.foldl (fun value digit => value * 10 + (digit.toNat - '0'.toNat)) 0

/-- The number that a text spells, if it spells one below the bound. -/
def natural? (bound : Nat) (text : String) : Option Nat :=
  let digits :=
    match text.toList with
    | '+' :: rest => rest
    | characters => characters
  if digits.isEmpty || !digits.all Char.isDigit then none
  else if digitsValue digits < bound then some (digitsValue digits)
  else none

end StoryGrammar.Text
