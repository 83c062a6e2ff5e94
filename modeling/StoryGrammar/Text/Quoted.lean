import StoryGrammar.Unicode.Property

set_option autoImplicit false

/-!
# Quoted text

Text between quotation marks, in which no character is ambiguous or invisible: the quotation mark
and the backslash are escaped, and so is every character that leaves no mark of its own or is drawn
onto the character before it.
-/

namespace StoryGrammar.Text

/-- The digits of a number in base sixteen, lower case and without leading zeros. -/
def hexadecimal (number : Nat) : List Char :=
  Nat.toDigits 16 number

/-- Whether a character would be drawn onto the one before it. Letters take a place of their own,
also where they extend a grapheme, as the half-width voicing marks do. -/
def drawnOntoOther (character : Char) : Bool :=
  Unicode.extendsGrapheme character && !Unicode.MajorCategory.letter.contains character

def escaped (mark character : Char) : List Char :=
  if character = mark ∨ character = '\\' then ['\\', character]
  else if character = '\x00' then ['\\', '0']
  else if character = '\t' then ['\\', 't']
  else if character = '\n' then ['\\', 'n']
  else if character = '\r' then ['\\', 'r']
  else if drawnOntoOther character || !Unicode.isPrintable character then
    ['\\', 'u', '{'] ++ hexadecimal character.toNat ++ ['}']
  else [character]

def quoted (text : String) : String :=
  String.ofList ('"' :: text.toList.flatMap (escaped '"') ++ ['"'])

def quotedCharacter (character : Char) : String :=
  String.ofList ('\'' :: escaped '\'' character ++ ['\''])

end StoryGrammar.Text
