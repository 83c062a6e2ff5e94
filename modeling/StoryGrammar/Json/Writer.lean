import StoryGrammar.Json.Value

set_option autoImplicit false

/-!
# Writing JSON

Values on one line without blanks, or over several lines with an indentation of two spaces a level.
-/

namespace StoryGrammar.Json

/-- How a character is written in a string. Only quotation marks, backslashes and control characters
are escaped. -/
def writeCharacter (character : Char) : List Char :=
  match character with
  | '"' => ['\\', '"']
  | '\\' => ['\\', '\\']
  | '\x08' => ['\\', 'b']
  | '\x0c' => ['\\', 'f']
  | '\n' => ['\\', 'n']
  | '\r' => ['\\', 'r']
  | '\t' => ['\\', 't']
  | _ =>
      if character.toNat < 32 then
        ['\\', 'u', '0', '0', if character.toNat < 16 then '0' else '1',
          Nat.digitChar (character.toNat % 16)]
      else [character]

def writeString (text : String) : String :=
  String.ofList ('"' :: text.toList.flatMap writeCharacter ++ ['"'])

def Number.text : Number → String
  | .integer value => toString value
  | .float value => value.text

mutual

def Value.compact : Value → String
  | .null => "null"
  | .boolean value => if value then "true" else "false"
  | .number number => number.text
  | .string text => writeString text
  | .array items => "[" ++ compactItems items ++ "]"
  | .object members => "\x7b" ++ compactMembers members ++ "\x7d"

def compactItems : List Value → String
  | [] => ""
  | [item] => item.compact
  | item :: items => item.compact ++ "," ++ compactItems items

def compactMembers : List (String × Value) → String
  | [] => ""
  | [(key, value)] => writeString key ++ ":" ++ value.compact
  | (key, value) :: members =>
      writeString key ++ ":" ++ value.compact ++ "," ++ compactMembers members

end

def newLine (level : Nat) : String :=
  String.ofList ('\n' :: List.replicate (2 * level) ' ')

mutual

/-- A value over several lines. Empty arrays and objects stay on one. -/
def Value.pretty (level : Nat) : Value → String
  | .array [] => "[]"
  | .array items => "[" ++ prettyItems (level + 1) items ++ newLine level ++ "]"
  | .object [] => "\x7b\x7d"
  | .object members => "\x7b" ++ prettyMembers (level + 1) members ++ newLine level ++ "\x7d"
  | .null => "null"
  | .boolean value => if value then "true" else "false"
  | .number number => number.text
  | .string text => writeString text

def prettyItems (level : Nat) : List Value → String
  | [] => ""
  | [item] => newLine level ++ item.pretty level
  | item :: items => newLine level ++ item.pretty level ++ "," ++ prettyItems level items

def prettyMembers (level : Nat) : List (String × Value) → String
  | [] => ""
  | [(key, value)] => newLine level ++ writeString key ++ ": " ++ value.pretty level
  | (key, value) :: members =>
      newLine level ++ writeString key ++ ": " ++ value.pretty level ++ "," ++
        prettyMembers level members

end

end StoryGrammar.Json
