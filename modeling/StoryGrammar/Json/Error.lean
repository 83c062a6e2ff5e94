set_option autoImplicit false

/-!
# JSON errors

What can be wrong with a JSON text, and the place it is reported at.
-/

namespace StoryGrammar.Json

inductive Fault where
  | endInList
  | endInObject
  | endInString
  | endInValue
  | expectedValue
  | expectedIdentifier
  | expectedColon
  | expectedListCommaOrEnd
  | expectedObjectCommaOrEnd
  | keyNotString
  | trailingComma
  | trailingCharacters
  | invalidEscape
  | invalidNumber
  | numberOutOfRange
  | invalidCodePoint
  | loneSurrogate
  | unexpectedEndOfHexEscape
  | controlCharacter
  | recursionLimit
  deriving DecidableEq, Repr

def Fault.message : Fault → String
  | .endInList => "EOF while parsing a list"
  | .endInObject => "EOF while parsing an object"
  | .endInString => "EOF while parsing a string"
  | .endInValue => "EOF while parsing a value"
  | .expectedValue => "expected value"
  | .expectedIdentifier => "expected ident"
  | .expectedColon => "expected `:`"
  | .expectedListCommaOrEnd => "expected `,` or `]`"
  | .expectedObjectCommaOrEnd => "expected `,` or `\x7d`"
  | .keyNotString => "key must be a string"
  | .trailingComma => "trailing comma"
  | .trailingCharacters => "trailing characters"
  | .invalidEscape => "invalid escape"
  | .invalidNumber => "invalid number"
  | .numberOutOfRange => "number out of range"
  | .invalidCodePoint => "invalid unicode code point"
  | .loneSurrogate => "lone leading surrogate in hex escape"
  | .unexpectedEndOfHexEscape => "unexpected end of hex escape"
  | .controlCharacter =>
      "control character (\\u0000-\\u001F) found while parsing a string"
  | .recursionLimit => "recursion limit exceeded"

/-- A line, counted from one, and the number of bytes before a place on it. -/
structure Position where
  line : Nat
  column : Nat
  deriving DecidableEq, Repr

def Position.after (bytes : List UInt8) : Position :=
  bytes.foldl
    (fun position byte =>
      if byte = 10 then ⟨position.line + 1, 0⟩ else { position with column := position.column + 1 })
    ⟨1, 0⟩

def Position.message (position : Position) : String :=
  " at line " ++ toString position.line ++ " column " ++ toString position.column

end StoryGrammar.Json
