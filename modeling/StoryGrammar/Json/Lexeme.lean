import StoryGrammar.Json.Error
import StoryGrammar.Json.Value

set_option autoImplicit false

/-!
# JSON lexemes

Strings, numbers and the three identifiers, read from bytes. A reader gives what it read and the
bytes that follow. A failure tells how many bytes follow the place it is reported at, so none of
the readers has to know where it stands in the text.
-/

namespace StoryGrammar.Json

structure Failure where
  fault : Fault
  remaining : Nat
  deriving DecidableEq, Repr

def failBefore {α : Type} (fault : Fault) (bytes : List UInt8) : Except Failure α :=
  .error ⟨fault, bytes.length⟩

def failAtFirst {α : Type} (fault : Fault) (bytes : List UInt8) : Except Failure α :=
  .error ⟨fault, bytes.length - 1⟩

def isBlankByte (byte : UInt8) : Bool :=
  [' ', '\n', '\t', '\r'].contains (Char.ofUInt8 byte)

def skipBlanks (bytes : List UInt8) : List UInt8 :=
  bytes.dropWhile isBlankByte

def readIdentifier : List Char → List UInt8 → Except Failure (List UInt8)
  | [], bytes => .ok bytes
  | _ :: _, [] => failBefore .endInValue []
  | expected :: more, byte :: rest =>
      if Char.ofUInt8 byte = expected then readIdentifier more rest
      else failBefore .expectedIdentifier rest

/-! ## Strings -/

def hexadecimalValue? (byte : UInt8) : Option Nat :=
  let character := Char.ofUInt8 byte
  if '0' ≤ character ∧ character ≤ '9' then some (character.toNat - '0'.toNat)
  else if 'a' ≤ character ∧ character ≤ 'f' then some (character.toNat - 'a'.toNat + 10)
  else if 'A' ≤ character ∧ character ≤ 'F' then some (character.toNat - 'A'.toNat + 10)
  else none

def readUnit : List UInt8 → Except Failure (Nat × List UInt8)
  | a :: b :: c :: d :: rest =>
      match hexadecimalValue? a, hexadecimalValue? b, hexadecimalValue? c, hexadecimalValue? d with
      | some a, some b, some c, some d => .ok (((a * 16 + b) * 16 + c) * 16 + d, rest)
      | _, _, _, _ => failBefore .invalidEscape rest
  | _ => failBefore .endInString []

def isLeadingSurrogate (unit : Nat) : Bool :=
  0xD800 ≤ unit && unit ≤ 0xDBFF

def isTrailingSurrogate (unit : Nat) : Bool :=
  0xDC00 ≤ unit && unit ≤ 0xDFFF

/-- The next byte, which must be the given character of an escape that continues a surrogate
pair. -/
def readPairMark (expected : Char) : List UInt8 → Except Failure (List UInt8)
  | [] => failBefore .endInString []
  | byte :: rest =>
      if Char.ofUInt8 byte = expected then .ok rest
      else failBefore .unexpectedEndOfHexEscape rest

/-- The character that an escape by code spells, after its `u`. Characters beyond 16 bits take a
pair of units. -/
def readCodeEscape (bytes : List UInt8) : Except Failure (Char × List UInt8) := do
  let (unit, rest) ← readUnit bytes
  if isTrailingSurrogate unit then failBefore .loneSurrogate rest
  else if isLeadingSurrogate unit then
    let rest ← readPairMark '\\' rest
    let rest ← readPairMark 'u' rest
    let (second, rest) ← readUnit rest
    if isTrailingSurrogate second then
      return (Char.ofNat (0x10000 + (unit - 0xD800) * 0x400 + (second - 0xDC00)), rest)
    else failBefore .loneSurrogate rest
  else return (Char.ofNat unit, rest)

def readEscape : List UInt8 → Except Failure (Char × List UInt8)
  | [] => failBefore .endInString []
  | byte :: rest =>
      match Char.ofUInt8 byte with
      | '"' => .ok ('"', rest)
      | '\\' => .ok ('\\', rest)
      | '/' => .ok ('/', rest)
      | 'b' => .ok ('\x08', rest)
      | 'f' => .ok ('\x0c', rest)
      | 'n' => .ok ('\n', rest)
      | 'r' => .ok ('\r', rest)
      | 't' => .ok ('\t', rest)
      | 'u' => readCodeEscape rest
      | _ => failBefore .invalidEscape rest

/-- The bytes of a string, newest first, up to its closing quotation mark. Every round consumes a
byte. -/
def collectString : (rounds : Nat) → (collected bytes : List UInt8) →
    Except Failure (List UInt8 × List UInt8)
  | 0, _, bytes => failBefore .endInString bytes
  | _ + 1, _, [] => failBefore .endInString []
  | rounds + 1, collected, byte :: rest =>
      if Char.ofUInt8 byte = '"' then .ok (collected, rest)
      else if Char.ofUInt8 byte = '\\' then do
        let (character, rest) ← readEscape rest
        collectString rounds ((String.utf8EncodeChar character).reverse ++ collected) rest
      else if byte < 32 then failBefore .controlCharacter rest
      else collectString rounds (byte :: collected) rest

/-- The number of bytes from the first that begins no character on. Every round passes a
character. -/
def illFormedLength (bytes : ByteArray) : (rounds start : Nat) → Nat
  | 0, start => bytes.size - start
  | rounds + 1, start =>
      match bytes.utf8DecodeChar? start with
      | some character => illFormedLength bytes rounds (start + character.utf8Size)
      | none => bytes.size - start

/-- The string after its opening quotation mark. Bytes that spell no text are reported after the
first of them, counted back from the end of the string. -/
def readString (bytes : List UInt8) : Except Failure (String × List UInt8) := do
  let (collected, rest) ← collectString (bytes.length + 1) [] bytes
  let written : ByteArray := ⟨collected.reverse.toArray⟩
  match String.fromUTF8? written with
  | some text => return (text, rest)
  | none =>
      throw ⟨.invalidCodePoint, rest.length + illFormedLength written (written.size + 1) 0⟩

/-! ## Numbers -/

/-- How the bytes of a text arrive. When they are streamed, the byte after a number has been taken
from the stream by the time the number turns out to be too large. -/
inductive Arrival where
  | whole
  | streamed
  deriving DecidableEq, Repr

def isDigitByte (byte : UInt8) : Bool :=
  (Char.ofUInt8 byte).isDigit

def digitValue (byte : UInt8) : Nat :=
  byte.toNat - '0'.toNat

/-- Appends digits to a significand for as long as it stays below `2 ^ 64`, and counts them. -/
def absorbDigits (significand used : Nat) : List UInt8 → Nat × Nat
  | [] => (significand, used)
  | digit :: more =>
      let extended := significand * 10 + digitValue digit
      if extended < UInt64.size then absorbDigits extended (used + 1) more else (significand, used)

def floatOrFail (arrival : Arrival) (negative : Bool) (significand : Nat) (power : Int)
    (rest : List UInt8) : Except Failure (Number × List UInt8) :=
  match Float64.ofDecimal? negative significand power with
  | some value => .ok (.float value, rest)
  | none =>
      match arrival with
      | .whole => failBefore .numberOutOfRange rest
      | .streamed => failAtFirst .numberOutOfRange rest

def absorbExponent (exponent : Nat) : List UInt8 → Nat × Bool × List UInt8
  | [] => (exponent, false, [])
  | byte :: rest =>
      if isDigitByte byte then
        let extended := exponent * 10 + digitValue byte
        if extended < Nat.pow 2 31 then absorbExponent extended rest else (exponent, true, rest)
      else (exponent, false, byte :: rest)

def readExponentSign : List UInt8 → Bool × List UInt8
  | [] => (false, [])
  | byte :: rest =>
      match Char.ofUInt8 byte with
      | '+' => (false, rest)
      | '-' => (true, rest)
      | _ => (false, byte :: rest)

def readExponent (arrival : Arrival) (negative : Bool) (significand : Nat) (power : Int)
    (bytes : List UInt8) : Except Failure (Number × List UInt8) :=
  let (small, bytes) := readExponentSign bytes
  match bytes with
  | [] => failBefore .endInValue []
  | byte :: rest =>
      if isDigitByte byte then
        match absorbExponent (digitValue byte) rest with
        | (exponent, false, rest) =>
            floatOrFail arrival negative significand
              (if small then power - exponent else power + exponent) rest
        | (_, true, rest) =>
            if significand ≠ 0 ∧ !small then failBefore .numberOutOfRange rest
            else .ok (.float ⟨negative, 0, Float64.minExponent⟩, rest.dropWhile isDigitByte)
      else failBefore .invalidNumber rest

def readFraction (arrival : Arrival) (negative : Bool) (significand ignored : Nat)
    (bytes : List UInt8) : Except Failure (Number × List UInt8) :=
  let digits := bytes.takeWhile isDigitByte
  let rest := bytes.dropWhile isDigitByte
  if digits.isEmpty then
    failAtFirst (if rest.isEmpty then .endInValue else .invalidNumber) rest
  else
    let (significand, used) := absorbDigits significand 0 digits
    let power : Int := ignored - used
    match rest with
    | [] => floatOrFail arrival negative significand power []
    | byte :: more =>
        if Char.ofUInt8 byte = 'e' ∨ Char.ofUInt8 byte = 'E' then
          readExponent arrival negative significand power more
        else floatOrFail arrival negative significand power rest

def wholeNumber (negative : Bool) (significand : Nat) : Number :=
  if !negative then .integer significand
  else if 0 < significand ∧ significand ≤ Nat.pow 2 63 then .integer (-significand)
  else
    match Float64.ofDecimal? true significand 0 with
    | some value => .float value
    | none => .integer (-significand)

def readAfterDigits (arrival : Arrival) (negative : Bool) (digits rest : List UInt8) :
    Except Failure (Number × List UInt8) :=
  let (significand, used) := absorbDigits 0 0 digits
  let ignored := digits.length - used
  let whole : Except Failure (Number × List UInt8) :=
    if ignored = 0 then .ok (wholeNumber negative significand, rest)
    else floatOrFail arrival negative significand ignored rest
  match rest with
  | [] => whole
  | byte :: more =>
      match Char.ofUInt8 byte with
      | '.' => readFraction arrival negative significand ignored more
      | 'e' | 'E' => readExponent arrival negative significand ignored more
      | _ => whole

/-- The number after its sign. A zero may not be followed by another digit. -/
def readNumber (arrival : Arrival) (negative : Bool) (bytes : List UInt8) :
    Except Failure (Number × List UInt8) :=
  match bytes with
  | [] => failBefore .endInValue []
  | byte :: rest =>
      if !isDigitByte byte then failBefore .invalidNumber rest
      else if Char.ofUInt8 byte = '0' then
        if (rest.head?.any isDigitByte) then failAtFirst .invalidNumber rest
        else readAfterDigits arrival negative [byte] rest
      else
        readAfterDigits arrival negative (bytes.takeWhile isDigitByte)
          (bytes.dropWhile isDigitByte)

end StoryGrammar.Json
