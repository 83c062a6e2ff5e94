import StoryGrammar.Json.Reader

set_option autoImplicit false

/-!
# Reading JSON of a known shape

Readers for a text or a number in a known place, which report a value of another kind where it
stands, and a reader that passes over a value whatever it is. A value that is passed over is checked
less closely: it may nest to any depth, its numbers may be of any size and its escapes may spell
lone surrogates.
-/

namespace StoryGrammar.Json

inductive ShapeFault where
  | ill (fault : Fault)
  | wrongValue (mismatch : Mismatch)
  | duplicateField (field : String)
  deriving DecidableEq, Repr

def ShapeFault.message : ShapeFault → String
  | .ill fault => fault.message
  | .wrongValue mismatch => mismatch.message
  | .duplicateField field => "duplicate field `" ++ field ++ "`"

/-- A fault and the number of bytes after the place it is reported at. -/
structure ShapeFailure where
  fault : ShapeFault
  remaining : Nat
  deriving DecidableEq, Repr

def Failure.asShape (failure : Failure) : ShapeFailure :=
  ⟨.ill failure.fault, failure.remaining⟩

def asShape {α : Type} (result : Except Failure α) : Except ShapeFailure α :=
  result.mapError Failure.asShape

/-- What value begins the bytes. A scalar is read whole; of an array or object nothing is. -/
def readFound (bytes : List UInt8) : Except Failure (Found × List UInt8) :=
  match skipBlanks bytes with
  | [] => failBefore .endInValue []
  | byte :: rest =>
      match Char.ofUInt8 byte with
      | 'n' => do return (.null, ← readIdentifier ['u', 'l', 'l'] rest)
      | 't' => do return (.boolean true, ← readIdentifier ['r', 'u', 'e'] rest)
      | 'f' => do return (.boolean false, ← readIdentifier ['a', 'l', 's', 'e'] rest)
      | '-' => do
          let (number, rest) ← readNumber .whole true rest
          return (.number number, rest)
      | '"' => do
          let (text, rest) ← readString rest
          return (.string text, rest)
      | '[' => .ok (.sequence, byte :: rest)
      | '{' => .ok (.map, byte :: rest)
      | _ =>
          if isDigitByte byte then do
            let (number, rest) ← readNumber .whole false (byte :: rest)
            return (.number number, rest)
          else failBefore .expectedValue rest

/-- The value at the start of the bytes, converted to what is expected in its place. -/
def readExpected {α : Type} (convert : Found → Except Mismatch α) (bytes : List UInt8) :
    Except ShapeFailure (α × List UInt8) := do
  let (found, rest) ← asShape (readFound bytes)
  match convert found with
  | .ok value => return (value, rest)
  | .error mismatch => throw ⟨.wrongValue mismatch, rest.length⟩

/-! ## Passing over values -/

def passString : (rounds : Nat) → List UInt8 → Except Failure (List UInt8)
  | 0, bytes => failBefore .endInString bytes
  | _ + 1, [] => failBefore .endInString []
  | rounds + 1, byte :: rest =>
      if Char.ofUInt8 byte = '"' then .ok rest
      else if Char.ofUInt8 byte = '\\' then
        match rest with
        | [] => failBefore .endInString []
        | escape :: rest =>
            if Char.ofUInt8 escape = 'u' then do
              let (_, rest) ← readUnit rest
              passString rounds rest
            else if ['"', '\\', '/', 'b', 'f', 'n', 'r', 't'].contains (Char.ofUInt8 escape) then
              passString rounds rest
            else failBefore .invalidEscape rest
      else if byte < 32 then failBefore .controlCharacter (byte :: rest)
      else passString rounds rest

def passExponent (bytes : List UInt8) : Except Failure (List UInt8) :=
  match (readExponentSign bytes).2 with
  | [] => failBefore .invalidNumber []
  | byte :: rest =>
      if isDigitByte byte then .ok (rest.dropWhile isDigitByte)
      else failBefore .invalidNumber rest

def passAfterDigits (bytes : List UInt8) : Except Failure (List UInt8) :=
  match bytes with
  | [] => .ok []
  | byte :: rest =>
      match Char.ofUInt8 byte with
      | 'e' | 'E' => passExponent rest
      | '.' =>
          let after := rest.dropWhile isDigitByte
          if after.length = rest.length then failAtFirst .invalidNumber rest
          else
            match after with
            | [] => .ok []
            | mark :: more =>
                if Char.ofUInt8 mark = 'e' ∨ Char.ofUInt8 mark = 'E' then passExponent more
                else .ok after
      | _ => .ok bytes

def passNumber (bytes : List UInt8) : Except Failure (List UInt8) :=
  match bytes with
  | [] => failBefore .invalidNumber []
  | byte :: rest =>
      if !isDigitByte byte then failBefore .invalidNumber rest
      else if Char.ofUInt8 byte = '0' then
        if rest.head?.any isDigitByte then failAtFirst .invalidNumber rest
        else passAfterDigits rest
      else passAfterDigits (rest.dropWhile isDigitByte)

inductive ContainerKind where
  | array
  | object
  deriving DecidableEq, Repr

def ContainerKind.closing : ContainerKind → Char
  | .array => ']'
  | .object => '}'

def ContainerKind.endFault : ContainerKind → Fault
  | .array => .endInList
  | .object => .endInObject

def ContainerKind.commaFault : ContainerKind → Fault
  | .array => .expectedListCommaOrEnd
  | .object => .expectedObjectCommaOrEnd

/-- A value being passed over, within the containers that are open in it, innermost first. -/
inductive Passing where
  | expecting (outer : List ContainerKind)
  | opened (kind : ContainerKind) (outer : List ContainerKind)
  | finished (outer : List ContainerKind)

/-- Passes over what comes before the next value in a container: in an object, a key and its
colon. -/
def passKey (kind : ContainerKind) (outer : List ContainerKind) (bytes : List UInt8) :
    Except Failure (Passing × List UInt8) :=
  match kind with
  | .array => .ok (.expecting (kind :: outer), bytes)
  | .object =>
      match skipBlanks bytes with
      | [] => failBefore .endInObject []
      | byte :: rest =>
          if Char.ofUInt8 byte = '"' then do
            let rest ← passString (rest.length + 1) rest
            match skipBlanks rest with
            | [] => failBefore .endInObject []
            | colon :: more =>
                if Char.ofUInt8 colon = ':' then return (.expecting (kind :: outer), more)
                else failBefore .expectedColon more
          else failBefore .keyNotString rest

def passStart (outer : List ContainerKind) (bytes : List UInt8) :
    Except Failure (Passing × List UInt8) :=
  match skipBlanks bytes with
  | [] => failBefore .endInValue []
  | byte :: rest =>
      match Char.ofUInt8 byte with
      | 'n' => do return (.finished outer, ← readIdentifier ['u', 'l', 'l'] rest)
      | 't' => do return (.finished outer, ← readIdentifier ['r', 'u', 'e'] rest)
      | 'f' => do return (.finished outer, ← readIdentifier ['a', 'l', 's', 'e'] rest)
      | '-' => do return (.finished outer, ← passNumber rest)
      | '"' => do return (.finished outer, ← passString (rest.length + 1) rest)
      | '[' => .ok (.opened .array outer, rest)
      | '{' => .ok (.opened .object outer, rest)
      | _ =>
          if isDigitByte byte then do return (.finished outer, ← passNumber (byte :: rest))
          else failBefore .expectedValue rest

/-- Passes over what follows a value in a container. A comma is due where a value has come
before. -/
def passInside (kind : ContainerKind) (outer : List ContainerKind) (commaDue : Bool)
    (bytes : List UInt8) : Except Failure (Passing × List UInt8) :=
  match skipBlanks bytes with
  | [] => failBefore kind.endFault []
  | byte :: rest =>
      if commaDue && Char.ofUInt8 byte == ',' then passKey kind outer rest
      else if Char.ofUInt8 byte = kind.closing then .ok (.finished outer, rest)
      else if commaDue then failBefore kind.commaFault rest
      else passKey kind outer (byte :: rest)

/-- Passes on for at most the given number of rounds, until no container is open. -/
def Passing.run : (rounds : Nat) → Passing → List UInt8 → Except Failure (List UInt8)
  | _, .finished [], bytes => .ok bytes
  | 0, _, bytes => failBefore .endInValue bytes
  | rounds + 1, .expecting outer, bytes => do
      let (passing, rest) ← passStart outer bytes
      passing.run rounds rest
  | rounds + 1, .opened kind outer, bytes => do
      let (passing, rest) ← passInside kind outer false bytes
      passing.run rounds rest
  | rounds + 1, .finished (kind :: outer), bytes => do
      let (passing, rest) ← passInside kind outer true bytes
      passing.run rounds rest

/-- What is left after a value of any kind. A container takes one round more than it has bytes to
be opened. -/
def passValue (bytes : List UInt8) : Except Failure (List UInt8) :=
  Passing.run (2 * bytes.length + 1) (.expecting []) bytes

end StoryGrammar.Json
