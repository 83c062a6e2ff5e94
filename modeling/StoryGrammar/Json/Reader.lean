import StoryGrammar.Json.Lexeme

set_option autoImplicit false

/-!
# Reading JSON

A value is read with the arrays and objects that are open around it kept as a list, so the depth of
nesting is its length. Every round consumes a byte or finishes, so the number of bytes bounds the
number of rounds.
-/

namespace StoryGrammar.Json

inductive Container where
  | array (items : List Value)
  | object (members : List (String × Value)) (key : String)

def depthLimit : Nat :=
  127

inductive Reading where
  | expecting (outer : List Container)
  | finished (outer : List Container) (value : Value)

def readKey (members : List (String × Value)) (outer : List Container) (bytes : List UInt8) :
    Except Failure (Reading × List UInt8) := do
  let (key, rest) ← readString bytes
  match skipBlanks rest with
  | [] => failBefore .endInObject []
  | byte :: rest =>
      if Char.ofUInt8 byte = ':' then return (.expecting (.object members key :: outer), rest)
      else failBefore .expectedColon rest

def readStart (arrival : Arrival) (outer : List Container) (bytes : List UInt8) :
    Except Failure (Reading × List UInt8) :=
  match skipBlanks bytes with
  | [] => failBefore .endInValue []
  | byte :: rest =>
      match Char.ofUInt8 byte with
      | 'n' => do return (.finished outer .null, ← readIdentifier ['u', 'l', 'l'] rest)
      | 't' => do return (.finished outer (.boolean true), ← readIdentifier ['r', 'u', 'e'] rest)
      | 'f' => do
          return (.finished outer (.boolean false), ← readIdentifier ['a', 'l', 's', 'e'] rest)
      | '-' => do
          let (number, rest) ← readNumber arrival true rest
          return (.finished outer (.number number), rest)
      | '"' => do
          let (text, rest) ← readString rest
          return (.finished outer (.string text), rest)
      | '[' =>
          if outer.length = depthLimit then failBefore .recursionLimit rest
          else
            match skipBlanks rest with
            | [] => failBefore .endInList []
            | first :: more =>
                if Char.ofUInt8 first = ']' then .ok (.finished outer (.array []), more)
                else .ok (.expecting (.array [] :: outer), first :: more)
      | '{' =>
          if outer.length = depthLimit then failBefore .recursionLimit rest
          else
            match skipBlanks rest with
            | [] => failBefore .endInObject []
            | first :: more =>
                match Char.ofUInt8 first with
                | '}' => .ok (.finished outer (.object []), more)
                | '"' => readKey [] outer more
                | _ => failBefore .keyNotString more
      | _ =>
          if isDigitByte byte then do
            let (number, rest) ← readNumber arrival false (byte :: rest)
            return (.finished outer (.number number), rest)
          else failBefore .expectedValue rest

def readAfterItem (items : List Value) (outer : List Container) (bytes : List UInt8) :
    Except Failure (Reading × List UInt8) :=
  match skipBlanks bytes with
  | [] => failBefore .endInList []
  | byte :: rest =>
      match Char.ofUInt8 byte with
      | ']' => .ok (.finished outer (.array items.reverse), rest)
      | ',' =>
          match skipBlanks rest with
          | [] => failBefore .endInValue []
          | first :: more =>
              if Char.ofUInt8 first = ']' then failBefore .trailingComma more
              else .ok (.expecting (.array items :: outer), first :: more)
      | _ => failBefore .expectedListCommaOrEnd rest

def readAfterMember (members : List (String × Value)) (outer : List Container)
    (bytes : List UInt8) : Except Failure (Reading × List UInt8) :=
  match skipBlanks bytes with
  | [] => failBefore .endInObject []
  | byte :: rest =>
      match Char.ofUInt8 byte with
      | '}' => .ok (.finished outer (.object members.reverse), rest)
      | ',' =>
          match skipBlanks rest with
          | [] => failBefore .endInValue []
          | first :: more =>
              match Char.ofUInt8 first with
              | '"' => readKey members outer more
              | '}' => failBefore .trailingComma more
              | _ => failBefore .keyNotString more
      | _ => failBefore .expectedObjectCommaOrEnd rest

/-- Reads on for at most the given number of rounds, until no container is open. -/
def Reading.run (arrival : Arrival) :
    (rounds : Nat) → Reading → List UInt8 → Except Failure (Value × List UInt8)
  | _, .finished [] value, bytes => .ok (value, bytes)
  | 0, _, bytes => failBefore .endInValue bytes
  | rounds + 1, .expecting outer, bytes => do
      let (reading, rest) ← readStart arrival outer bytes
      reading.run arrival rounds rest
  | rounds + 1, .finished (.array items :: outer) value, bytes => do
      let (reading, rest) ← readAfterItem (value :: items) outer bytes
      reading.run arrival rounds rest
  | rounds + 1, .finished (.object members key :: outer) value, bytes => do
      let (reading, rest) ← readAfterMember ((key, value) :: members) outer bytes
      reading.run arrival rounds rest

def readValue (arrival : Arrival) (bytes : List UInt8) : Except Failure (Value × List UInt8) :=
  Reading.run arrival (bytes.length + 1) (.expecting []) bytes

def readEnd (bytes : List UInt8) : Except Failure Unit :=
  match skipBlanks bytes with
  | [] => .ok ()
  | _ :: rest => failBefore .trailingCharacters rest

structure SyntaxError where
  fault : Fault
  position : Position
  deriving DecidableEq, Repr

def SyntaxError.message (error : SyntaxError) : String :=
  error.fault.message ++ error.position.message

def positionBefore (bytes : List UInt8) (remaining : Nat) : Position :=
  Position.after (bytes.take (bytes.length - remaining))

def Failure.locate (failure : Failure) (bytes : List UInt8) : SyntaxError :=
  ⟨failure.fault, positionBefore bytes failure.remaining⟩

def parse (arrival : Arrival) (bytes : List UInt8) : Except SyntaxError Value :=
  let result := do
    let (value, rest) ← readValue arrival bytes
    readEnd rest
    return value
  result.mapError (·.locate bytes)

def parseText (text : String) : Except SyntaxError Value :=
  parse .whole text.toUTF8.toList

end StoryGrammar.Json
