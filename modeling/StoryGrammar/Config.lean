import StoryGrammar.Json.Typed
import StoryGrammar.Json.Writer

set_option autoImplicit false

/-!
# Configuration

The settings of a grammar and their JSON form: an object whose members may be missing, or an array
of the settings in order that may end early.
-/

namespace StoryGrammar

/-- Configured depths above this one have the same effect as it, so that a grammar that refers to
itself fails before memory runs out. -/
def greatestDepthLimit : Nat :=
  200

/-- The symbol that is expanded by default, and how deep expansions may nest. -/
structure Config where
  startSymbol : String
  maxDepth : UInt64
  deriving DecidableEq, Repr

namespace Config

def default : Config where
  startSymbol := "origin"
  maxDepth := 100

def depthLimit (config : Config) : Nat :=
  min config.maxDepth.toNat greatestDepthLimit

def toValue (config : Config) : Json.Value :=
  .object [("start_symbol", .string config.startSymbol),
    ("max_depth", .number (.integer config.maxDepth.toNat))]

def toJson (config : Config) : String :=
  config.toValue.compact

def detailed (config : Config) : String :=
  "GrammarConfig \x7b start_symbol: " ++ Text.quoted config.startSymbol ++ ", max_depth: " ++
    toString config.maxDepth.toNat ++ " \x7d"

/-! ## Reading -/

structure Given where
  startSymbol : Option String
  maxDepth : Option UInt64
  deriving DecidableEq, Repr

def Given.complete (given : Given) : Config :=
  ⟨given.startSymbol.getD default.startSymbol, given.maxDepth.getD default.maxDepth⟩

def depth? (found : Json.Found) : Except Json.Mismatch UInt64 :=
  (found.natural? 64 "usize").map UInt64.ofNat

open Json

/-- A value in the place of settings that is neither an array nor an object. -/
def settings? (found : Found) : Except Mismatch Unit :=
  match found with
  | .sequence | .map => .ok ()
  | found => .error (.kind found "struct GrammarConfig")

def readArrayEnd (bytes : List UInt8) : Except Failure (List UInt8) :=
  match skipBlanks bytes with
  | [] => failBefore .endInList []
  | byte :: rest =>
      match Char.ofUInt8 byte with
      | ']' => .ok rest
      | ',' =>
          let more := skipBlanks rest
          if (more.head?.map Char.ofUInt8) = some ']' then failAtFirst .trailingComma more
          else failAtFirst .trailingCharacters more
      | _ => failBefore .trailingCharacters rest

/-- Whether an array has a further element, and the bytes from it or from the closing bracket on. A
comma must come before every element but the first. -/
def readElementStart (first : Bool) (bytes : List UInt8) : Except Failure (Bool × List UInt8) :=
  match skipBlanks bytes with
  | [] => failBefore .endInList []
  | byte :: rest =>
      if Char.ofUInt8 byte = ']' then .ok (false, byte :: rest)
      else if first then .ok (true, byte :: rest)
      else if Char.ofUInt8 byte = ',' then
        match skipBlanks rest with
        | [] => failBefore .endInValue []
        | next :: more =>
            if Char.ofUInt8 next = ']' then failBefore .trailingComma more
            else .ok (true, next :: more)
      else failBefore .expectedListCommaOrEnd rest

def readArray (bytes : List UInt8) : Except ShapeFailure (Given × List UInt8) := do
  let (present, rest) ← asShape (readElementStart true bytes)
  if !present then return (⟨none, none⟩, ← asShape (readArrayEnd rest))
  let (startSymbol, rest) ← readExpected Found.text? rest
  let (present, rest) ← asShape (readElementStart false rest)
  if !present then return (⟨some startSymbol, none⟩, ← asShape (readArrayEnd rest))
  let (maxDepth, rest) ← readExpected depth? rest
  return (⟨some startSymbol, some maxDepth⟩, ← asShape (readArrayEnd rest))

def readColon (bytes : List UInt8) : Except Failure (List UInt8) :=
  match skipBlanks bytes with
  | [] => failBefore .endInObject []
  | byte :: rest =>
      if Char.ofUInt8 byte = ':' then .ok rest else failBefore .expectedColon rest

/-- The failure of a repeated field, reported before whatever follows its key, unless that is the
end of the object. -/
def duplicateField (field : String) (bytes : List UInt8) : ShapeFailure :=
  let more := skipBlanks bytes
  let remaining := if (more.head?.map Char.ofUInt8) = some '}' then more.length - 1 else more.length
  ⟨.duplicateField field, remaining⟩

/-- A member of an object after the opening quotation mark of its key. Members other than the
settings are passed over. -/
def readMember (given : Given) (bytes : List UInt8) :
    Except ShapeFailure (Given × List UInt8) := do
  let (field, rest) ← asShape (readString bytes)
  if field = "start_symbol" then
    if given.startSymbol.isSome then throw (duplicateField field rest)
    let (value, rest) ← readExpected Found.text? (← asShape (readColon rest))
    return ({ given with startSymbol := some value }, rest)
  else if field = "max_depth" then
    if given.maxDepth.isSome then throw (duplicateField field rest)
    let (value, rest) ← readExpected depth? (← asShape (readColon rest))
    return ({ given with maxDepth := some value }, rest)
  else
    return (given, ← asShape (do passValue (← readColon rest)))

/-- Whether an object has a further member, and the bytes after the opening quotation mark of its
key or after the closing brace. A comma must come before every member but the first. -/
def readMemberStart (first : Bool) (bytes : List UInt8) : Except Failure (Bool × List UInt8) :=
  match skipBlanks bytes with
  | [] => failBefore .endInObject []
  | byte :: rest =>
      match Char.ofUInt8 byte with
      | '}' => .ok (false, rest)
      | '"' => if first then .ok (true, rest) else failBefore .expectedObjectCommaOrEnd rest
      | ',' =>
          if first then failBefore .keyNotString rest
          else
            match skipBlanks rest with
            | [] => failBefore .endInValue []
            | next :: more =>
                match Char.ofUInt8 next with
                | '"' => .ok (true, more)
                | '}' => failBefore .trailingComma more
                | _ => failBefore .keyNotString more
      | _ => failBefore (if first then .keyNotString else .expectedObjectCommaOrEnd) rest

/-- The settings in an object after its opening brace. Every round reads a member. -/
def readObject (first : Bool) (given : Given) :
    (rounds : Nat) → List UInt8 → Except ShapeFailure (Given × List UInt8)
  | 0, bytes => .error ⟨.ill .endInObject, bytes.length⟩
  | rounds + 1, bytes => do
      let (present, rest) ← asShape (readMemberStart first bytes)
      if !present then return (given, rest)
      let (given, rest) ← readMember given rest
      readObject false given rounds rest

def readGiven (bytes : List UInt8) : Except ShapeFailure (Given × List UInt8) :=
  match skipBlanks bytes with
  | [] => asShape (failBefore .endInValue [])
  | byte :: rest =>
      match Char.ofUInt8 byte with
      | '[' => readArray rest
      | '{' => readObject true ⟨none, none⟩ (rest.length + 1) rest
      | _ => do
          let ((), rest) ← readExpected settings? (byte :: rest)
          return (⟨none, none⟩, rest)

structure ReadError where
  fault : ShapeFault
  position : Position
  deriving DecidableEq, Repr

def ReadError.message (error : ReadError) : String :=
  error.fault.message ++ error.position.message

def parse (text : String) : Except ReadError Config :=
  let bytes := text.toUTF8.toList
  let result := do
    let (given, rest) ← readGiven bytes
    asShape (readEnd rest)
    return given.complete
  result.mapError fun failure => ⟨failure.fault, positionBefore bytes failure.remaining⟩

end Config

end StoryGrammar
