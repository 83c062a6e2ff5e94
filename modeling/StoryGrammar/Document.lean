import StoryGrammar.Json.Writer
import StoryGrammar.ScopedRules

set_option autoImplicit false

/-!
# Grammar documents

A grammar document is a JSON object that maps each symbol to a production or an array of them. A
production is its text, or an object with its text and weight.
-/

namespace StoryGrammar

/-- A production as documents write it: its text alone, or its text and weight. -/
inductive WrittenProduction where
  | plain (text : String)
  | weighted (text : String) (weight : UInt32)
  deriving DecidableEq, Repr

namespace WrittenProduction

def weight? (found : Json.Found) : Except Json.Mismatch UInt32 :=
  (found.natural? 32 "u32").map UInt32.ofNat

/-! ## Within a document -/

/-- Reads the members of a weighted production in the order given. -/
def collectFields (text : Option String) (weight : Option UInt32) :
    List (String × Json.Value) → Except WeightedFault WrittenProduction
  | [] =>
      match text, weight with
      | none, _ => .error (.missingField "text")
      | _, none => .error (.missingField "weight")
      | some text, some weight => .ok (.weighted text weight)
  | (field, value) :: members =>
      if field = "text" then
        match value.found.text? with
        | .ok text => collectFields (some text) weight members
        | .error mismatch => .error (.wrongValue mismatch)
      else if field = "weight" then
        match weight? value.found with
        | .ok weight => collectFields text (some weight) members
        | .error mismatch => .error (.wrongValue mismatch)
      else .error (.unknownField field)

/-- The members of an object in ascending order of their keys, the last of each key. -/
def sortedMembers (members : List (String × Json.Value)) : List (String × Json.Value) :=
  (Table.ofList members).entries

/-- The entry for an item of a symbol's array. -/
def ofItem (symbol : String) (item : Json.Value) : Except GrammarError WrittenProduction :=
  match item with
  | .string text => .ok (.plain text)
  | .object members =>
      match collectFields none none (sortedMembers members) with
      | .ok entry => .ok entry
      | .error fault => .error (.invalidRule symbol (.malformedWeighted fault))
  | other => .error (.invalidRule symbol (.notAProduction other.found))

def production (symbol : String) (entry : WrittenProduction) : Except GrammarError Production :=
  let (source, weight) : String × UInt32 :=
    match entry with
    | .plain text => (text, 1)
    | .weighted text weight => (text, weight)
  if source.isEmpty then .error (.invalidRule symbol .emptyProduction)
  else if weight = 0 then .error (.invalidRule symbol .zeroWeight)
  else Production.ofSource source weight

/-- The entry for a production, with the weight left out where it is one. -/
def ofProduction (production : Production) : WrittenProduction :=
  if production.weight = 1 then .plain production.source
  else .weighted production.source production.weight

def toJson : WrittenProduction → Json.Value
  | .plain text => .string text
  | .weighted text weight =>
      .object [("text", .string text), ("weight", .number (.integer weight.toNat))]

/-! ## On its own -/

inductive ReadError where
  | malformed (error : Json.SyntaxError)
  | noMatch
  deriving DecidableEq, Repr

def ReadError.message : ReadError → String
  | .malformed error => error.message
  | .noMatch => "data did not match any variant of untagged enum ProductionEntry"

/-- The entry that a JSON value is, if it is one. On its own, a weighted production may also be an
array of its text and weight, and no field may be repeated. -/
def ofValue? (value : Json.Value) : Option WrittenProduction :=
  match value with
  | .string text => some (.plain text)
  | .array [text, weight] => fields? text weight
  | .object [("text", text), ("weight", weight)] => fields? text weight
  | .object [("weight", weight), ("text", text)] => fields? text weight
  | _ => none
where
  /-- The entry with the given fields. -/
  fields? (text weight : Json.Value) : Option WrittenProduction :=
    match text.found.text?, weight? weight.found with
    | .ok text, .ok weight => some (.weighted text weight)
    | _, _ => none

/-- The entry that a text spells. A value that is no entry is reported before anything that follows
it. -/
def parse (text : String) : Except ReadError WrittenProduction :=
  let bytes := text.toUTF8.toList
  match Json.readValue .whole bytes with
  | .error failure => .error (.malformed (failure.locate bytes))
  | .ok (value, rest) =>
      match ofValue? value with
      | none => .error .noMatch
      | some entry =>
          match Json.readEnd rest with
          | .ok () => .ok entry
          | .error failure => .error (.malformed (failure.locate bytes))

end WrittenProduction

/-- A validated document: its symbols in ascending order, each with its productions. -/
structure Document where
  rules : List (String × List Production)

namespace Document

/-- The entries that a symbol is mapped to. The shape of all of them is checked before any text. -/
def entries (symbol : String) (value : Json.Value) :
    Except GrammarError (List WrittenProduction) :=
  match value with
  | .string text => .ok [.plain text]
  | .array items => items.mapM (WrittenProduction.ofItem symbol)
  | other => .error (.invalidRule symbol (.notProductions other.found))

/-- The productions that a symbol is mapped to. -/
def productions (symbol : String) (value : Json.Value) : Except GrammarError (List Production) := do
  let entries ← entries symbol value
  if entries.isEmpty then throw (.invalidRule symbol .noProductions)
  entries.mapM (WrittenProduction.production symbol)

def rule (member : String × Json.Value) : Except GrammarError (String × List Production) :=
  if member.1.isEmpty then .error (.invalidGrammar .emptySymbol)
  else (productions member.1 member.2).map fun productions => (member.1, productions)

/-- The document that a JSON value is. Of a repeated key the last value counts, and keys are visited
in ascending order. -/
def ofValue (value : Json.Value) : Except GrammarError Document :=
  match value with
  | .object members => do
      let rules ← (Table.ofList members).entries.mapM rule
      return ⟨rules⟩
  | other => .error (.invalidGrammar (.notAnObject other.found))

def ofBytes (arrival : Json.Arrival) (bytes : List UInt8) : Except GrammarError Document :=
  match Json.parse arrival bytes with
  | .ok value => ofValue value
  | .error error => .error (.invalidGrammar (.malformed error))

def parse (text : String) : Except GrammarError Document :=
  ofBytes .whole text.toUTF8.toList

/-- The document that a stream of bytes spells. -/
def read (bytes : List UInt8) : Except GrammarError Document :=
  ofBytes .streamed bytes

end Document

namespace ScopedRules

/-- Defines rules in order, up to the first that is rejected. The ones before it stay defined. -/
def defineAll (rules : ScopedRules) :
    List (String × List Production) → Except GrammarError Unit × ScopedRules
  | [] => (.ok (), rules)
  | (symbol, productions) :: rest =>
      match rules.define symbol productions with
      | .ok rules => rules.defineAll rest
      | .error error => (.error error, rules)

def install (rules : ScopedRules) (document : Document) :
    Except GrammarError Unit × ScopedRules :=
  rules.defineAll document.rules

def toValue (rules : ScopedRules) : Json.Value :=
  .object (rules.base.entries.map fun (symbol, rule) =>
    (symbol, .array (rule.productions.map fun production =>
      (WrittenProduction.ofProduction production).toJson)))

/-- The base rules as the text of a document. -/
def toJson (rules : ScopedRules) : String :=
  rules.toValue.pretty 0

end ScopedRules

end StoryGrammar
