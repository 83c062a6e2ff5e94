import StoryGrammar.Proofs.Definition

set_option autoImplicit false

/-!
# The format of documents

Which JSON objects are grammar documents, and which fault is reported of one that is not. An object
counts only by the value that each of its keys has, so neither the order of its members matters nor
what a repeated key had before its last value.
-/

namespace StoryGrammar

/-! ## Objects -/

/-- The value of a key in an object: the last one that is written for it. -/
def Json.valueOf? (members : List (String × Json.Value)) (key : String) : Option Json.Value :=
  members.reverse.lookup key

/-- The fault of the least key that has one. -/
def LeastFault {α Error : Type} (value? : String → Option α) (Fits : String → α → Prop)
    (Fault : String → α → Error → Prop) (error : Error) : Prop :=
  ∃ key value, value? key = some value ∧ Fault key value error ∧
    ∀ lesser other, lesser < key → value? lesser = some other → Fits lesser other

/-! ## Productions -/

namespace WrittenProduction

def text : WrittenProduction → String
  | .plain text => text
  | .weighted text _ => text

/-- A text alone counts once. -/
def weight : WrittenProduction → UInt32
  | .plain _ => 1
  | .weighted _ weight => weight

/-- A field of a weighted production with a value of its kind. A weight is a whole number of 32
bits. -/
inductive FieldFits : String → Json.Value → Prop where
  | text (text : String) : FieldFits "text" (.string text)
  | weight (weight : UInt32) : FieldFits "weight" (.number (.integer weight.toNat))

inductive FieldFault : String → Json.Value → WeightedFault → Prop where
  | unknown {field : String} {value : Json.Value} :
      field ≠ "text" → field ≠ "weight" → FieldFault field value (.unknownField field)
  | textKind {value : Json.Value} :
      (∀ text, value ≠ .string text) →
      FieldFault "text" value (.wrongValue (.kind value.found "a string"))
  | weightKind {value : Json.Value} :
      (∀ number, value ≠ .number (.integer number)) →
      FieldFault "weight" value (.wrongValue (.kind value.found "u32"))
  | weightRange {number : Int} :
      ¬(0 ≤ number ∧ number ≤ 4294967295) →
      FieldFault "weight" (.number (.integer number))
        (.wrongValue (.range (.number (.integer number)) "u32"))

/-- What is wrong with the fields of a weighted production. A field that does not fit comes before
one that is missing, and the text before the weight. -/
inductive FieldsFault (value? : String → Option Json.Value) : WeightedFault → Prop where
  | unfit {fault : WeightedFault} :
      LeastFault value? FieldFits FieldFault fault → FieldsFault value? fault
  | textMissing :
      (∀ field value, value? field = some value → FieldFits field value) →
      value? "text" = none → FieldsFault value? (.missingField "text")
  | weightMissing {text : Json.Value} :
      (∀ field value, value? field = some value → FieldFits field value) →
      value? "text" = some text → value? "weight" = none →
      FieldsFault value? (.missingField "weight")

/-- How an item of an array writes a production: as its text, or as an object of exactly its text
and weight. -/
inductive WrittenAs : Json.Value → WrittenProduction → Prop where
  | plain (text : String) : WrittenAs (.string text) (.plain text)
  | weighted {members : List (String × Json.Value)} {text : String} {weight : UInt32} :
      (∀ field, Json.valueOf? members field =
        if field = "text" then some (.string text)
        else if field = "weight" then some (.number (.integer weight.toNat))
        else none) →
      WrittenAs (.object members) (.weighted text weight)

/-- What is wrong with the shape of an item. -/
inductive ShapeFault : Json.Value → RuleFault → Prop where
  | kind {item : Json.Value} :
      (∀ text, item ≠ .string text) → (∀ members, item ≠ .object members) →
      ShapeFault item (.notAProduction item.found)
  | fields {members : List (String × Json.Value)} {fault : WeightedFault} :
      FieldsFault (Json.valueOf? members) fault →
      ShapeFault (.object members) (.malformedWeighted fault)

/-- A written production makes one where it has a text, a weight, and the text is a template. -/
structure Makes (entry : WrittenProduction) (production : Production) : Prop where
  source : production.source = entry.text
  weight : production.weight = entry.weight
  written : entry.text ≠ ""
  weighted : entry.weight ≠ 0
  read : Template.parse entry.text = .ok production.template

/-- Why a written production of a symbol makes none. -/
inductive MakingFault (symbol : String) (entry : WrittenProduction) : GrammarError → Prop where
  | empty :
      entry.text = "" → MakingFault symbol entry (.invalidRule symbol .emptyProduction)
  | weightless :
      entry.text ≠ "" → entry.weight = 0 →
      MakingFault symbol entry (.invalidRule symbol .zeroWeight)
  | malformed {error : TemplateError} :
      entry.text ≠ "" → entry.weight ≠ 0 → Template.parse entry.text = .error error →
      MakingFault symbol entry (.template error)

end WrittenProduction

/-! ## Documents -/

namespace Document

/-- The written productions of a value: one text, or an array of items. -/
inductive Lists : Json.Value → List WrittenProduction → Prop where
  | text (text : String) : Lists (.string text) [.plain text]
  | array {items : List Json.Value} {entries : List WrittenProduction} :
      List.Forall₂ WrittenProduction.WrittenAs items entries → Lists (.array items) entries

/-- A value gives the productions that it lists, in order and at least one. -/
def Gives (value : Json.Value) (productions : List Production) : Prop :=
  ∃ entries, Lists value entries ∧ entries ≠ [] ∧
    List.Forall₂ WrittenProduction.Makes entries productions

/-- Why a value lists no written productions. -/
inductive ListingFault (symbol : String) : Json.Value → GrammarError → Prop where
  | kind {value : Json.Value} :
      (∀ text, value ≠ .string text) → (∀ items, value ≠ .array items) →
      ListingFault symbol value (.invalidRule symbol (.notProductions value.found))
  | item {items : List Json.Value} {fault : RuleFault} :
      FirstFault (fun item => ∃ entry, WrittenProduction.WrittenAs item entry)
        WrittenProduction.ShapeFault items fault →
      ListingFault symbol (.array items) (.invalidRule symbol fault)

/-- What is wrong with the value of a symbol. The shape of every item comes before the rest. -/
inductive ValueFault (symbol : String) : Json.Value → GrammarError → Prop where
  | listing {value : Json.Value} {error : GrammarError} :
      ListingFault symbol value error → ValueFault symbol value error
  | empty : ValueFault symbol (.array []) (.invalidRule symbol .noProductions)
  | entry {value : Json.Value} {entries : List WrittenProduction} {error : GrammarError} :
      Lists value entries →
      FirstFault (fun entry => ∃ production, WrittenProduction.Makes entry production)
        (WrittenProduction.MakingFault symbol) entries error →
      ValueFault symbol value error

/-- A key with a value that the format admits. -/
def Admits (key : String) (value : Json.Value) : Prop :=
  key ≠ "" ∧ ∃ productions, Gives value productions

inductive KeyFault (key : String) (value : Json.Value) : GrammarError → Prop where
  | unnamed : key = "" → KeyFault key value (.invalidGrammar .emptySymbol)
  | value {error : GrammarError} :
      key ≠ "" → ValueFault key value error → KeyFault key value error

/-- A document has a rule for every key of an object, with the productions that its value gives. -/
structure Describes (value? : String → Option Json.Value) (document : Document) : Prop where
  ascending : document.rules.Pairwise fun earlier later => earlier.1 < later.1
  named : value? "" = none
  listed : ∀ key, Option.Rel Gives (value? key) (document.rules.lookup key)

end Document

end StoryGrammar
