import StoryGrammar.Json.Reader
import StoryGrammar.Template.Error

set_option autoImplicit false

/-!
# Errors

Everything that can go wrong with a grammar, each cause with what is needed to word it.
-/

namespace StoryGrammar

inductive WeightedFault where
  | unknownField (field : String)
  | missingField (field : String)
  | wrongValue (mismatch : Json.Mismatch)
  deriving DecidableEq, Repr

def WeightedFault.message : WeightedFault → String
  | .unknownField field =>
      "unknown field `" ++ field ++ "`, expected `text` or `weight`"
  | .missingField field => "missing field `" ++ field ++ "`"
  | .wrongValue mismatch => mismatch.message

def Json.Found.kindName : Json.Found → String
  | .null => "null"
  | .boolean _ => "a boolean"
  | .number _ => "a number"
  | .string _ => "a string"
  | .sequence => "an array"
  | .map => "an object"

inductive GrammarFault where
  | malformed (error : Json.SyntaxError)
  | notAnObject (found : Json.Found)
  | emptySymbol
  deriving DecidableEq, Repr

def GrammarFault.message : GrammarFault → String
  | .malformed error => "malformed JSON: " ++ error.message
  | .notAnObject found =>
      "expected a JSON object mapping symbols to productions, got " ++ found.kindName
  | .emptySymbol => "symbol name cannot be empty"

inductive RuleFault where
  | emptyProduction
  | noProductions
  | zeroWeight
  | notProductions (found : Json.Found)
  | notAProduction (found : Json.Found)
  | malformedWeighted (fault : WeightedFault)
  deriving DecidableEq, Repr

def RuleFault.message : RuleFault → String
  | .emptyProduction => "production cannot be empty"
  | .noProductions => "production list is empty"
  | .zeroWeight => "production weight must be at least 1"
  | .notProductions found => "expected a string or an array of strings, got " ++ found.kindName
  | .notAProduction found => "productions must be strings, got " ++ found.kindName
  | .malformedWeighted fault => "invalid weighted production: " ++ fault.message

/-- Everything that can go wrong while a grammar is built, loaded or expanded. -/
inductive GrammarError where
  | template (error : TemplateError)
  | unknownSymbol (symbol : String)
  | unknownModifier (name : String)
  | invalidModifierArgument (modifier reason : String)
  | maxDepthExceeded (symbol : String) (limit : Nat)
  | invalidGrammar (fault : GrammarFault)
  | invalidRule (symbol : String) (fault : RuleFault)
  /-- No production of the symbol passes the filter with the given pattern. -/
  | noMatchingProduction (symbol pattern : String)
  /-- All weights to choose by are zero. -/
  | zeroWeights
  | noActiveScope (symbol : String)
  deriving DecidableEq, Repr

/-- What is said of a text that is no regular expression, where nothing better is at hand. -/
def Pattern.briefRefusal (text : String) : String :=
  "not a regular expression: " ++ text

def GrammarError.message (error : GrammarError)
    (refusals : String → String := Pattern.briefRefusal) : String :=
  match error with
  | .template error => "Parse error: " ++ error.message refusals
  | .unknownSymbol symbol => "Unknown symbol: " ++ symbol
  | .unknownModifier name => "Unknown modifier: " ++ name
  | .invalidModifierArgument modifier reason =>
      "Invalid argument for modifier '" ++ modifier ++ "': " ++ reason
  | .maxDepthExceeded symbol limit =>
      "Maximum expansion depth of " ++ toString limit ++ " exceeded while expanding '" ++ symbol ++
        "'"
  | .invalidGrammar fault => "Invalid grammar: " ++ fault.message
  | .invalidRule symbol fault =>
      "Invalid grammar for symbol '" ++ symbol ++ "': " ++ fault.message
  | .noMatchingProduction symbol pattern =>
      "No production of '" ++ symbol ++ "' matches filter \x7b" ++ pattern ++ "\x7d"
  | .zeroWeights => "Invalid production weights: All weights are zero"
  | .noActiveScope symbol => "No active scope to define '" ++ symbol ++ "' in"

/-! ## Detailed form

The form that a program ends with when an error stops it: the cause by name, and its parts in full.
-/

def detailedRecord (name : String) (parts : List (String × String)) : String :=
  name ++ " \x7b " ++
    ", ".intercalate (parts.map fun (part, value) => part ++ ": " ++ value) ++ " \x7d"

def TemplateFault.detailed (refusal : String) : TemplateFault → String
  | .unterminatedReference => "UnterminatedReference"
  | .emptySymbolName => "EmptySymbolName"
  | .unterminatedAction => "UnterminatedAction"
  | .missingActionOperator => "MissingActionOperator"
  | .emptyActionKey => "EmptyActionKey"
  | .emptyModifierName => "EmptyModifierName"
  | .unterminatedFilter => "UnterminatedFilter"
  | .invalidFilter => "InvalidFilter(" ++ Text.quoted refusal ++ ")"
  | .danglingEscape => "DanglingEscape"
  | .unexpectedCharacter character =>
      "UnexpectedCharacter(" ++ Text.quotedCharacter character ++ ")"
  | .tooDeeplyNested => "TooDeeplyNested"

def TemplateError.detailed (refusals : String → String) (error : TemplateError) : String :=
  detailedRecord "ParseError"
    [("kind", error.fault.detailed (error.refusal refusals)), ("offset", toString error.offset),
      ("template", Text.quoted error.template)]

def GrammarError.detailed (refusals : String → String) : GrammarError → String
  | .template error => "Parse(" ++ error.detailed refusals ++ ")"
  | .unknownSymbol symbol => "UnknownSymbol(" ++ Text.quoted symbol ++ ")"
  | .unknownModifier name => "UnknownModifier(" ++ Text.quoted name ++ ")"
  | .invalidModifierArgument modifier reason =>
      detailedRecord "InvalidModifierArgument"
        [("modifier", Text.quoted modifier), ("reason", Text.quoted reason)]
  | .maxDepthExceeded symbol limit =>
      detailedRecord "MaxDepthExceeded"
        [("symbol", Text.quoted symbol), ("limit", toString limit)]
  | .invalidGrammar fault => "InvalidGrammar(" ++ Text.quoted fault.message ++ ")"
  | .invalidRule symbol fault =>
      detailedRecord "InvalidRule"
        [("symbol", Text.quoted symbol), ("reason", Text.quoted fault.message)]
  | .noMatchingProduction symbol pattern =>
      detailedRecord "NoMatchingProduction"
        [("symbol", Text.quoted symbol), ("filter", Text.quoted pattern)]
  | .zeroWeights => "Weights(AllWeightsZero)"
  | .noActiveScope symbol => "NoActiveScope(" ++ Text.quoted symbol ++ ")"

end StoryGrammar
