import StoryGrammar.Template.Basic
import StoryGrammar.Text.Quoted

set_option autoImplicit false

/-!
# Template errors

What can be wrong with the text of a template, and where. Why the pattern of a filter is refused is
for the reader of patterns to say, so its words are a parameter of every text about an error.
-/

namespace StoryGrammar

def nestingLimit : Nat :=
  64

inductive TemplateFault where
  | unterminatedReference
  | emptySymbolName
  | unterminatedAction
  | missingActionOperator
  | emptyActionKey
  | emptyModifierName
  | unterminatedFilter
  | invalidFilter
  | danglingEscape
  | unexpectedCharacter (character : Char)
  | tooDeeplyNested
  deriving DecidableEq, Repr

/-- The text of a fault. The given words are those for the pattern of a filter that is refused. -/
def TemplateFault.message (refusal : String) : TemplateFault → String
  | .unterminatedReference => "unterminated reference"
  | .emptySymbolName => "empty symbol name"
  | .unterminatedAction => "unterminated action"
  | .missingActionOperator => "action is missing ':' between key and value"
  | .emptyActionKey => "empty action key"
  | .emptyModifierName => "empty modifier name"
  | .unterminatedFilter => "unterminated filter"
  | .invalidFilter => "invalid filter: " ++ refusal
  | .danglingEscape => "escape character at end of template"
  | .unexpectedCharacter character => "unexpected character '" ++ character.toString ++ "'"
  | .tooDeeplyNested => "actions nested more than " ++ toString nestingLimit ++ " deep"

/-- A malformed template: the fault, the number of characters before the place it is reported at,
and the text of the template. -/
structure TemplateError where
  fault : TemplateFault
  offset : Nat
  template : String
  deriving DecidableEq, Repr

/-- The characters of a filter up to its closing brace. What comes after a backslash closes
nothing. -/
def filterCharacters (escaped : Bool) : List Char → List Char
  | [] => []
  | character :: rest =>
      if !escaped && character == '}' then []
      else character :: filterCharacters (!escaped && character == '\\') rest

/-- The pattern of the filter that begins at the offset of an error. -/
def TemplateError.pattern (error : TemplateError) : String :=
  String.ofList (filterCharacters false (error.template.toList.drop (error.offset + 1)))

/-- What is said of the pattern that an error is about, which is refused in its anchored form. -/
def TemplateError.refusal (refusals : String → String) (error : TemplateError) : String :=
  refusals (Filter.anchored error.pattern)

def TemplateError.message (refusals : String → String) (error : TemplateError) : String :=
  error.fault.message (error.refusal refusals) ++ " at offset " ++ toString error.offset ++
    " in " ++ Text.quoted error.template

end StoryGrammar
