import StoryGrammar.Rule
import StoryGrammar.Table
import StoryGrammar.Text.Natural
import StoryGrammar.Unicode.LetterCase

set_option autoImplicit false

/-!
# Modifiers

A modifier transforms the text a reference expanded to. The built-in ones inflect English words;
any other function of the text, its arguments and the generator can be registered beside them.
-/

namespace StoryGrammar

structure Modifier where
  name : String
  detailed : String
  apply : String → List String → Sampled String

namespace Modifier

/-! ## Inflections -/

def isVowel (character : Char) : Bool :=
  ['a', 'e', 'i', 'o', 'u', 'A', 'E', 'I', 'O', 'U'].contains character

def capitalizeFirst : List Char → List Char
  | [] => []
  | first :: rest => Unicode.upperCase first ++ rest

def capitalizeAll (text : List Char) : List Char :=
  text.flatMap Unicode.upperCase

def endsWithConsonant (text : List Char) : Bool :=
  text.getLast?.any fun last => !isVowel last

/-- The regular plural: `box` gives `boxes`, `city` gives `cities` and `day` gives `days`. -/
def pluralize (text : List Char) : List Char :=
  match text.getLast? with
  | none => []
  | some last =>
      if last = 's' ∨ last = 'h' ∨ last = 'x' then text ++ ['e', 's']
      else if last = 'y' ∧ endsWithConsonant text.dropLast then text.dropLast ++ ['i', 'e', 's']
      else text ++ ['s']

/-- The regular past tense: `bake` gives `baked`, `cry` gives `cried` and `fold` gives
`folded`. -/
def pastTense (text : List Char) : List Char :=
  match text.getLast? with
  | none => []
  | some last =>
      if last = 'e' then text ++ ['d']
      else if last = 'y' ∧ endsWithConsonant text.dropLast then text.dropLast ++ ['i', 'e', 'd']
      else text ++ ['e', 'd']

def withArticle (text : List Char) : List Char :=
  match text with
  | [] => []
  | first :: _ => if isVowel first then 'a' :: 'n' :: ' ' :: text else 'a' :: ' ' :: text

/-! ## Keeping a text by chance -/

def chance (modifier : String) (arguments : List String) : Except GrammarError Nat :=
  match arguments with
  | [] => .ok 50
  | [argument] =>
      match Text.natural? UInt32.size argument with
      | some value =>
          if value ≤ 100 then .ok value else .error (invalid argument)
      | none => .error (invalid argument)
  | _ =>
      .error (.invalidModifierArgument modifier
        ("expected at most one argument, got " ++ toString arguments.length))
where
  invalid (argument : String) : GrammarError :=
    .invalidModifierArgument modifier
      ("expected a percentage between 0 and 100, got '" ++ argument ++ "'")

def keepByChance (modifier text : String) (arguments : List String) : Sampled String := do
  let percentage ← chance modifier arguments
  let place ← Random.below32 100
  return if place < percentage then text else ""

/-! ## The built-in modifiers -/

def ofInflection (name detailed : String) (inflect : List Char → List Char) : Modifier where
  name
  detailed
  apply text _ := return String.ofList (inflect text.toList)

def identity : Modifier :=
  ofInflection "identity" "Identity" id

def optional : Modifier where
  name := "optional"
  detailed := "Optional"
  apply := keepByChance "optional"

def ofFunction (name : String) (function : String → String) : Modifier where
  name
  detailed := detailedRecord "FnModifier" [("name", Text.quoted name)]
  apply text _ := return function text

def builtIn : List (String × Modifier) :=
  [("identity", identity),
    ("capitalizeFirst", ofInflection "capitalizeFirst" "CapitalizeFirst" capitalizeFirst),
    ("capitalize", ofInflection "capitalizeFirst" "CapitalizeFirst" capitalizeFirst),
    ("capitalizeAll", ofInflection "capitalizeAll" "CapitalizeAll" capitalizeAll),
    ("uppercase", ofInflection "capitalizeAll" "CapitalizeAll" capitalizeAll),
    ("pluralize", ofInflection "pluralize" "Pluralize" pluralize),
    ("s", ofInflection "pluralize" "Pluralize" pluralize),
    ("articleA", ofInflection "articleA" "IndefiniteArticle" withArticle),
    ("a", ofInflection "articleA" "IndefiniteArticle" withArticle),
    ("ed", ofInflection "ed" "PastTense" pastTense),
    ("optional", optional)]

end Modifier

abbrev ModifierTable := Table Modifier

namespace ModifierTable

def withBuiltIn (table : ModifierTable) : ModifierTable :=
  Modifier.builtIn.foldl (fun table entry => table.insert entry.1 entry.2) table

def builtIn : ModifierTable :=
  withBuiltIn Table.empty

end ModifierTable

end StoryGrammar
