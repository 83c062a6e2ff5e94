import StoryGrammar.Config
import StoryGrammar.Document
import StoryGrammar.Expansion

set_option autoImplicit false

/-!
# Grammars

A grammar joins base rules, modifiers, settings and a generator. Every operation gives a new
grammar, also one that fails: an expansion may have drawn from the generator by then, and a document
may have been installed in part.
-/

namespace StoryGrammar

/-- Rules, modifiers, settings and the generator to choose productions with. -/
structure Grammar where
  rules : ScopedRules
  modifiers : ModifierTable
  config : Config
  generator : Random.Generator

namespace Grammar

/-- The grammar without rules that draws from the given generator. -/
def empty (generator : Random.Generator) : Grammar :=
  ⟨ScopedRules.empty, ModifierTable.builtIn, Config.default, generator⟩

def ofSeed (seed : UInt64) : Grammar :=
  empty (.ofSeed seed)

/-- Installs all rules of a document, in place of rules of the same symbols. -/
def install (grammar : Grammar) (document : Document) : Except GrammarError Unit × Grammar :=
  let (result, rules) := grammar.rules.install document
  (result, { grammar with rules })

def installRead (grammar : Grammar) (document : Except GrammarError Document) :
    Except GrammarError Unit × Grammar :=
  match document with
  | .ok document => grammar.install document
  | .error error => (.error error, grammar)

def load (grammar : Grammar) (text : String) : Except GrammarError Unit × Grammar :=
  grammar.installRead (Document.parse text)

def loadBytes (grammar : Grammar) (bytes : List UInt8) : Except GrammarError Unit × Grammar :=
  grammar.installRead (Document.read bytes)

/-- Creates or replaces a rule from productions, if they could be made. -/
def defineProductions (grammar : Grammar) (symbol : String)
    (productions : Except GrammarError (List Production)) : Except GrammarError Unit × Grammar :=
  match productions with
  | .error error => (.error error, grammar)
  | .ok productions =>
      match grammar.rules.define symbol productions with
      | .ok rules => (.ok (), { grammar with rules })
      | .error error => (.error error, grammar)

/-- Creates or replaces a rule from the texts of its productions. -/
def define (grammar : Grammar) (symbol : String) (sources : List String) :
    Except GrammarError Unit × Grammar :=
  grammar.defineProductions symbol (sources.mapM Production.plain)

def defineWeighted (grammar : Grammar) (symbol : String) (sources : List (String × UInt32)) :
    Except GrammarError Unit × Grammar :=
  grammar.defineProductions symbol (sources.mapM Production.weighted)

def setGenerator (grammar : Grammar) (generator : Random.Generator) : Grammar :=
  { grammar with generator }

def setSeed (grammar : Grammar) (seed : UInt64) : Grammar :=
  grammar.setGenerator (.ofSeed seed)

def setConfig (grammar : Grammar) (config : Config) : Grammar :=
  { grammar with config }

def register (grammar : Grammar) (name : String) (modifier : Modifier) : Grammar :=
  { grammar with modifiers := grammar.modifiers.insert name modifier }

/-- Runs an expansion with the modifiers and the depth limit of the grammar. -/
def run (grammar : Grammar)
    (expansion : ModifierTable → (limit : Nat) → ExpansionState →
      Option (Except GrammarError String × ExpansionState)) :
    Option (Except GrammarError String × Grammar) :=
  (expansion grammar.modifiers grammar.config.depthLimit
      ⟨grammar.rules, grammar.generator⟩).map fun (result, state) =>
    (result, { grammar with rules := state.rules, generator := state.generator })

def expand (grammar : Grammar) (symbol : String) : Option (Except GrammarError String × Grammar) :=
  grammar.run fun modifiers limit => Expansion.expand modifiers limit symbol

def generate (grammar : Grammar) : Option (Except GrammarError String × Grammar) :=
  grammar.expand grammar.config.startSymbol

def flatten (grammar : Grammar) (text : String) : Option (Except GrammarError String × Grammar) :=
  match Template.parse text with
  | .error error => some (.error (.template error), grammar)
  | .ok template =>
      grammar.run fun modifiers limit => Expansion.flatten modifiers limit template

/-- An independent grammar with the same rules, modifiers and settings whose choices the seed
determines. -/
def fork (grammar : Grammar) (seed : UInt64) : Grammar :=
  grammar.setSeed seed

def toJson (grammar : Grammar) : String :=
  grammar.rules.toJson

def hasSymbol (grammar : Grammar) (symbol : String) : Bool :=
  grammar.rules.contains symbol

def symbols (grammar : Grammar) : List String :=
  grammar.rules.symbols

def quotedNames (names : List String) : String :=
  "[" ++ ", ".intercalate (names.map Text.quoted) ++ "]"

/-- The detailed form of a grammar, which leaves out rules and generator. -/
def detailed (grammar : Grammar) : String :=
  "Grammar \x7b symbols: " ++ quotedNames grammar.symbols ++ ", modifiers: " ++
    quotedNames grammar.modifiers.names ++ ", config: " ++ grammar.config.detailed ++ ", .. \x7d"

end Grammar

end StoryGrammar
