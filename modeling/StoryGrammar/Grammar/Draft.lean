import StoryGrammar.Grammar

set_option autoImplicit false

/-!
# Drafts of grammars

A draft is a grammar that is put together step by step. The first step that fails is remembered, the
steps after it are still taken, and a draft with a failed step never becomes a grammar.
-/

namespace StoryGrammar

/-- The grammar so far and the error of the first step that failed. -/
structure GrammarDraft where
  grammar : Grammar
  error : Option GrammarError

namespace GrammarDraft

/-- The draft of a grammar without rules that draws from the given generator. -/
def start (generator : Random.Generator) : GrammarDraft :=
  ⟨Grammar.empty generator, none⟩

def change (draft : GrammarDraft) (step : Grammar → Grammar) : GrammarDraft :=
  { draft with grammar := step draft.grammar }

def attempt (draft : GrammarDraft) (step : Grammar → Except GrammarError Unit × Grammar) :
    GrammarDraft :=
  match step draft.grammar with
  | (.ok (), grammar) => { draft with grammar }
  | (.error error, grammar) => ⟨grammar, draft.error.or (some error)⟩

inductive Step where
  | seed (seed : UInt64)
  | generator (generator : Random.Generator)
  | config (config : Config)
  | maxDepth (maxDepth : UInt64)
  | rule (symbol : String) (sources : List String)
  | json (text : String)
  | modifier (name : String) (modifier : Modifier)

/-- Limits the depth, to no more than the greatest depth that has an effect of its own. -/
def limitDepth (maxDepth : UInt64) (grammar : Grammar) : Grammar :=
  grammar.setConfig
    { grammar.config with maxDepth := UInt64.ofNat (min maxDepth.toNat greatestDepthLimit) }

def apply (draft : GrammarDraft) : Step → GrammarDraft
  | .seed seed => draft.change (·.setSeed seed)
  | .generator generator => draft.change (·.setGenerator generator)
  | .config config => draft.change (·.setConfig config)
  | .maxDepth maxDepth => draft.change (limitDepth maxDepth)
  | .rule symbol sources => draft.attempt (·.define symbol sources)
  | .json text => draft.attempt (·.load text)
  | .modifier name modifier => draft.change (·.register name modifier)

def finish (draft : GrammarDraft) : Except GrammarError Grammar :=
  match draft.error with
  | some error => .error error
  | none => .ok draft.grammar

end GrammarDraft

end StoryGrammar
