import StoryGrammar.Grammar.Draft

set_option autoImplicit false

/-!
# Operations on grammars

The public operations as data, what a grammar answers to them, and the grammars that they lead to.
An operation that fails leads to a grammar too: the one it leaves behind.
-/

namespace StoryGrammar

inductive Operation where
  | load (text : String)
  | loadBytes (bytes : List UInt8)
  | define (symbol : String) (sources : List String)
  | defineWeighted (symbol : String) (sources : List (String × UInt32))
  | expand (symbol : String)
  | generate
  | flatten (text : String)
  | setSeed (seed : UInt64)
  | setGenerator (generator : Random.Generator)
  | setConfig (config : Config)
  | register (name : String) (modifier : Modifier)
  | fork (seed : UInt64)

/-- The answer to an operation: an error, or success with the text of an expansion. -/
abbrev Reply := Except GrammarError (Option String)

namespace Grammar

def settled (outcome : Except GrammarError Unit × Grammar) : Option (Reply × Grammar) :=
  some (outcome.1.map fun _ => none, outcome.2)

def answered (outcome : Option (Except GrammarError String × Grammar)) :
    Option (Reply × Grammar) :=
  outcome.map fun (result, grammar) => (result.map some, grammar)

/-- Performs an operation. A fork takes the place of the grammar it was made from. -/
def perform (grammar : Grammar) : Operation → Option (Reply × Grammar)
  | .load text => settled (grammar.load text)
  | .loadBytes bytes => settled (grammar.loadBytes bytes)
  | .define symbol sources => settled (grammar.define symbol sources)
  | .defineWeighted symbol sources => settled (grammar.defineWeighted symbol sources)
  | .expand symbol => answered (grammar.expand symbol)
  | .generate => answered grammar.generate
  | .flatten text => answered (grammar.flatten text)
  | .setSeed seed => some (.ok none, grammar.setSeed seed)
  | .setGenerator generator => some (.ok none, grammar.setGenerator generator)
  | .setConfig config => some (.ok none, grammar.setConfig config)
  | .register name modifier => some (.ok none, grammar.register name modifier)
  | .fork seed => some (.ok none, grammar.fork seed)

/-- A run: operations in order with the answers to them, from one grammar to another. -/
inductive Run : Grammar → List (Operation × Reply) → Grammar → Prop where
  | start {grammar : Grammar} : Run grammar [] grammar
  | step {grammar middle after : Grammar} {operation : Operation} {reply : Reply}
      {history : List (Operation × Reply)} :
      grammar.perform operation = some (reply, middle) → Run middle history after →
      Run grammar ((operation, reply) :: history) after

/-- The grammars that a program can hold: those without rules, those made from drafts, and what
operations make of them. -/
inductive Reachable : Grammar → Prop where
  | empty (generator : Random.Generator) : Reachable (.empty generator)
  | drafted {generator : Random.Generator} {steps : List GrammarDraft.Step} {grammar : Grammar} :
      (steps.foldl GrammarDraft.apply (.start generator)).finish = .ok grammar →
      Reachable grammar
  | performed {grammar after : Grammar} {operation : Operation} {reply : Reply} :
      Reachable grammar → grammar.perform operation = some (reply, after) → Reachable after

end Grammar

namespace GrammarDraft

def operation (draft : GrammarDraft) : Step → Operation
  | .seed seed => .setSeed seed
  | .generator generator => .setGenerator generator
  | .config config => .setConfig config
  | .maxDepth maxDepth => .setConfig (limitDepth maxDepth draft.grammar).config
  | .rule symbol sources => .define symbol sources
  | .json text => .load text
  | .modifier name modifier => .register name modifier

theorem attempt_grammar (draft : GrammarDraft)
    (step : Grammar → Except GrammarError Unit × Grammar) :
    (draft.attempt step).grammar = (step draft.grammar).2 := by
  unfold attempt
  split <;> simp_all

theorem perform_operation (draft : GrammarDraft) (step : Step) :
    ∃ reply, draft.grammar.perform (draft.operation step) =
      some (reply, (draft.apply step).grammar) := by
  cases step with
  | rule symbol sources =>
      exact ⟨_, by simp only [apply, attempt_grammar]; rfl⟩
  | json text =>
      exact ⟨_, by simp only [apply, attempt_grammar]; rfl⟩
  | seed | generator | config | maxDepth | modifier => exact ⟨_, rfl⟩

theorem finish_eq_ok {draft : GrammarDraft} {grammar : Grammar}
    (finished : draft.finish = .ok grammar) : draft.grammar = grammar := by
  unfold finish at finished
  split at finished
  · cases finished
  · exact Except.ok.inj finished

end GrammarDraft

namespace Grammar

/-- What holds of grammars without rules and is kept by every operation holds of every grammar that
a program can hold. -/
theorem Reachable.invariant {grammar : Grammar} (reachable : grammar.Reachable)
    (Holds : Grammar → Prop) (empty : ∀ generator, Holds (.empty generator))
    (kept : ∀ {before after : Grammar} {operation : Operation} {reply : Reply},
      before.perform operation = some (reply, after) → Holds before → Holds after) :
    Holds grammar := by
  induction reachable with
  | empty generator => exact empty generator
  | @drafted generator steps grammar finished =>
      rw [← GrammarDraft.finish_eq_ok finished]
      suffices held : ∀ draft : GrammarDraft, Holds draft.grammar →
          Holds (steps.foldl GrammarDraft.apply draft).grammar from held _ (empty generator)
      clear finished
      induction steps with
      | nil => exact fun draft holds => holds
      | cons step steps ih =>
          intro draft holds
          obtain ⟨reply, performed⟩ := draft.perform_operation step
          exact ih _ (kept performed holds)
  | performed _ performed ih => exact kept performed ih

end Grammar

end StoryGrammar
