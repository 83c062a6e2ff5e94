import StoryGrammar.Proofs.Loading
import StoryGrammar.Proofs.Operation
import StoryGrammar.Proofs.Refinement

set_option autoImplicit false

/-!
# What an operation changes

There are three ways an operation can go: it installs rules, every one of which may become a base
rule; it fails to and changes nothing; or it is not meant to and leaves the rules alone.
-/

namespace StoryGrammar

/-- The rules that an operation is to install, if that is what it does: those of a document or that
of one symbol. There is an error where they could not be made. -/
def Operation.definitions :
    Operation → Option (Except GrammarError (List (String × List Production)))
  | .load text => some ((Document.parse text).map (·.rules))
  | .loadBytes bytes => some ((Document.read bytes).map (·.rules))
  | .define symbol sources =>
      some ((sources.mapM Production.plain).map fun productions => [(symbol, productions)])
  | .defineWeighted symbol sources =>
      some ((sources.mapM Production.weighted).map fun productions => [(symbol, productions)])
  | _ => none

namespace Grammar

inductive Installs (grammar : Grammar) :
    Except GrammarError (List (String × List Production)) → Except GrammarError Unit → Grammar →
      Prop where
  | installed {entries : List (String × List Production)} :
      Installable entries →
      Installs grammar (.ok entries) (.ok ()) { grammar with rules := grammar.rules.withRules entries }
  | refused {definitions : Except GrammarError (List (String × List Production))}
      {error : GrammarError} :
      Installs grammar definitions (.error error) grammar

theorem installable_of_ofBytes {arrival : Json.Arrival} {bytes : List UInt8} {document : Document}
    (read : Document.ofBytes arrival bytes = .ok document) : Installable document.rules := by
  obtain ⟨value, -, made⟩ := Document.ofBytes_eq_ok_iff.mp read
  exact Document.installable_of_ofValue made

theorem authored_of_mapM {α : Type} {sources : List α} (text : α → String) (weight : α → UInt32)
    {productions : List Production}
    (made : sources.mapM (fun source => Production.ofSource (text source) (weight source)) =
      .ok productions) : Authored productions := by
  intro production member
  obtain ⟨source, -, origin⟩ := exists_of_mem_mapM made member
  exact (Production.ofSource_eq_ok origin).2.2

theorem installRead_of_installable (grammar : Grammar) {document : Document}
    (installable : Installable document.rules) :
    grammar.installRead (.ok document) =
      (.ok (), { grammar with rules := grammar.rules.withRules document.rules }) := by
  simp only [installRead, install, ScopedRules.install,
    ScopedRules.defineAll_of_definable installable.definable]

theorem installRead_installs (grammar : Grammar) (document : Except GrammarError Document)
    (installable : ∀ read, document = .ok read → Installable read.rules) :
    grammar.Installs (document.map (·.rules)) (grammar.installRead document).1
      (grammar.installRead document).2 := by
  cases document with
  | error error => exact .refused
  | ok document =>
      have installable := installable document rfl
      rw [grammar.installRead_of_installable installable]
      exact .installed installable

theorem defineProductions_installs (grammar : Grammar) (symbol : String)
    (productions : Except GrammarError (List Production))
    (authored : ∀ made, productions = .ok made → Authored made) :
    grammar.Installs (productions.map fun productions => [(symbol, productions)])
      (grammar.defineProductions symbol productions).1
      (grammar.defineProductions symbol productions).2 := by
  cases productions with
  | error error => exact .refused
  | ok productions =>
      unfold defineProductions
      cases defined : grammar.rules.define symbol productions with
      | error error =>
          simp only [defined]
          exact .refused
      | ok rules =>
          obtain ⟨definable, rfl⟩ := ScopedRules.define_eq_ok_iff.mp defined
          simp only [defined]
          refine .installed ⟨?_, ?_, by simp⟩
          · simpa using definable
          · simpa using authored productions rfl

theorem run_rules {grammar after : Grammar}
    {expansion : ModifierTable → Nat → ExpansionState →
      Option (Except GrammarError String × ExpansionState)}
    {result : Except GrammarError String}
    (leaves : ∀ table limit state result after, expansion table limit state = some (result, after) →
      after.rules = state.rules)
    (outcome : grammar.run expansion = some (result, after)) :
    after = { grammar with generator := after.generator } := by
  obtain ⟨⟨text, state⟩, reached, same⟩ := Option.map_eq_some_iff.mp outcome
  cases same
  have kept := leaves _ _ _ _ _ reached
  simp only at kept
  simp only [kept]

theorem expand_rules {grammar after : Grammar} {symbol : String}
    {result : Except GrammarError String} (outcome : grammar.expand symbol = some (result, after)) :
    after = { grammar with generator := after.generator } := by
  refine run_rules (fun table limit => ?_) outcome
  rw [Expansion.expand_eq]
  exact Expansion.symbolText_leavesRules table limit symbol none 0

theorem flatten_rules {grammar after : Grammar} {text : String}
    {result : Except GrammarError String} (outcome : grammar.flatten text = some (result, after)) :
    after = { grammar with generator := after.generator } := by
  unfold flatten at outcome
  cases parsed : Template.parse text with
  | error error =>
      simp only [parsed, Option.some.injEq, Prod.mk.injEq] at outcome
      rw [← outcome.2]
  | ok template =>
      simp only [parsed] at outcome
      refine run_rules (fun table limit => ?_) outcome
      rw [Expansion.flatten_eq]
      exact Expansion.templateText_leavesRules table limit template 0

inductive Step (grammar : Grammar) (operation : Operation) : Reply → Grammar → Prop where
  | installed {entries : List (String × List Production)} :
      operation.definitions = some (.ok entries) → Installable entries →
      Step grammar operation (.ok none) { grammar with rules := grammar.rules.withRules entries }
  | refused {definitions : Except GrammarError (List (String × List Production))}
      {error : GrammarError} :
      operation.definitions = some definitions → Step grammar operation (.error error) grammar
  | other {reply : Reply} {after : Grammar} :
      operation.definitions = none → after.rules = grammar.rules →
      Step grammar operation reply after

theorem Installs.step {grammar after : Grammar} {operation : Operation} {reply : Reply}
    {definitions : Except GrammarError (List (String × List Production))}
    {outcome : Except GrammarError Unit × Grammar}
    (installs : grammar.Installs definitions outcome.1 outcome.2)
    (defined : operation.definitions = some definitions)
    (performed : settled outcome = some (reply, after)) : grammar.Step operation reply after := by
  cases performed
  generalize outcome.1 = result at installs ⊢
  generalize outcome.2 = left at installs ⊢
  cases installs with
  | installed installable => exact .installed defined installable
  | refused => exact .refused defined

theorem perform_step {grammar after : Grammar} {operation : Operation} {reply : Reply}
    (performed : grammar.perform operation = some (reply, after)) :
    grammar.Step operation reply after := by
  cases operation with
  | load text =>
      have installs := grammar.installRead_installs (Document.parse text) fun _ => installable_of_ofBytes
      exact installs.step rfl performed
  | loadBytes bytes =>
      have installs := grammar.installRead_installs (Document.read bytes) fun _ => installable_of_ofBytes
      exact installs.step rfl performed
  | define symbol sources =>
      have installs := grammar.defineProductions_installs symbol
        (sources.mapM Production.plain) fun _ => authored_of_mapM id fun _ => 1
      exact installs.step rfl performed
  | defineWeighted symbol sources =>
      have installs := grammar.defineProductions_installs symbol
        (sources.mapM Production.weighted) fun _ => authored_of_mapM Prod.fst Prod.snd
      exact installs.step rfl performed
  | expand symbol =>
      obtain ⟨⟨result, left⟩, outcome, same⟩ := Option.map_eq_some_iff.mp performed
      cases same
      exact .other rfl (by rw [expand_rules outcome])
  | generate =>
      obtain ⟨⟨result, left⟩, outcome, same⟩ := Option.map_eq_some_iff.mp performed
      cases same
      exact .other rfl (by rw [expand_rules outcome])
  | flatten text =>
      obtain ⟨⟨result, left⟩, outcome, same⟩ := Option.map_eq_some_iff.mp performed
      cases same
      exact .other rfl (by rw [flatten_rules outcome])
  | setSeed | setGenerator | setConfig | register | fork =>
      cases performed
      exact .other rfl rfl

theorem Reachable.scopes_eq_nil {grammar : Grammar} (reachable : grammar.Reachable) :
    grammar.rules.scopes = [] := by
  refine reachable.invariant (fun grammar => grammar.rules.scopes = []) (fun _ => rfl) ?_
  intro before after operation reply performed none
  cases perform_step performed with
  | installed | refused => exact none
  | other _ same => rw [same, none]

end Grammar

end StoryGrammar
