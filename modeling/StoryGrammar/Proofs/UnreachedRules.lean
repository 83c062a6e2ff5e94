import StoryGrammar.Proofs.Comparison
import StoryGrammar.Proofs.History

set_option autoImplicit false

/-!
# Rules that are not reached

An expansion sees no rule but those of the symbols it can reach: the ones it starts from, those that
templates of their rules name, and so on. Rules of other symbols may be there or not, and may change,
without any effect on what it comes to and on the words it draws.
-/

namespace StoryGrammar

theorem OutcomesMatch.eq_of_not_excused {α : Type} {excused : GrammarError → Prop}
    {first second : Option (Except GrammarError α × Random.Generator)}
    (matched : OutcomesMatch Eq excused first second) (unexcused : ∀ error, ¬excused error) :
    first = second := by
  cases matched with
  | endless => rfl
  | success same => rw [same]
  | failure => rfl
  | excused holds => exact absurd holds (unexcused _)

namespace Expansion

variable {names : Set String} {rules rules' : ScopedRules}

theorem not_givesUp (limit : Nat) (error : GrammarError) :
    ¬Environment.GivesUp limit limit error :=
  fun givesUp => Nat.lt_irrefl limit givesUp.1

theorem Request.observed_answer_of_agreeOn
    (agree : Environment.AgreeOn names rules.visible? rules'.visible?) (request : Request)
    (inside : request.Within names) (table : ModifierTable) (limit : Nat)
    (generator : Random.Generator) :
    (request.answer table limit ⟨rules, generator⟩).map observed =
      (request.answer table limit ⟨rules', generator⟩).map observed := by
  have matched := request.evaluations_match table (Nat.le_refl limit) agree inside generator
  rw [observed_answer, observed_answer]
  exact matched.eq_of_not_excused (not_givesUp limit)

end Expansion

/-! ## Definitions of other symbols -/

namespace Grammar

/-- The text or error of an outcome, and the generator after it. -/
def observed (outcome : Except GrammarError String × Grammar) :
    Except GrammarError String × Random.Generator :=
  (outcome.1, outcome.2.generator)

/-- Loads and definitions change nothing but base rules. -/
theorem Run.eq_withBase {start after : Grammar} {history : List (Operation × Reply)}
    (run : Run start history after) (defining : ∀ entry ∈ history, entry.1.defines = true) :
    after = { start with rules := { start.rules with base := after.rules.base } } := by
  induction run with
  | start => rfl
  | step performed _ ih =>
      obtain ⟨first, others⟩ := List.forall_mem_cons.mp defining
      rw [ih others, (perform_step performed).eq_withBase first]

theorem Run.visible?_eq {start after : Grammar} {history : List (Operation × Reply)}
    (run : Run start history after) (defining : ∀ entry ∈ history, entry.1.defines = true)
    {symbol : String} (unnamed : latestNaming symbol history = none) :
    start.rules.visible? symbol = after.rules.visible? symbol := by
  have base := run.ruleGiven symbol
  rw [Grammar.ruleGiven, unnamed] at base
  rw [run.eq_withBase defining, ScopedRules.visible?, ScopedRules.visible?, base]

theorem observed_run {expansion : ModifierTable → Nat → ExpansionState →
      Option (Except GrammarError String × ExpansionState)} (grammar : Grammar) :
    (grammar.run expansion).map observed =
      (expansion grammar.modifiers grammar.config.depthLimit
        ⟨grammar.rules, grammar.generator⟩).map Expansion.observed := by
  rw [run, Option.map_map]
  rfl

section Run

variable {names : Set String} {start after : Grammar} {history : List (Operation × Reply)}

theorem Run.answer_eq (run : Run start history after)
    (defining : ∀ entry ∈ history, entry.1.defines = true)
    (agree : Environment.AgreeOn names start.rules.visible? after.rules.visible?)
    (request : Expansion.Request) (inside : request.Within names) :
    (start.run fun modifiers limit => request.answer modifiers limit).map observed =
      (after.run fun modifiers limit => request.answer modifiers limit).map observed := by
  rw [observed_run, observed_run, request.observed_answer_of_agreeOn agree inside,
    run.eq_withBase defining]

theorem Run.generate_eq (run : Run start history after)
    (defining : ∀ entry ∈ history, entry.1.defines = true)
    (agree : Environment.AgreeOn names start.rules.visible? after.rules.visible?)
    (inside : start.config.startSymbol ∈ names) :
    start.generate.map observed = after.generate.map observed := by
  have configured : after.config = start.config := by rw [run.eq_withBase defining]
  rw [generate, generate, configured]
  exact run.answer_eq defining agree (.symbol start.config.startSymbol) inside

theorem Run.flatten_eq (run : Run start history after)
    (defining : ∀ entry ∈ history, entry.1.defines = true)
    (agree : Environment.AgreeOn names start.rules.visible? after.rules.visible?) (text : String)
    (inside : ∀ template, Template.parse text = .ok template →
      ∀ name ∈ template.names, name ∈ names) :
    (start.flatten text).map observed = (after.flatten text).map observed := by
  rw [flatten, flatten]
  cases parsed : Template.parse text with
  | error error => rw [run.eq_withBase defining]; rfl
  | ok template =>
      exact run.answer_eq defining agree (.template template) (inside template parsed)

end Run

end Grammar

/-- Rules of symbols outside a set do not show in what is expanded within it, where the set is closed
under the names in the templates of its visible rules. Hence no loads and definitions that name only
other symbols change what comes of a grammar, or how many words it draws. -/
theorem unreached_rules_do_not_show :
    (∀ (names : Set String) table limit (rules rules' : ScopedRules) generator,
      Environment.Closed names rules.visible? →
      (∀ symbol ∈ names, rules.visible? symbol = rules'.visible? symbol) →
      (∀ symbol ∈ names,
        (Expansion.expand table limit symbol ⟨rules, generator⟩).map Expansion.observed =
          (Expansion.expand table limit symbol ⟨rules', generator⟩).map Expansion.observed) ∧
      ∀ template : Template, (∀ name ∈ template.names, name ∈ names) →
        (Expansion.flatten table limit template ⟨rules, generator⟩).map Expansion.observed =
          (Expansion.flatten table limit template ⟨rules', generator⟩).map Expansion.observed) ∧
    ∀ (names : Set String) (grammar : Grammar) history after,
      Environment.Closed names grammar.rules.visible? → Grammar.Run grammar history after →
      (∀ entry ∈ history, entry.1.defines = true) →
      (∀ symbol ∈ names, Grammar.latestNaming symbol history = none) →
      (∀ symbol ∈ names,
        (grammar.expand symbol).map Grammar.observed =
          (after.expand symbol).map Grammar.observed) ∧
      (grammar.config.startSymbol ∈ names →
        grammar.generate.map Grammar.observed = after.generate.map Grammar.observed) ∧
      ∀ text, (∀ template, Template.parse text = .ok template →
          ∀ name ∈ template.names, name ∈ names) →
        (grammar.flatten text).map Grammar.observed =
          (after.flatten text).map Grammar.observed := by
  constructor
  · intro names table limit rules rules' generator closed alike
    have agree : Environment.AgreeOn names rules.visible? rules'.visible? := ⟨alike, closed⟩
    constructor
    · intro symbol inside
      exact Expansion.Request.observed_answer_of_agreeOn agree (.symbol symbol) inside table limit
        generator
    · intro template inside
      exact Expansion.Request.observed_answer_of_agreeOn agree (.template template) inside table
        limit generator
  · intro names grammar history after closed run defining unnamed
    have agree : Environment.AgreeOn names grammar.rules.visible? after.rules.visible? :=
      ⟨fun symbol inside => run.visible?_eq defining (unnamed symbol inside), closed⟩
    refine ⟨?_, run.generate_eq defining agree, ?_⟩
    · intro symbol inside
      exact run.answer_eq defining agree (.symbol symbol) inside
    · intro text inside
      exact run.flatten_eq defining agree text inside

/-- A rule for a place, although it names the start symbol, does not show in what comes of that
symbol. -/
theorem place_does_not_show_in_origin :
    ∃ named placed : Grammar,
      (Grammar.empty (.listed [0])).perform (.define "origin" ["Ada"]) = some (.ok none, named) ∧
      named.perform (.define "place" ["#origin#'s house"]) = some (.ok none, placed) ∧
      (Expansion.expand .builtIn 5 "origin" ⟨named.rules, .listed [0]⟩).map Expansion.observed =
        (Expansion.expand .builtIn 5 "origin" ⟨placed.rules, .listed [0]⟩).map
          Expansion.observed ∧
      named.generate.map Grammar.observed = placed.generate.map Grammar.observed ∧
      (named.flatten "#origin#").map Grammar.observed =
        (placed.flatten "#origin#").map Grammar.observed := by
  obtain ⟨ofStores, ofRuns⟩ := unreached_rules_do_not_show
  obtain ⟨named, defined, visible, configured⟩ : ∃ named : Grammar,
      (Grammar.empty (.listed [0])).perform (.define "origin" ["Ada"]) = some (.ok none, named) ∧
      named.rules.visible? "origin" = some ⟨[⟨"Ada", 1, [.literal "Ada"]⟩]⟩ ∧
      named.config.startSymbol = "origin" := ⟨_, rfl, rfl, rfl⟩
  obtain ⟨placed, placing⟩ : ∃ placed, named.perform (.define "place" ["#origin#'s house"]) =
      some (.ok none, placed) := ⟨_, rfl⟩
  have run : Grammar.Run named [(.define "place" ["#origin#'s house"], .ok none)] placed :=
    .step placing .start
  have closed : Environment.Closed {"origin"} named.rules.visible? := by
    rintro symbol rfl rule found production member
    rw [visible] at found
    cases found
    cases List.mem_singleton.mp member
    intro name present
    cases present
  have alike : ∀ symbol ∈ ({"origin"} : Set String),
      named.rules.visible? symbol = placed.rules.visible? symbol := by
    rintro symbol rfl
    exact run.visible?_eq (List.forall_mem_singleton.mpr rfl) rfl
  obtain ⟨-, generated, flattened⟩ := ofRuns {"origin"} named _ placed closed run
    (List.forall_mem_singleton.mpr rfl) (by rintro symbol rfl; rfl)
  refine ⟨named, placed, defined, placing, ?_, generated configured, ?_⟩
  · exact (ofStores {"origin"} .builtIn 5 named.rules placed.rules (.listed [0]) closed alike).1
      "origin" rfl
  · refine flattened "#origin#" fun template parsed name present => ?_
    have read : Template.parse "#origin#" = .ok [.reference [] "origin" none []] := rfl
    rw [read] at parsed
    cases parsed
    exact List.mem_singleton.mp present

end StoryGrammar
