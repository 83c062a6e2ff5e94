import StoryGrammar.Proofs.Modifier.Chance
import StoryGrammar.Proofs.ProperCalls
import StoryGrammar.Proofs.RoundTrip

set_option autoImplicit false

/-!
# Why expansions fail

On the rules that a grammar can come to have, an expansion fails for one of six reasons, each of
them found at a call that the expansion makes. The other errors are ruled out by what was checked
when rules were made and templates were read.
-/

namespace StoryGrammar

/-! ## Modifiers -/

namespace Modifier

/-- The modifier fails, if at all, because of its arguments. -/
def FailsOnArguments (modifier : Modifier) : Prop :=
  ∀ text arguments generator error left,
    (modifier.apply text arguments).run generator = some (.error error, left) →
    ∃ complaining reason, error = .invalidModifierArgument complaining reason

theorem ofInflection_failsOnArguments (name detailed : String)
    (inflect : List Char → List Char) : (ofInflection name detailed inflect).FailsOnArguments := by
  intro text arguments generator error left failed
  cases failed

theorem optional_failsOnArguments : optional.FailsOnArguments := by
  intro text arguments generator error left failed
  by_cases read : ∃ percentage, Percentage arguments percentage
  · obtain ⟨percentage, given⟩ := read
    obtain ⟨place, kept, -, same, -⟩ := (run_optional_eq_some_iff given).mp failed
    cases same
  · obtain ⟨reason, refused⟩ := run_optional_of_unread (not_exists.mp read)
    rw [refused] at failed
    cases failed
    exact ⟨_, reason, rfl⟩

theorem builtIn_failsOnArguments : ∀ entry ∈ builtIn, entry.2.FailsOnArguments := by
  simp only [builtIn, identity, List.forall_mem_cons, ofInflection_failsOnArguments,
    optional_failsOnArguments, true_and]
  exact fun _ none => nomatch none

end Modifier

namespace ModifierTable

def FailsOnArguments (table : ModifierTable) : Prop :=
  ∀ name modifier, table.find? name = some modifier → modifier.FailsOnArguments

theorem builtIn_failsOnArguments : builtIn.FailsOnArguments := by
  intro name modifier found
  change (Table.insertAll Table.empty Modifier.builtIn).find? name = some modifier at found
  rw [Table.find?_insertAll, Table.find?_empty, Option.or_none] at found
  have member := List.mem_reverse.mp (Table.mem_of_lookup found)
  exact Modifier.builtIn_failsOnArguments _ member

end ModifierTable

namespace Expansion

/-! ## Causes -/

inductive Cause (table : ModifierTable) (limit : Nat) : Activation → GrammarError → Prop where
  | unknownSymbol {symbol : String} {filter : Option Filter} {depth : Nat}
      {state : ExpansionState} :
      symbol ≠ numberSymbol → state.rules.visible? symbol = none →
      Cause table limit ⟨.symbol symbol filter depth, state⟩ (.unknownSymbol symbol)
  | unknownModifier {text : String} {applied : AppliedModifier} {others : List AppliedModifier}
      {state : ExpansionState} :
      table.find? applied.name = none →
      Cause table limit ⟨.modifiers text (applied :: others), state⟩
        (.unknownModifier applied.name)
  | invalidModifierArgument {text : String} {applied : AppliedModifier}
      {others : List AppliedModifier} {state : ExpansionState} {modifier : Modifier}
      {left : Random.Generator} {complaining reason : String} :
      table.find? applied.name = some modifier →
      (modifier.apply text applied.arguments).run state.generator =
        some (.error (.invalidModifierArgument complaining reason), left) →
      Cause table limit ⟨.modifiers text (applied :: others), state⟩
        (.invalidModifierArgument complaining reason)
  | maxDepthExceeded {symbol : String} {filter : Option Filter} {depth : Nat}
      {state : ExpansionState} :
      limit < depth →
      Cause table limit ⟨.symbol symbol filter depth, state⟩ (.maxDepthExceeded symbol limit)
  /-- A reference whose filter accepts no production of the rule that is visible behind its
  actions. -/
  | noMatchingProduction {actions : List Action} {symbol : String} {filter : Filter}
      {modifiers : List AppliedModifier} {depth : Nat} {state after : ExpansionState}
      {rule : Rule} :
      (perform table limit actions depth).run state = some (.ok (), after) →
      after.rules.visible? symbol = some rule →
      (∀ production ∈ rule.productions, filter.accepts production.source = false) →
      Cause table limit ⟨.target actions symbol (some filter) modifiers depth, state⟩
        (.noMatchingProduction symbol filter.pattern)
  /-- An action that only removes. -/
  | nothingLeft {reset : Bool} {key : String} {values : List ActionValue} {rest : List Action}
      {depth : Nat} {state : ExpansionState} :
      values ≠ [] → (∀ value ∈ values, value.operator = .remove) →
      Cause table limit ⟨.actions (.bind reset key values :: rest) depth, state⟩
        (.invalidRule key .noProductions)

variable {table : ModifierTable} {limit : Nat} {depth : Nat}

/-! ## Bindings that are refused -/

theorem ruleOf_eq_error {symbol : String} {productions : List Production} {error : GrammarError}
    (named : symbol ≠ "") (weighted : ∀ production ∈ productions, production.weight ≠ 0)
    (refused : ScopedRules.ruleOf symbol productions = .error error) :
    productions = [] ∧ error = .invalidRule symbol .noProductions := by
  cases productions with
  | nil =>
      rw [ScopedRules.ruleOf, if_neg (fun empty => named (String.isEmpty_iff.mp empty))] at refused
      cases refused
      exact ⟨rfl, rfl⟩
  | cons production others =>
      have made := ScopedRules.ruleOf_eq_ok_iff.mpr
        ⟨named, List.cons_ne_nil production others, weighted, rfl⟩
      rw [made] at refused
      cases refused

theorem bindKey_run_eq_error {action : Action} {values : List (ValueOperator × String)}
    {state after : ExpansionState} {error : GrammarError} (opened : state.rules.scopes ≠ [])
    (refused : (bindKey action values).run state = some (.error error, after)) :
    ScopedRules.ruleOf action.key
      (boundProductions action (state.rules.visible? action.key) values) = .error error := by
  obtain ⟨rules, generator⟩ := state
  have binding := ScopedRules.bind_of_opened opened action.key
    (boundProductions action (rules.visible? action.key) values)
  rw [run_bindKey] at refused
  cases made : ScopedRules.ruleOf action.key
      (boundProductions action (rules.visible? action.key) values) with
  | error fault =>
      simp only [made] at binding
      simp only [binding, Option.some.injEq, Prod.mk.injEq, Except.error.injEq] at refused
      rw [refused.1]
  | ok rule =>
      simp only [made] at binding
      obtain ⟨bound, accepted, -⟩ := binding
      simp [accepted] at refused

theorem removes_of_boundProductions_eq_nil {action : Action} {visible : Option Rule}
    {values : List (ValueOperator × String)} (empty : boundProductions action visible values = []) :
    ∀ value ∈ values, value.1 = .remove := by
  intro value member
  have added := List.filterMap_eq_nil_iff.mp (List.append_eq_nil_iff.mp empty).2 value member
  by_contra kept
  simp [kept] at added

/-! ## From errors to causes -/

/-- The error of a binding has to do with the values of its action alone. -/
theorem cause_of_notBound {reset : Bool} {key : String} {values : List ActionValue}
    {rest : List Action} {state middle after : ExpansionState}
    {texts : List (ValueOperator × String)} {error : GrammarError}
    (proper : Activation.Proper ⟨.actions (.bind reset key values :: rest) depth, state⟩)
    (given : (valueTexts table limit values depth).run state = some (.ok texts, middle))
    (refused : (bindKey (.bind reset key values) texts).run middle = some (.error error, after)) :
    Cause table limit ⟨.actions (.bind reset key values :: rest) depth, state⟩ error := by
  obtain ⟨expandable, canonical, opened⟩ := proper
  have kept := valueTexts_leavesRules _ _ _ _ _ _ _ given
  have opened : middle.rules.scopes ≠ [] := kept ▸ opened (List.cons_ne_nil _ _)
  have expandable : middle.rules.Expandable := kept ▸ expandable
  cases canonical with
  | cons named _ inhabited _ _ =>
      have unmade := bindKey_run_eq_error opened refused
      have sound : ∀ rule, middle.rules.visible? key = some rule → rule.Sound :=
        fun rule visible => (expandable.visible visible).sound
      have weighted := weighted_boundProductions (.bind reset key values) texts sound
      obtain ⟨empty, rfl⟩ := ruleOf_eq_error named.1 weighted unmade
      have removing := removes_of_boundProductions_eq_nil empty
      have operators := operators_valueTexts given
      refine .nothingLeft inhabited fun value member => ?_
      have listed : value.operator ∈ texts.map (·.1) :=
        operators ▸ List.mem_map_of_mem member
      obtain ⟨text, present, same⟩ := List.mem_map.mp listed
      exact same.symm.trans (removing text present)

/-- A symbol that is expanded through a filter is expanded for a reference with that filter. -/
theorem During.target_of_symbol {start : Activation} {symbol : String} {filter : Filter}
    {state : ExpansionState}
    (during : During table limit start ⟨.symbol symbol (some filter) depth, state⟩)
    (unfiltered : ∀ symbol filter depth, start.call ≠ .symbol symbol (some filter) depth) :
    ∃ actions modifiers outer before,
      During table limit start ⟨.target actions symbol (some filter) modifiers outer, before⟩ ∧
        (perform table limit actions outer).run before = some (.ok (), state) := by
  rcases Relation.ReflTransGen.cases_tail during with same | ⟨caller, reached, made⟩
  · exact absurd (congrArg Activation.call same.symm) (unfiltered symbol filter depth)
  · cases made with
    | symbol performed => exact ⟨_, _, _, _, reached, performed⟩

theorem cause_of_noCandidate {start : Activation} {symbol : String} {filter : Option Filter}
    {rules : ScopedRules} {generator left : Random.Generator} {rule : Rule}
    (during : During table limit start ⟨.symbol symbol filter depth, ⟨rules, generator⟩⟩)
    (unfiltered : ∀ symbol filter depth, start.call ≠ .symbol symbol (some filter) depth)
    (sound : rule.Sound) (visible : rules.visible? symbol = some rule)
    (drawn : (rule.draw filter).run generator = some (.ok none, left)) :
    ∃ inner, During table limit start inner ∧
      Cause table limit inner
        (.noMatchingProduction symbol ((filter.map (·.pattern)).getD "")) := by
  rcases sound.draw_cases drawn with ⟨empty, -⟩ | ⟨production, -, same⟩
  · cases filter with
    | none => exact absurd (rule.candidates_none.symm.trans empty) sound.inhabited
    | some filter =>
        obtain ⟨actions, modifiers, outer, before, reached, performed⟩ :=
          during.target_of_symbol unfiltered
        refine ⟨_, reached, .noMatchingProduction performed visible fun production member => ?_⟩
        exact Bool.eq_false_iff.mpr (List.filter_eq_nil_iff.mp empty production member)
  · cases same

theorem RaisedDuring.cause {start : Activation} {error : GrammarError}
    (raised : RaisedDuring table limit start error) (proper : start.Proper)
    (unfiltered : ∀ symbol filter depth, start.call ≠ .symbol symbol (some filter) depth)
    (modifiers : table.FailsOnArguments) :
    ∃ inner, During table limit start inner ∧ Cause table limit inner error := by
  obtain ⟨inner, during, raises⟩ := raised
  have inside := during.proper proper
  cases raises with
  | tooDeep exceeded => exact ⟨_, during, .maxDepthExceeded exceeded⟩
  | unknownSymbol absent other => exact ⟨_, during, .unknownSymbol other absent⟩
  | notDrawn visible failed =>
      have rule := inside.expandable.visible visible
      rcases rule.sound.draw_cases failed with ⟨-, same⟩ | ⟨production, -, same⟩
      · cases same
      · cases same
  | noCandidate visible drawn =>
      have rule := inside.expandable.visible visible
      exact cause_of_noCandidate during unfiltered rule.sound visible drawn
  | notBound given refused => exact ⟨_, during, cause_of_notBound inside given refused⟩
  | unknownModifier missing => exact ⟨_, during, .unknownModifier missing⟩
  | modifierFailed found failed =>
      obtain ⟨complaining, reason, rfl⟩ := modifiers _ _ found _ _ _ _ _ failed
      exact ⟨_, during, .invalidModifierArgument found failed⟩

end Expansion

/-! ## Grammars -/

namespace Grammar

/-- Every base rule was checked when it was defined, and its templates were read. -/
theorem Reachable.expandable {grammar : Grammar} (reachable : grammar.Reachable) :
    grammar.rules.Expandable := by
  rintro symbol rule (atBase | ⟨scope, present, -⟩)
  · obtain ⟨definable, authored⟩ := reachable.redefinable symbol rule atBase
    refine ⟨⟨definable.inhabited, definable.weighted⟩, fun production member => ?_⟩
    have parsed := Production.parse_of_ofSource (authored production member)
    exact (Template.derives_of_parse parsed).canonical.sequence
  · rw [reachable.scopes_eq_nil] at present
    cases present

/-- The call is made on the rules and the generator of the grammar, and during it there is a call
that gives cause for the error. -/
def Explains (grammar : Grammar) (call : Expansion.Call) (error : GrammarError) : Prop :=
  ∃ inner, Expansion.During grammar.modifiers grammar.config.depthLimit
      ⟨call, ⟨grammar.rules, grammar.generator⟩⟩ inner ∧
    Expansion.Cause grammar.modifiers (min grammar.config.maxDepth.toNat 200) inner error

theorem explains_of_run {grammar after : Grammar} {call : Expansion.Call} {error : GrammarError}
    {expansion : ModifierTable → Nat → ExpansionState →
      Option (Except GrammarError String × ExpansionState)}
    (reachable : grammar.Reachable) (modifiers : grammar.modifiers.FailsOnArguments)
    (canonical : call.Canonical) (unbound : ¬call.Binds)
    (unfiltered : ∀ symbol filter depth, call ≠ .symbol symbol (some filter) depth)
    (raised : ∀ state left,
      expansion grammar.modifiers grammar.config.depthLimit state = some (.error error, left) →
      Expansion.RaisedDuring grammar.modifiers grammar.config.depthLimit ⟨call, state⟩ error)
    (failed : grammar.run expansion = some (.error error, after)) :
    grammar.Explains call error := by
  obtain ⟨⟨result, left⟩, expanded, same⟩ := Option.map_eq_some_iff.mp failed
  cases same
  have proper : Expansion.Activation.Proper ⟨call, ⟨grammar.rules, grammar.generator⟩⟩ :=
    ⟨reachable.expandable, canonical, fun binds => absurd binds unbound⟩
  exact (raised _ _ expanded).cause proper unfiltered modifiers

theorem expand_explained {grammar after : Grammar} {symbol : String} {error : GrammarError}
    (reachable : grammar.Reachable) (modifiers : grammar.modifiers.FailsOnArguments)
    (failed : grammar.expand symbol = some (.error error, after)) :
    grammar.Explains (.symbol symbol none 0) error := by
  refine explains_of_run reachable modifiers trivial id (by simp) (fun state left expanded => ?_)
    failed
  rw [Expansion.expand_eq] at expanded
  exact (Expansion.failsWithin _ _).1 symbol none 0 state error left expanded

theorem flatten_explained {grammar after : Grammar} {text : String} {error : GrammarError}
    (reachable : grammar.Reachable) (modifiers : grammar.modifiers.FailsOnArguments)
    (failed : grammar.flatten text = some (.error error, after)) :
    (∃ fault, Template.parse text = .error fault ∧ error = .template fault) ∨
      ∃ template, Template.parse text = .ok template ∧
        grammar.Explains (.template template 0) error := by
  unfold flatten at failed
  cases parsed : Template.parse text with
  | error fault =>
      simp only [parsed, Option.some.injEq, Prod.mk.injEq, Except.error.injEq] at failed
      exact .inl ⟨fault, rfl, failed.1.symm⟩
  | ok template =>
      simp only [parsed] at failed
      have canonical := (Template.derives_of_parse parsed).canonical.sequence
      refine .inr ⟨template, rfl, ?_⟩
      refine explains_of_run reachable modifiers canonical id (by simp)
        (fun state left expanded => ?_) failed
      rw [Expansion.flatten_eq] at expanded
      exact (Expansion.failsWithin _ _).2.1 template 0 state error left expanded

/-- Whatever operations have led to a grammar, an error of an expansion has one of the causes, at
some call that the expansion makes. Only a text to flatten can also be no template. -/
theorem expansion_errors_explained {grammar : Grammar} (reachable : grammar.Reachable)
    (modifiers : grammar.modifiers.FailsOnArguments) :
    (∀ symbol error after, grammar.expand symbol = some (.error error, after) →
        grammar.Explains (.symbol symbol none 0) error) ∧
      (∀ error after, grammar.generate = some (.error error, after) →
        grammar.Explains (.symbol grammar.config.startSymbol none 0) error) ∧
      ∀ text error after, grammar.flatten text = some (.error error, after) →
        (∃ fault, Template.parse text = .error fault ∧ error = .template fault) ∨
          ∃ template, Template.parse text = .ok template ∧
            grammar.Explains (.template template 0) error := by
  refine ⟨?_, ?_, ?_⟩
  · exact fun _ _ _ => expand_explained reachable modifiers
  · exact fun _ _ => expand_explained reachable modifiers
  · exact fun _ _ _ => flatten_explained reachable modifiers

/-- An action that only removes has no production to bind, and no other call gives cause for the
error. -/
theorem removing_action_explained :
    ∃ after, (empty (.listed [])).flatten "#[key:-text]key#" =
        some (.error (.invalidRule "key" .noProductions), after) ∧
      ∃ template, Template.parse "#[key:-text]key#" = .ok template ∧
        (empty (.listed [])).Explains (.template template 0)
          (.invalidRule "key" .noProductions) := by
  have parsed : Template.parse "#[key:-text]key#" = .ok
      [.reference [.bind false "key" [.value .remove [.literal "text"]]] "key" none []] :=
    rfl
  have outcome : ∃ after, (empty (.listed [])).flatten "#[key:-text]key#" =
      some (.error (.invalidRule "key" .noProductions), after) := by
    unfold flatten
    rw [parsed]
    simp only [run, Expansion.flatten_eq, Expansion.templateText, Expansion.sequenceText,
      Expansion.referenceText, Expansion.targetText, Expansion.perform, Expansion.valueTexts]
    exact ⟨_, rfl⟩
  obtain ⟨after, failed⟩ := outcome
  refine ⟨after, failed, ?_⟩
  rcases (expansion_errors_explained (.empty _) ModifierTable.builtIn_failsOnArguments).2.2 _ _ _
    failed with ⟨fault, refused, -⟩ | explained
  · rw [parsed] at refused
    cases refused
  · exact explained

end Grammar

end StoryGrammar
