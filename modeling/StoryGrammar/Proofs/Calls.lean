import Mathlib.Logic.Relation
import StoryGrammar.Proofs.Refinement

set_option autoImplicit false

/-!
# Calls made during an expansion

An expansion is a tree of calls, each made in a state. An error that comes out of an expansion was
raised by one of them, and went through all calls around it unchanged.
-/

namespace StoryGrammar.Expansion

/-! ## Calls -/

/-- A function of the expansion with its arguments. -/
inductive Call where
  | symbol (symbol : String) (filter : Option Filter) (depth : Nat)
  | template (template : Template) (depth : Nat)
  | sequence (nodes : List Node) (depth : Nat)
  | reference (actions : List Action) (symbol : String) (filter : Option Filter)
      (modifiers : List AppliedModifier) (depth : Nat)
  /-- A reference within the scope that its actions bind in. -/
  | target (actions : List Action) (symbol : String) (filter : Option Filter)
      (modifiers : List AppliedModifier) (depth : Nat)
  | actions (actions : List Action) (depth : Nat)
  | values (values : List ActionValue) (depth : Nat)
  | modifiers (text : String) (modifiers : List AppliedModifier)

def Call.Result : Call → Type
  | .actions _ _ => Unit
  | .values _ _ => List (ValueOperator × String)
  | _ => String

def expansionOf (table : ModifierTable) (limit : Nat) : (call : Call) → Expansion call.Result
  | .symbol symbol filter depth => symbolText table limit symbol filter depth
  | .template template depth => templateText table limit template depth
  | .sequence nodes depth => sequenceText table limit nodes depth
  | .reference actions symbol filter modifiers depth =>
      referenceText table limit actions symbol filter modifiers depth
  | .target actions symbol filter modifiers depth =>
      targetText table limit actions symbol filter modifiers depth
  | .actions actions depth => perform table limit actions depth
  | .values values depth => valueTexts table limit values depth
  | .modifiers text modifiers => applyModifiers table text modifiers

/-- A call in the state it is made in. -/
structure Activation where
  call : Call
  state : ExpansionState

/-- The calls that a call makes itself. A call after others is made in the state they leave, if they
succeed. -/
inductive Makes (table : ModifierTable) (limit : Nat) : Activation → Activation → Prop where
  | production {symbol : String} {filter : Option Filter} {depth : Nat} {rules : ScopedRules}
      {generator left : Random.Generator} {rule : Rule} {production : Production} :
      depth ≤ limit → rules.visible? symbol = some rule →
      (rule.draw filter).run generator = some (.ok (some production), left) →
      Makes table limit ⟨.symbol symbol filter depth, ⟨rules, generator⟩⟩
        ⟨.template production.template depth, ⟨rules, left⟩⟩
  | nodes {template : Template} {depth : Nat} {state : ExpansionState} :
      Makes table limit ⟨.template template depth, state⟩ ⟨.sequence template depth, state⟩
  | afterLiteral {text : String} {rest : List Node} {depth : Nat} {state : ExpansionState} :
      Makes table limit ⟨.sequence (.literal text :: rest) depth, state⟩
        ⟨.sequence rest depth, state⟩
  | binding {actions : List Action} {rest : List Node} {depth : Nat} {rules : ScopedRules}
      {generator : Random.Generator} :
      Makes table limit ⟨.sequence (.binding actions :: rest) depth, ⟨rules, generator⟩⟩
        ⟨.actions actions depth, ⟨rules.openScope, generator⟩⟩
  | afterBinding {actions : List Action} {rest : List Node} {depth : Nat} {rules : ScopedRules}
      {generator : Random.Generator} {after : ExpansionState} :
      (perform table limit actions depth).run ⟨rules.openScope, generator⟩ =
        some (.ok (), after) →
      Makes table limit ⟨.sequence (.binding actions :: rest) depth, ⟨rules, generator⟩⟩
        ⟨.sequence rest depth, after⟩
  | reference {actions : List Action} {symbol : String} {filter : Option Filter}
      {modifiers : List AppliedModifier} {rest : List Node} {depth : Nat}
      {state : ExpansionState} :
      Makes table limit
        ⟨.sequence (.reference actions symbol filter modifiers :: rest) depth, state⟩
        ⟨.reference actions symbol filter modifiers depth, state⟩
  | afterReference {actions : List Action} {symbol : String} {filter : Option Filter}
      {modifiers : List AppliedModifier} {rest : List Node} {depth : Nat}
      {state after : ExpansionState} {text : String} :
      (referenceText table limit actions symbol filter modifiers depth).run state =
        some (.ok text, after) →
      Makes table limit
        ⟨.sequence (.reference actions symbol filter modifiers :: rest) depth, state⟩
        ⟨.sequence rest depth, after⟩
  | plain {symbol : String} {filter : Option Filter} {modifiers : List AppliedModifier}
      {depth : Nat} {state : ExpansionState} :
      Makes table limit ⟨.reference [] symbol filter modifiers depth, state⟩
        ⟨.target [] symbol filter modifiers depth, state⟩
  | inScope {actions : List Action} {symbol : String} {filter : Option Filter}
      {modifiers : List AppliedModifier} {depth : Nat} {rules : ScopedRules}
      {generator : Random.Generator} :
      actions ≠ [] →
      Makes table limit ⟨.reference actions symbol filter modifiers depth, ⟨rules, generator⟩⟩
        ⟨.target actions symbol filter modifiers depth, ⟨rules.openScope, generator⟩⟩
  | actions {actions : List Action} {symbol : String} {filter : Option Filter}
      {modifiers : List AppliedModifier} {depth : Nat} {state : ExpansionState} :
      Makes table limit ⟨.target actions symbol filter modifiers depth, state⟩
        ⟨.actions actions depth, state⟩
  | symbol {actions : List Action} {symbol : String} {filter : Option Filter}
      {modifiers : List AppliedModifier} {depth : Nat} {state after : ExpansionState} :
      (perform table limit actions depth).run state = some (.ok (), after) →
      Makes table limit ⟨.target actions symbol filter modifiers depth, state⟩
        ⟨.symbol symbol filter (depth + 1), after⟩
  | modifiers {actions : List Action} {symbol : String} {filter : Option Filter}
      {modifiers : List AppliedModifier} {depth : Nat} {state middle after : ExpansionState}
      {text : String} :
      (perform table limit actions depth).run state = some (.ok (), middle) →
      (symbolText table limit symbol filter (depth + 1)).run middle = some (.ok text, after) →
      Makes table limit ⟨.target actions symbol filter modifiers depth, state⟩
        ⟨.modifiers text modifiers, after⟩
  | values {reset : Bool} {key : String} {values : List ActionValue} {rest : List Action}
      {depth : Nat} {state : ExpansionState} :
      Makes table limit ⟨.actions (.bind reset key values :: rest) depth, state⟩
        ⟨.values values depth, state⟩
  | afterAction {reset : Bool} {key : String} {values : List ActionValue} {rest : List Action}
      {depth : Nat} {state middle after : ExpansionState} {texts : List (ValueOperator × String)} :
      (valueTexts table limit values depth).run state = some (.ok texts, middle) →
      (bindKey (.bind reset key values) texts).run middle = some (.ok (), after) →
      Makes table limit ⟨.actions (.bind reset key values :: rest) depth, state⟩
        ⟨.actions rest depth, after⟩
  | value {operator : ValueOperator} {template : Template} {rest : List ActionValue} {depth : Nat}
      {state : ExpansionState} :
      Makes table limit ⟨.values (.value operator template :: rest) depth, state⟩
        ⟨.template template (depth + 1), state⟩
  | afterValue {operator : ValueOperator} {template : Template} {rest : List ActionValue}
      {depth : Nat} {state after : ExpansionState} {text : String} :
      (templateText table limit template (depth + 1)).run state = some (.ok text, after) →
      Makes table limit ⟨.values (.value operator template :: rest) depth, state⟩
        ⟨.values rest depth, after⟩
  | afterModifier {applied : AppliedModifier} {others : List AppliedModifier}
      {text changed : String} {modifier : Modifier} {rules : ScopedRules}
      {generator left : Random.Generator} :
      table.find? applied.name = some modifier →
      (modifier.apply text applied.arguments).run generator = some (.ok changed, left) →
      Makes table limit ⟨.modifiers text (applied :: others), ⟨rules, generator⟩⟩
        ⟨.modifiers changed others, ⟨rules, left⟩⟩

/-- The calls that a call makes, those that they make, and so on. -/
def During (table : ModifierTable) (limit : Nat) : Activation → Activation → Prop :=
  Relation.ReflTransGen (Makes table limit)

/-! ## Errors -/

/-- The errors that a call raises itself. -/
inductive Raises (table : ModifierTable) (limit : Nat) : Activation → GrammarError → Prop where
  | tooDeep {symbol : String} {filter : Option Filter} {depth : Nat} {state : ExpansionState} :
      limit < depth →
      Raises table limit ⟨.symbol symbol filter depth, state⟩ (.maxDepthExceeded symbol limit)
  | unknownSymbol {symbol : String} {filter : Option Filter} {depth : Nat}
      {state : ExpansionState} :
      state.rules.visible? symbol = none → symbol ≠ numberSymbol →
      Raises table limit ⟨.symbol symbol filter depth, state⟩ (.unknownSymbol symbol)
  | notDrawn {symbol : String} {filter : Option Filter} {depth : Nat} {rules : ScopedRules}
      {generator left : Random.Generator} {rule : Rule} {error : GrammarError} :
      rules.visible? symbol = some rule →
      (rule.draw filter).run generator = some (.error error, left) →
      Raises table limit ⟨.symbol symbol filter depth, ⟨rules, generator⟩⟩ error
  | noCandidate {symbol : String} {filter : Option Filter} {depth : Nat} {rules : ScopedRules}
      {generator left : Random.Generator} {rule : Rule} :
      rules.visible? symbol = some rule →
      (rule.draw filter).run generator = some (.ok none, left) →
      Raises table limit ⟨.symbol symbol filter depth, ⟨rules, generator⟩⟩
        (.noMatchingProduction symbol ((filter.map (·.pattern)).getD ""))
  | notBound {reset : Bool} {key : String} {values : List ActionValue} {rest : List Action}
      {depth : Nat} {state middle after : ExpansionState} {texts : List (ValueOperator × String)}
      {error : GrammarError} :
      (valueTexts table limit values depth).run state = some (.ok texts, middle) →
      (bindKey (.bind reset key values) texts).run middle = some (.error error, after) →
      Raises table limit ⟨.actions (.bind reset key values :: rest) depth, state⟩ error
  | unknownModifier {text : String} {applied : AppliedModifier} {others : List AppliedModifier}
      {state : ExpansionState} :
      table.find? applied.name = none →
      Raises table limit ⟨.modifiers text (applied :: others), state⟩
        (.unknownModifier applied.name)
  | modifierFailed {text : String} {applied : AppliedModifier} {others : List AppliedModifier}
      {rules : ScopedRules} {generator left : Random.Generator} {modifier : Modifier}
      {error : GrammarError} :
      table.find? applied.name = some modifier →
      (modifier.apply text applied.arguments).run generator = some (.error error, left) →
      Raises table limit ⟨.modifiers text (applied :: others), ⟨rules, generator⟩⟩ error

/-- Some call that is made raises the error. -/
def RaisedDuring (table : ModifierTable) (limit : Nat) (activation : Activation)
    (error : GrammarError) : Prop :=
  ∃ inner, During table limit activation inner ∧ Raises table limit inner error

/-- Every error that comes out of the call is raised by a call made during it. -/
def FailsWithin (table : ModifierTable) (limit : Nat) (call : Call) : Prop :=
  ∀ state error after, (expansionOf table limit call).run state = some (.error error, after) →
    RaisedDuring table limit ⟨call, state⟩ error

variable {table : ModifierTable} {limit : Nat} {depth : Nat}

theorem Raises.during {activation : Activation} {error : GrammarError}
    (raised : Raises table limit activation error) : RaisedDuring table limit activation error :=
  ⟨activation, .refl, raised⟩

theorem RaisedDuring.of_makes {outer inner : Activation} {error : GrammarError}
    (made : Makes table limit outer inner) (raised : RaisedDuring table limit inner error) :
    RaisedDuring table limit outer error := by
  obtain ⟨origin, during, raises⟩ := raised
  exact ⟨origin, .head made during, raises⟩

/-! ## Running one part after another -/

section parts

variable {α β : Type} {state after : ExpansionState}

theorem run_bind_eq_error {computation : Expansion α} {next : α → Expansion β}
    {error : GrammarError}
    (failed : (computation >>= next).run state = some (.error error, after)) :
    computation.run state = some (.error error, after) ∨
      ∃ value middle, computation.run state = some (.ok value, middle) ∧
        (next value).run middle = some (.error error, after) := by
  rcases run_bind_eq_some failed with ⟨raised, first, same⟩ | second
  · cases same
    exact .inl first
  · exact .inr second

theorem not_run_pure_eq_error {value : α} {error : GrammarError} :
    ¬(pure value : Expansion α).run state = some (.error error, after) := by
  intro failed
  cases failed

theorem not_run_liftM_eq_error {draw : Random.Draw α} {generator left : Random.Generator}
    {error : GrammarError} :
    ¬(liftM draw : Sampled α).run generator = some (.error error, left) := by
  intro failed
  rw [run_liftM] at failed
  obtain ⟨outcome, -, same⟩ := Option.map_eq_some_iff.mp failed
  cases same

theorem run_sample_eq_some {sampled : Sampled α} {rules : ScopedRules}
    {generator : Random.Generator} {result : Except GrammarError α}
    (outcome : (sample sampled).run ⟨rules, generator⟩ = some (result, after)) :
    ∃ left, sampled.run generator = some (result, left) ∧ after = ⟨rules, left⟩ := by
  change (sampled.run generator).bind _ = _ at outcome
  obtain ⟨⟨value, left⟩, drawn, same⟩ := Option.bind_eq_some_iff.mp outcome
  cases same
  exact ⟨left, drawn, rfl⟩

theorem run_currentRules (next : ScopedRules → Expansion α) (state : ExpansionState) :
    (currentRules >>= next).run state = (next state.rules).run state :=
  rfl

theorem run_openScope (next : Unit → Expansion α) (rules : ScopedRules)
    (generator : Random.Generator) :
    (openScope >>= next).run ⟨rules, generator⟩ = (next ()).run ⟨rules.openScope, generator⟩ :=
  rfl

theorem run_andThenRules_eq_some {computation : Expansion α} {change : ScopedRules → ScopedRules}
    {result : Except GrammarError α}
    (outcome : (computation.andThenRules change).run state = some (result, after)) :
    ∃ middle, computation.run state = some (result, middle) ∧
      after = { middle with rules := change middle.rules } := by
  change (computation.run state).bind _ = _ at outcome
  obtain ⟨⟨first, middle⟩, reached, same⟩ := Option.bind_eq_some_iff.mp outcome
  cases same
  exact ⟨middle, reached, rfl⟩

end parts

/-! ## Every error has an origin -/

theorem symbol_failsWithin_of_exceeded {symbol : String} {filter : Option Filter}
    (exceeded : limit < depth) : FailsWithin table limit (.symbol symbol filter depth) := by
  intro state error after failed
  change (symbolText table limit symbol filter depth).run state = _ at failed
  rw [symbolText, if_pos exceeded] at failed
  cases failed
  exact Raises.during (.tooDeep exceeded)

theorem symbol_failsWithin {symbol : String} {filter : Option Filter} (allowed : ¬limit < depth)
    (templates : ∀ production : Production,
      FailsWithin table limit (.template production.template depth)) :
    FailsWithin table limit (.symbol symbol filter depth) := by
  rintro ⟨rules, generator⟩ error after failed
  change (symbolText table limit symbol filter depth).run ⟨rules, generator⟩ = _ at failed
  rw [symbolText, if_neg allowed, run_currentRules] at failed
  cases found : rules.visible? symbol with
  | none =>
      simp only [found] at failed
      split at failed
      · rcases run_bind_eq_error failed with sampled | ⟨number, middle, -, returned⟩
        · obtain ⟨left, drawn, -⟩ := run_sample_eq_some sampled
          exact absurd drawn not_run_liftM_eq_error
        · exact absurd returned not_run_pure_eq_error
      · rename_i other
        cases failed
        exact Raises.during (.unknownSymbol found other)
  | some rule =>
      simp only [found] at failed
      rcases run_bind_eq_error failed with sampled | ⟨drawn, middle, sampled, continued⟩
      · obtain ⟨left, drawn, -⟩ := run_sample_eq_some sampled
        exact Raises.during (.notDrawn found drawn)
      · obtain ⟨left, drew, rfl⟩ := run_sample_eq_some sampled
        cases drawn with
        | none =>
            cases continued
            exact Raises.during (.noCandidate found drew)
        | some production =>
            have inside := templates production _ error after continued
            exact inside.of_makes (.production (Nat.le_of_not_lt allowed) found drew)

theorem template_failsWithin {template : Template}
    (nodes : FailsWithin table limit (.sequence template depth)) :
    FailsWithin table limit (.template template depth) := by
  intro state error after failed
  change (templateText table limit template depth).run state = _ at failed
  rw [templateText, keepingScopes, run_currentRules] at failed
  obtain ⟨left, inside, -⟩ := run_andThenRules_eq_some failed
  exact (nodes _ _ _ inside).of_makes .nodes

theorem sequence_failsWithin_nil : FailsWithin table limit (.sequence [] depth) := by
  intro state error after failed
  change (sequenceText table limit [] depth).run state = _ at failed
  rw [sequenceText] at failed
  exact absurd failed not_run_pure_eq_error

theorem sequence_failsWithin_literal {text : String} {rest : List Node}
    (following : FailsWithin table limit (.sequence rest depth)) :
    FailsWithin table limit (.sequence (.literal text :: rest) depth) := by
  intro state error after failed
  change (sequenceText table limit (.literal text :: rest) depth).run state = _ at failed
  rw [sequenceText] at failed
  rcases run_bind_eq_error failed with inside | ⟨_, middle, -, returned⟩
  · exact (following _ _ _ inside).of_makes .afterLiteral
  · exact absurd returned not_run_pure_eq_error

theorem sequence_failsWithin_binding {actions : List Action} {rest : List Node}
    (bindings : FailsWithin table limit (.actions actions depth))
    (following : FailsWithin table limit (.sequence rest depth)) :
    FailsWithin table limit (.sequence (.binding actions :: rest) depth) := by
  rintro ⟨rules, generator⟩ error after failed
  change (sequenceText table limit (.binding actions :: rest) depth).run _ = _ at failed
  rw [sequenceText, run_openScope] at failed
  rcases run_bind_eq_error failed with inside | ⟨_, bound, performed, inside⟩
  · exact (bindings _ _ _ inside).of_makes .binding
  · exact (following _ _ _ inside).of_makes (.afterBinding performed)

theorem sequence_failsWithin_reference {actions : List Action} {symbol : String}
    {filter : Option Filter} {modifiers : List AppliedModifier} {rest : List Node}
    (reference : FailsWithin table limit (.reference actions symbol filter modifiers depth))
    (following : FailsWithin table limit (.sequence rest depth)) :
    FailsWithin table limit
      (.sequence (.reference actions symbol filter modifiers :: rest) depth) := by
  intro state error after failed
  change (sequenceText table limit (.reference actions symbol filter modifiers :: rest) depth).run
    state = _ at failed
  rw [sequenceText] at failed
  rcases run_bind_eq_error failed with inside | ⟨text, middle, expanded, failed⟩
  · exact (reference _ _ _ inside).of_makes .reference
  · rcases run_bind_eq_error failed with inside | ⟨_, _, -, returned⟩
    · exact (following _ _ _ inside).of_makes (.afterReference expanded)
    · exact absurd returned not_run_pure_eq_error

theorem reference_failsWithin_plain {actions : List Action} {symbol : String}
    {filter : Option Filter} {modifiers : List AppliedModifier} (plain : actions.isEmpty = true)
    (target : FailsWithin table limit (.target actions symbol filter modifiers depth)) :
    FailsWithin table limit (.reference actions symbol filter modifiers depth) := by
  intro state error after failed
  change (referenceText table limit actions symbol filter modifiers depth).run state = _ at failed
  rw [referenceText, if_pos plain] at failed
  cases List.isEmpty_iff.mp plain
  exact (target _ _ _ failed).of_makes .plain

theorem reference_failsWithin_inScope {actions : List Action} {symbol : String}
    {filter : Option Filter} {modifiers : List AppliedModifier} (acting : ¬actions.isEmpty = true)
    (target : FailsWithin table limit (.target actions symbol filter modifiers depth)) :
    FailsWithin table limit (.reference actions symbol filter modifiers depth) := by
  rintro ⟨rules, generator⟩ error after failed
  change (referenceText table limit actions symbol filter modifiers depth).run _ = _ at failed
  rw [referenceText, if_neg acting, inScope, run_openScope] at failed
  obtain ⟨left, inside, -⟩ := run_andThenRules_eq_some failed
  have some : actions ≠ [] := fun none => acting (List.isEmpty_iff.mpr none)
  exact (target _ _ _ inside).of_makes (.inScope some)

theorem target_failsWithin {actions : List Action} {symbol : String} {filter : Option Filter}
    {modifiers : List AppliedModifier}
    (bindings : FailsWithin table limit (.actions actions depth))
    (expanded : FailsWithin table limit (.symbol symbol filter (depth + 1)))
    (modified : ∀ text, FailsWithin table limit (.modifiers text modifiers)) :
    FailsWithin table limit (.target actions symbol filter modifiers depth) := by
  intro state error after failed
  change (targetText table limit actions symbol filter modifiers depth).run state = _ at failed
  rw [targetText] at failed
  rcases run_bind_eq_error failed with inside | ⟨_, bound, performed, failed⟩
  · exact (bindings _ _ _ inside).of_makes .actions
  · rcases run_bind_eq_error failed with inside | ⟨text, middle, given, failed⟩
    · exact (expanded _ _ _ inside).of_makes (.symbol performed)
    · exact (modified text _ _ _ failed).of_makes (.modifiers performed given)

theorem actions_failsWithin_nil : FailsWithin table limit (.actions [] depth) := by
  intro state error after failed
  change (perform table limit [] depth).run state = _ at failed
  rw [perform] at failed
  exact absurd failed not_run_pure_eq_error

theorem actions_failsWithin_cons {reset : Bool} {key : String} {values : List ActionValue}
    {rest : List Action} (expanded : FailsWithin table limit (.values values depth))
    (others : FailsWithin table limit (.actions rest depth)) :
    FailsWithin table limit (.actions (.bind reset key values :: rest) depth) := by
  intro state error after failed
  change (perform table limit (.bind reset key values :: rest) depth).run state = _ at failed
  rw [perform] at failed
  rcases run_bind_eq_error failed with inside | ⟨texts, middle, given, failed⟩
  · exact (expanded _ _ _ inside).of_makes .values
  · rcases run_bind_eq_error failed with refused | ⟨_, bound, accepted, failed⟩
    · exact Raises.during (.notBound given refused)
    · exact (others _ _ _ failed).of_makes (.afterAction given accepted)

theorem values_failsWithin_nil : FailsWithin table limit (.values [] depth) := by
  intro state error after failed
  change (valueTexts table limit [] depth).run state = _ at failed
  rw [valueTexts] at failed
  exact absurd failed not_run_pure_eq_error

theorem values_failsWithin_cons {operator : ValueOperator} {template : Template}
    {rest : List ActionValue} (first : FailsWithin table limit (.template template (depth + 1)))
    (others : FailsWithin table limit (.values rest depth)) :
    FailsWithin table limit (.values (.value operator template :: rest) depth) := by
  intro state error after failed
  change (valueTexts table limit (.value operator template :: rest) depth).run state = _ at failed
  rw [valueTexts] at failed
  rcases run_bind_eq_error failed with inside | ⟨text, middle, given, failed⟩
  · exact (first _ _ _ inside).of_makes .value
  · rcases run_bind_eq_error failed with inside | ⟨_, _, -, returned⟩
    · exact (others _ _ _ inside).of_makes (.afterValue given)
    · exact absurd returned not_run_pure_eq_error

theorem modifiers_failsWithin (modifiers : List AppliedModifier) (text : String) :
    FailsWithin table limit (.modifiers text modifiers) := by
  induction modifiers generalizing text with
  | nil =>
      intro state error after failed
      exact absurd failed not_run_pure_eq_error
  | cons applied others ih =>
      rintro ⟨rules, generator⟩ error after failed
      change (applyModifiers table text (applied :: others)).run _ = _ at failed
      rw [applyModifiers] at failed
      cases found : table.find? applied.name with
      | none =>
          simp only [found] at failed
          cases failed
          exact Raises.during (.unknownModifier found)
      | some modifier =>
          simp only [found] at failed
          rcases run_bind_eq_error failed with sampled | ⟨changed, middle, sampled, failed⟩
          · obtain ⟨left, applied, -⟩ := run_sample_eq_some sampled
            exact Raises.during (.modifierFailed found applied)
          · obtain ⟨left, applied, rfl⟩ := run_sample_eq_some sampled
            exact (ih changed _ _ _ failed).of_makes (.afterModifier found applied)

/-- The induction over the calls, with one lemma for each way that a function can go. -/
theorem failsWithin (table : ModifierTable) (limit : Nat) :
    (∀ symbol filter depth, FailsWithin table limit (.symbol symbol filter depth)) ∧
      (∀ template depth, FailsWithin table limit (.template template depth)) ∧
      (∀ nodes depth, FailsWithin table limit (.sequence nodes depth)) ∧
      (∀ actions symbol filter modifiers depth,
        FailsWithin table limit (.reference actions symbol filter modifiers depth)) ∧
      (∀ actions symbol filter modifiers depth,
        FailsWithin table limit (.target actions symbol filter modifiers depth)) ∧
      (∀ actions depth, FailsWithin table limit (.actions actions depth)) ∧
      ∀ values depth, FailsWithin table limit (.values values depth) := by
  refine symbolText.mutual_induct limit _ _ _ _ _ _ _ ?_ ?_ ?_ ?_ ?_ ?_ ?_ ?_ ?_ ?_ ?_ ?_ ?_ ?_
  · exact fun _ _ _ => symbol_failsWithin_of_exceeded
  · exact fun _ _ _ => symbol_failsWithin
  · exact fun _ _ => template_failsWithin
  · exact fun _ => sequence_failsWithin_nil
  · exact fun _ _ _ => sequence_failsWithin_literal
  · exact fun _ _ _ => sequence_failsWithin_binding
  · exact fun _ _ _ _ _ _ => sequence_failsWithin_reference
  · exact fun _ _ _ _ _ => reference_failsWithin_plain
  · exact fun _ _ _ _ _ => reference_failsWithin_inScope
  · exact fun _ _ _ modifiers _ bindings expanded =>
      target_failsWithin bindings expanded (modifiers_failsWithin modifiers)
  · exact fun _ => actions_failsWithin_nil
  · exact fun _ _ _ _ _ => actions_failsWithin_cons
  · exact fun _ => values_failsWithin_nil
  · exact fun _ _ _ _ => values_failsWithin_cons

end StoryGrammar.Expansion
