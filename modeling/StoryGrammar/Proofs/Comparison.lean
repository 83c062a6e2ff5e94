import Mathlib.Data.Set.Defs
import StoryGrammar.Proofs.Refinement
import StoryGrammar.Proofs.Selection

set_option autoImplicit false

/-!
# Evaluations side by side

Two evaluations that draw from the same generator, under depth limits and in environments that may
differ. The first may give up at its limit where the second goes on; apart from that they come to
the same, as long as their environments show the same rules for every symbol that can be reached.
-/

namespace StoryGrammar

/-- Outcomes of two evaluations that match: there is none of either, or both give the same error, or
both succeed with related values, and the generators are the same. Nothing is asked of the second
where the first ends in an error that excuses it. -/
inductive OutcomesMatch {α β : Type} (related : α → β → Prop) (excused : GrammarError → Prop) :
    Option (Except GrammarError α × Random.Generator) →
      Option (Except GrammarError β × Random.Generator) → Prop where
  | endless : OutcomesMatch related excused none none
  | success {value : α} {value' : β} {generator : Random.Generator} :
      related value value' →
      OutcomesMatch related excused (some (.ok value, generator)) (some (.ok value', generator))
  | failure {error : GrammarError} {generator : Random.Generator} :
      OutcomesMatch related excused (some (.error error, generator))
        (some (.error error, generator))
  | excused {error : GrammarError} {generator : Random.Generator}
      {outcome : Option (Except GrammarError β × Random.Generator)} :
      excused error → OutcomesMatch related excused (some (.error error, generator)) outcome

def Matches {α β : Type} (related : α → β → Prop) (excused : GrammarError → Prop)
    (first : Sampled α) (second : Sampled β) : Prop :=
  ∀ generator, OutcomesMatch related excused (first.run generator) (second.run generator)

namespace Matches

variable {α β γ δ : Type} {related : α → β → Prop} {excused : GrammarError → Prop}

theorem refl (evaluation : Sampled α) : Matches Eq excused evaluation evaluation := by
  intro generator
  cases evaluation.run generator with
  | none => exact .endless
  | some outcome =>
      obtain ⟨result, left⟩ := outcome
      cases result with
      | ok value => exact .success rfl
      | error error => exact .failure

theorem pure {value : α} {value' : β} (holds : related value value') :
    Matches related excused (Pure.pure value) (Pure.pure value') :=
  fun _ => .success holds

theorem throw (error : GrammarError) :
    Matches related excused (MonadExcept.throw error) (MonadExcept.throw error) :=
  fun _ => .failure

theorem ofExcused {error : GrammarError} (holds : excused error) (second : Sampled β) :
    Matches related excused (MonadExcept.throw error) second :=
  fun _ => .excused holds

/-- Evaluations that match go on to match if what follows does for all values that the first can
give. -/
theorem bind_of_given {first : Sampled α} {second : Sampled β} {next : α → Sampled γ}
    {next' : β → Sampled δ} {related' : γ → δ → Prop} (matched : Matches related excused first second)
    (following : ∀ generator value value' left, first.run generator = some (.ok value, left) →
      related value value' → Matches related' excused (next value) (next' value')) :
    Matches related' excused (first >>= next) (second >>= next') := by
  intro generator
  rw [run_bind, run_bind]
  have outcomes := matched generator
  have given := following generator
  generalize first.run generator = outcome at outcomes given ⊢
  generalize second.run generator = outcome' at outcomes ⊢
  cases outcomes with
  | endless => exact .endless
  | success holds => exact given _ _ _ rfl holds _
  | failure => exact .failure
  | excused holds => exact .excused holds

theorem bind {first : Sampled α} {second : Sampled β} {next : α → Sampled γ}
    {next' : β → Sampled δ} {related' : γ → δ → Prop} (matched : Matches related excused first second)
    (following : ∀ value value', related value value' →
      Matches related' excused (next value) (next' value')) :
    Matches related' excused (first >>= next) (second >>= next') :=
  matched.bind_of_given fun _ value value' _ _ => following value value'

end Matches

/-! ## Symbols that a template names -/

mutual

def Node.names : Node → List String
  | .literal _ => []
  | .binding actions => Action.namesAmong actions
  | .reference actions symbol _ _ => symbol :: Action.namesAmong actions

/-- The symbols that nodes refer to and the keys of their actions, at any nesting. -/
def Node.namesAmong : List Node → List String
  | [] => []
  | node :: nodes => node.names ++ Node.namesAmong nodes

def Action.namesAmong : List Action → List String
  | [] => []
  | .bind _ key values :: actions =>
      key :: (ActionValue.namesAmong values ++ Action.namesAmong actions)

def ActionValue.namesAmong : List ActionValue → List String
  | [] => []
  | .value _ template :: values => Node.namesAmong template ++ ActionValue.namesAmong values

end

namespace Template

def names (template : Template) : List String :=
  Node.namesAmong template

@[simp]
theorem names_ofLiteral (text : String) : names (ofLiteral text) = [] := by
  unfold ofLiteral
  split <;> rfl

end Template

namespace Environment

/-- From the names in the set no template of a visible rule leads out of it. -/
def Closed (names : Set String) (environment : Environment) : Prop :=
  ∀ symbol ∈ names, ∀ rule, environment symbol = some rule →
    ∀ production ∈ rule.productions, ∀ name ∈ Template.names production.template, name ∈ names

structure AgreeOn (names : Set String) (first second : Environment) : Prop where
  alike : ∀ symbol ∈ names, first symbol = second symbol
  closed : first.Closed names

theorem Closed.refl {names : Set String} {environment : Environment}
    (closed : environment.Closed names) : AgreeOn names environment environment :=
  ⟨fun _ _ => rfl, closed⟩

theorem AgreeOn.bind {names : Set String} {first second : Environment} {key : String} {rule : Rule}
    (agree : AgreeOn names first second)
    (inside : ∀ production ∈ rule.productions, ∀ name ∈ Template.names production.template,
      name ∈ names) :
    AgreeOn names (first.bind key rule) (second.bind key rule) := by
  constructor
  · intro symbol member
    unfold Environment.bind
    split
    · rfl
    · exact agree.alike symbol member
  · intro symbol member found visible
    unfold Environment.bind at visible
    split at visible
    · cases visible
      exact inside
    · exact agree.closed symbol member found visible

/-- Rules that actions make name no more than the visible rules do. -/
theorem Closed.ruleOf {names : Set String} {environment : Environment}
    (closed : environment.Closed names) {action : Action}
    {values : List (ValueOperator × String)} {rule : Rule} (inside : action.key ∈ names)
    (made : environment.ruleOf action values = .ok rule) :
    ∀ production ∈ rule.productions, ∀ name ∈ Template.names production.template, name ∈ names := by
  intro production member
  obtain ⟨-, -, -, rfl⟩ := ScopedRules.ruleOf_eq_ok_iff.mp made
  rcases Expansion.mem_boundProductions member with ⟨visible, found, present⟩ | ⟨text, rfl⟩
  · exact closed action.key inside visible found production present
  · intro name named
    rw [Production.ofLiteral, Template.names_ofLiteral] at named
    cases named

/-! ## Case by case -/

/-- An evaluation under the limit gives up where one under a greater limit goes on. -/
def GivesUp (limit limit' : Nat) (error : GrammarError) : Prop :=
  limit < limit' ∧ ∃ symbol, error = .maxDepthExceeded symbol limit

section comparison

variable (table : ModifierTable) (limit limit' : Nat) (names : Set String)

def SymbolMatches (first : Environment) (symbol : String) (filter : Option Filter) (depth : Nat) :
    Prop :=
  ∀ second, AgreeOn names first second → symbol ∈ names →
    Matches Eq (GivesUp limit limit') (symbolText table limit first symbol filter depth)
      (symbolText table limit' second symbol filter depth)

def SequenceMatches (first : Environment) (nodes : List Node) (depth : Nat) : Prop :=
  ∀ second, AgreeOn names first second → (∀ name ∈ Node.namesAmong nodes, name ∈ names) →
    Matches Eq (GivesUp limit limit') (sequenceText table limit first nodes depth)
      (sequenceText table limit' second nodes depth)

def ReferenceMatches (first : Environment) (actions : List Action) (symbol : String)
    (filter : Option Filter) (modifiers : List AppliedModifier) (depth : Nat) : Prop :=
  ∀ second, AgreeOn names first second → symbol ∈ names →
    (∀ name ∈ Action.namesAmong actions, name ∈ names) →
    Matches Eq (GivesUp limit limit')
      (referenceText table limit first actions symbol filter modifiers depth)
      (referenceText table limit' second actions symbol filter modifiers depth)

def ActionsMatch (first : Environment) (actions : List Action) (depth : Nat) : Prop :=
  ∀ second, AgreeOn names first second → (∀ name ∈ Action.namesAmong actions, name ∈ names) →
    Matches (AgreeOn names) (GivesUp limit limit') (extended table limit first actions depth)
      (extended table limit' second actions depth)

def ValuesMatch (first : Environment) (values : List ActionValue) (depth : Nat) : Prop :=
  ∀ second, AgreeOn names first second → (∀ name ∈ ActionValue.namesAmong values, name ∈ names) →
    Matches Eq (GivesUp limit limit') (valueTexts table limit first values depth)
      (valueTexts table limit' second values depth)

variable {table limit limit' names} {first : Environment} {depth : Nat}

theorem symbolMatches_of_exceeded {symbol : String} {filter : Option Filter}
    (noGreater : limit ≤ limit') (exceeded : limit < depth) :
    SymbolMatches table limit limit' names first symbol filter depth := by
  intro second agree inside
  rw [symbolText, if_pos exceeded]
  rcases Nat.lt_or_eq_of_le noGreater with less | rfl
  · exact .ofExcused ⟨less, symbol, rfl⟩ _
  · rw [symbolText, if_pos exceeded]
    exact .throw _

theorem symbolMatches_of_absent {symbol : String} {filter : Option Filter}
    (noGreater : limit ≤ limit') (allowed : ¬limit < depth) (absent : first symbol = none) :
    SymbolMatches table limit limit' names first symbol filter depth := by
  intro second agree inside
  have allowed' : ¬limit' < depth := by omega
  have absent' : second symbol = none := (agree.alike symbol inside).symm.trans absent
  simp only [symbolText, if_neg allowed, if_neg allowed', absent, absent']
  exact .refl _

theorem symbolMatches_of_visible {symbol : String} {filter : Option Filter} {rule : Rule}
    (noGreater : limit ≤ limit') (allowed : ¬limit < depth) (visible : first symbol = some rule)
    (templates : ∀ production : Production,
      SequenceMatches table limit limit' names first production.template depth) :
    SymbolMatches table limit limit' names first symbol filter depth := by
  intro second agree inside
  have allowed' : ¬limit' < depth := by omega
  have visible' : second symbol = some rule := (agree.alike symbol inside).symm.trans visible
  simp only [symbolText, if_neg allowed, if_neg allowed', visible, visible']
  refine (Matches.refl _).bind_of_given ?_
  rintro generator drawn _ left given rfl
  cases drawn with
  | none => exact .throw _
  | some production =>
      have member := Rule.mem_candidates_of_draw given
      have named := agree.closed symbol inside rule visible production
        (List.mem_of_mem_filter member)
      exact templates production second agree named

theorem sequenceMatches_nil : SequenceMatches table limit limit' names first [] depth := by
  intro second agree inside
  rw [sequenceText, sequenceText]
  exact .refl _

theorem sequenceMatches_literal {text : String} {rest : List Node}
    (following : SequenceMatches table limit limit' names first rest depth) :
    SequenceMatches table limit limit' names first (.literal text :: rest) depth := by
  intro second agree inside
  rw [sequenceText, sequenceText]
  refine (following second agree inside).bind ?_
  rintro text _ rfl
  exact .refl _

theorem sequenceMatches_binding {actions : List Action} {rest : List Node}
    (bindings : ActionsMatch table limit limit' names first actions depth)
    (following : ∀ extended, SequenceMatches table limit limit' names extended rest depth) :
    SequenceMatches table limit limit' names first (.binding actions :: rest) depth := by
  intro second agree inside
  simp only [Node.namesAmong, Node.names, List.forall_mem_append] at inside
  rw [sequenceText, sequenceText]
  refine (bindings second agree inside.1).bind ?_
  intro extended extended' agree'
  exact following extended extended' agree' inside.2

theorem sequenceMatches_reference {actions : List Action} {symbol : String}
    {filter : Option Filter} {modifiers : List AppliedModifier} {rest : List Node}
    (reference : ReferenceMatches table limit limit' names first actions symbol filter modifiers depth)
    (following : SequenceMatches table limit limit' names first rest depth) :
    SequenceMatches table limit limit' names first
      (.reference actions symbol filter modifiers :: rest) depth := by
  intro second agree inside
  simp only [Node.namesAmong, Node.names, List.forall_mem_append, List.forall_mem_cons] at inside
  obtain ⟨⟨target, bound⟩, others⟩ := inside
  rw [sequenceText, sequenceText]
  refine (reference second agree target bound).bind ?_
  rintro text _ rfl
  refine (following second agree others).bind ?_
  rintro more _ rfl
  exact .refl _

theorem referenceMatches {actions : List Action} {symbol : String} {filter : Option Filter}
    {modifiers : List AppliedModifier}
    (bindings : ActionsMatch table limit limit' names first actions depth)
    (target : ∀ extended,
      SymbolMatches table limit limit' names extended symbol filter (depth + 1)) :
    ReferenceMatches table limit limit' names first actions symbol filter modifiers depth := by
  intro second agree inside bound
  rw [referenceText, referenceText]
  refine (bindings second agree bound).bind ?_
  intro extended extended' agree'
  refine (target extended extended' agree' inside).bind ?_
  rintro text _ rfl
  exact .refl _

theorem actionsMatch_nil : ActionsMatch table limit limit' names first [] depth := by
  intro second agree inside
  rw [extended, extended]
  exact .pure agree

theorem actionsMatch_cons {reset : Bool} {key : String} {values : List ActionValue}
    {rest : List Action} (expanded : ValuesMatch table limit limit' names first values depth)
    (others : ∀ rule, ActionsMatch table limit limit' names (first.bind key rule) rest depth) :
    ActionsMatch table limit limit' names first (.bind reset key values :: rest) depth := by
  intro second agree inside
  simp only [Action.namesAmong, List.forall_mem_append, List.forall_mem_cons] at inside
  obtain ⟨bound, within, after⟩ := inside
  have bound : (Action.bind reset key values).key ∈ names := bound
  rw [extended, extended]
  refine (expanded second agree within).bind ?_
  rintro texts _ rfl
  have same : second.ruleOf (.bind reset key values) texts =
      first.ruleOf (.bind reset key values) texts := by
    rw [Environment.ruleOf, Environment.ruleOf, agree.alike _ bound]
  rw [same]
  cases made : first.ruleOf (.bind reset key values) texts with
  | error error => exact .throw error
  | ok rule => exact others rule _ (agree.bind (agree.closed.ruleOf bound made)) after

theorem valuesMatch_nil : ValuesMatch table limit limit' names first [] depth := by
  intro second agree inside
  rw [valueTexts, valueTexts]
  exact .refl _

theorem valuesMatch_cons {operator : ValueOperator} {template : Template}
    {rest : List ActionValue}
    (value : SequenceMatches table limit limit' names first template (depth + 1))
    (others : ValuesMatch table limit limit' names first rest depth) :
    ValuesMatch table limit limit' names first (.value operator template :: rest) depth := by
  intro second agree inside
  simp only [ActionValue.namesAmong, List.forall_mem_append] at inside
  rw [valueTexts, valueTexts]
  refine (value second agree inside.1).bind ?_
  rintro text _ rfl
  refine (others second agree inside.2).bind ?_
  rintro texts _ rfl
  exact .refl _

/-- Under a limit that is no greater, in an environment that agrees, evaluations match. -/
theorem evaluations_match (table : ModifierTable) {limit limit' : Nat} (noGreater : limit ≤ limit')
    (names : Set String) :
    (∀ first symbol filter depth,
        SymbolMatches table limit limit' names first symbol filter depth) ∧
      (∀ first nodes depth, SequenceMatches table limit limit' names first nodes depth) ∧
      (∀ first actions symbol filter modifiers depth,
        ReferenceMatches table limit limit' names first actions symbol filter modifiers depth) ∧
      (∀ first actions depth, ActionsMatch table limit limit' names first actions depth) ∧
      ∀ first values depth, ValuesMatch table limit limit' names first values depth := by
  refine symbolText.mutual_induct limit _ _ _ _ _ ?_ ?_ ?_ ?_ ?_ ?_ ?_ ?_ ?_ ?_ ?_ ?_ ?_
  · exact fun _ _ _ _ => symbolMatches_of_exceeded noGreater
  · exact fun _ _ _ => symbolMatches_of_absent noGreater
  · exact fun _ _ _ _ allowed absent _ => symbolMatches_of_absent noGreater allowed absent
  · exact fun _ _ _ _ allowed _ => symbolMatches_of_visible noGreater allowed
  · exact fun _ _ => sequenceMatches_nil
  · exact fun _ _ _ _ => sequenceMatches_literal
  · exact fun _ _ _ _ => sequenceMatches_binding
  · exact fun _ _ _ _ _ _ _ => sequenceMatches_reference
  · exact fun _ _ _ _ _ _ => referenceMatches
  · exact fun _ _ => actionsMatch_nil
  · exact fun _ _ _ _ _ _ => actionsMatch_cons
  · exact fun _ _ => valuesMatch_nil
  · exact fun _ _ _ _ _ => valuesMatch_cons

end comparison

end Environment

namespace Expansion.Request

/-- All that is asked for lies within a set of names. -/
def Within (names : Set String) : Request → Prop
  | .symbol name => name ∈ names
  | .template nodes => ∀ name ∈ nodes.names, name ∈ names

theorem evaluations_match (request : Request) (table : ModifierTable) {limit limit' : Nat}
    (noGreater : limit ≤ limit') {names : Set String} {first second : Environment}
    (agree : Environment.AgreeOn names first second) (inside : request.Within names) :
    Matches Eq (Environment.GivesUp limit limit') (request.evaluation table limit first)
      (request.evaluation table limit' second) := by
  have matched := Environment.evaluations_match table noGreater names
  cases request with
  | symbol symbol => exact matched.1 first symbol none 0 second agree inside
  | template template => exact matched.2.1 first template 0 second agree inside

end Expansion.Request

end StoryGrammar
