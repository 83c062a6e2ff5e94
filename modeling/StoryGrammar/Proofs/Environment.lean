import StoryGrammar.Expansion

set_option autoImplicit false

/-!
# Evaluation in an environment

A second account of expansion, without scopes. An environment maps symbols to their visible rules
and is passed down, so a binding is forgotten by leaving the extended environment behind. Only the
generator is threaded.
-/

namespace StoryGrammar

namespace Expansion

/-- Actions bind productions of the visible rule and literal ones. -/
theorem mem_boundProductions {action : Action} {visible : Option Rule}
    {values : List (ValueOperator × String)} {production : Production}
    (member : production ∈ boundProductions action visible values) :
    (∃ rule, visible = some rule ∧ production ∈ rule.productions) ∨
      ∃ text, production = Production.ofLiteral text := by
  rcases List.mem_append.mp member with kept | added
  · cases visible with
    | none => cases kept
    | some rule =>
        simp only at kept
        split at kept
        · exact .inl ⟨rule, rfl, (List.mem_filter.mp kept).1⟩
        · cases kept
  · obtain ⟨⟨operator, text⟩, -, made⟩ := List.mem_filterMap.mp added
    simp only at made
    split at made
    · cases made
    · exact .inr ⟨text, (Option.some.inj made).symm⟩

end Expansion

abbrev Environment := String → Option Rule

namespace Environment

def bind (environment : Environment) (key : String) (rule : Rule) : Environment :=
  fun symbol => if symbol = key then some rule else environment symbol

/-- The rule that an action gives its key, for the expanded values. -/
def ruleOf (environment : Environment) (action : Action)
    (values : List (ValueOperator × String)) : Except GrammarError Rule :=
  ScopedRules.ruleOf action.key
    (Expansion.boundProductions action (environment action.key) values)

def modified (table : ModifierTable) (text : String) (applied : AppliedModifier) :
    Sampled String :=
  match table.find? applied.name with
  | none => throw (.unknownModifier applied.name)
  | some modifier => modifier.apply text applied.arguments

mutual

def symbolText (table : ModifierTable) (limit : Nat) (environment : Environment)
    (symbol : String) (filter : Option Filter) (depth : Nat) : Sampled String :=
  if limit < depth then throw (.maxDepthExceeded symbol limit)
  else
    match environment symbol with
    | none =>
        if symbol = Expansion.numberSymbol then do
          let number ← Random.below32 Expansion.numberBound
          return toString number
        else throw (.unknownSymbol symbol)
    | some rule => do
        match ← rule.draw filter with
        | none => throw (.noMatchingProduction symbol ((filter.map (·.pattern)).getD ""))
        | some production => sequenceText table limit environment production.template depth
termination_by (limit + 1 - depth, 0)

/-- The text of a sequence. A binding extends the environment for the rest of it; what a reference
binds is forgotten after it. -/
def sequenceText (table : ModifierTable) (limit : Nat) (environment : Environment)
    (nodes : List Node) (depth : Nat) : Sampled String :=
  match nodes with
  | [] => return ""
  | .literal text :: rest => do
      let following ← sequenceText table limit environment rest depth
      return text ++ following
  | .binding actions :: rest => do
      let extended ← extended table limit environment actions depth
      sequenceText table limit extended rest depth
  | .reference actions symbol filter modifiers :: rest => do
      let text ← referenceText table limit environment actions symbol filter modifiers depth
      let following ← sequenceText table limit environment rest depth
      return text ++ following
termination_by (limit - depth, 2 * sizeOf nodes)

/-- The text of a reference: its symbol in the environment extended by its actions, one level
deeper, after its modifiers from left to right. -/
def referenceText (table : ModifierTable) (limit : Nat) (environment : Environment)
    (actions : List Action) (symbol : String) (filter : Option Filter)
    (modifiers : List AppliedModifier) (depth : Nat) : Sampled String := do
  let extended ← extended table limit environment actions depth
  let text ← symbolText table limit extended symbol filter (depth + 1)
  modifiers.foldlM (modified table) text
termination_by (limit - depth, 2 * sizeOf actions + 1)

/-- The environment after actions. Each sees the ones before it, and its values are expanded before
its key is bound. -/
def extended (table : ModifierTable) (limit : Nat) (environment : Environment)
    (actions : List Action) (depth : Nat) : Sampled Environment :=
  match actions with
  | [] => return environment
  | .bind reset key values :: rest => do
      let texts ← valueTexts table limit environment values depth
      let rule ← environment.ruleOf (.bind reset key values) texts
      extended table limit (environment.bind key rule) rest depth
termination_by (limit - depth, 2 * sizeOf actions)

def valueTexts (table : ModifierTable) (limit : Nat) (environment : Environment)
    (values : List ActionValue) (depth : Nat) : Sampled (List (ValueOperator × String)) :=
  match values with
  | [] => return []
  | .value operator template :: rest => do
      let text ← sequenceText table limit environment template (depth + 1)
      let texts ← valueTexts table limit environment rest depth
      return (operator, text) :: texts
termination_by (limit - depth, 2 * sizeOf values)
decreasing_by
  · exact Expansion.lex_of_le (by omega)
      (by simp only [List.cons.sizeOf_spec, ActionValue.value.sizeOf_spec]; omega)
  · exact Expansion.lex_of_le (by omega) (by simp only [List.cons.sizeOf_spec]; omega)

end

end Environment

end StoryGrammar
