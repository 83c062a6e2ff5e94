import StoryGrammar.Modifier
import StoryGrammar.ScopedRules

set_option autoImplicit false

/-!
# Expansion

Symbols are expanded by selecting a production and evaluating its template. Actions bind keys in
scopes, which are closed again when the reference or the sequence they belong to is done, whether
it gave a text or an error.
-/

namespace StoryGrammar

/-- What an expansion changes: the rules it sees and the generator it draws from. -/
structure ExpansionState where
  rules : ScopedRules
  generator : Random.Generator

/-- A computation on an expansion state that may fail. The state it leaves behind is known either
way; there is none where a draw never ends. -/
abbrev Expansion := ExceptT GrammarError (StateT ExpansionState Option)

namespace Expansion

def numberSymbol : String :=
  "num"

def numberBound : Nat :=
  0x7FFFFFFF

def currentRules : Expansion ScopedRules := do
  return (← get).rules

def setRules (rules : ScopedRules) : Expansion Unit :=
  modify fun state => { state with rules }

def sample {α : Type} (sampled : Sampled α) : Expansion α :=
  ExceptT.mk fun state => do
    let (result, generator) ← sampled.run state.generator
    return (result, { state with generator })

/-- Runs a computation and changes the rules it leaves behind, also after an error. -/
def andThenRules {α : Type} (computation : Expansion α) (change : ScopedRules → ScopedRules) :
    Expansion α :=
  ExceptT.mk fun state => do
    let (result, state) ← computation.run state
    return (result, { state with rules := change state.rules })

def keepingScopes {α : Type} (computation : Expansion α) : Expansion α := do
  let count := (← currentRules).scopeCount
  computation.andThenRules (·.closeScopesTo count)

def openScope : Expansion Unit := do
  setRules (← currentRules).openScope

def inScope {α : Type} (computation : Expansion α) : Expansion α := do
  openScope
  computation.andThenRules (·.closeScope)

def applyModifiers (table : ModifierTable) (text : String) :
    List AppliedModifier → Expansion String
  | [] => return text
  | applied :: others => do
      match table.find? applied.name with
      | none => throw (.unknownModifier applied.name)
      | some modifier =>
          let text ← sample (modifier.apply text applied.arguments)
          applyModifiers table text others

/-- The productions that an action binds, for the rule that is visible for its key and the expanded
values. Plain and added values become literal productions. If some value edits and the key is not
reset, the productions of the visible rule come first, without those whose text was removed. -/
def boundProductions (action : Action) (visible : Option Rule)
    (values : List (ValueOperator × String)) : List Production :=
  let removed := values.filterMap fun (operator, text) =>
    if operator = .remove then some text else none
  let added := values.filterMap fun (operator, text) =>
    if operator = .remove then none else some (Production.ofLiteral text)
  let kept :=
    match visible with
    | some rule =>
        if action.edits && !action.reset then
          rule.productions.filter fun production => !removed.contains production.source
        else []
    | none => []
  kept ++ added

def bindKey (action : Action) (values : List (ValueOperator × String)) : Expansion Unit := do
  let rules ← currentRules
  let productions := boundProductions action (rules.visible? action.key) values
  match rules.bind action.key productions with
  | .ok rules => setRules rules
  | .error error => throw error

theorem lex_of_le {first first' second second' : Nat} (notLarger : first ≤ first')
    (smaller : second < second') :
    Prod.Lex (· < ·) (· < ·) (first, second) (first', second') := by
  rcases Nat.lt_or_eq_of_le notLarger with less | same
  · exact .left _ _ less
  · exact same ▸ .right _ smaller

mutual

/-- Expands a symbol at a depth: one of its productions that pass the filter is evaluated. -/
def symbolText (table : ModifierTable) (limit : Nat) (symbol : String)
    (filter : Option Filter) (depth : Nat) : Expansion String :=
  if limit < depth then throw (.maxDepthExceeded symbol limit)
  else do
    match (← currentRules).visible? symbol with
    | none =>
        if symbol = numberSymbol then
          let number ← sample (Random.below32 numberBound)
          return toString number
        else throw (.unknownSymbol symbol)
    | some rule =>
        match ← sample (rule.draw filter) with
        | none => throw (.noMatchingProduction symbol ((filter.map (·.pattern)).getD ""))
        | some production => templateText table limit production.template depth
termination_by (limit + 1 - depth, 0)

/-- Evaluates a template at a depth. The scopes of its bindings are closed at its end. -/
def templateText (table : ModifierTable) (limit : Nat) (template : Template) (depth : Nat) :
    Expansion String :=
  keepingScopes (sequenceText table limit template depth)
termination_by (limit - depth, 2 * sizeOf template + 1)

/-- Evaluates a sequence of nodes at a depth. The scopes of its bindings are left open. -/
def sequenceText (table : ModifierTable) (limit : Nat) (nodes : List Node) (depth : Nat) :
    Expansion String :=
  match nodes with
  | [] => return ""
  | .literal text :: rest => do
      let following ← sequenceText table limit rest depth
      return text ++ following
  | .binding actions :: rest => do
      openScope
      perform table limit actions depth
      sequenceText table limit rest depth
  | .reference actions symbol filter modifiers :: rest => do
      let text ← referenceText table limit actions symbol filter modifiers depth
      let following ← sequenceText table limit rest depth
      return text ++ following
termination_by (limit - depth, 2 * sizeOf nodes)

/-- Expands a reference. Its actions, if it has any, bind their keys in a scope of its own. -/
def referenceText (table : ModifierTable) (limit : Nat) (actions : List Action) (symbol : String)
    (filter : Option Filter) (modifiers : List AppliedModifier) (depth : Nat) :
    Expansion String :=
  if actions.isEmpty then targetText table limit actions symbol filter modifiers depth
  else inScope (targetText table limit actions symbol filter modifiers depth)
termination_by (limit - depth, 2 * sizeOf actions + 2)

/-- Runs the actions of a reference, expands its symbol one level deeper and applies its
modifiers. -/
def targetText (table : ModifierTable) (limit : Nat) (actions : List Action) (symbol : String)
    (filter : Option Filter) (modifiers : List AppliedModifier) (depth : Nat) :
    Expansion String := do
  perform table limit actions depth
  let text ← symbolText table limit symbol filter (depth + 1)
  applyModifiers table text modifiers
termination_by (limit - depth, 2 * sizeOf actions + 1)

/-- Runs actions in order. The values of an action are expanded before its key is bound, so they
see the rule that was visible for the key. -/
def perform (table : ModifierTable) (limit : Nat) (actions : List Action)
    (depth : Nat) : Expansion Unit :=
  match actions with
  | [] => return ()
  | .bind reset key values :: rest => do
      let texts ← valueTexts table limit values depth
      bindKey (.bind reset key values) texts
      perform table limit rest depth
termination_by (limit - depth, 2 * sizeOf actions)

def valueTexts (table : ModifierTable) (limit : Nat) (values : List ActionValue)
    (depth : Nat) : Expansion (List (ValueOperator × String)) :=
  match values with
  | [] => return []
  | .value operator template :: rest => do
      let text ← templateText table limit template (depth + 1)
      let texts ← valueTexts table limit rest depth
      return (operator, text) :: texts
termination_by (limit - depth, 2 * sizeOf values)
decreasing_by
  · exact lex_of_le (by omega)
      (by simp only [List.cons.sizeOf_spec, ActionValue.value.sizeOf_spec]; omega)
  · exact lex_of_le (by omega) (by simp only [List.cons.sizeOf_spec]; omega)

end

/-- Runs a computation. If it leaves another number of scopes than it found, those beyond that
number are closed. -/
def rollingBack (computation : Expansion String) : Expansion String :=
  ExceptT.mk fun state => do
    let (result, after) ← computation.run state
    if after.rules.scopeCount = state.rules.scopeCount then return (result, after)
    else
      return (result,
        { after with rules := after.rules.closeScopesTo state.rules.scopeCount })

def expand (table : ModifierTable) (limit : Nat) (symbol : String) :
    ExpansionState → Option (Except GrammarError String × ExpansionState) :=
  (rollingBack (symbolText table limit symbol none 0)).run

def flatten (table : ModifierTable) (limit : Nat) (template : Template) :
    ExpansionState → Option (Except GrammarError String × ExpansionState) :=
  (rollingBack (templateText table limit template 0)).run

end Expansion

end StoryGrammar
