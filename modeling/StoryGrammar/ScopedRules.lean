import StoryGrammar.Rule
import StoryGrammar.Table

set_option autoImplicit false

/-!
# Scoped rules

The rules that expansions see: the base rules of a grammar, and a stack of scopes. A rule in a scope
shadows the rules of its symbol in the scopes around it and the base rule; it never changes them.
-/

namespace StoryGrammar

/-- The base rules and the scopes, innermost first. -/
structure ScopedRules where
  base : Table Rule
  scopes : List (Table Rule)

namespace ScopedRules

def empty : ScopedRules :=
  ⟨Table.empty, []⟩

/-- The rule of a symbol with the given productions: there is a symbol, there are productions, and
every one has a weight. -/
def ruleOf (symbol : String) (productions : List Production) : Except GrammarError Rule :=
  if symbol.isEmpty then .error (.invalidGrammar .emptySymbol)
  else if productions.isEmpty then .error (.invalidRule symbol .noProductions)
  else if productions.any fun production => production.weight == 0 then
    .error (.invalidRule symbol .zeroWeight)
  else .ok ⟨productions⟩

/-- Creates or replaces a base rule. Base productions must have text; bindings in scopes may expand
to nothing. -/
def define (rules : ScopedRules) (symbol : String) (productions : List Production) :
    Except GrammarError ScopedRules :=
  if productions.any fun production => production.source.isEmpty then
    .error (.invalidRule symbol .emptyProduction)
  else
    match ruleOf symbol productions with
    | .ok rule => .ok { rules with base := rules.base.insert symbol rule }
    | .error error => .error error

def bind (rules : ScopedRules) (symbol : String) (productions : List Production) :
    Except GrammarError ScopedRules :=
  match ruleOf symbol productions with
  | .error error => .error error
  | .ok rule =>
      match rules.scopes with
      | [] => .error (.noActiveScope symbol)
      | scope :: outer => .ok { rules with scopes := scope.insert symbol rule :: outer }

def openScope (rules : ScopedRules) : ScopedRules :=
  { rules with scopes := Table.empty :: rules.scopes }

/-- Discards the innermost scope, if there is one. -/
def closeScope (rules : ScopedRules) : ScopedRules :=
  { rules with scopes := rules.scopes.tail }

def scopeCount (rules : ScopedRules) : Nat :=
  rules.scopes.length

/-- Discards inner scopes until no more than `count` remain. -/
def closeScopesTo (rules : ScopedRules) (count : Nat) : ScopedRules :=
  { rules with scopes := rules.scopes.drop (rules.scopes.length - count) }

/-- The visible rule of a symbol: the one of the innermost scope that has one, else the base
rule. -/
def visible? (rules : ScopedRules) (symbol : String) : Option Rule :=
  (rules.scopes.findSome? (·.find? symbol)).or (rules.base.find? symbol)

@[simp]
theorem closeScope_openScope (rules : ScopedRules) : rules.openScope.closeScope = rules :=
  rfl

@[simp]
theorem visible?_openScope (rules : ScopedRules) (symbol : String) :
    rules.openScope.visible? symbol = rules.visible? symbol := by
  simp [visible?, openScope, List.findSome?_cons]

/-- A binding makes its rule the visible one of its symbol, and changes no other. -/
theorem visible?_bind {rules bound : ScopedRules} {symbol : String}
    {productions : List Production} (accepted : rules.bind symbol productions = .ok bound)
    (sought : String) :
    bound.visible? sought =
      if sought = symbol then some ⟨productions⟩ else rules.visible? sought := by
  unfold bind at accepted
  cases validated : ruleOf symbol productions with
  | error error => simp [validated] at accepted
  | ok rule =>
      have same : rule = ⟨productions⟩ := by
        unfold ruleOf at validated
        repeat' split at validated
        all_goals simp_all
      cases nested : rules.scopes with
      | nil => simp [validated, nested] at accepted
      | cons scope outer =>
          simp only [validated, nested, Except.ok.injEq] at accepted
          subst accepted same
          by_cases atSymbol : sought = symbol
          · simp [visible?, Table.find?_insert, atSymbol]
          · simp [visible?, List.findSome?_cons, Table.find?_insert, atSymbol, nested]

def contains (rules : ScopedRules) (symbol : String) : Bool :=
  rules.base.contains symbol

/-- The symbols with a base rule, in ascending order. -/
def symbols (rules : ScopedRules) : List String :=
  rules.base.names

end ScopedRules

end StoryGrammar
