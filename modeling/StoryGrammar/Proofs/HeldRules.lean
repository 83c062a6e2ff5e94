import StoryGrammar.Proofs.Refinement

set_option autoImplicit false

/-!
# Rules that are held

Every rule that a program can put among the base rules or into a scope has productions, each with a
weight, so that one of them can be drawn.
-/

namespace StoryGrammar

structure Rule.Sound (rule : Rule) : Prop where
  inhabited : rule.productions ≠ []
  weighted : ∀ production ∈ rule.productions, production.weight ≠ 0

namespace ScopedRules

/-- Whether a rule is a base rule or stands in one of the scopes, visible or not. -/
def Holds (rules : ScopedRules) (symbol : String) (rule : Rule) : Prop :=
  rules.base.find? symbol = some rule ∨ ∃ scope ∈ rules.scopes, scope.find? symbol = some rule

def AllRules (rules : ScopedRules) (Good : String → Rule → Prop) : Prop :=
  ∀ symbol rule, rules.Holds symbol rule → Good symbol rule

section AllRules

variable {rules : ScopedRules} {Good : String → Rule → Prop}

theorem allRules_empty : empty.AllRules Good := by
  rintro symbol rule (found | ⟨scope, present, -⟩)
  · cases found
  · cases present

theorem AllRules.visible (all : rules.AllRules Good) {symbol : String} {rule : Rule}
    (visible : rules.visible? symbol = some rule) : Good symbol rule := by
  rcases Option.or_eq_some_iff.mp visible with inScope | ⟨-, atBase⟩
  · obtain ⟨scope, present, found⟩ := List.exists_of_findSome?_eq_some inScope
    exact all symbol rule (.inr ⟨scope, present, found⟩)
  · exact all symbol rule (.inl atBase)

/-- What holds of every rule still does where scopes are gone. -/
theorem AllRules.of_subset (all : rules.AllRules Good) {scopes : List (Table Rule)}
    (fewer : scopes ⊆ rules.scopes) : AllRules { rules with scopes } Good := by
  rintro symbol rule (atBase | ⟨scope, present, found⟩)
  · exact all symbol rule (.inl atBase)
  · exact all symbol rule (.inr ⟨scope, fewer present, found⟩)

theorem AllRules.openScope (all : rules.AllRules Good) : rules.openScope.AllRules Good := by
  rintro symbol rule (atBase | ⟨scope, present, found⟩)
  · exact all symbol rule (.inl atBase)
  · rcases List.mem_cons.mp present with rfl | outer
    · cases found
    · exact all symbol rule (.inr ⟨scope, outer, found⟩)

theorem good_of_find?_insert {table : Table Rule} {symbol : String} {rule : Rule}
    (good : Good symbol rule) (others : ∀ sought found, table.find? sought = some found →
      Good sought found) {sought : String} {found : Rule}
    (present : (table.insert symbol rule).find? sought = some found) : Good sought found := by
  rw [Table.find?_insert] at present
  split at present
  · rename_i same
    cases present
    rwa [same]
  · exact others sought found present

theorem AllRules.define (all : rules.AllRules Good) {after : ScopedRules} {symbol : String}
    {productions : List Production} (defined : rules.define symbol productions = .ok after)
    (good : Good symbol ⟨productions⟩) : after.AllRules Good := by
  obtain ⟨-, rfl⟩ := define_eq_ok_iff.mp defined
  rintro sought found (atBase | inScope)
  · exact good_of_find?_insert good (fun sought found present => all sought found (.inl present))
      atBase
  · exact all sought found (.inr inScope)

theorem bind_eq_ok {bound : ScopedRules} {symbol : String} {productions : List Production}
    (accepted : rules.bind symbol productions = .ok bound) :
    ruleOf symbol productions = .ok ⟨productions⟩ ∧ ∃ scope outer, rules.scopes = scope :: outer ∧
      bound = { rules with scopes := scope.insert symbol ⟨productions⟩ :: outer } := by
  unfold ScopedRules.bind at accepted
  cases made : ruleOf symbol productions with
  | error error => simp [made] at accepted
  | ok rule =>
      obtain ⟨-, -, -, rfl⟩ := ruleOf_eq_ok_iff.mp made
      cases scopes : rules.scopes with
      | nil => simp [made, scopes] at accepted
      | cons scope outer =>
          simp only [made, scopes, Except.ok.injEq] at accepted
          exact ⟨rfl, scope, outer, rfl, accepted.symm⟩

theorem AllRules.bind (all : rules.AllRules Good) {bound : ScopedRules} {symbol : String}
    {productions : List Production} (accepted : rules.bind symbol productions = .ok bound)
    (good : Good symbol ⟨productions⟩) : bound.AllRules Good := by
  obtain ⟨-, scope, outer, scopes, rfl⟩ := bind_eq_ok accepted
  rintro sought found (atBase | ⟨table, present, there⟩)
  · exact all sought found (.inl atBase)
  · rcases List.mem_cons.mp present with rfl | outside
    · refine good_of_find?_insert good (fun sought found present => ?_) there
      exact all sought found (.inr ⟨scope, scopes ▸ .head _, present⟩)
    · exact all sought found (.inr ⟨table, scopes ▸ .tail _ outside, there⟩)

theorem AllRules.defineAll {entries : List (String × List Production)}
    (good : ∀ entry ∈ entries, Definable entry.1 entry.2 → Good entry.1 ⟨entry.2⟩)
    (all : rules.AllRules Good) : (rules.defineAll entries).2.AllRules Good := by
  induction entries generalizing rules with
  | nil => exact all
  | cons entry entries ih =>
      rw [ScopedRules.defineAll]
      cases defined : rules.define entry.1 entry.2 with
      | error error => exact all
      | ok after =>
          have first := good entry (.head _) (define_eq_ok_iff.mp defined).1
          exact ih (fun other later => good other (.tail _ later)) (all.define defined first)

end AllRules

/-! ## Rules that a program can reach -/

/-- The rules that operations lead to. The productions that are handed in, one by one or as a
document, are `Built`. An operation that fails leaves the rules as they are, except that the
document of an installation that fails may be installed in part. -/
inductive Reachable (Built : Production → Prop) : ScopedRules → Prop where
  | empty : Reachable Built .empty
  | define {rules after : ScopedRules} {symbol : String} {productions : List Production} :
      Reachable Built rules → (∀ production ∈ productions, Built production) →
      rules.define symbol productions = .ok after → Reachable Built after
  | bind {rules after : ScopedRules} {symbol : String} {productions : List Production} :
      Reachable Built rules → (∀ production ∈ productions, Built production) →
      rules.bind symbol productions = .ok after → Reachable Built after
  | openScope {rules : ScopedRules} : Reachable Built rules → Reachable Built rules.openScope
  | closeScope {rules : ScopedRules} : Reachable Built rules → Reachable Built rules.closeScope
  | closeScopesTo {rules : ScopedRules} (count : Nat) :
      Reachable Built rules → Reachable Built (rules.closeScopesTo count)
  | install {rules : ScopedRules} {document : Document} :
      Reachable Built rules → (∀ entry ∈ document.rules, ∀ production ∈ entry.2, Built production) →
      Reachable Built (rules.install document).2
  | expand {rules : ScopedRules} {table : ModifierTable} {limit : Nat} {symbol : String}
      {generator : Random.Generator} {result : Except GrammarError String}
      {after : ExpansionState} :
      Reachable Built rules →
      Expansion.expand table limit symbol ⟨rules, generator⟩ = some (result, after) →
      Reachable Built after.rules
  | flatten {rules : ScopedRules} {table : ModifierTable} {limit : Nat} {template : Template}
      {generator : Random.Generator} {result : Except GrammarError String}
      {after : ExpansionState} :
      Reachable Built rules →
      Expansion.flatten table limit template ⟨rules, generator⟩ = some (result, after) →
      Reachable Built after.rules

theorem Reachable.sound {Built : Production → Prop} {rules : ScopedRules}
    (reachable : rules.Reachable Built) : rules.AllRules fun _ rule => rule.Sound := by
  induction reachable with
  | empty => exact allRules_empty
  | define _ _ defined ih =>
      have definable := (define_eq_ok_iff.mp defined).1
      exact ih.define defined ⟨definable.inhabited, definable.weighted⟩
  | bind _ _ accepted ih =>
      obtain ⟨-, inhabited, weighted, -⟩ := ruleOf_eq_ok_iff.mp (bind_eq_ok accepted).1
      exact ih.bind accepted ⟨inhabited, weighted⟩
  | openScope _ ih => exact ih.openScope
  | closeScope _ ih => exact ih.of_subset fun _ => List.mem_of_mem_tail
  | closeScopesTo count _ ih => exact ih.of_subset (List.drop_subset _ _)
  | install _ _ ih =>
      exact ih.defineAll fun entry _ definable => ⟨definable.inhabited, definable.weighted⟩
  | expand _ expanded ih =>
      rw [Expansion.expand_eq] at expanded
      rwa [Expansion.symbolText_leavesRules _ _ _ _ _ _ _ _ expanded]
  | flatten _ flattened ih =>
      rw [Expansion.flatten_eq] at flattened
      rwa [Expansion.templateText_leavesRules _ _ _ _ _ _ _ flattened]

end ScopedRules

end StoryGrammar
