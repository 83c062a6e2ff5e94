import StoryGrammar.Proofs.Moments
import StoryGrammar.Proofs.Selection
import StoryGrammar.Proofs.Template.Canonical

set_option autoImplicit false

/-!
# Calls on rules and templates that were checked

What was checked when rules were made and templates were read still holds wherever an expansion gets
to: rules can be drawn from, templates are canonical, and keys are bound only while a scope is open.
-/

namespace StoryGrammar

/-! ## Rules whose templates can be expanded -/

structure Rule.Expandable (rule : Rule) : Prop where
  sound : rule.Sound
  canonical : ∀ production ∈ rule.productions, Template.CanonicalSequence production.template

namespace ScopedRules

def Expandable (rules : ScopedRules) : Prop :=
  rules.AllRules fun _ rule => rule.Expandable

theorem Expandable.visible {rules : ScopedRules} (expandable : rules.Expandable) {symbol : String}
    {rule : Rule} (visible : rules.visible? symbol = some rule) : rule.Expandable :=
  AllRules.visible expandable visible

theorem scopes_openScope_ne_nil (rules : ScopedRules) : rules.openScope.scopes ≠ [] :=
  List.cons_ne_nil _ _

end ScopedRules

theorem Template.canonicalSequence_ofLiteral (text : String) :
    CanonicalSequence (ofLiteral text) := by
  unfold ofLiteral
  split
  · exact .nil
  · rename_i inhabited
    exact .literal (fun empty => inhabited (String.isEmpty_iff.mpr empty)) id .nil

namespace Expansion

theorem lasting_expandable : Lasting ScopedRules.Expandable := by
  refine lasting_allRules fun made origins => ?_
  obtain ⟨-, inhabited, weighted, -⟩ := ScopedRules.ruleOf_eq_ok_iff.mp made
  refine ⟨⟨inhabited, weighted⟩, fun production member => ?_⟩
  rcases origins production member with ⟨rule, expandable, present⟩ | ⟨text, rfl⟩
  · exact expandable.canonical production present
  · exact Template.canonicalSequence_ofLiteral text

theorem bindKey_run_eq_ok {action : Action} {values : List (ValueOperator × String)}
    {state after : ExpansionState}
    (bound : (bindKey action values).run state = some (.ok (), after)) :
    state.rules.bind action.key
      (boundProductions action (state.rules.visible? action.key) values) = .ok after.rules := by
  obtain ⟨rules, generator⟩ := state
  rw [run_bindKey] at bound
  split at bound
  · rename_i accepted
    cases bound
    exact accepted
  · cases bound

theorem bindKey_scopes_ne_nil {action : Action} {values : List (ValueOperator × String)}
    {state after : ExpansionState}
    (bound : (bindKey action values).run state = some (.ok (), after)) :
    after.rules.scopes ≠ [] := by
  obtain ⟨-, scope, outer, -, same⟩ := ScopedRules.bind_eq_ok (bindKey_run_eq_ok bound)
  simp [same]

/-! ## Proper calls -/

def Call.Canonical : Call → Prop
  | .template nodes _ | .sequence nodes _ => Template.CanonicalSequence nodes
  | .reference bindings _ _ _ _ | .target bindings _ _ _ _ | .actions bindings _ =>
      Template.CanonicalActions bindings
  | .values given _ => Template.CanonicalValues given
  | .symbol _ _ _ | .modifiers _ _ => True

/-- Whether a call may bind keys in a scope that a caller has opened. -/
def Call.Binds : Call → Prop
  | .target bindings _ _ _ _ | .actions bindings _ => bindings ≠ []
  | _ => False

structure Activation.Proper (activation : Activation) : Prop where
  expandable : activation.state.rules.Expandable
  canonical : activation.call.Canonical
  opened : activation.call.Binds → activation.state.rules.scopes ≠ []

section proper

variable {table : ModifierTable} {limit : Nat} {outer inner : Activation}

theorem Makes.proper (made : Makes table limit outer inner) (proper : outer.Proper) :
    inner.Proper := by
  have expandable := lasting_expandable.makes made proper.expandable
  obtain ⟨held, canonical, opened⟩ := proper
  cases made with
  | production _ visible drawn =>
      have rule := held.visible visible
      rcases rule.sound.draw_cases drawn with ⟨-, none⟩ | ⟨production, member, same⟩
      · cases none
      · cases same
        exact ⟨expandable, rule.canonical _ (List.mem_of_mem_filter member), False.elim⟩
  | nodes => exact ⟨expandable, canonical, opened⟩
  | afterLiteral =>
      cases canonical with
      | literal _ _ rest => exact ⟨expandable, rest, False.elim⟩
  | binding =>
      cases canonical with
      | binding _ actions _ =>
          exact ⟨expandable, actions, fun _ => ScopedRules.scopes_openScope_ne_nil _⟩
  | afterBinding performed =>
      cases canonical with
      | binding _ _ rest => exact ⟨expandable, rest, False.elim⟩
  | reference =>
      cases canonical with
      | reference actions _ _ _ _ => exact ⟨expandable, actions, False.elim⟩
  | afterReference expanded =>
      cases canonical with
      | reference _ _ _ _ rest => exact ⟨expandable, rest, False.elim⟩
  | plain => exact ⟨expandable, canonical, fun some => (some rfl).elim⟩
  | inScope some =>
      exact ⟨expandable, canonical, fun _ => ScopedRules.scopes_openScope_ne_nil _⟩
  | actions => exact ⟨expandable, canonical, opened⟩
  | symbol | modifiers | afterModifier => exact ⟨expandable, trivial, False.elim⟩
  | values =>
      cases canonical with
      | cons _ _ _ values _ => exact ⟨expandable, values, False.elim⟩
  | afterAction given accepted =>
      cases canonical with
      | cons _ _ _ _ rest => exact ⟨expandable, rest, fun _ => bindKey_scopes_ne_nil accepted⟩
  | value =>
      cases canonical with
      | cons template _ => exact ⟨expandable, template, False.elim⟩
  | afterValue given =>
      cases canonical with
      | cons _ rest => exact ⟨expandable, rest, False.elim⟩

/-- Calls on what was checked only lead to calls on what was checked. -/
theorem During.proper (during : During table limit outer inner) (proper : outer.Proper) :
    inner.Proper := by
  induction during with
  | refl => exact proper
  | tail _ made ih => exact made.proper ih

end proper

end Expansion

end StoryGrammar
