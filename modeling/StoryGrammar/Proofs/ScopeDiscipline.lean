import StoryGrammar.Proofs.Steps

set_option autoImplicit false

/-!
# Scopes are given back

Whatever an expansion binds, and whether it gives a text or an error, the rules are afterwards what
they were. So nothing is ever rolled back, and between operations a grammar has no scopes at all.
-/

namespace StoryGrammar

namespace Expansion

/-- The computation, started on the given state, ends with another number of scopes, so that some
would have to be rolled back. -/
def NeedsRollBack (computation : Expansion String) (state : ExpansionState) : Prop :=
  ∃ result after, computation.run state = some (result, after) ∧
    after.rules.scopeCount ≠ state.rules.scopeCount

theorem LeavesRules.not_needsRollBack {computation : Expansion String}
    (leaves : LeavesRules computation) (state : ExpansionState) :
    ¬ NeedsRollBack computation state := by
  rintro ⟨result, after, outcome, changed⟩
  exact changed (congrArg ScopedRules.scopeCount (leaves state result after outcome))

/-- An expansion from the top leaves the rules as they are, as does every call inside it, so that it
has nothing to roll back. -/
structure KeepsScopes (table : ModifierTable) (limit : Nat) : Prop where
  symbolText : ∀ symbol filter depth, LeavesRules (symbolText table limit symbol filter depth)
  templateText : ∀ template depth, LeavesRules (templateText table limit template depth)
  referenceText : ∀ actions symbol filter modifiers depth,
    LeavesRules (referenceText table limit actions symbol filter modifiers depth)
  expand : ∀ symbol, LeavesRules (.mk (expand table limit symbol))
  flatten : ∀ template, LeavesRules (.mk (flatten table limit template))
  expand_needs : ∀ symbol state,
    ¬ NeedsRollBack (Expansion.symbolText table limit symbol none 0) state
  flatten_needs : ∀ template state,
    ¬ NeedsRollBack (Expansion.templateText table limit template 0) state

theorem keepsScopes (table : ModifierTable) (limit : Nat) : KeepsScopes table limit where
  symbolText := symbolText_leavesRules table limit
  templateText := templateText_leavesRules table limit
  referenceText := referenceText_leavesRules table limit
  expand symbol := by
    rw [expand_eq]
    exact symbolText_leavesRules table limit symbol none 0
  flatten template := by
    rw [flatten_eq]
    exact templateText_leavesRules table limit template 0
  expand_needs symbol := (symbolText_leavesRules table limit symbol none 0).not_needsRollBack
  flatten_needs template := (templateText_leavesRules table limit template 0).not_needsRollBack

end Expansion

/-- Every expansion, at every depth, gives the rules back as it found them, scope by scope, and a
grammar has no scopes between operations. -/
theorem scopes_given_back :
    (∀ table limit, Expansion.KeepsScopes table limit) ∧
      ∀ grammar : Grammar, grammar.Reachable → grammar.rules.scopeCount = 0 := by
  constructor
  · exact Expansion.keepsScopes
  · intro grammar reachable
    rw [ScopedRules.scopeCount, reachable.scopes_eq_nil, List.length_nil]

/-- A reference that fails after its action has bound a key leaves an open scope as it was. -/
theorem open_scope_given_back :
    (∃ after, Expansion.flatten ModifierTable.builtIn 5
        [.reference [.bind false "key" [.value .set [.literal "text"]]] "missing" none []]
        ⟨ScopedRules.empty.openScope, .listed []⟩ =
          some (.error (.unknownSymbol "missing"), after) ∧
        after.rules = ScopedRules.empty.openScope) ∧
      ((Grammar.empty (.listed [])).setSeed 7).rules.scopeCount = 0 := by
  have outcome : Expansion.flatten ModifierTable.builtIn 5
      [.reference [.bind false "key" [.value .set [.literal "text"]]] "missing" none []]
      ⟨ScopedRules.empty.openScope, .listed []⟩ =
        some (.error (.unknownSymbol "missing"), ⟨ScopedRules.empty.openScope, .listed []⟩) := by
    rw [Expansion.flatten_eq]
    simp only [Expansion.templateText, Expansion.sequenceText, Expansion.referenceText,
      Expansion.targetText, Expansion.perform, Expansion.valueTexts, Expansion.symbolText]
    rfl
  have performed : (Grammar.empty (.listed [])).perform (.setSeed 7) =
      some (.ok none, (Grammar.empty (.listed [])).setSeed 7) :=
    rfl
  exact ⟨⟨_, outcome, (scopes_given_back.1 _ _).flatten _ _ _ _ outcome⟩,
    scopes_given_back.2 _ (.performed (.empty _) performed)⟩

end StoryGrammar
