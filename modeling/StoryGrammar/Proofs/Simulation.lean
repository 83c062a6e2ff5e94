import StoryGrammar.Proofs.Environment

set_option autoImplicit false

/-!
# Expansion and evaluation side by side

An expansion on a stack of scopes is compared with an evaluation in the environment of the rules
visible at its start. Both draw from the same generator. What the expansion leaves behind on the
stack is stated beside the comparison, also for the case that it fails: scopes that are still open
are closed by a caller, who has to know that nothing below them was touched.
-/

namespace StoryGrammar

/-- The outcome of an expansion and that of an evaluation: there is none of either, or both give the
same error, or both succeed, and the generators are the same. `succeeded` relates the values and
the rules that are left, `failed` holds of the rules that an error leaves. -/
inductive OutcomesAgree {α β : Type} (succeeded : α → β → ScopedRules → Prop)
    (failed : ScopedRules → Prop) :
    Option (Except GrammarError α × ExpansionState) →
      Option (Except GrammarError β × Random.Generator) → Prop where
  | endless : OutcomesAgree succeeded failed none none
  | success {value : α} {result : β} {rules : ScopedRules} {generator : Random.Generator} :
      succeeded value result rules →
      OutcomesAgree succeeded failed (some (.ok value, ⟨rules, generator⟩))
        (some (.ok result, generator))
  | failure {error : GrammarError} {rules : ScopedRules} {generator : Random.Generator} :
      failed rules →
      OutcomesAgree succeeded failed (some (.error error, ⟨rules, generator⟩))
        (some (.error error, generator))

/-- From the given rules on, an expansion agrees with an evaluation for every generator. -/
def Simulates {α β : Type} (rules : ScopedRules) (expansion : Expansion α)
    (evaluation : Sampled β) (succeeded : α → β → ScopedRules → Prop)
    (failed : ScopedRules → Prop) : Prop :=
  ∀ generator, OutcomesAgree succeeded failed (expansion.run ⟨rules, generator⟩)
    (evaluation.run generator)

/-- A computation that keeps its state after an error ends with the first error, or goes on from its
value. -/
theorem run_bind {State α β : Type} (computation : ExceptT GrammarError (StateT State Option) α)
    (next : α → ExceptT GrammarError (StateT State Option) β) (state : State) :
    (computation >>= next).run state = (computation.run state).bind fun outcome =>
      match outcome with
      | (.ok value, after) => (next value).run after
      | (.error error, after) => some (.error error, after) := by
  change (computation.run state).bind _ = _
  congr 1
  funext outcome
  obtain ⟨result, after⟩ := outcome
  cases result <;> rfl

theorem run_bind_of_ok {State α β : Type}
    {computation : ExceptT GrammarError (StateT State Option) α}
    {next : α → ExceptT GrammarError (StateT State Option) β} {state after : State} {value : α}
    (given : computation.run state = some (.ok value, after)) :
    (computation >>= next).run state = (next value).run after := by
  rw [run_bind, given]
  rfl

section parts

variable {State α β : Type} {computation : ExceptT GrammarError (StateT State Option) α}
  {next : α → ExceptT GrammarError (StateT State Option) β} {state after : State}

/-- What comes of two parts: the error of the first, or what the second makes of its value. -/
theorem run_bind_eq_some {result : Except GrammarError β}
    (outcome : (computation >>= next).run state = some (result, after)) :
    (∃ error, computation.run state = some (.error error, after) ∧ result = .error error) ∨
      ∃ value middle, computation.run state = some (.ok value, middle) ∧
        (next value).run middle = some (result, after) := by
  rw [run_bind] at outcome
  obtain ⟨⟨first, middle⟩, reached, continued⟩ := Option.bind_eq_some_iff.mp outcome
  cases first with
  | error error =>
      cases continued
      exact .inl ⟨error, reached, rfl⟩
  | ok value => exact .inr ⟨value, middle, reached, continued⟩

theorem run_bind_eq_ok {result : β}
    (succeeded : (computation >>= next).run state = some (.ok result, after)) :
    ∃ value middle, computation.run state = some (.ok value, middle) ∧
      (next value).run middle = some (.ok result, after) := by
  rcases run_bind_eq_some succeeded with ⟨raised, first, same⟩ | second
  · cases same
  · exact second

end parts

/-- A computation that cannot fail succeeds. -/
theorem run_liftM {State α : Type} (computation : StateT State Option α) (state : State) :
    (liftM computation : ExceptT GrammarError (StateT State Option) α).run state =
      (computation state).map fun outcome => (.ok outcome.1, outcome.2) := by
  change (computation state).bind _ = _
  cases computation state <;> rfl

theorem run_draw_return {α β : Type} (draw : Random.Draw α) (next : α → β)
    (generator : Random.Generator) :
    (do
      let value ← draw
      return next value : Sampled β).run generator =
      (draw generator).map fun (value, left) => (.ok (next value), left) := by
  rw [run_bind, run_liftM]
  cases draw generator <;> rfl

/-! ## What is left of the scopes -/

namespace ScopedRules

/-- Rules that differ from given ones by scopes opened inside them. -/
def Above (rules after : ScopedRules) : Prop :=
  ∃ inner, after = { rules with scopes := inner ++ rules.scopes }

/-- Rules that differ from given ones at most within the innermost scope. -/
structure Rebound (rules after : ScopedRules) : Prop where
  base : after.base = rules.base
  outer : after.scopes.tail = rules.scopes.tail
  count : after.scopeCount = rules.scopeCount

theorem Above.refl (rules : ScopedRules) : Above rules rules :=
  ⟨[], rfl⟩

theorem Above.trans {rules middle after : ScopedRules} (first : Above rules middle)
    (second : Above middle after) : Above rules after := by
  obtain ⟨inner, rfl⟩ := first
  obtain ⟨more, rfl⟩ := second
  exact ⟨more ++ inner, by simp⟩

theorem Above.closeScopesTo {rules after : ScopedRules} (above : Above rules after) :
    after.closeScopesTo rules.scopeCount = rules := by
  obtain ⟨inner, rfl⟩ := above
  simp [ScopedRules.closeScopesTo, scopeCount]

theorem Rebound.refl (rules : ScopedRules) : Rebound rules rules :=
  ⟨rfl, rfl, rfl⟩

theorem Rebound.trans {rules middle after : ScopedRules} (first : Rebound rules middle)
    (second : Rebound middle after) : Rebound rules after :=
  ⟨second.base.trans first.base, second.outer.trans first.outer, second.count.trans first.count⟩

/-- Bindings in a scope that was just opened are all there is to undo. -/
theorem Rebound.eq_of_openScope {rules after : ScopedRules}
    (rebound : Rebound rules.openScope after) :
    ∃ scope, after = { rules with scopes := scope :: rules.scopes } := by
  obtain ⟨base, scopes⟩ := after
  obtain ⟨sameBase, outer, count⟩ := rebound
  cases scopes with
  | nil => simp [scopeCount, openScope] at count
  | cons scope scopes => exact ⟨scope, by simp_all [openScope]⟩

theorem Rebound.closeScope {rules after : ScopedRules} (rebound : Rebound rules.openScope after) :
    after.closeScope = rules := by
  obtain ⟨scope, rfl⟩ := rebound.eq_of_openScope
  rfl

theorem Rebound.above {rules after : ScopedRules} (rebound : Rebound rules.openScope after) :
    Above rules after := by
  obtain ⟨scope, rfl⟩ := rebound.eq_of_openScope
  exact ⟨[scope], rfl⟩

theorem Rebound.scopes_ne_nil {rules after : ScopedRules} (rebound : Rebound rules after)
    (opened : rules.scopes ≠ []) : after.scopes ≠ [] := by
  have count := rebound.count
  have positive := List.length_pos_iff.mpr opened
  exact List.length_pos_iff.mp (by simp only [scopeCount] at count; omega)

end ScopedRules

namespace Simulates

variable {α β γ δ : Type} {rules : ScopedRules}

theorem weaken {expansion : Expansion α} {evaluation : Sampled β}
    {succeeded succeeded' : α → β → ScopedRules → Prop} {failed failed' : ScopedRules → Prop}
    (simulated : Simulates rules expansion evaluation succeeded failed)
    (success : ∀ value result after, succeeded value result after → succeeded' value result after)
    (failure : ∀ after, failed after → failed' after) :
    Simulates rules expansion evaluation succeeded' failed' := by
  intro generator
  have agreed := simulated generator
  generalize expansion.run ⟨rules, generator⟩ = outcome at agreed ⊢
  generalize evaluation.run generator = outcome' at agreed ⊢
  cases agreed with
  | endless => exact .endless
  | success holds => exact .success (success _ _ _ holds)
  | failure holds => exact .failure (failure _ holds)

theorem pure {succeeded : α → β → ScopedRules → Prop} {failed : ScopedRules → Prop}
    {value : α} {result : β} (holds : succeeded value result rules) :
    Simulates rules (Pure.pure value) (Pure.pure result) succeeded failed :=
  fun _ => .success holds

theorem throw {succeeded : α → β → ScopedRules → Prop} {failed : ScopedRules → Prop}
    {error : GrammarError} (holds : failed rules) :
    Simulates rules (MonadExcept.throw error) (MonadExcept.throw error) succeeded failed :=
  fun _ => .failure holds

/-- Steps that agree one after another agree as a whole. -/
theorem bind {expansion : Expansion α} {evaluation : Sampled β} {next : α → Expansion γ}
    {next' : β → Sampled δ} {middle : α → β → ScopedRules → Prop}
    {succeeded : γ → δ → ScopedRules → Prop} {failed : ScopedRules → Prop}
    (first : Simulates rules expansion evaluation middle failed)
    (second : ∀ value result after, middle value result after →
      Simulates after (next value) (next' result) succeeded failed) :
    Simulates rules (expansion >>= next) (evaluation >>= next') succeeded failed := by
  intro generator
  rw [run_bind, run_bind]
  have agreed := first generator
  generalize expansion.run ⟨rules, generator⟩ = outcome at agreed ⊢
  generalize evaluation.run generator = outcome' at agreed ⊢
  cases agreed with
  | endless => exact .endless
  | success holds => exact second _ _ _ holds _
  | failure holds => exact .failure holds

/-- Draws are the same on both sides and leave the rules alone. -/
theorem sample (sampled : Sampled α) :
    Simulates rules (Expansion.sample sampled) sampled
      (fun value result after => value = result ∧ after = rules) (· = rules) := by
  intro generator
  change OutcomesAgree _ _ ((sampled.run generator).bind fun outcome =>
    some (outcome.1, ⟨rules, outcome.2⟩)) (sampled.run generator)
  cases sampled.run generator with
  | none => exact .endless
  | some outcome =>
      obtain ⟨result, after⟩ := outcome
      cases result with
      | ok value => exact .success ⟨rfl, rfl⟩
      | error error => exact .failure rfl

theorem currentRules {next : ScopedRules → Expansion α} {evaluation : Sampled β}
    {succeeded : α → β → ScopedRules → Prop} {failed : ScopedRules → Prop}
    (simulated : Simulates rules (next rules) evaluation succeeded failed) :
    Simulates rules (Expansion.currentRules >>= next) evaluation succeeded failed :=
  fun generator => simulated generator

theorem openScope {next : Unit → Expansion α} {evaluation : Sampled β}
    {succeeded : α → β → ScopedRules → Prop} {failed : ScopedRules → Prop}
    (simulated : Simulates rules.openScope (next ()) evaluation succeeded failed) :
    Simulates rules (Expansion.openScope >>= next) evaluation succeeded failed :=
  fun generator => simulated generator

/-- A change of the rules after an expansion, whether it succeeded or failed. -/
theorem andThenRules {expansion : Expansion α} {evaluation : Sampled β}
    (change : ScopedRules → ScopedRules) {succeeded : α → β → ScopedRules → Prop}
    {failed : ScopedRules → Prop}
    (simulated : Simulates rules expansion evaluation
      (fun value result after => succeeded value result (change after))
      (fun after => failed (change after))) :
    Simulates rules (expansion.andThenRules change) evaluation succeeded failed := by
  intro generator
  change OutcomesAgree _ _ ((expansion.run ⟨rules, generator⟩).bind fun outcome =>
    some (outcome.1, { outcome.2 with rules := change outcome.2.rules })) _
  have agreed := simulated generator
  generalize expansion.run ⟨rules, generator⟩ = outcome at agreed ⊢
  generalize evaluation.run generator = outcome' at agreed ⊢
  cases agreed with
  | endless => exact .endless
  | success holds => exact .success holds
  | failure holds => exact .failure holds

end Simulates

/-- From the given rules on, an expansion gives what an evaluation gives, and leaves the rules as
they are. -/
def Evaluates {α : Type} (rules : ScopedRules) (expansion : Expansion α) (evaluation : Sampled α) :
    Prop :=
  Simulates rules expansion evaluation (fun value result after => value = result ∧ after = rules)
    (· = rules)

namespace Evaluates

variable {α β γ : Type} {rules : ScopedRules}

theorem bind {expansion : Expansion α} {evaluation : Sampled α} {next : α → Expansion β}
    {next' : α → Sampled γ} {succeeded : β → γ → ScopedRules → Prop} {failed : ScopedRules → Prop}
    (first : Evaluates rules expansion evaluation) (failure : failed rules)
    (second : ∀ value, Simulates rules (next value) (next' value) succeeded failed) :
    Simulates rules (expansion >>= next) (evaluation >>= next') succeeded failed := by
  refine (Simulates.weaken first (fun _ _ _ holds => holds) ?_).bind ?_
  · rintro after rfl
    exact failure
  · rintro value result after ⟨rfl, rfl⟩
    exact second value

/-- The scopes that an expansion opens are closed behind it. -/
theorem keepingScopes {expansion : Expansion α} {evaluation : Sampled α}
    (simulated : Simulates rules expansion evaluation
      (fun value result after => value = result ∧ rules.Above after) rules.Above) :
    Evaluates rules (Expansion.keepingScopes expansion) evaluation := by
  refine Simulates.andThenRules (·.closeScopesTo rules.scopeCount) (simulated.weaken ?_ ?_)
  · rintro value result after ⟨same, above⟩
    exact ⟨same, above.closeScopesTo⟩
  · intro after above
    exact above.closeScopesTo

/-- Bindings in a scope of its own are gone with the scope. -/
theorem inScope {expansion : Expansion α} {evaluation : Sampled α}
    (simulated : Simulates rules.openScope expansion evaluation
      (fun value result after => value = result ∧ rules.openScope.Rebound after)
      rules.openScope.Rebound) :
    Evaluates rules (Expansion.inScope expansion) evaluation := by
  have closed : Simulates rules.openScope (expansion.andThenRules (·.closeScope)) evaluation
      (fun value result after => value = result ∧ after = rules) (· = rules) := by
    refine Simulates.andThenRules (·.closeScope) (simulated.weaken ?_ ?_)
    · rintro value result after ⟨same, rebound⟩
      exact ⟨same, rebound.closeScope⟩
    · intro after rebound
      exact rebound.closeScope
  exact fun generator => closed generator

end Evaluates

end StoryGrammar
