import Mathlib.Data.Set.Finite.Lattice
import StoryGrammar.Proofs.Calls

set_option autoImplicit false

/-!
# Expansions end

A call leaves less to do for each call that it makes: fewer levels of symbols, or a smaller part of
a template. So only finitely many calls are made during an expansion, and it has an outcome unless
one of them draws from words of which none is accepted.
-/

namespace StoryGrammar.Expansion

/-! ## What is left to do -/

namespace Call

/-- How many symbols may still be expanded, one within the other, before the limit is reached. -/
def levels (limit : Nat) : Call → Nat
  | .symbol _ _ depth => limit + 1 - depth
  | .template _ depth | .sequence _ depth | .reference _ _ _ _ depth | .target _ _ _ _ depth
  | .actions _ depth | .values _ depth => limit - depth
  | .modifiers _ _ => 0

/-- How much of a template is left. Modifiers come after everything else of a reference. -/
noncomputable def size : Call → Nat
  | .symbol _ _ _ => 0
  | .template nodes _ => 2 * sizeOf nodes + 1
  | .sequence nodes _ => 2 * sizeOf nodes
  | .reference bindings _ _ applied _ => 2 * sizeOf bindings + applied.length + 2
  | .target bindings _ _ applied _ => 2 * sizeOf bindings + applied.length + 1
  | .actions bindings _ => 2 * sizeOf bindings
  | .values given _ => 2 * sizeOf given
  | .modifiers _ applied => applied.length

end Call

theorem length_le_sizeOf (modifiers : List AppliedModifier) :
    modifiers.length ≤ sizeOf modifiers := by
  induction modifiers with
  | nil => exact Nat.zero_le _
  | cons applied others ih =>
      simp only [List.length_cons, List.cons.sizeOf_spec]
      omega

variable {table : ModifierTable} {limit : Nat} {outer inner : Activation}

theorem Makes.levels_le (made : Makes table limit outer inner) :
    inner.call.levels limit ≤ outer.call.levels limit := by
  cases made <;> simp only [Call.levels] <;> omega

/-- A symbol leaves fewer levels to the template of its production. -/
theorem Makes.levels_of_symbol {symbol : String} {filter : Option Filter} {depth : Nat}
    {state : ExpansionState} (made : Makes table limit ⟨.symbol symbol filter depth, state⟩ inner) :
    depth ≤ limit ∧ inner.call.levels limit + depth = limit := by
  cases made with
  | production admitted _ _ =>
      simp only [Call.levels]
      omega

theorem Makes.levels_lt_or_size_lt (made : Makes table limit outer inner) :
    inner.call.levels limit < outer.call.levels limit ∨ inner.call.size < outer.call.size := by
  cases made with
  | production admitted _ _ =>
      left
      simp only [Call.levels]
      omega
  | @reference _ _ _ modifiers =>
      right
      have few := length_le_sizeOf modifiers
      simp only [Call.size, List.cons.sizeOf_spec, Node.reference.sizeOf_spec]
      omega
  | _ =>
      right
      simp only [Call.size, List.cons.sizeOf_spec, List.length_cons, Node.literal.sizeOf_spec,
        Node.binding.sizeOf_spec, Node.reference.sizeOf_spec, Action.bind.sizeOf_spec,
        ActionValue.value.sizeOf_spec]
      omega

/-- Calls cannot make further calls forever. -/
theorem wellFounded_makes (table : ModifierTable) (limit : Nat) :
    WellFounded fun inner outer => Makes table limit outer inner := by
  have left : WellFounded (Prod.Lex (· < ·) (· < ·) : Nat × Nat → Nat × Nat → Prop) :=
    WellFounded.prod_lex Nat.lt_wfRel.wf Nat.lt_wfRel.wf
  refine Subrelation.wf (fun made => ?_)
    (InvImage.wf (fun activation => (activation.call.levels limit, activation.call.size)) left)
  rcases made.levels_lt_or_size_lt with fewer | smaller
  · exact .left _ _ fewer
  · exact lex_of_le made.levels_le smaller

/-! ## Finitely many calls -/

/-- Of the calls that a call makes no two are of the same kind. -/
theorem Makes.eq_of_kind {other : Activation} (made : Makes table limit outer inner)
    (made' : Makes table limit outer other) (same : inner.call.ctorIdx = other.call.ctorIdx) :
    inner = other := by
  cases made <;> cases made' <;> simp_all [Call.ctorIdx]

theorem finite_makes (table : ModifierTable) (limit : Nat) (outer : Activation) :
    {inner | Makes table limit outer inner}.Finite := by
  have kinds : ∀ call : Call, call.ctorIdx < 8 := by
    intro call
    cases call <;> simp only [Call.ctorIdx, Nat.reduceLT]
  have few : ((fun inner : Activation => inner.call.ctorIdx) ''
      {inner | Makes table limit outer inner}).Finite := by
    refine (Set.finite_lt_nat 8).subset ?_
    rintro kind ⟨inner, -, rfl⟩
    exact kinds inner.call
  exact few.of_finite_image fun _ made _ made' same => made.eq_of_kind made' same

theorem setOf_during (table : ModifierTable) (limit : Nat) (start : Activation) :
    {inner | During table limit start inner} =
      insert start (⋃ next ∈ {next | Makes table limit start next},
        {inner | During table limit next inner}) := by
  ext inner
  simp only [Set.mem_ofPred_eq, Set.mem_insert_iff, Set.mem_iUnion, exists_prop]
  rw [During, Relation.ReflTransGen.cases_head_iff, eq_comm]

/-- Only finitely many calls are made during a call. -/
theorem finite_during (table : ModifierTable) (limit : Nat) (start : Activation) :
    {inner | During table limit start inner}.Finite := by
  induction start using (wellFounded_makes table limit).induction with
  | _ start ih =>
      rw [setOf_during]
      exact ((finite_makes table limit start).biUnion fun next made => ih next made).insert start

/-! ## Draws without an end -/

/-- A call that does not come past a draw of its own, since the draw takes words forever. -/
inductive DrawsForever (table : ModifierTable) (limit : Nat) : Activation → Prop where
  | production {symbol : String} {filter : Option Filter} {depth : Nat} {rules : ScopedRules}
      {generator : Random.Generator} {rule : Rule} :
      depth ≤ limit → rules.visible? symbol = some rule →
      (rule.draw filter).run generator = none →
      DrawsForever table limit ⟨.symbol symbol filter depth, ⟨rules, generator⟩⟩
  | number {filter : Option Filter} {depth : Nat} {rules : ScopedRules}
      {generator : Random.Generator} :
      depth ≤ limit → rules.visible? numberSymbol = none →
      Random.below32 numberBound generator = none →
      DrawsForever table limit ⟨.symbol numberSymbol filter depth, ⟨rules, generator⟩⟩
  | modifier {text : String} {applied : AppliedModifier} {others : List AppliedModifier}
      {rules : ScopedRules} {generator : Random.Generator} {modifier : Modifier} :
      table.find? applied.name = some modifier →
      (modifier.apply text applied.arguments).run generator = none →
      DrawsForever table limit ⟨.modifiers text (applied :: others), ⟨rules, generator⟩⟩

/-- A call that has no outcome. -/
def Endless (table : ModifierTable) (limit : Nat) (activation : Activation) : Prop :=
  (expansionOf table limit activation.call).run activation.state = none

section parts

variable {α β : Type} {state : ExpansionState}

theorem run_bind_eq_none_iff {computation : Expansion α} {next : α → Expansion β} :
    (computation >>= next).run state = none ↔
      computation.run state = none ∨ ∃ value middle,
        computation.run state = some (.ok value, middle) ∧ (next value).run middle = none := by
  rw [run_bind]
  rcases computation.run state with _ | ⟨_ | value, middle⟩ <;> simp

theorem run_bind_pure_eq_none_iff {computation : Expansion α} {last : α → β} :
    (do
      let value ← computation
      return last value : Expansion β).run state = none ↔ computation.run state = none := by
  rw [run_bind_eq_none_iff, or_iff_left]
  rintro ⟨value, middle, -, returned⟩
  cases returned

theorem run_sample_eq_none_iff {sampled : Sampled α} {rules : ScopedRules}
    {generator : Random.Generator} :
    (sample sampled).run ⟨rules, generator⟩ = none ↔ sampled.run generator = none := by
  change (sampled.run generator).bind _ = none ↔ _
  cases sampled.run generator <;> simp

theorem run_sample_of_run {sampled : Sampled α} {generator left : Random.Generator}
    {result : Except GrammarError α} (rules : ScopedRules)
    (given : sampled.run generator = some (result, left)) :
    (sample sampled).run ⟨rules, generator⟩ = some (result, ⟨rules, left⟩) := by
  change (sampled.run generator).bind _ = _
  rw [given]
  rfl

theorem run_andThenRules_eq_none_iff {computation : Expansion α}
    {change : ScopedRules → ScopedRules} :
    (computation.andThenRules change).run state = none ↔ computation.run state = none := by
  change (computation.run state).bind _ = none ↔ _
  cases computation.run state <;> simp

end parts

/-! ## Each call by the calls that it makes -/

section calls

variable {depth : Nat} {state : ExpansionState} {rules : ScopedRules}
  {generator : Random.Generator} {actions : List Action} {symbol : String}
  {filter : Option Filter} {modifiers : List AppliedModifier} {rest : List Node}

theorem not_endless_symbol_of_exceeded (exceeded : limit < depth) :
    ¬Endless table limit ⟨.symbol symbol filter depth, state⟩ := by
  intro endless
  change (symbolText table limit symbol filter depth).run state = none at endless
  rw [symbolText, if_pos exceeded] at endless
  cases endless

theorem endless_symbol_iff_of_unseen (admitted : depth ≤ limit)
    (unseen : rules.visible? symbol = none) :
    Endless table limit ⟨.symbol symbol filter depth, ⟨rules, generator⟩⟩ ↔
      symbol = numberSymbol ∧ Random.below32 numberBound generator = none := by
  change (symbolText table limit symbol filter depth).run ⟨rules, generator⟩ = none ↔ _
  rw [symbolText, if_neg (Nat.not_lt.mpr admitted), run_currentRules]
  simp only [unseen]
  split
  · rename_i number
    rw [run_bind_pure_eq_none_iff, run_sample_eq_none_iff, run_liftM, Option.map_eq_none_iff,
      and_iff_right number]
  · rename_i other
    constructor
    · intro endless
      cases endless
    · intro both
      exact absurd both.1 other

theorem endless_symbol_iff_of_visible (admitted : depth ≤ limit) {rule : Rule}
    (visible : rules.visible? symbol = some rule) :
    Endless table limit ⟨.symbol symbol filter depth, ⟨rules, generator⟩⟩ ↔
      (rule.draw filter).run generator = none ∨ ∃ production left,
        (rule.draw filter).run generator = some (.ok (some production), left) ∧
          Endless table limit ⟨.template production.template depth, ⟨rules, left⟩⟩ := by
  change (symbolText table limit symbol filter depth).run ⟨rules, generator⟩ = none ↔ _
  rw [symbolText, if_neg (Nat.not_lt.mpr admitted), run_currentRules]
  simp only [visible]
  rw [run_bind_eq_none_iff, run_sample_eq_none_iff]
  refine or_congr_right ⟨?_, ?_⟩
  · rintro ⟨drawn, middle, sampled, endless⟩
    obtain ⟨left, drew, rfl⟩ := run_sample_eq_some sampled
    cases drawn with
    | none => cases endless
    | some production => exact ⟨production, left, drew, endless⟩
  · rintro ⟨production, left, drew, endless⟩
    exact ⟨some production, ⟨rules, left⟩, run_sample_of_run rules drew, endless⟩

theorem endless_template_iff {template : Template} :
    Endless table limit ⟨.template template depth, state⟩ ↔
      Endless table limit ⟨.sequence template depth, state⟩ := by
  change (templateText table limit template depth).run state = none ↔ _
  rw [templateText, keepingScopes, run_currentRules, run_andThenRules_eq_none_iff]
  rfl

theorem not_endless_sequence_nil : ¬Endless table limit ⟨.sequence [] depth, state⟩ := by
  intro endless
  change (sequenceText table limit [] depth).run state = none at endless
  rw [sequenceText] at endless
  cases endless

theorem endless_sequence_literal_iff {text : String} :
    Endless table limit ⟨.sequence (.literal text :: rest) depth, state⟩ ↔
      Endless table limit ⟨.sequence rest depth, state⟩ := by
  change (sequenceText table limit (.literal text :: rest) depth).run state = none ↔ _
  rw [sequenceText, run_bind_pure_eq_none_iff]
  rfl

theorem endless_sequence_binding_iff :
    Endless table limit ⟨.sequence (.binding actions :: rest) depth, ⟨rules, generator⟩⟩ ↔
      Endless table limit ⟨.actions actions depth, ⟨rules.openScope, generator⟩⟩ ∨ ∃ after,
        (perform table limit actions depth).run ⟨rules.openScope, generator⟩ =
          some (.ok (), after) ∧ Endless table limit ⟨.sequence rest depth, after⟩ := by
  change (sequenceText table limit (.binding actions :: rest) depth).run _ = none ↔ _
  rw [sequenceText, run_openScope, run_bind_eq_none_iff]
  refine or_congr_right ⟨?_, fun parts => ⟨(), parts⟩⟩
  rintro ⟨_, after, parts⟩
  exact ⟨after, parts⟩

theorem endless_sequence_reference_iff :
    Endless table limit
        ⟨.sequence (.reference actions symbol filter modifiers :: rest) depth, state⟩ ↔
      Endless table limit ⟨.reference actions symbol filter modifiers depth, state⟩ ∨
      ∃ text after,
        (referenceText table limit actions symbol filter modifiers depth).run state =
          some (.ok text, after) ∧ Endless table limit ⟨.sequence rest depth, after⟩ := by
  change (sequenceText table limit (.reference actions symbol filter modifiers :: rest) depth).run
    state = none ↔ _
  rw [sequenceText, run_bind_eq_none_iff]
  simp only [run_bind_pure_eq_none_iff]
  rfl

theorem endless_reference_nil_iff :
    Endless table limit ⟨.reference [] symbol filter modifiers depth, state⟩ ↔
      Endless table limit ⟨.target [] symbol filter modifiers depth, state⟩ := by
  change (referenceText table limit [] symbol filter modifiers depth).run state = none ↔ _
  rw [referenceText, if_pos List.isEmpty_nil]
  rfl

theorem endless_reference_iff_of_ne_nil (acting : actions ≠ []) :
    Endless table limit ⟨.reference actions symbol filter modifiers depth, ⟨rules, generator⟩⟩ ↔
      Endless table limit
        ⟨.target actions symbol filter modifiers depth, ⟨rules.openScope, generator⟩⟩ := by
  change (referenceText table limit actions symbol filter modifiers depth).run _ = none ↔ _
  rw [referenceText, if_neg (by simpa using acting), inScope, run_openScope,
    run_andThenRules_eq_none_iff]
  rfl

theorem endless_target_iff :
    Endless table limit ⟨.target actions symbol filter modifiers depth, state⟩ ↔
      Endless table limit ⟨.actions actions depth, state⟩ ∨ ∃ bound,
        (perform table limit actions depth).run state = some (.ok (), bound) ∧
          (Endless table limit ⟨.symbol symbol filter (depth + 1), bound⟩ ∨ ∃ text after,
            (symbolText table limit symbol filter (depth + 1)).run bound =
              some (.ok text, after) ∧ Endless table limit ⟨.modifiers text modifiers, after⟩) := by
  change (targetText table limit actions symbol filter modifiers depth).run state = none ↔ _
  rw [targetText, run_bind_eq_none_iff]
  simp only [run_bind_eq_none_iff]
  refine or_congr_right ⟨?_, fun parts => ⟨(), parts⟩⟩
  rintro ⟨_, bound, parts⟩
  exact ⟨bound, parts⟩

theorem not_endless_actions_nil : ¬Endless table limit ⟨.actions [] depth, state⟩ := by
  intro endless
  change (perform table limit [] depth).run state = none at endless
  rw [perform] at endless
  cases endless

theorem run_bindKey_ne_none (action : Action) (values : List (ValueOperator × String)) :
    (bindKey action values).run state ≠ none := by
  obtain ⟨rules, generator⟩ := state
  rw [run_bindKey]
  split <;> simp

theorem endless_actions_iff {reset : Bool} {key : String} {values : List ActionValue}
    {others : List Action} :
    Endless table limit ⟨.actions (.bind reset key values :: others) depth, state⟩ ↔
      Endless table limit ⟨.values values depth, state⟩ ∨ ∃ texts middle bound,
        (valueTexts table limit values depth).run state = some (.ok texts, middle) ∧
          (bindKey (.bind reset key values) texts).run middle = some (.ok (), bound) ∧
            Endless table limit ⟨.actions others depth, bound⟩ := by
  change (perform table limit (.bind reset key values :: others) depth).run state = none ↔ _
  rw [perform, run_bind_eq_none_iff]
  simp only [run_bind_eq_none_iff, run_bindKey_ne_none, false_or]
  refine or_congr_right ⟨?_, ?_⟩
  · rintro ⟨texts, middle, given, _, bound, accepted, endless⟩
    exact ⟨texts, middle, bound, given, accepted, endless⟩
  · rintro ⟨texts, middle, bound, given, accepted, endless⟩
    exact ⟨texts, middle, given, (), bound, accepted, endless⟩

theorem not_endless_values_nil : ¬Endless table limit ⟨.values [] depth, state⟩ := by
  intro endless
  change (valueTexts table limit [] depth).run state = none at endless
  rw [valueTexts] at endless
  cases endless

theorem endless_values_iff {operator : ValueOperator} {template : Template}
    {others : List ActionValue} :
    Endless table limit ⟨.values (.value operator template :: others) depth, state⟩ ↔
      Endless table limit ⟨.template template (depth + 1), state⟩ ∨ ∃ text after,
        (templateText table limit template (depth + 1)).run state = some (.ok text, after) ∧
          Endless table limit ⟨.values others depth, after⟩ := by
  change (valueTexts table limit (.value operator template :: others) depth).run state = none ↔ _
  rw [valueTexts, run_bind_eq_none_iff]
  simp only [run_bind_pure_eq_none_iff]
  rfl

theorem not_endless_modifiers_nil {text : String} :
    ¬Endless table limit ⟨.modifiers text [], state⟩ := by
  intro endless
  cases endless

theorem not_endless_modifiers_of_unknown {text : String} {applied : AppliedModifier}
    {others : List AppliedModifier} (unknown : table.find? applied.name = none) :
    ¬Endless table limit ⟨.modifiers text (applied :: others), state⟩ := by
  intro endless
  change (applyModifiers table text (applied :: others)).run state = none at endless
  rw [applyModifiers] at endless
  simp only [unknown] at endless
  cases endless

theorem endless_modifiers_iff {text : String} {applied : AppliedModifier}
    {others : List AppliedModifier} {modifier : Modifier}
    (found : table.find? applied.name = some modifier) :
    Endless table limit ⟨.modifiers text (applied :: others), ⟨rules, generator⟩⟩ ↔
      (modifier.apply text applied.arguments).run generator = none ∨ ∃ changed left,
        (modifier.apply text applied.arguments).run generator = some (.ok changed, left) ∧
          Endless table limit ⟨.modifiers changed others, ⟨rules, left⟩⟩ := by
  change (applyModifiers table text (applied :: others)).run ⟨rules, generator⟩ = none ↔ _
  rw [applyModifiers]
  simp only [found]
  rw [run_bind_eq_none_iff, run_sample_eq_none_iff]
  refine or_congr_right ⟨?_, ?_⟩
  · rintro ⟨changed, middle, sampled, endless⟩
    obtain ⟨left, drew, rfl⟩ := run_sample_eq_some sampled
    exact ⟨changed, left, drew, endless⟩
  · rintro ⟨changed, left, drew, endless⟩
    exact ⟨changed, ⟨rules, left⟩, run_sample_of_run rules drew, endless⟩

end calls

/-! ## Runs -/

theorem DrawsForever.endless {activation : Activation}
    (forever : DrawsForever table limit activation) : Endless table limit activation := by
  cases forever with
  | production admitted visible drawing =>
      exact (endless_symbol_iff_of_visible admitted visible).mpr (.inl drawing)
  | number admitted unseen drawing =>
      exact (endless_symbol_iff_of_unseen admitted unseen).mpr ⟨rfl, drawing⟩
  | modifier found drawing => exact (endless_modifiers_iff found).mpr (.inl drawing)

/-- What has no outcome leaves none to the call around it. -/
theorem Endless.of_makes (endless : Endless table limit inner)
    (made : Makes table limit outer inner) : Endless table limit outer := by
  cases made with
  | production admitted visible drawn =>
      exact (endless_symbol_iff_of_visible admitted visible).mpr (.inr ⟨_, _, drawn, endless⟩)
  | nodes => exact endless_template_iff.mpr endless
  | afterLiteral => exact endless_sequence_literal_iff.mpr endless
  | binding => exact endless_sequence_binding_iff.mpr (.inl endless)
  | afterBinding performed =>
      exact endless_sequence_binding_iff.mpr (.inr ⟨_, performed, endless⟩)
  | reference => exact endless_sequence_reference_iff.mpr (.inl endless)
  | afterReference expanded =>
      exact endless_sequence_reference_iff.mpr (.inr ⟨_, _, expanded, endless⟩)
  | plain => exact endless_reference_nil_iff.mpr endless
  | inScope acting => exact (endless_reference_iff_of_ne_nil acting).mpr endless
  | actions => exact endless_target_iff.mpr (.inl endless)
  | symbol performed => exact endless_target_iff.mpr (.inr ⟨_, performed, .inl endless⟩)
  | modifiers performed expanded =>
      exact endless_target_iff.mpr (.inr ⟨_, performed, .inr ⟨_, _, expanded, endless⟩⟩)
  | values => exact endless_actions_iff.mpr (.inl endless)
  | afterAction given accepted =>
      exact endless_actions_iff.mpr (.inr ⟨_, _, _, given, accepted, endless⟩)
  | value => exact endless_values_iff.mpr (.inl endless)
  | afterValue given => exact endless_values_iff.mpr (.inr ⟨_, _, given, endless⟩)
  | afterModifier found changed =>
      exact (endless_modifiers_iff found).mpr (.inr ⟨_, _, changed, endless⟩)

/-- A call without an outcome draws forever, or makes such a call. -/
theorem Endless.step (endless : Endless table limit outer) :
    DrawsForever table limit outer ∨
      ∃ inner, Makes table limit outer inner ∧ Endless table limit inner := by
  obtain ⟨call, rules, generator⟩ := outer
  cases call with
  | symbol symbol filter depth =>
      have admitted : depth ≤ limit :=
        Nat.le_of_not_lt fun exceeded => not_endless_symbol_of_exceeded exceeded endless
      cases visible : rules.visible? symbol with
      | none =>
          obtain ⟨rfl, drawing⟩ := (endless_symbol_iff_of_unseen admitted visible).mp endless
          exact .inl (.number admitted visible drawing)
      | some rule =>
          rcases (endless_symbol_iff_of_visible admitted visible).mp endless with
            drawing | ⟨production, left, drawn, endless⟩
          · exact .inl (.production admitted visible drawing)
          · exact .inr ⟨_, .production admitted visible drawn, endless⟩
  | template template depth => exact .inr ⟨_, .nodes, endless_template_iff.mp endless⟩
  | sequence nodes depth =>
      cases nodes with
      | nil => exact absurd endless not_endless_sequence_nil
      | cons node rest =>
          cases node with
          | literal text =>
              exact .inr ⟨_, .afterLiteral, endless_sequence_literal_iff.mp endless⟩
          | binding actions =>
              rcases endless_sequence_binding_iff.mp endless with
                endless | ⟨after, performed, endless⟩
              · exact .inr ⟨_, .binding, endless⟩
              · exact .inr ⟨_, .afterBinding performed, endless⟩
          | reference actions symbol filter modifiers =>
              rcases endless_sequence_reference_iff.mp endless with
                endless | ⟨text, after, expanded, endless⟩
              · exact .inr ⟨_, .reference, endless⟩
              · exact .inr ⟨_, .afterReference expanded, endless⟩
  | reference actions symbol filter modifiers depth =>
      by_cases none : actions = []
      · subst none
        exact .inr ⟨_, .plain, endless_reference_nil_iff.mp endless⟩
      · exact .inr ⟨_, .inScope none, (endless_reference_iff_of_ne_nil none).mp endless⟩
  | target actions symbol filter modifiers depth =>
      rcases endless_target_iff.mp endless with
        endless | ⟨bound, performed, endless | ⟨text, after, expanded, endless⟩⟩
      · exact .inr ⟨_, .actions, endless⟩
      · exact .inr ⟨_, .symbol performed, endless⟩
      · exact .inr ⟨_, .modifiers performed expanded, endless⟩
  | actions actions depth =>
      cases actions with
      | nil => exact absurd endless not_endless_actions_nil
      | cons action others =>
          obtain ⟨reset, key, values⟩ := action
          rcases endless_actions_iff.mp endless with
            endless | ⟨texts, middle, bound, given, accepted, endless⟩
          · exact .inr ⟨_, .values, endless⟩
          · exact .inr ⟨_, .afterAction given accepted, endless⟩
  | values values depth =>
      cases values with
      | nil => exact absurd endless not_endless_values_nil
      | cons value others =>
          obtain ⟨operator, template⟩ := value
          rcases endless_values_iff.mp endless with endless | ⟨text, after, given, endless⟩
          · exact .inr ⟨_, .value, endless⟩
          · exact .inr ⟨_, .afterValue given, endless⟩
  | modifiers text modifiers =>
      cases modifiers with
      | nil => exact absurd endless not_endless_modifiers_nil
      | cons applied others =>
          cases found : table.find? applied.name with
          | none => exact absurd endless (not_endless_modifiers_of_unknown found)
          | some modifier =>
              rcases (endless_modifiers_iff found).mp endless with
                drawing | ⟨changed, left, drew, endless⟩
              · exact .inl (.modifier found drawing)
              · exact .inr ⟨_, .afterModifier found drew, endless⟩

/-- A call has no outcome exactly where it, or a call that is made during it, draws forever. -/
theorem endless_iff (start : Activation) :
    Endless table limit start ↔
      ∃ inner, During table limit start inner ∧ DrawsForever table limit inner := by
  constructor
  · intro endless
    induction start using (wellFounded_makes table limit).induction with
    | _ start ih =>
        rcases endless.step with forever | ⟨next, made, endless⟩
        · exact ⟨start, .refl, forever⟩
        · obtain ⟨inner, during, forever⟩ := ih next made endless
          exact ⟨inner, .head made during, forever⟩
  · rintro ⟨inner, during, forever⟩
    induction during using Relation.ReflTransGen.head_induction_on with
    | refl => exact forever.endless
    | head made _ ih => exact ih.of_makes made

end StoryGrammar.Expansion
