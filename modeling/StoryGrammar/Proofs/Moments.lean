import StoryGrammar.Proofs.Calls
import StoryGrammar.Proofs.HeldRules

set_option autoImplicit false

/-!
# Rules at every moment of an expansion

Scopes are opened and closed while an expansion runs, and actions bind keys in them; nothing else
happens to the rules. What all of this leaves true holds wherever a call is made and however it
ends.
-/

namespace StoryGrammar.Expansion

/-- Something about rules that opening a scope, closing scopes and the bindings of actions leave
true. -/
structure Lasting (Holds : ScopedRules → Prop) : Prop where
  openScope : ∀ {rules : ScopedRules}, Holds rules → Holds rules.openScope
  closeScope : ∀ {rules : ScopedRules}, Holds rules → Holds rules.closeScope
  closeScopesTo : ∀ {rules : ScopedRules} (count : Nat),
    Holds rules → Holds (rules.closeScopesTo count)
  bind : ∀ {rules bound : ScopedRules} {action : Action} {values : List (ValueOperator × String)},
    Holds rules →
    rules.bind action.key (boundProductions action (rules.visible? action.key) values) =
      .ok bound →
    Holds bound

/-- What holds of every rule that is held lasts, if it holds of rules that are put together from
productions of such rules of the same key and from literal ones. -/
theorem lasting_allRules {Good : String → Rule → Prop}
    (bound : ∀ {key : String} {productions : List Production},
      ScopedRules.ruleOf key productions = .ok ⟨productions⟩ →
      (∀ production ∈ productions, (∃ rule, Good key rule ∧ production ∈ rule.productions) ∨
        ∃ text, production = Production.ofLiteral text) →
      Good key ⟨productions⟩) :
    Lasting fun rules => rules.AllRules Good where
  openScope all := all.openScope
  closeScope all := all.of_subset fun _ => List.mem_of_mem_tail
  closeScopesTo count all := all.of_subset (List.drop_subset _ _)
  bind all accepted := by
    refine all.bind accepted (bound (ScopedRules.bind_eq_ok accepted).1 ?_)
    intro production member
    rcases mem_boundProductions member with ⟨rule, visible, present⟩ | literal
    · exact .inl ⟨rule, all.visible visible, present⟩
    · exact .inr literal

theorem weighted_boundProductions (action : Action) {visible : Option Rule}
    (values : List (ValueOperator × String)) (sound : ∀ rule, visible = some rule → rule.Sound) :
    ∀ production ∈ boundProductions action visible values, production.weight ≠ 0 := by
  intro production member
  obtain ⟨rule, found, present⟩ | ⟨text, rfl⟩ := mem_boundProductions member
  · exact (sound rule found).weighted production present
  · exact (by decide : (1 : UInt32) ≠ 0)

/-- An expansion does not touch the base rules. -/
theorem lasting_base (Holds : Table Rule → Prop) : Lasting fun rules => Holds rules.base where
  openScope holds := holds
  closeScope holds := holds
  closeScopesTo _ holds := holds
  bind holds accepted := by
    obtain ⟨-, scope, outer, -, rfl⟩ := ScopedRules.bind_eq_ok accepted
    exact holds

/-- From rules of which it holds, the computation only leads to rules of which it holds, also where
it fails. -/
def Keeps {α : Type} (Holds : ScopedRules → Prop) (computation : Expansion α) : Prop :=
  ∀ state result after, Holds state.rules → computation.run state = some (result, after) →
    Holds after.rules

section Keeps

variable {Holds : ScopedRules → Prop} {α β : Type}

theorem LeavesRules.keeps {computation : Expansion α} (leaves : LeavesRules computation) :
    Keeps Holds computation := by
  intro state result after holds outcome
  rw [leaves state result after outcome]
  exact holds

theorem keeps_pure (value : α) : Keeps Holds (pure value : Expansion α) := by
  intro state result after holds outcome
  cases outcome
  exact holds

theorem Keeps.bind {computation : Expansion α} {next : α → Expansion β}
    (first : Keeps Holds computation) (second : ∀ value, Keeps Holds (next value)) :
    Keeps Holds (computation >>= next) := by
  intro state result after holds outcome
  rcases run_bind_eq_some outcome with ⟨error, failed, -⟩ | ⟨value, middle, given, continued⟩
  · exact first _ _ _ holds failed
  · exact second value _ _ _ (first _ _ _ holds given) continued

theorem Lasting.keeps_openScope (lasting : Lasting Holds) : Keeps Holds Expansion.openScope := by
  intro state result after holds outcome
  cases outcome
  exact lasting.openScope holds

theorem Lasting.keeps_bindKey (lasting : Lasting Holds) (action : Action)
    (values : List (ValueOperator × String)) : Keeps Holds (bindKey action values) := by
  intro state result after holds outcome
  obtain ⟨rules, generator⟩ := state
  rw [run_bindKey] at outcome
  split at outcome
  · rename_i accepted
    cases outcome
    exact lasting.bind holds accepted
  · cases outcome
    exact holds

end Keeps

/-! ## Calls -/

section calls

variable {Holds : ScopedRules → Prop} {table : ModifierTable} {limit : Nat}

theorem valueTexts_leavesRules (table : ModifierTable) (limit : Nat) (values : List ActionValue)
    (depth : Nat) : LeavesRules (valueTexts table limit values depth) :=
  leavesRules_of_evaluates ((refines table limit).2.2.2.2.2.2 values depth)

theorem operators_valueTexts {depth : Nat} {values : List ActionValue}
    {state after : ExpansionState} {texts : List (ValueOperator × String)}
    (given : (valueTexts table limit values depth).run state = some (.ok texts, after)) :
    texts.map (·.1) = values.map (·.operator) := by
  induction values generalizing state texts with
  | nil =>
      rw [valueTexts] at given
      cases given
      rfl
  | cons value rest ih =>
      obtain ⟨operator, template⟩ := value
      rw [valueTexts] at given
      obtain ⟨text, middle, -, given⟩ := run_bind_eq_ok given
      obtain ⟨others, last, following, given⟩ := run_bind_eq_ok given
      cases given
      rw [List.map_cons, ih following]
      rfl

theorem applyModifiers_leavesRules (table : ModifierTable) (text : String)
    (modifiers : List AppliedModifier) : LeavesRules (applyModifiers table text modifiers) :=
  leavesRules_of_evaluates (applyModifiers_evaluates table modifiers text)

theorem Lasting.keeps_perform (lasting : Lasting Holds) (actions : List Action) (depth : Nat) :
    Keeps Holds (perform table limit actions depth) := by
  induction actions with
  | nil =>
      rw [perform]
      exact keeps_pure ()
  | cons action rest ih =>
      obtain ⟨reset, key, values⟩ := action
      rw [perform]
      refine (valueTexts_leavesRules table limit values depth).keeps.bind fun texts => ?_
      exact (lasting.keeps_bindKey _ texts).bind fun _ => ih

/-- The scopes of a sequence's bindings are still open behind it. -/
theorem Lasting.keeps_sequenceText (lasting : Lasting Holds) (nodes : List Node) (depth : Nat) :
    Keeps Holds (sequenceText table limit nodes depth) := by
  induction nodes with
  | nil =>
      rw [sequenceText]
      exact keeps_pure ""
  | cons node rest ih =>
      cases node with
      | literal text =>
          rw [sequenceText]
          exact ih.bind fun following => keeps_pure (text ++ following)
      | binding actions =>
          rw [sequenceText]
          refine lasting.keeps_openScope.bind fun _ => ?_
          exact (lasting.keeps_perform actions depth).bind fun _ => ih
      | reference actions symbol filter modifiers =>
          rw [sequenceText]
          have reference := referenceText_leavesRules table limit actions symbol filter modifiers
            depth
          refine reference.keeps.bind fun text => ?_
          exact ih.bind fun following => keeps_pure (text ++ following)

theorem Lasting.keeps_targetText (lasting : Lasting Holds) (actions : List Action)
    (symbol : String) (filter : Option Filter) (modifiers : List AppliedModifier) (depth : Nat) :
    Keeps Holds (targetText table limit actions symbol filter modifiers depth) := by
  rw [targetText]
  refine (lasting.keeps_perform actions depth).bind fun _ => ?_
  refine (symbolText_leavesRules table limit symbol filter (depth + 1)).keeps.bind fun text => ?_
  exact (applyModifiers_leavesRules table text modifiers).keeps

theorem Lasting.keeps_expansionOf (lasting : Lasting Holds) (call : Call) :
    Keeps Holds (expansionOf table limit call) := by
  cases call with
  | symbol symbol filter depth => exact (symbolText_leavesRules table limit symbol filter depth).keeps
  | template template depth => exact (templateText_leavesRules table limit template depth).keeps
  | sequence nodes depth => exact lasting.keeps_sequenceText nodes depth
  | reference actions symbol filter modifiers depth =>
      exact (referenceText_leavesRules table limit actions symbol filter modifiers depth).keeps
  | target actions symbol filter modifiers depth =>
      exact lasting.keeps_targetText actions symbol filter modifiers depth
  | actions actions depth => exact lasting.keeps_perform actions depth
  | values values depth => exact (valueTexts_leavesRules table limit values depth).keeps
  | modifiers text modifiers => exact (applyModifiers_leavesRules table text modifiers).keeps

theorem Lasting.makes (lasting : Lasting Holds) {outer inner : Activation}
    (made : Makes table limit outer inner) (holds : Holds outer.state.rules) :
    Holds inner.state.rules := by
  cases made with
  | production | nodes | afterLiteral | reference | plain | actions | values | value
  | afterModifier => exact holds
  | binding | inScope => exact lasting.openScope holds
  | afterBinding performed =>
      exact lasting.keeps_perform _ _ _ _ _ (lasting.openScope holds) performed
  | afterReference expanded =>
      exact (referenceText_leavesRules _ _ _ _ _ _ _).keeps _ _ _ holds expanded
  | symbol performed => exact lasting.keeps_perform _ _ _ _ _ holds performed
  | modifiers performed expanded =>
      have extended := lasting.keeps_perform _ _ _ _ _ holds performed
      exact (symbolText_leavesRules _ _ _ _ _).keeps _ _ _ extended expanded
  | afterAction given accepted =>
      have kept := (valueTexts_leavesRules _ _ _ _).keeps _ _ _ holds given
      exact lasting.keeps_bindKey _ _ _ _ _ kept accepted
  | afterValue given => exact (templateText_leavesRules _ _ _ _).keeps _ _ _ holds given

theorem Lasting.during (lasting : Lasting Holds) {start inner : Activation}
    (during : During table limit start inner) (holds : Holds start.state.rules) :
    Holds inner.state.rules := by
  induction during with
  | refl => exact holds
  | tail _ made ih => exact lasting.makes made ih

end calls

/-! ## Moments -/

/-- The rules at some moment of what comes of a call: those that it or a call made during it starts
on, and those that such a call leaves behind, with a result or with an error. -/
inductive SeenDuring (table : ModifierTable) (limit : Nat) (start : Activation) :
    ScopedRules → Prop where
  | made {inner : Activation} :
      During table limit start inner → SeenDuring table limit start inner.state.rules
  | left {inner : Activation} {result : Except GrammarError inner.call.Result}
      {after : ExpansionState} :
      During table limit start inner →
      (expansionOf table limit inner.call).run inner.state = some (result, after) →
      SeenDuring table limit start after.rules

theorem Lasting.seenDuring {Holds : ScopedRules → Prop} (lasting : Lasting Holds)
    {table : ModifierTable} {limit : Nat} {start : Activation} {rules : ScopedRules}
    (seen : SeenDuring table limit start rules) (holds : Holds start.state.rules) :
    Holds rules := by
  cases seen with
  | made during => exact lasting.during during holds
  | left during outcome =>
      exact lasting.keeps_expansionOf _ _ _ _ (lasting.during during holds) outcome

end StoryGrammar.Expansion
