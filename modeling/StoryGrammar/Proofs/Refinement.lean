import StoryGrammar.Proofs.Definition
import StoryGrammar.Proofs.Simulation

set_option autoImplicit false

/-!
# Expansion refines evaluation

Each function of the expansion is compared with its counterpart in an environment, for a caller's
rules and the environment of what they make visible. One induction over the calls joins the
comparisons.
-/

namespace StoryGrammar

namespace ScopedRules

theorem visible?_openScope_eq (rules : ScopedRules) :
    rules.openScope.visible? = rules.visible? :=
  funext rules.visible?_openScope

/-- Where a scope is open, a binding is refused only because it makes no rule. -/
theorem bind_of_opened {rules : ScopedRules} (opened : rules.scopes ≠ []) (symbol : String)
    (productions : List Production) :
    match ruleOf symbol productions with
    | .error error => rules.bind symbol productions = .error error
    | .ok rule => ∃ bound, rules.bind symbol productions = .ok bound ∧
        bound.visible? = Environment.bind rules.visible? symbol rule ∧ rules.Rebound bound := by
  cases made : ruleOf symbol productions with
  | error error => simp [bind, made]
  | ok rule =>
      obtain ⟨base, scopes⟩ := rules
      cases scopes with
      | nil => exact absurd rfl opened
      | cons scope outer =>
          have accepted : bind ⟨base, scope :: outer⟩ symbol productions =
              .ok ⟨base, scope.insert symbol rule :: outer⟩ := by
            simp [bind, made]
          have same : rule = ⟨productions⟩ := (ruleOf_eq_ok_iff.mp made).2.2.2
          refine ⟨_, accepted, ?_, rfl, rfl, by simp [scopeCount]⟩
          funext sought
          rw [visible?_bind accepted, same]
          rfl

end ScopedRules

namespace Expansion

variable (table : ModifierTable) (limit : Nat)

/-! ## Modifiers and bindings -/

theorem applyModifiers_evaluates (modifiers : List AppliedModifier) (text : String)
    (rules : ScopedRules) :
    Evaluates rules (applyModifiers table text modifiers)
      (modifiers.foldlM (Environment.modified table) text) := by
  induction modifiers generalizing text with
  | nil => exact .pure ⟨rfl, rfl⟩
  | cons applied others ih =>
      rw [List.foldlM_cons]
      cases found : table.find? applied.name with
      | none =>
          simp only [applyModifiers, Environment.modified, found]
          exact fun _ => .failure rfl
      | some modifier =>
          simp only [applyModifiers, Environment.modified, found]
          exact Evaluates.bind (.sample _) rfl ih

theorem run_bindKey (action : Action) (values : List (ValueOperator × String))
    (rules : ScopedRules) (generator : Random.Generator) :
    (bindKey action values).run ⟨rules, generator⟩ =
      match rules.bind action.key
        (boundProductions action (rules.visible? action.key) values) with
      | .ok bound => some (.ok (), ⟨bound, generator⟩)
      | .error error => some (.error error, ⟨rules, generator⟩) := by
  unfold bindKey
  rw [run_bind]
  change (match rules.bind action.key
    (boundProductions action (rules.visible? action.key) values) with
    | .ok bound => setRules bound
    | .error error => throw error : Expansion Unit).run ⟨rules, generator⟩ = _
  cases rules.bind action.key
    (boundProductions action (rules.visible? action.key) values) <;> rfl

/-- Where a scope is open, an action binds the rule that the environment gives its key. -/
theorem bindKey_simulates (action : Action) (values : List (ValueOperator × String))
    (rules : ScopedRules) (opened : rules.scopes ≠ []) :
    Simulates rules (bindKey action values)
      (liftM (Environment.ruleOf rules.visible? action values) : Sampled Rule)
      (fun _ rule after =>
        Environment.bind rules.visible? action.key rule = after.visible? ∧ rules.Rebound after)
      (· = rules) := by
  intro generator
  rw [run_bindKey]
  have rebinding := ScopedRules.bind_of_opened opened action.key
    (boundProductions action (rules.visible? action.key) values)
  unfold Environment.ruleOf
  cases made : ScopedRules.ruleOf action.key
      (boundProductions action (rules.visible? action.key) values) with
  | error error =>
      simp only [made] at rebinding
      rw [rebinding]
      exact .failure rfl
  | ok rule =>
      simp only [made] at rebinding
      obtain ⟨bound, accepted, visible, rebound⟩ := rebinding
      rw [accepted]
      exact .success ⟨visible.symm, rebound⟩

/-! ## The functions of the expansion -/

/-- The rules that actions leave: those of the innermost scope may have changed, and none have where
there are no actions. -/
def Performed (actions : List Action) (rules after : ScopedRules) : Prop :=
  rules.Rebound after ∧ (actions = [] → after = rules)

def SymbolRefines (symbol : String) (filter : Option Filter) (depth : Nat) : Prop :=
  ∀ rules, Evaluates rules (symbolText table limit symbol filter depth)
    (Environment.symbolText table limit rules.visible? symbol filter depth)

def TemplateRefines (template : Template) (depth : Nat) : Prop :=
  ∀ rules, Evaluates rules (templateText table limit template depth)
    (Environment.sequenceText table limit rules.visible? template depth)

/-- Sequences leave the scopes of their bindings open. -/
def SequenceRefines (nodes : List Node) (depth : Nat) : Prop :=
  ∀ rules, Simulates rules (sequenceText table limit nodes depth)
    (Environment.sequenceText table limit rules.visible? nodes depth)
    (fun text result after => text = result ∧ rules.Above after) rules.Above

def ReferenceRefines (actions : List Action) (symbol : String) (filter : Option Filter)
    (modifiers : List AppliedModifier) (depth : Nat) : Prop :=
  ∀ rules, Evaluates rules
    (referenceText table limit actions symbol filter modifiers depth)
    (Environment.referenceText table limit rules.visible? actions symbol filter modifiers depth)

/-- Actions need an open scope to bind their keys in. -/
def TargetRefines (actions : List Action) (symbol : String) (filter : Option Filter)
    (modifiers : List AppliedModifier) (depth : Nat) : Prop :=
  ∀ rules : ScopedRules, (actions ≠ [] → rules.scopes ≠ []) →
    Simulates rules (targetText table limit actions symbol filter modifiers depth)
      (Environment.referenceText table limit rules.visible? actions symbol filter modifiers depth)
      (fun text result after => text = result ∧ Performed actions rules after)
      (Performed actions rules)

def ActionsRefine (actions : List Action) (depth : Nat) : Prop :=
  ∀ rules : ScopedRules, (actions ≠ [] → rules.scopes ≠ []) →
    Simulates rules (perform table limit actions depth)
      (Environment.extended table limit rules.visible? actions depth)
      (fun _ extended after => extended = after.visible? ∧ Performed actions rules after)
      (Performed actions rules)

def ValuesRefine (values : List ActionValue) (depth : Nat) : Prop :=
  ∀ rules, Evaluates rules (valueTexts table limit values depth)
    (Environment.valueTexts table limit rules.visible? values depth)

variable {table : ModifierTable} {limit : Nat} {depth : Nat}

theorem Performed.refl (actions : List Action) (rules : ScopedRules) :
    Performed actions rules rules :=
  ⟨.refl rules, fun _ => rfl⟩

theorem symbolRefines_of_exceeded {symbol : String} {filter : Option Filter}
    (exceeded : limit < depth) : SymbolRefines table limit symbol filter depth := by
  intro rules
  rw [symbolText, Environment.symbolText, if_pos exceeded, if_pos exceeded]
  exact .throw rfl

theorem symbolRefines {symbol : String} {filter : Option Filter} (allowed : ¬limit < depth)
    (templates : ∀ production : Production,
      TemplateRefines table limit production.template depth) :
    SymbolRefines table limit symbol filter depth := by
  intro rules
  rw [symbolText, Environment.symbolText, if_neg allowed, if_neg allowed]
  refine Simulates.currentRules ?_
  cases found : rules.visible? symbol with
  | none =>
      simp only
      split
      · exact Evaluates.bind (.sample _) rfl fun number => .pure ⟨rfl, rfl⟩
      · exact .throw rfl
  | some rule =>
      refine Evaluates.bind (.sample _) rfl fun drawn => ?_
      cases drawn with
      | none => exact .throw rfl
      | some production => exact templates production rules

theorem templateRefines {template : Template}
    (sequence : SequenceRefines table limit template depth) :
    TemplateRefines table limit template depth := by
  intro rules
  rw [templateText]
  exact .keepingScopes (sequence rules)

theorem sequenceRefines_nil : SequenceRefines table limit [] depth := by
  intro rules
  rw [sequenceText, Environment.sequenceText]
  exact .pure ⟨rfl, .refl rules⟩

theorem sequenceRefines_literal {text : String} {rest : List Node}
    (following : SequenceRefines table limit rest depth) :
    SequenceRefines table limit (.literal text :: rest) depth := by
  intro rules
  rw [sequenceText, Environment.sequenceText]
  refine (following rules).bind ?_
  rintro value result after ⟨rfl, above⟩
  exact .pure ⟨rfl, above⟩

theorem sequenceRefines_binding {actions : List Action} {rest : List Node}
    (bindings : ActionsRefine table limit actions depth)
    (following : SequenceRefines table limit rest depth) :
    SequenceRefines table limit (.binding actions :: rest) depth := by
  intro rules
  rw [sequenceText, Environment.sequenceText]
  refine Simulates.openScope ?_
  have performed := bindings rules.openScope (by simp [ScopedRules.openScope])
  rw [rules.visible?_openScope_eq] at performed
  refine (performed.weaken (fun _ _ _ holds => holds) ?_).bind ?_
  · exact fun after changed => changed.1.above
  · rintro _ extended after ⟨rfl, changed⟩
    refine (following after).weaken ?_ ?_
    · rintro value result final ⟨same, above⟩
      exact ⟨same, changed.1.above.trans above⟩
    · exact fun final above => changed.1.above.trans above

theorem sequenceRefines_reference {actions : List Action} {symbol : String}
    {filter : Option Filter} {modifiers : List AppliedModifier} {rest : List Node}
    (reference : ReferenceRefines table limit actions symbol filter modifiers depth)
    (following : SequenceRefines table limit rest depth) :
    SequenceRefines table limit (.reference actions symbol filter modifiers :: rest) depth := by
  intro rules
  rw [sequenceText, Environment.sequenceText]
  refine (reference rules).bind (.refl rules) fun text => ?_
  refine (following rules).bind ?_
  rintro value result after ⟨rfl, above⟩
  exact .pure ⟨rfl, above⟩

theorem referenceRefines_plain {actions : List Action} {symbol : String}
    {filter : Option Filter} {modifiers : List AppliedModifier} (plain : actions.isEmpty = true)
    (target : TargetRefines table limit actions symbol filter modifiers depth) :
    ReferenceRefines table limit actions symbol filter modifiers depth := by
  intro rules
  have none : actions = [] := List.isEmpty_iff.mp plain
  rw [referenceText, if_pos plain]
  refine (target rules fun some => absurd none some).weaken ?_ ?_
  · rintro value result after ⟨same, changed⟩
    exact ⟨same, changed.2 none⟩
  · exact fun after changed => changed.2 none

theorem referenceRefines_scoped {actions : List Action} {symbol : String}
    {filter : Option Filter} {modifiers : List AppliedModifier} (acting : ¬actions.isEmpty = true)
    (target : TargetRefines table limit actions symbol filter modifiers depth) :
    ReferenceRefines table limit actions symbol filter modifiers depth := by
  intro rules
  rw [referenceText, if_neg acting]
  have expanded := target rules.openScope (by simp [ScopedRules.openScope])
  rw [rules.visible?_openScope_eq] at expanded
  refine .inScope (expanded.weaken ?_ ?_)
  · rintro value result after ⟨same, changed⟩
    exact ⟨same, changed.1⟩
  · exact fun after changed => changed.1

theorem targetRefines {actions : List Action} {symbol : String} {filter : Option Filter}
    {modifiers : List AppliedModifier} (bindings : ActionsRefine table limit actions depth)
    (target : SymbolRefines table limit symbol filter (depth + 1)) :
    TargetRefines table limit actions symbol filter modifiers depth := by
  intro rules opened
  rw [targetText, Environment.referenceText]
  refine (bindings rules opened).bind ?_
  rintro _ extended after ⟨rfl, changed⟩
  refine Evaluates.bind (target after) changed fun text => ?_
  refine Simulates.weaken (applyModifiers_evaluates table modifiers text after) ?_ ?_
  · rintro value result final ⟨same, rfl⟩
    exact ⟨same, changed⟩
  · rintro final rfl
    exact changed

theorem actionsRefine_nil : ActionsRefine table limit [] depth := by
  intro rules _
  rw [perform, Environment.extended]
  exact .pure ⟨rfl, .refl [] rules⟩

theorem actionsRefine_cons {reset : Bool} {key : String} {values : List ActionValue}
    {rest : List Action} (expanded : ValuesRefine table limit values depth)
    (others : ActionsRefine table limit rest depth) :
    ActionsRefine table limit (.bind reset key values :: rest) depth := by
  intro rules opened
  have opened : rules.scopes ≠ [] := opened (by simp)
  rw [perform, Environment.extended]
  refine Evaluates.bind (expanded rules) (.refl _ rules) fun texts => ?_
  have bound := bindKey_simulates (.bind reset key values) texts rules opened
  refine (bound.weaken (fun _ _ _ holds => holds) ?_).bind ?_
  · rintro after rfl
    exact .refl _ after
  · rintro _ rule after ⟨visible, rebound⟩
    have remaining := others after fun _ => rebound.scopes_ne_nil opened
    rw [← visible] at remaining
    refine remaining.weaken ?_ ?_
    · rintro _ extended final ⟨same, changed⟩
      exact ⟨same, rebound.trans changed.1, by simp⟩
    · exact fun final changed => ⟨rebound.trans changed.1, by simp⟩

theorem valuesRefine_nil : ValuesRefine table limit [] depth := by
  intro rules
  rw [valueTexts, Environment.valueTexts]
  exact .pure ⟨rfl, rfl⟩

theorem valuesRefine_cons {operator : ValueOperator} {template : Template}
    {rest : List ActionValue} (first : TemplateRefines table limit template (depth + 1))
    (others : ValuesRefine table limit rest depth) :
    ValuesRefine table limit (.value operator template :: rest) depth := by
  intro rules
  rw [valueTexts, Environment.valueTexts]
  refine Evaluates.bind (first rules) rfl fun text => ?_
  exact Evaluates.bind (others rules) rfl fun texts => .pure ⟨rfl, rfl⟩

theorem refines (table : ModifierTable) (limit : Nat) :
    (∀ symbol filter depth, SymbolRefines table limit symbol filter depth) ∧
      (∀ template depth, TemplateRefines table limit template depth) ∧
      (∀ nodes depth, SequenceRefines table limit nodes depth) ∧
      (∀ actions symbol filter modifiers depth,
        ReferenceRefines table limit actions symbol filter modifiers depth) ∧
      (∀ actions symbol filter modifiers depth,
        TargetRefines table limit actions symbol filter modifiers depth) ∧
      (∀ actions depth, ActionsRefine table limit actions depth) ∧
      ∀ values depth, ValuesRefine table limit values depth := by
  refine symbolText.mutual_induct limit _ _ _ _ _ _ _ ?_ ?_ ?_ ?_ ?_ ?_ ?_ ?_ ?_ ?_ ?_ ?_ ?_ ?_
  · exact fun _ _ _ => symbolRefines_of_exceeded
  · exact fun _ _ _ => symbolRefines
  · exact fun _ _ => templateRefines
  · exact fun _ => sequenceRefines_nil
  · exact fun _ _ _ => sequenceRefines_literal
  · exact fun _ _ _ => sequenceRefines_binding
  · exact fun _ _ _ _ _ _ => sequenceRefines_reference
  · exact fun _ _ _ _ _ => referenceRefines_plain
  · exact fun _ _ _ _ _ => referenceRefines_scoped
  · exact fun _ _ _ _ _ => targetRefines
  · exact fun _ => actionsRefine_nil
  · exact fun _ _ _ _ _ => actionsRefine_cons
  · exact fun _ => valuesRefine_nil
  · exact fun _ _ _ _ => valuesRefine_cons

/-! ## From the top -/

/-- Whatever comes of the computation, the rules it leaves are those it was started on: the base
rules and the contents of every scope. -/
def LeavesRules {α : Type} (computation : Expansion α) : Prop :=
  ∀ state result after, computation.run state = some (result, after) → after.rules = state.rules

theorem leavesRules_of_evaluates {α : Type} {computation : Expansion α}
    {evaluation : ScopedRules → Sampled α}
    (evaluates : ∀ rules, Evaluates rules computation (evaluation rules)) :
    LeavesRules computation := by
  intro state result after outcome
  have agreed := evaluates state.rules state.generator
  rw [outcome] at agreed
  generalize (evaluation state.rules).run state.generator = evaluated at agreed
  cases agreed with
  | success holds => exact holds.2
  | failure holds => exact holds

theorem symbolText_leavesRules (table : ModifierTable) (limit : Nat) (symbol : String)
    (filter : Option Filter) (depth : Nat) :
    LeavesRules (symbolText table limit symbol filter depth) :=
  leavesRules_of_evaluates ((refines table limit).1 symbol filter depth)

theorem templateText_leavesRules (table : ModifierTable) (limit : Nat) (template : Template)
    (depth : Nat) : LeavesRules (templateText table limit template depth) :=
  leavesRules_of_evaluates ((refines table limit).2.1 template depth)

theorem referenceText_leavesRules (table : ModifierTable) (limit : Nat) (actions : List Action)
    (symbol : String) (filter : Option Filter) (modifiers : List AppliedModifier) (depth : Nat) :
    LeavesRules (referenceText table limit actions symbol filter modifiers depth) :=
  leavesRules_of_evaluates ((refines table limit).2.2.2.1 actions symbol filter modifiers depth)

theorem LeavesRules.rollingBack_run {computation : Expansion String}
    (leaves : LeavesRules computation) :
    (rollingBack computation).run = computation.run := by
  funext state
  change ((computation.run state).bind fun outcome => _) = computation.run state
  cases outcome : computation.run state with
  | none => rfl
  | some reached =>
      obtain ⟨result, after⟩ := reached
      have kept := congrArg ScopedRules.scopeCount (leaves state result after outcome)
      simp only [Option.bind_some, kept, if_true]
      rfl

theorem expand_eq (table : ModifierTable) (limit : Nat) (symbol : String) :
    expand table limit symbol = (symbolText table limit symbol none 0).run :=
  (symbolText_leavesRules table limit symbol none 0).rollingBack_run

theorem flatten_eq (table : ModifierTable) (limit : Nat) (template : Template) :
    flatten table limit template = (templateText table limit template 0).run :=
  (templateText_leavesRules table limit template 0).rollingBack_run

/-! ## Against the evaluation in an environment -/

/-- The evaluation settles all of an expansion, which leaves the rules as they are. -/
theorem run_of_evaluates {α : Type} {rules : ScopedRules} {computation : Expansion α}
    {evaluation : Sampled α} (evaluates : Evaluates rules computation evaluation)
    (generator : Random.Generator) :
    computation.run ⟨rules, generator⟩ =
      (evaluation.run generator).map fun (result, left) => (result, ⟨rules, left⟩) := by
  have agreed := evaluates generator
  generalize computation.run ⟨rules, generator⟩ = outcome at agreed ⊢
  generalize evaluation.run generator = evaluated at agreed ⊢
  cases agreed with
  | endless => rfl
  | success holds =>
      obtain ⟨rfl, rfl⟩ := holds
      rfl
  | failure holds =>
      subst holds
      rfl

/-- What an expansion is asked for: the text of a symbol, or that of a template. -/
inductive Request where
  | symbol (symbol : String)
  | template (template : Template)

def Request.answer (table : ModifierTable) (limit : Nat) :
    Request → ExpansionState → Option (Except GrammarError String × ExpansionState)
  | .symbol name => expand table limit name
  | .template nodes => flatten table limit nodes

def Request.evaluation (table : ModifierTable) (limit : Nat) (environment : Environment) :
    Request → Sampled String
  | .symbol name => environment.symbolText table limit name none 0
  | .template nodes => environment.sequenceText table limit nodes 0

theorem Request.answer_eq (table : ModifierTable) (limit : Nat) (request : Request)
    (rules : ScopedRules) (generator : Random.Generator) :
    request.answer table limit ⟨rules, generator⟩ =
      ((request.evaluation table limit rules.visible?).run generator).map
        fun (result, left) => (result, ⟨rules, left⟩) := by
  cases request with
  | symbol symbol =>
      rw [answer, expand_eq]
      exact run_of_evaluates ((refines table limit).1 symbol none 0 rules) generator
  | template template =>
      rw [answer, flatten_eq]
      exact run_of_evaluates ((refines table limit).2.1 template 0 rules) generator

/-- The text or error of an outcome, and the generator after it. -/
def observed (outcome : Except GrammarError String × ExpansionState) :
    Except GrammarError String × Random.Generator :=
  (outcome.1, outcome.2.generator)

theorem Request.observed_answer (table : ModifierTable) (limit : Nat) (request : Request)
    (rules : ScopedRules) (generator : Random.Generator) :
    (request.answer table limit ⟨rules, generator⟩).map observed =
      (request.evaluation table limit rules.visible?).run generator := by
  rw [answer_eq]
  cases (request.evaluation table limit rules.visible?).run generator <;> rfl

/-- From any rules and generator, the expansion of a symbol and of a template come to what their
evaluations in the environment of the visible rules come to, and draw as many words. -/
theorem expand_and_flatten_refine_evaluation (table : ModifierTable) (limit : Nat) (rules : ScopedRules)
    (generator : Random.Generator) :
    (∀ symbol, (expand table limit symbol ⟨rules, generator⟩).map observed =
      (Environment.symbolText table limit rules.visible? symbol none 0).run generator) ∧
    ∀ template, (flatten table limit template ⟨rules, generator⟩).map observed =
      (Environment.sequenceText table limit rules.visible? template 0).run generator := by
  constructor
  · intro symbol
    exact Request.observed_answer table limit (.symbol symbol) rules generator
  · intro template
    exact Request.observed_answer table limit (.template template) rules generator

end Expansion

end StoryGrammar
