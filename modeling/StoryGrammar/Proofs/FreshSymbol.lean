import StoryGrammar.Proofs.UnreachedRules

set_option autoImplicit false

/-!
# Symbols that nothing names

A rule for a symbol that is not named by anything an expansion can get to makes no difference to it.
So a template can be given to such a symbol and be expanded through it: apart from the draw of the
one production this is the same as expanding the template.
-/

namespace StoryGrammar

/-! ## References of a template -/

mutual

def Node.references : Node → List String
  | .literal _ => []
  | .binding actions => Action.referencesAmong actions
  | .reference actions symbol _ _ => symbol :: Action.referencesAmong actions

/-- The symbols that nodes refer to, also within the values of their actions. -/
def Node.referencesAmong : List Node → List String
  | [] => []
  | node :: nodes => node.references ++ Node.referencesAmong nodes

def Action.referencesAmong : List Action → List String
  | [] => []
  | .bind _ _ values :: actions =>
      ActionValue.referencesAmong values ++ Action.referencesAmong actions

def ActionValue.referencesAmong : List ActionValue → List String
  | [] => []
  | .value _ template :: values =>
      Node.referencesAmong template ++ ActionValue.referencesAmong values

end

def Template.references (template : Template) : List String :=
  Node.referencesAmong template

mutual

theorem Node.references_sublist (node : Node) : node.references.Sublist node.names := by
  cases node with
  | literal text => exact .refl _
  | binding actions => exact Action.referencesAmong_sublist actions
  | reference actions symbol filter modifiers =>
      exact (Action.referencesAmong_sublist actions).cons_cons symbol

/-- What is referred to is named. -/
theorem Node.referencesAmong_sublist (nodes : List Node) :
    (Node.referencesAmong nodes).Sublist (Node.namesAmong nodes) := by
  cases nodes with
  | nil => exact .refl _
  | cons node nodes =>
      rw [Node.referencesAmong, Node.namesAmong]
      exact (Node.references_sublist node).append (Node.referencesAmong_sublist nodes)

theorem Action.referencesAmong_sublist (actions : List Action) :
    (Action.referencesAmong actions).Sublist (Action.namesAmong actions) := by
  cases actions with
  | nil => exact .refl _
  | cons action actions =>
      obtain ⟨reset, key, values⟩ := action
      rw [Action.referencesAmong, Action.namesAmong]
      have within := ActionValue.referencesAmong_sublist values
      exact (within.append (Action.referencesAmong_sublist actions)).cons key

theorem ActionValue.referencesAmong_sublist (values : List ActionValue) :
    (ActionValue.referencesAmong values).Sublist (ActionValue.namesAmong values) := by
  cases values with
  | nil => exact .refl _
  | cons value values =>
      obtain ⟨operator, template⟩ := value
      rw [ActionValue.referencesAmong, ActionValue.namesAmong]
      exact (Node.referencesAmong_sublist template).append
        (ActionValue.referencesAmong_sublist values)

end

@[simp]
theorem Template.references_ofLiteral (text : String) : references (ofLiteral text) = [] := by
  unfold Template.ofLiteral
  split <;> rfl

namespace Environment

/-! ## Evaluations without the symbol -/

/-- Symbols that an expansion of the template can come to: those it refers to, those that a template
of a visible rule of such a symbol refers to, and so on. -/
inductive ReachedFrom (environment : Environment) (template : Template) : String → Prop where
  | template {symbol : String} :
      symbol ∈ template.references → ReachedFrom environment template symbol
  | production {symbol next : String} {rule : Rule} {production : Production} :
      ReachedFrom environment template symbol → environment symbol = some rule →
      production ∈ rule.productions → next ∈ production.template.references →
      ReachedFrom environment template next

/-- A symbol that neither the template names nor a production that it can reach. -/
structure FreshFor (environment : Environment) (template : Template) (fresh : String) : Prop where
  inTemplate : fresh ∉ template.names
  inProductions : ∀ symbol rule production, ReachedFrom environment template symbol →
    environment symbol = some rule → production ∈ rule.productions →
    fresh ∉ production.template.names

/-- The visible rules of some symbols refer to none but these, and do not name the fresh one. -/
def Avoids (environment : Environment) (symbols : Set String) (fresh : String) : Prop :=
  ∀ symbol ∈ symbols, ∀ rule, environment symbol = some rule → ∀ production ∈ rule.productions,
    (∀ next ∈ production.template.references, next ∈ symbols) ∧ fresh ∉ production.template.names

theorem FreshFor.avoids {environment : Environment} {template : Template} {fresh : String}
    (unnamed : environment.FreshFor template fresh) :
    environment.Avoids (environment.ReachedFrom template) fresh :=
  fun symbol reached rule visible production member =>
    ⟨fun _ referred => .production reached visible member referred,
      unnamed.inProductions symbol rule production reached visible member⟩

theorem FreshFor.not_reached {environment : Environment} {template : Template} {fresh : String}
    (unnamed : environment.FreshFor template fresh) : ¬environment.ReachedFrom template fresh := by
  intro reached
  cases reached with
  | template referred =>
      exact unnamed.inTemplate ((Node.referencesAmong_sublist template).subset referred)
  | production reached visible member referred =>
      exact unnamed.inProductions _ _ _ reached visible member
        ((Node.referencesAmong_sublist _).subset referred)

section frame

variable {symbols : Set String} {fresh : String} {environment : Environment}

theorem bind_of_ne {symbol key : String} (other : symbol ≠ key) (rule : Rule) :
    environment.bind key rule symbol = environment symbol :=
  if_neg other

theorem bind_comm {key key' : String} (different : key ≠ key') (rule rule' : Rule) :
    (environment.bind key rule).bind key' rule' = (environment.bind key' rule').bind key rule := by
  funext symbol
  by_cases same : symbol = key
  · subst same
    rw [bind_of_ne different, bind, bind, if_pos rfl, if_pos rfl]
  · rw [bind_of_ne same]
    unfold bind
    rw [if_neg same]

/-- A rule that an action makes for a key avoids what the one before it does. -/
theorem Avoids.bind {action : Action} {texts : List (ValueOperator × String)} {rule : Rule}
    (avoids : environment.Avoids symbols fresh)
    (made : environment.ruleOf action texts = .ok rule) :
    (environment.bind action.key rule).Avoids symbols fresh := by
  intro symbol inside found visible production member
  by_cases bound : symbol = action.key
  · subst bound
    rw [Environment.bind, if_pos rfl] at visible
    cases visible
    obtain ⟨-, -, -, rfl⟩ := ScopedRules.ruleOf_eq_ok_iff.mp made
    obtain ⟨previous, visible, present⟩ | ⟨text, rfl⟩ := Expansion.mem_boundProductions member
    · exact avoids _ inside previous visible production present
    · simp [Production.ofLiteral]
  · rw [bind_of_ne bound] at visible
    exact avoids symbol inside found visible production member

theorem Avoids.extended {table : ModifierTable} {limit depth : Nat} {actions : List Action}
    {after : Environment} {generator left : Random.Generator}
    (avoids : environment.Avoids symbols fresh)
    (given : (extended table limit environment actions depth).run generator =
      some (.ok after, left)) :
    after.Avoids symbols fresh := by
  induction actions generalizing environment generator with
  | nil =>
      rw [Environment.extended] at given
      cases given
      exact avoids
  | cons action rest ih =>
      obtain ⟨reset, key, values⟩ := action
      rw [Environment.extended] at given
      obtain ⟨texts, middle, -, given⟩ := run_bind_eq_ok given
      obtain ⟨rule, middle', made, given⟩ := run_bind_eq_ok given
      have made : environment.ruleOf (.bind reset key values) texts = .ok rule := by
        cases outcome : environment.ruleOf (.bind reset key values) texts with
        | error error =>
            rw [outcome] at made
            cases made
        | ok other =>
            rw [outcome] at made
            cases made
            rfl
      exact ih (avoids.bind made) given

/-- Evaluations go on alike if what follows is the same for every value that can be given. -/
theorem bind_congr_of_given {α β : Type} {first : Sampled α} {next next' : α → Sampled β}
    (same : ∀ generator value left, first.run generator = some (.ok value, left) →
      next value = next' value) : first >>= next = first >>= next' := by
  funext generator
  change (first >>= next).run generator = (first >>= next').run generator
  rw [run_bind, run_bind]
  cases outcome : first.run generator with
  | none => rfl
  | some reached =>
      obtain ⟨result, left⟩ := reached
      cases result with
      | error error => rfl
      | ok value =>
          dsimp only [Option.bind_some]
          rw [same generator value left outcome]

variable (table : ModifierTable) (limit : Nat) (symbols : Set String) (fresh : String)

def SymbolIgnores (environment : Environment) (symbol : String) (filter : Option Filter)
    (depth : Nat) : Prop :=
  environment.Avoids symbols fresh → symbol ∈ symbols → ∀ rule,
    symbolText table limit (environment.bind fresh rule) symbol filter depth =
      symbolText table limit environment symbol filter depth

def SequenceIgnores (environment : Environment) (nodes : List Node) (depth : Nat) : Prop :=
  environment.Avoids symbols fresh → (∀ symbol ∈ Node.referencesAmong nodes, symbol ∈ symbols) →
    fresh ∉ Node.namesAmong nodes → ∀ rule,
    sequenceText table limit (environment.bind fresh rule) nodes depth =
      sequenceText table limit environment nodes depth

def ReferenceIgnores (environment : Environment) (actions : List Action) (symbol : String)
    (filter : Option Filter) (modifiers : List AppliedModifier) (depth : Nat) : Prop :=
  environment.Avoids symbols fresh → symbol ∈ symbols →
    (∀ other ∈ Action.referencesAmong actions, other ∈ symbols) →
    fresh ∉ Action.namesAmong actions → ∀ rule,
    referenceText table limit (environment.bind fresh rule) actions symbol filter modifiers depth =
      referenceText table limit environment actions symbol filter modifiers depth

/-- What actions bind comes on top of the fresh symbol's rule. -/
def ActionsIgnore (environment : Environment) (actions : List Action) (depth : Nat) : Prop :=
  environment.Avoids symbols fresh →
    (∀ symbol ∈ Action.referencesAmong actions, symbol ∈ symbols) →
    fresh ∉ Action.namesAmong actions → ∀ rule,
    extended table limit (environment.bind fresh rule) actions depth =
      (do return (← extended table limit environment actions depth).bind fresh rule)

def ValuesIgnore (environment : Environment) (values : List ActionValue) (depth : Nat) : Prop :=
  environment.Avoids symbols fresh →
    (∀ symbol ∈ ActionValue.referencesAmong values, symbol ∈ symbols) →
    fresh ∉ ActionValue.namesAmong values → ∀ rule,
    valueTexts table limit (environment.bind fresh rule) values depth =
      valueTexts table limit environment values depth

variable {table limit symbols fresh} {depth : Nat}

theorem symbolIgnores_of_exceeded {symbol : String} {filter : Option Filter}
    (exceeded : limit < depth) :
    SymbolIgnores table limit symbols fresh environment symbol filter depth := by
  intro _ _ rule
  rw [symbolText, symbolText, if_pos exceeded, if_pos exceeded]

theorem symbolIgnores_of_absent {symbol : String} {filter : Option Filter}
    (outside : fresh ∉ symbols) (absent : environment symbol = none) :
    SymbolIgnores table limit symbols fresh environment symbol filter depth := by
  intro _ inside rule
  have other : symbol ≠ fresh := fun same => outside (same ▸ inside)
  simp only [symbolText, bind_of_ne other, absent]

theorem symbolIgnores_of_visible {symbol : String} {filter : Option Filter} {visible : Rule}
    (outside : fresh ∉ symbols) (found : environment symbol = some visible)
    (templates : ∀ production : Production,
      SequenceIgnores table limit symbols fresh environment production.template depth) :
    SymbolIgnores table limit symbols fresh environment symbol filter depth := by
  intro avoids inside rule
  have other : symbol ≠ fresh := fun same => outside (same ▸ inside)
  simp only [symbolText, bind_of_ne other, found]
  split
  · rfl
  · refine bind_congr_of_given fun generator drawn left given => ?_
    cases drawn with
    | none => rfl
    | some production =>
        have member := List.mem_of_mem_filter (Rule.mem_candidates_of_draw given)
        obtain ⟨referred, unnamed⟩ := avoids symbol inside visible found production member
        exact templates production avoids referred unnamed rule

theorem sequenceIgnores_nil :
    SequenceIgnores table limit symbols fresh environment [] depth := by
  intro _ _ _ rule
  rw [sequenceText, sequenceText]

theorem sequenceIgnores_literal {text : String} {rest : List Node}
    (following : SequenceIgnores table limit symbols fresh environment rest depth) :
    SequenceIgnores table limit symbols fresh environment (.literal text :: rest) depth := by
  intro avoids referred unnamed rule
  rw [sequenceText, sequenceText, following avoids referred unnamed]

theorem sequenceIgnores_binding {actions : List Action} {rest : List Node}
    (bindings : ActionsIgnore table limit symbols fresh environment actions depth)
    (following : ∀ extended, SequenceIgnores table limit symbols fresh extended rest depth) :
    SequenceIgnores table limit symbols fresh environment (.binding actions :: rest) depth := by
  intro avoids referred unnamed rule
  simp only [Node.referencesAmong, Node.references, List.forall_mem_append] at referred
  simp only [Node.namesAmong, Node.names, List.mem_append, not_or] at unnamed
  rw [sequenceText, sequenceText, bindings avoids referred.1 unnamed.1, bind_assoc]
  refine bind_congr_of_given fun generator extended left given => ?_
  rw [pure_bind]
  exact following extended (avoids.extended given) referred.2 unnamed.2 rule

theorem sequenceIgnores_reference {actions : List Action} {symbol : String}
    {filter : Option Filter} {modifiers : List AppliedModifier} {rest : List Node}
    (reference :
      ReferenceIgnores table limit symbols fresh environment actions symbol filter modifiers depth)
    (following : SequenceIgnores table limit symbols fresh environment rest depth) :
    SequenceIgnores table limit symbols fresh environment
      (.reference actions symbol filter modifiers :: rest) depth := by
  intro avoids referred unnamed rule
  simp only [Node.referencesAmong, Node.references, List.forall_mem_append,
    List.forall_mem_cons] at referred
  simp only [Node.namesAmong, Node.names, List.mem_append, List.mem_cons, not_or] at unnamed
  obtain ⟨⟨inside, within⟩, others⟩ := referred
  rw [sequenceText, sequenceText, reference avoids inside within unnamed.1.2,
    following avoids others unnamed.2]

theorem referenceIgnores {actions : List Action} {symbol : String} {filter : Option Filter}
    {modifiers : List AppliedModifier}
    (bindings : ActionsIgnore table limit symbols fresh environment actions depth)
    (target : ∀ extended,
      SymbolIgnores table limit symbols fresh extended symbol filter (depth + 1)) :
    ReferenceIgnores table limit symbols fresh environment actions symbol filter modifiers
      depth := by
  intro avoids inside within unnamed rule
  rw [referenceText, referenceText, bindings avoids within unnamed, bind_assoc]
  refine bind_congr_of_given fun generator extended left given => ?_
  rw [pure_bind, target extended (avoids.extended given) inside]

theorem actionsIgnore_nil : ActionsIgnore table limit symbols fresh environment [] depth := by
  intro _ _ _ rule
  rw [extended, extended, pure_bind]

theorem actionsIgnore_cons {reset : Bool} {key : String} {values : List ActionValue}
    {rest : List Action}
    (expanded : ValuesIgnore table limit symbols fresh environment values depth)
    (others : ∀ rule,
      ActionsIgnore table limit symbols fresh (environment.bind key rule) rest depth) :
    ActionsIgnore table limit symbols fresh environment (.bind reset key values :: rest) depth := by
  intro avoids referred unnamed rule
  simp only [Action.referencesAmong, List.forall_mem_append] at referred
  simp only [Action.namesAmong, List.mem_append, List.mem_cons, not_or] at unnamed
  obtain ⟨different, within, after⟩ := unnamed
  rw [extended, extended, expanded avoids referred.1 within, bind_assoc]
  refine bind_congr_of_given fun generator texts left _ => ?_
  have same : (environment.bind fresh rule).ruleOf (.bind reset key values) texts =
      environment.ruleOf (.bind reset key values) texts := by
    rw [ruleOf, ruleOf, bind_of_ne]
    exact Ne.symm different
  rw [same, bind_assoc]
  cases made : environment.ruleOf (.bind reset key values) texts with
  | error error => rfl
  | ok bound =>
      have avoids : (environment.bind key bound).Avoids symbols fresh := avoids.bind made
      have remaining := others bound avoids referred.2 after rule
      rw [bind_comm (Ne.symm different)] at remaining
      exact remaining

theorem valuesIgnore_nil : ValuesIgnore table limit symbols fresh environment [] depth := by
  intro _ _ _ rule
  rw [valueTexts, valueTexts]

theorem valuesIgnore_cons {operator : ValueOperator} {template : Template}
    {rest : List ActionValue}
    (value : SequenceIgnores table limit symbols fresh environment template (depth + 1))
    (others : ValuesIgnore table limit symbols fresh environment rest depth) :
    ValuesIgnore table limit symbols fresh environment (.value operator template :: rest)
      depth := by
  intro avoids referred unnamed rule
  simp only [ActionValue.referencesAmong, List.forall_mem_append] at referred
  simp only [ActionValue.namesAmong, List.mem_append, not_or] at unnamed
  rw [valueTexts, valueTexts, value avoids referred.1 unnamed.1, others avoids referred.2 unnamed.2]

/-- Among symbols whose rules avoid a fresh one, a rule for that one makes no difference. -/
theorem evaluations_ignore (table : ModifierTable) (limit : Nat) {symbols : Set String}
    {fresh : String} (outside : fresh ∉ symbols) :
    (∀ environment symbol filter depth,
        SymbolIgnores table limit symbols fresh environment symbol filter depth) ∧
      (∀ environment nodes depth,
        SequenceIgnores table limit symbols fresh environment nodes depth) ∧
      (∀ environment actions symbol filter modifiers depth,
        ReferenceIgnores table limit symbols fresh environment actions symbol filter modifiers
          depth) ∧
      (∀ environment actions depth,
        ActionsIgnore table limit symbols fresh environment actions depth) ∧
      ∀ environment values depth,
        ValuesIgnore table limit symbols fresh environment values depth := by
  refine symbolText.mutual_induct limit _ _ _ _ _ ?_ ?_ ?_ ?_ ?_ ?_ ?_ ?_ ?_ ?_ ?_ ?_ ?_
  · exact fun _ _ _ _ => symbolIgnores_of_exceeded
  · exact fun _ _ _ _ absent => symbolIgnores_of_absent outside absent
  · exact fun _ _ _ _ _ absent _ => symbolIgnores_of_absent outside absent
  · exact fun _ _ _ _ _ _ found => symbolIgnores_of_visible outside found
  · exact fun _ _ => sequenceIgnores_nil
  · exact fun _ _ _ _ => sequenceIgnores_literal
  · exact fun _ _ _ _ => sequenceIgnores_binding
  · exact fun _ _ _ _ _ _ _ => sequenceIgnores_reference
  · exact fun _ _ _ _ _ _ => referenceIgnores
  · exact fun _ _ => actionsIgnore_nil
  · exact fun _ _ _ _ _ _ => actionsIgnore_cons
  · exact fun _ _ => valuesIgnore_nil
  · exact fun _ _ _ _ _ => valuesIgnore_cons

end frame

/-- A rule for a fresh symbol does not show in what is evaluated. -/
theorem FreshFor.sequenceText_bind {environment : Environment} {template : Template}
    {fresh : String} (unnamed : environment.FreshFor template fresh) (table : ModifierTable)
    (limit : Nat) (rule : Rule) (depth : Nat) :
    sequenceText table limit (environment.bind fresh rule) template depth =
      sequenceText table limit environment template depth := by
  have ignored := (evaluations_ignore table limit unnamed.not_reached).2.1 environment template
  exact ignored depth unnamed.avoids (fun _ => .template) unnamed.inTemplate rule

end Environment

/-! ## Drawing the only production -/

namespace Rule

variable {generator : Random.Generator}

/-- Of one choice, half of the words are passed over: those whose highest bit is set. -/
theorem choice?_one (generator : Random.Generator) (place : Nat) :
    Random.choice? 64 1 (Random.uniformZone 64 1) (generator.wordAt nextWord place) =
      if generator.wordAt nextWord place < 2 ^ 63 then some 0 else none := by
  have small : generator.wordAt nextWord place < Nat.pow 2 64 := nextWord_lt _
  have zone : Random.uniformZone 64 1 = 2 ^ 63 - 1 := by decide
  rw [Random.choice?, zone, Nat.mul_one, Nat.mod_eq_of_lt small, Nat.div_eq_of_lt small]
  refine if_congr ?_ rfl rfl
  omega

theorem below64_one_eq_some {place : Nat}
    (before : ∀ earlier < place, 2 ^ 63 ≤ generator.wordAt nextWord earlier)
    (there : generator.wordAt nextWord place < 2 ^ 63) :
    Random.below64 1 generator = some (0, generator.after nextWord (place + 1)) := by
  have accepts : generator.AcceptsAt nextWord
      (Random.choice? 64 1 (Random.uniformZone 64 1)) place 0 := by
    constructor
    · intro earlier below
      rw [choice?_one]
      exact if_neg (Nat.not_lt.mpr (before earlier below))
    · rw [choice?_one]
      exact if_pos there
  exact accepts.firstAccepted

theorem below64_one_eq_none (all : ∀ place, 2 ^ 63 ≤ generator.wordAt nextWord place) :
    Random.below64 1 generator = none := by
  cases drawn : Random.below64 1 generator with
  | none => rfl
  | some outcome =>
      have drawn : generator.firstAccepted nextWord
          (Random.choice? 64 1 (Random.uniformZone 64 1)) = some outcome := drawn
      obtain ⟨place, accepts, -⟩ := Random.Generator.exists_acceptsAt drawn
      have there := accepts.there
      rw [choice?_one, if_neg (Nat.not_lt.mpr (all place))] at there
      cases there

end Rule

/-! ## Expanding through a fresh symbol -/

/-- Where no scope is open, a new base rule is visible and shadows nothing but the one before it. -/
theorem ScopedRules.visible?_withRules {rules : ScopedRules} (unscoped : rules.scopes = [])
    (symbol : String) (productions : List Production) :
    (rules.withRules [(symbol, productions)]).visible? =
      Environment.bind rules.visible? symbol ⟨productions⟩ := by
  funext sought
  have found : (rules.withRules [(symbol, productions)]).base.find? sought =
      if sought = symbol then some ⟨productions⟩ else rules.base.find? sought :=
    Table.find?_insert _ _ _ _
  have unscoped' : (rules.withRules [(symbol, productions)]).scopes = [] := unscoped
  rw [visible?, unscoped', found, Environment.bind, visible?, unscoped]
  rfl

namespace Grammar

variable {grammar : Grammar} {text symbol : String} {template : Template}

theorem define_text (parsed : Template.parse text = .ok template) (written : text ≠ "")
    (named : symbol ≠ "") :
    grammar.define symbol [text] =
      (.ok (), { grammar with
        rules := grammar.rules.withRules [(symbol, [⟨text, 1, template⟩])] }) := by
  have made : [text].mapM Production.plain = .ok [⟨text, 1, template⟩] := by
    rw [List.mapM_cons, List.mapM_nil, Production.plain, Production.ofSource, parsed]
    rfl
  have definable : Definable symbol [⟨text, 1, template⟩] :=
    ⟨named, List.cons_ne_nil _ _, by simpa using written, by simp⟩
  have defined : grammar.rules.define symbol [⟨text, 1, template⟩] =
      .ok (grammar.rules.withRules [(symbol, [⟨text, 1, template⟩])]) :=
    ScopedRules.define_eq_ok_iff.mpr ⟨definable, rfl⟩
  rw [define, made, defineProductions, defined]

theorem flatten_observed (parsed : Template.parse text = .ok template)
    (generator : Random.Generator) :
    ((grammar.setGenerator generator).flatten text).map observed =
      (Environment.sequenceText grammar.modifiers grammar.config.depthLimit grammar.rules.visible?
        template 0).run generator := by
  rw [flatten, parsed]
  dsimp only
  rw [observed_run]
  exact Expansion.Request.observed_answer _ _ (.template template) grammar.rules generator

/-- With a base rule of one production for a fresh symbol, expanding the symbol draws that
production and goes on as if its template were expanded without the rule. -/
theorem expand_fresh (unscoped : grammar.rules.scopes = []) (text : String)
    (unnamed : Environment.FreshFor grammar.rules.visible? template symbol) :
    (expand { grammar with
        rules := grammar.rules.withRules [(symbol, [⟨text, 1, template⟩])] } symbol).map
        observed =
      (Random.below64 1 grammar.generator).bind fun drawn =>
        (Environment.sequenceText grammar.modifiers grammar.config.depthLimit
          grammar.rules.visible? template 0).run drawn.2 := by
  rw [expand, observed_run]
  refine (Expansion.Request.observed_answer _ _ (.symbol symbol) _ _).trans ?_
  rw [Expansion.Request.evaluation, ScopedRules.visible?_withRules unscoped]
  have draws : (Rule.draw ⟨[⟨text, 1, template⟩]⟩ none).run grammar.generator =
      (Random.below64 1 grammar.generator).map fun drawn =>
        (.ok (some ⟨text, 1, template⟩), drawn.2) :=
    Rule.choose_single rfl grammar.generator
  have bound : Environment.bind grammar.rules.visible? symbol ⟨[⟨text, 1, template⟩]⟩ symbol =
      some ⟨[⟨text, 1, template⟩]⟩ := if_pos rfl
  rw [Environment.symbolText, if_neg (Nat.not_lt_zero _), bound]
  dsimp only
  rw [run_bind, draws, Option.bind_map]
  congr 1
  funext drawn
  dsimp only [Function.comp]
  rw [unnamed.sequenceText_bind]

/-- A text is given to a symbol that nothing within its reach names, as its one production. Then
expanding the symbol comes to what expanding the text comes to without it, after all words that
are read up to the first one below the middle. Where there is no such word, it comes to nothing. -/
theorem fresh_symbol_expands_as_its_text (reachable : grammar.Reachable)
    (parsed : Template.parse text = .ok template) (written : text ≠ "") (named : symbol ≠ "")
    (unnamed : Environment.FreshFor grammar.rules.visible? template symbol) :
    ∃ defined, grammar.define symbol [text] = (.ok (), defined) ∧
      (∀ place, (∀ earlier < place, 2 ^ 63 ≤ grammar.generator.wordAt Rule.nextWord earlier) →
        grammar.generator.wordAt Rule.nextWord place < 2 ^ 63 →
        (defined.expand symbol).map observed =
          ((grammar.setGenerator (grammar.generator.after Rule.nextWord (place + 1))).flatten
            text).map observed) ∧
      ((∀ place, 2 ^ 63 ≤ grammar.generator.wordAt Rule.nextWord place) →
        defined.expand symbol = none) := by
  have expanded := expand_fresh reachable.scopes_eq_nil text unnamed
  refine ⟨_, define_text parsed written named, ?_, ?_⟩
  · intro place before there
    rw [expanded, Rule.below64_one_eq_some before there, flatten_observed parsed]
    rfl
  · intro all
    rw [Rule.below64_one_eq_none all] at expanded
    exact Option.map_eq_none_iff.mp expanded

theorem after_constant (word : UInt64) (count : Nat) :
    Random.Generator.after Rule.nextWord (.progression word 0) count = .progression word 0 := by
  induction count with
  | zero => rfl
  | succ count ih =>
      rw [Random.Generator.after, Rule.nextWord, Random.Generator.next64, UInt64.add_zero]
      exact ih

theorem wordAt_constant (word : UInt64) (place : Nat) :
    Random.Generator.wordAt Rule.nextWord (.progression word 0) place = word.toNat := by
  rw [Random.Generator.wordAt, after_constant]
  rfl

/-- The first of the listed words has its highest bit set and is passed over by the draw of the text
that refers to x. Where all words are like that one, the draw never ends. -/
theorem word_with_highest_bit_is_passed_over :
    (∃ grammar defined : Grammar,
      (empty (.listed [0x8000000000000000, 5, 7])).perform (.define "x" ["y"]) =
        some (.ok none, grammar) ∧
      grammar.define "s" ["#x#"] = (.ok (), defined) ∧
      (defined.expand "s").map observed =
        ((grammar.setGenerator (.listed [7])).flatten "#x#").map observed) ∧
    ∃ defined : Grammar,
      (empty (.progression 0x8000000000000000 0)).define "s" ["y"] = (.ok (), defined) ∧
      defined.expand "s" = none := by
  constructor
  · obtain ⟨grammar, performed, visible, generator⟩ : ∃ grammar : Grammar,
        (empty (.listed [0x8000000000000000, 5, 7])).perform (.define "x" ["y"]) =
          some (.ok none, grammar) ∧
        grammar.rules.visible? = Environment.bind (fun _ => none) "x" ⟨[.ofLiteral "y"]⟩ ∧
        grammar.generator = .listed [0x8000000000000000, 5, 7] :=
      ⟨_, rfl, ScopedRules.visible?_withRules rfl "x" _, rfl⟩
    have reachable : grammar.Reachable := .performed (.empty _) performed
    have unnamed : Environment.FreshFor grammar.rules.visible? [.reference [] "x" none []] "s" := by
      refine ⟨by decide, fun symbol rule production _ found member => ?_⟩
      rw [visible, Environment.bind] at found
      split at found
      · cases found
        rw [List.mem_singleton.mp member]
        exact List.not_mem_nil
      · cases found
    obtain ⟨defined, given, alike, -⟩ := fresh_symbol_expands_as_its_text reachable
      (show Template.parse "#x#" = .ok [.reference [] "x" none []] from rfl) (by decide)
      (by decide) unnamed
    refine ⟨grammar, defined, performed, given, ?_⟩
    rw [generator] at alike
    exact alike 1 (by decide) (by decide)
  · have unnamed : Environment.FreshFor (empty (.progression 0x8000000000000000 0)).rules.visible?
        [.literal "y"] "s" :=
      ⟨by decide, fun _ _ _ _ found _ => nomatch found⟩
    obtain ⟨defined, given, -, endless⟩ := fresh_symbol_expands_as_its_text
      (.empty (.progression 0x8000000000000000 0))
      (show Template.parse "y" = .ok [.literal "y"] from rfl) (by decide) (by decide) unnamed
    refine ⟨defined, given, endless fun place => ?_⟩
    exact (wordAt_constant 0x8000000000000000 place).ge

end Grammar

end StoryGrammar
