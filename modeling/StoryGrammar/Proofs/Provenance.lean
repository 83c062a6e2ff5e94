import StoryGrammar.Grammar
import StoryGrammar.Proofs.Moments
import StoryGrammar.Proofs.Selection

set_option autoImplicit false

/-!
# Where bound productions come from

The scopes of an expansion hold two kinds of productions: those that the base rule of the same key
has, and literal ones. A text that came out of an expansion is never read as a template, whatever
characters it contains.
-/

namespace StoryGrammar

/-- A production of the base rule of the key, or one of weight one that stands for its own text
verbatim. -/
def Production.Traceable (base : Table Rule) (key : String) (production : Production) : Prop :=
  (∃ rule, base.find? key = some rule ∧ production ∈ rule.productions) ∨
    (production.weight = 1 ∧ production.template = Template.ofLiteral production.source)

theorem Production.traceable_ofLiteral (base : Table Rule) (key text : String) :
    (Production.ofLiteral text).Traceable base key :=
  .inr ⟨rfl, rfl⟩

namespace Expansion

/-! ## The two kinds of bound productions -/

def TraceableRules (base : Table Rule) (rules : ScopedRules) : Prop :=
  rules.AllRules fun key rule => ∀ production ∈ rule.productions, production.Traceable base key

theorem lasting_traceableRules (base : Table Rule) : Lasting (TraceableRules base) := by
  refine lasting_allRules fun _ origins production member => ?_
  rcases origins production member with ⟨rule, traceable, present⟩ | ⟨text, rfl⟩
  · exact traceable production present
  · exact Production.traceable_ofLiteral base _ text

theorem traceableRules_of_closed {rules : ScopedRules} (closed : rules.scopes = []) :
    TraceableRules rules.base rules := by
  intro key rule held production member
  rcases held with atBase | ⟨scope, present, -⟩
  · exact .inl ⟨rule, atBase, member⟩
  · rw [closed] at present
    cases present

end Expansion

/-! ## Binding a text and expanding its key -/

namespace Environment

variable {table : ModifierTable} {limit depth : Nat} {environment : Environment}
  {generator left : Random.Generator} {text : String}

/-- An action with one plain value binds its key to the text of the value. -/
theorem extended_plain {reset : Bool} {key : String} {value : Template} (named : key ≠ "")
    (given : (sequenceText table limit environment value (depth + 1)).run generator =
      some (.ok text, left)) :
    (extended table limit environment [.bind reset key [.value .set value]] depth).run generator =
      some (.ok (environment.bind key ⟨[.ofLiteral text]⟩), left) := by
  have texts : (valueTexts table limit environment [.value .set value] depth).run generator =
      some (.ok [(.set, text)], left) := by
    rw [valueTexts, run_bind_of_ok given, valueTexts]
    rfl
  have made : environment.ruleOf (.bind reset key [.value .set value]) [(.set, text)] =
      .ok ⟨[.ofLiteral text]⟩ := by
    have bound : Expansion.boundProductions (.bind reset key [.value .set value])
        (environment key) [(.set, text)] = [.ofLiteral text] := by
      cases environment key <;> rfl
    simp only [ruleOf, Action.key, bound]
    exact ScopedRules.ruleOf_eq_ok_iff.mpr ⟨named, by simp, by simp [Production.ofLiteral], rfl⟩
  rw [extended, run_bind_of_ok texts, made]
  change (extended table limit (environment.bind key ⟨[.ofLiteral text]⟩) [] depth).run left = _
  rw [extended]
  rfl

/-- A literal production is evaluated to its own text. -/
theorem sequenceText_ofLiteral (text : String) :
    (sequenceText table limit environment (Template.ofLiteral text) depth).run generator =
      some (.ok text, generator) := by
  unfold Template.ofLiteral
  split
  · rename_i empty
    rw [sequenceText, String.isEmpty_iff.mp empty]
    rfl
  · have nothing : (sequenceText table limit environment [] depth).run generator =
        some (.ok "", generator) := by
      rw [sequenceText]
      rfl
    rw [sequenceText, run_bind_of_ok nothing, String.append_empty]
    rfl

theorem symbolText_literal {key : String} {filter : Option Filter} (admitted : depth ≤ limit)
    (bound : environment key = some ⟨[.ofLiteral text]⟩)
    (accepted : ∀ given ∈ filter, given.accepts text = true) :
    (symbolText table limit environment key filter depth).run generator =
      (Random.below64 1 generator).map fun drawn => (.ok text, drawn.2) := by
  have candidates : Rule.candidates ⟨[.ofLiteral text]⟩ filter = [.ofLiteral text] := by
    cases filter with
    | none => rfl
    | some given => simp [Rule.candidates, Production.ofLiteral, accepted given rfl]
  have drawn : (Rule.draw ⟨[.ofLiteral text]⟩ filter).run generator =
      (Random.below64 1 generator).map fun drawn =>
        (.ok (some (.ofLiteral text)), drawn.2) := by
    rw [Rule.draw, candidates]
    exact Rule.choose_single rfl generator
  rw [symbolText, if_neg (Nat.not_lt.mpr admitted), bound, run_bind, drawn, Option.bind_map]
  cases Random.below64 1 generator with
  | none => rfl
  | some outcome => exact sequenceText_ofLiteral text

end Environment

namespace Expansion

/-- A reference that binds its own symbol to one plain value gives the text of the value. The draw
of its only production is all that may keep it from ending. -/
theorem referenceText_bound {table : ModifierTable} {limit depth : Nat} {rules : ScopedRules}
    {generator : Random.Generator} {reset : Bool} {key text : String} {value : Template}
    {filter : Option Filter} {after : ExpansionState} (admitted : depth < limit)
    (named : key ≠ "") (accepted : ∀ given ∈ filter, given.accepts text = true)
    (given : (templateText table limit value (depth + 1)).run ⟨rules.openScope, generator⟩ =
      some (.ok text, after)) :
    (referenceText table limit [.bind reset key [.value .set value]] key filter [] depth).run
        ⟨rules, generator⟩ =
      (Random.below64 1 after.generator).map fun drawn => (.ok text, ⟨rules, drawn.2⟩) := by
  have refinement := refines table limit
  have evaluated : (Environment.sequenceText table limit rules.visible? value (depth + 1)).run
      generator = some (.ok text, after.generator) := by
    have agreed := run_of_evaluates (refinement.2.1 value (depth + 1) rules.openScope) generator
    rw [given, rules.visible?_openScope_eq] at agreed
    obtain ⟨⟨result, left⟩, reached, same⟩ := Option.map_eq_some_iff.mp agreed.symm
    cases same
    exact reached
  have bound : Environment.bind rules.visible? key ⟨[.ofLiteral text]⟩ key =
      some ⟨[.ofLiteral text]⟩ := if_pos rfl
  rw [run_of_evaluates (refinement.2.2.2.1 _ key filter [] depth rules), Environment.referenceText,
    run_bind_of_ok (Environment.extended_plain named evaluated), run_bind,
    Environment.symbolText_literal admitted bound accepted]
  cases Random.below64 1 after.generator <;> rfl

end Expansion

/-- Whatever call an expansion starts from on a grammar without open scopes, at every moment of it
the base rules are those of the grammar, and what a scope holds for a key is taken over from the base
rule of the key or stands for itself. So a reference to a key that it binds to one plain value gives
the text of the value, whatever that text looks like, as soon as the draw of it ends. -/
theorem expanded_text_is_never_read :
    (∀ (grammar : Grammar) (call : Expansion.Call) (rules : ScopedRules),
      grammar.rules.scopes = [] →
      Expansion.SeenDuring grammar.modifiers grammar.config.depthLimit
        ⟨call, ⟨grammar.rules, grammar.generator⟩⟩ rules →
      rules.base = grammar.rules.base ∧
        ∀ scope ∈ rules.scopes, ∀ key rule, scope.find? key = some rule →
          ∀ production ∈ rule.productions, production.Traceable grammar.rules.base key) ∧
    ∀ (table : ModifierTable) (limit depth : Nat) (rules : ScopedRules)
      (generator : Random.Generator) (reset : Bool) (key text : String) (value : Template)
      (filter : Option Filter) (after : ExpansionState),
      depth < limit → key ≠ "" → (∀ given ∈ filter, given.accepts text = true) →
      (Expansion.templateText table limit value (depth + 1)).run ⟨rules.openScope, generator⟩ =
        some (.ok text, after) →
      (Expansion.referenceText table limit [.bind reset key [.value .set value]] key filter []
          depth).run ⟨rules, generator⟩ =
        (Random.below64 1 after.generator).map fun drawn => (.ok text, ⟨rules, drawn.2⟩) := by
  constructor
  · intro grammar call rules closed seen
    have start := Expansion.traceableRules_of_closed closed
    have traceable := (Expansion.lasting_traceableRules grammar.rules.base).seenDuring seen start
    refine ⟨(Expansion.lasting_base (· = grammar.rules.base)).seenDuring seen rfl, ?_⟩
    intro scope present key rule found
    exact traceable key rule (.inr ⟨scope, present, found⟩)
  · intro table limit depth rules generator reset key text value filter after admitted named
      accepted given
    exact Expansion.referenceText_bound admitted named accepted given

/-- A text with number signs in it is bound, is held as it is, and is not read as a reference when
its key is expanded. -/
theorem number_signs_stay_text :
    ∃ rules scope rule,
      Expansion.SeenDuring ModifierTable.builtIn (Grammar.empty (.listed [])).config.depthLimit
        ⟨.reference [.bind false "key" [.value .set [.literal "#key#"]]] "key" none [] 0,
          ⟨ScopedRules.empty, .listed []⟩⟩ rules ∧
      scope ∈ rules.scopes ∧ scope.find? "key" = some rule ∧ rule.productions ≠ [] ∧
      (∀ production ∈ rule.productions, production.Traceable Table.empty "key") ∧
      (Expansion.referenceText ModifierTable.builtIn 1
          [.bind false "key" [.value .set [.literal "#key#"]]] "key" none [] 0).run
          ⟨ScopedRules.empty, .listed []⟩ =
        some (.ok "#key#", ⟨ScopedRules.empty, .listed []⟩) := by
  have given : ∀ limit, (Expansion.templateText ModifierTable.builtIn limit
      [.literal "#key#"] 1).run ⟨ScopedRules.empty.openScope, .listed []⟩ =
        some (.ok "#key#", ⟨ScopedRules.empty.openScope, .listed []⟩) := by
    intro limit
    simp only [Expansion.templateText, Expansion.sequenceText]
    rfl
  have performed : ∀ limit, (Expansion.perform ModifierTable.builtIn limit
      [.bind false "key" [.value .set [.literal "#key#"]]] 0).run
        ⟨ScopedRules.empty.openScope, .listed []⟩ =
        some (.ok (), ⟨⟨Table.empty, [Table.empty.insert "key" ⟨[.ofLiteral "#key#"]⟩]⟩,
          .listed []⟩) := by
    intro limit
    simp only [Expansion.perform, Expansion.valueTexts]
    rw [run_bind_of_ok (run_bind_of_ok (given limit))]
    rfl
  have drawn : Random.below64 1 (.listed []) = some (0, .listed []) :=
    Random.Generator.firstAccepted_eq_some_iff.mpr ⟨0, ⟨fun _ below => by omega, rfl⟩, rfl⟩
  obtain ⟨traceable, bound⟩ := expanded_text_is_never_read
  have seen : Expansion.SeenDuring ModifierTable.builtIn
      (Grammar.empty (.listed [])).config.depthLimit
      ⟨.reference [.bind false "key" [.value .set [.literal "#key#"]]] "key" none [] 0,
        ⟨ScopedRules.empty, .listed []⟩⟩
      ⟨Table.empty, [Table.empty.insert "key" ⟨[.ofLiteral "#key#"]⟩]⟩ :=
    .made (.tail (.tail .refl (.inScope (by simp))) (.symbol (performed _)))
  have held := (traceable (.empty (.listed [])) _ _ rfl seen).2
  refine ⟨_, _, ⟨[.ofLiteral "#key#"]⟩, seen, .head _, rfl, by simp, held _ (.head _) _ _ rfl, ?_⟩
  rw [bound _ 1 0 ScopedRules.empty (.listed []) false "key" "#key#" _ none _ (by decide)
    (by decide) (by simp) (given 1), drawn]
  rfl

end StoryGrammar
