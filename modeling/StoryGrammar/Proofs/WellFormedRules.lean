import StoryGrammar.Proofs.Moments
import StoryGrammar.Proofs.Steps

set_option autoImplicit false

/-!
# Rules are well formed

Every rule that is held, among the base rules or in a scope, has a name, productions, weights, and
templates that go with the texts. Each operation leaves it so, whether it succeeds or fails, and so
does every part of an expansion.
-/

namespace StoryGrammar

namespace Production

/-- The template is the one that the text spells, or the text taken literally. -/
def Faithful (production : Production) : Prop :=
  Template.parse production.source = .ok production.template ∨
    production.template = Template.ofLiteral production.source

/-- The ways to make a production: reading its text, without a weight or with one, and taking its
text literally. -/
inductive Built : Production → Prop where
  | plain {source : String} {production : Production} :
      Production.plain source = .ok production → Built production
  | weighted {given : String × UInt32} {production : Production} :
      Production.weighted given = .ok production → Built production
  | literal (text : String) : Built (.ofLiteral text)

theorem faithful_of_ofSource {source : String} {weight : UInt32} {production : Production}
    (made : ofSource source weight = .ok production) : production.Faithful := by
  obtain ⟨same, -, -⟩ := ofSource_eq_ok made
  exact .inl (same ▸ parse_of_ofSource made)

theorem Built.faithful {production : Production} (built : production.Built) :
    production.Faithful := by
  cases built with
  | plain made | weighted made => exact faithful_of_ofSource made
  | literal text => exact .inr rfl

end Production

structure Rule.WellFormed (symbol : String) (rule : Rule) : Prop where
  named : symbol ≠ ""
  inhabited : rule.productions ≠ []
  weighted : ∀ production ∈ rule.productions, 1 ≤ production.weight.toNat
  faithful : ∀ production ∈ rule.productions, production.Faithful

/-- No production is empty, whatever the symbol. -/
def Rule.Written (_ : String) (rule : Rule) : Prop :=
  ∀ production ∈ rule.productions, production.source ≠ ""

/-- What the rules that are held have in common. Only base productions must have text. -/
structure ScopedRules.WellFormed (rules : ScopedRules) : Prop where
  held : rules.AllRules fun symbol rule => rule.WellFormed symbol
  written : ∀ symbol rule, rules.base.find? symbol = some rule → rule.Written symbol

namespace ScopedRules

theorem one_le_of_weight_ne_zero {production : Production} (weighted : production.weight ≠ 0) :
    1 ≤ production.weight.toNat :=
  Nat.one_le_iff_ne_zero.mpr fun zero => weighted (UInt32.toNat_inj.mp zero)

theorem rule_wellFormed_of_ruleOf {symbol : String} {productions : List Production} {rule : Rule}
    (made : ruleOf symbol productions = .ok rule)
    (faithful : ∀ production ∈ productions, production.Faithful) :
    rule.WellFormed symbol := by
  obtain ⟨named, inhabited, weighted, rfl⟩ := ruleOf_eq_ok_iff.mp made
  exact ⟨named, inhabited,
    fun production member => one_le_of_weight_ne_zero (weighted production member), faithful⟩

theorem rule_wellFormed_of_definable {symbol : String} {productions : List Production}
    (definable : Definable symbol productions)
    (faithful : ∀ production ∈ productions, production.Faithful) :
    Rule.WellFormed symbol ⟨productions⟩ :=
  rule_wellFormed_of_ruleOf
    (ruleOf_eq_ok_iff.mpr ⟨definable.named, definable.inhabited, definable.weighted, rfl⟩) faithful

/-! ## Operations -/

namespace WellFormed

variable {rules after : ScopedRules} {symbol : String} {productions : List Production}

theorem empty : ScopedRules.empty.WellFormed :=
  ⟨allRules_empty, fun _ _ found => nomatch found⟩

theorem define (wellFormed : rules.WellFormed)
    (faithful : ∀ production ∈ productions, production.Faithful)
    (defined : rules.define symbol productions = .ok after) : after.WellFormed := by
  obtain ⟨definable, same⟩ := define_eq_ok_iff.mp defined
  refine ⟨wellFormed.held.define defined (rule_wellFormed_of_definable definable faithful), ?_⟩
  subst same
  intro sought rule found
  have new : Rule.Written symbol ⟨productions⟩ := definable.written
  exact good_of_find?_insert new wellFormed.written found

theorem bind (wellFormed : rules.WellFormed)
    (faithful : ∀ production ∈ productions, production.Faithful)
    (accepted : rules.bind symbol productions = .ok after) : after.WellFormed := by
  obtain ⟨made, scope, outer, -, same⟩ := bind_eq_ok accepted
  refine ⟨wellFormed.held.bind accepted (rule_wellFormed_of_ruleOf made faithful), ?_⟩
  rw [same]
  exact wellFormed.written

/-- Rules of a document are defined one after another, and those before one that is refused stay
defined. -/
theorem defineAll {entries : List (String × List Production)} (wellFormed : rules.WellFormed)
    (faithful : ∀ entry ∈ entries, ∀ production ∈ entry.2, production.Faithful) :
    (rules.defineAll entries).2.WellFormed := by
  induction entries generalizing rules with
  | nil => exact wellFormed
  | cons entry entries ih =>
      rw [ScopedRules.defineAll]
      cases defined : rules.define entry.1 entry.2 with
      | error error => exact wellFormed
      | ok after =>
          have first := wellFormed.define (faithful entry (.head _)) defined
          exact ih first fun other later => faithful other (.tail _ later)

theorem lasting : Expansion.Lasting WellFormed := by
  have held : Expansion.Lasting fun rules =>
      rules.AllRules fun symbol rule => rule.WellFormed symbol := by
    refine Expansion.lasting_allRules fun made origins => ?_
    refine rule_wellFormed_of_ruleOf made fun production member => ?_
    rcases origins production member with ⟨rule, wellFormed, present⟩ | ⟨text, rfl⟩
    · exact wellFormed.faithful production present
    · exact .inr rfl
  have written := Expansion.lasting_base fun base =>
    ∀ symbol (rule : Rule), base.find? symbol = some rule → rule.Written symbol
  exact {
    openScope := fun whole => ⟨held.openScope whole.held, written.openScope whole.written⟩
    closeScope := fun whole => ⟨held.closeScope whole.held, written.closeScope whole.written⟩
    closeScopesTo := fun count whole =>
      ⟨held.closeScopesTo count whole.held, written.closeScopesTo count whole.written⟩
    bind := fun whole accepted =>
      ⟨held.bind whole.held accepted, written.bind whole.written accepted⟩ }

end WellFormed

theorem Reachable.wellFormed {rules : ScopedRules} (reachable : rules.Reachable Production.Built) :
    rules.WellFormed := by
  induction reachable with
  | empty => exact .empty
  | define _ built defined ih =>
      exact ih.define (fun production member => (built production member).faithful) defined
  | bind _ built accepted ih =>
      exact ih.bind (fun production member => (built production member).faithful) accepted
  | openScope _ ih => exact WellFormed.lasting.openScope ih
  | closeScope _ ih => exact WellFormed.lasting.closeScope ih
  | closeScopesTo count _ ih => exact WellFormed.lasting.closeScopesTo count ih
  | install _ built ih =>
      exact ih.defineAll fun entry member production present =>
        (built entry member production present).faithful
  | expand _ expanded ih =>
      rw [Expansion.expand_eq] at expanded
      rwa [Expansion.symbolText_leavesRules _ _ _ _ _ _ _ _ expanded]
  | flatten _ flattened ih =>
      rw [Expansion.flatten_eq] at flattened
      rwa [Expansion.templateText_leavesRules _ _ _ _ _ _ _ flattened]

end ScopedRules

theorem Document.built_of_ofBytes {arrival : Json.Arrival} {bytes : List UInt8}
    {document : Document} (read : Document.ofBytes arrival bytes = .ok document) :
    ∀ entry ∈ document.rules, ∀ production ∈ entry.2, production.Built := by
  intro entry member production present
  have authored : Production.weighted (production.source, production.weight) = .ok production :=
    (Grammar.installable_of_ofBytes read).authored entry member production present
  exact .weighted authored

/-- Whatever operations have led to rules, those that are held are well formed, and they are so at
every moment of any call of an expansion that is started on them. A document that was read brings in
only productions that were made in one of the three ways. -/
theorem held_rules_are_well_formed :
    (∀ rules : ScopedRules, rules.Reachable Production.Built →
      rules.WellFormed ∧
        ∀ table limit call generator seen,
          Expansion.SeenDuring table limit ⟨call, ⟨rules, generator⟩⟩ seen → seen.WellFormed) ∧
    ∀ arrival bytes document, Document.ofBytes arrival bytes = .ok document →
      ∀ entry ∈ document.rules, ∀ production ∈ entry.2, production.Built := by
  constructor
  · intro rules reachable
    have wellFormed := reachable.wellFormed
    refine ⟨wellFormed, ?_⟩
    intro table limit call generator seen moment
    exact ScopedRules.WellFormed.lasting.seenDuring moment wellFormed
  · intro arrival bytes document read
    exact Document.built_of_ofBytes read

/-- A document is read from its bytes and installed, a scope is opened, and a number sign is bound in
it. The rules that are held then are well formed, and so are those after a reference with actions
has opened another scope. -/
theorem installed_and_bound_rules_are_well_formed :
    ∃ document rules,
      Document.ofBytes .whole [123, 34, 97, 34, 58, 34, 98, 34, 125] = .ok document ∧
      (∀ entry ∈ document.rules, ∀ production ∈ entry.2, production.Built) ∧
      rules = ⟨Table.empty.insert "a" ⟨[⟨"b", 1, [.literal "b"]⟩]⟩,
        [Table.empty.insert "a" ⟨[.ofLiteral "#"]⟩]⟩ ∧
      rules.Reachable Production.Built ∧ rules.WellFormed ∧
      Expansion.SeenDuring ModifierTable.builtIn 1
        ⟨.reference [.bind false "a" [.value .set [.literal "c"]]] "a" none [] 0,
          ⟨rules, .listed []⟩⟩ rules.openScope ∧
      rules.openScope.WellFormed := by
  have read : Document.ofBytes .whole [123, 34, 97, 34, 58, 34, 98, 34, 125] =
      .ok ⟨[("a", [⟨"b", 1, [.literal "b"]⟩])]⟩ := by rfl
  obtain ⟨stored, loaded⟩ := held_rules_are_well_formed
  have built := loaded _ _ _ read
  have installed := ScopedRules.Reachable.install .empty built
  have sign : ∀ production ∈ [Production.ofLiteral "#"], production.Built :=
    fun _ member => List.mem_singleton.mp member ▸ .literal "#"
  have accepted : ScopedRules.bind
      ⟨Table.empty.insert "a" ⟨[⟨"b", 1, [.literal "b"]⟩]⟩, [Table.empty]⟩ "a" [.ofLiteral "#"] =
      .ok _ := rfl
  have bound := installed.openScope.bind sign accepted
  obtain ⟨wellFormed, moments⟩ := stored _ bound
  refine ⟨_, _, read, built, rfl, bound, wellFormed, ?seen, moments _ _ _ _ _ ?seen⟩
  exact .made (.tail .refl (.inScope (List.cons_ne_nil _ _)))

end StoryGrammar
