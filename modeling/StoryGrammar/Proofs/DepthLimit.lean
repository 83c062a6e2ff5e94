import StoryGrammar.Proofs.Comparison
import StoryGrammar.Proofs.Operation

set_option autoImplicit false

/-!
# What a depth limit changes

Raising the limit turns the error of the limit into whatever lies behind it, and changes nothing
else: an expansion that stays within a limit comes to the same under every greater one, and draws
the same words on the way.
-/

namespace StoryGrammar

def ExceedsDepth {α : Type} (result : Except GrammarError α) : Prop :=
  ∃ symbol limit, result = .error (.maxDepthExceeded symbol limit)

/-- The outcomes under two limits differ only where the lower one is exceeded: what comes of the
lower limit otherwise comes of the higher one too, and whoever exceeds the higher limit exceeds the
lower one. -/
structure LimitHidden {α State : Type} (lower higher : Option (Except GrammarError α × State)) :
    Prop where
  kept : ∀ result state, lower = some (result, state) → ¬ExceedsDepth result →
    higher = some (result, state)
  exceeded : ∀ result state, higher = some (result, state) → ExceedsDepth result →
    ∃ result' state', lower = some (result', state') ∧ ExceedsDepth result'

namespace LimitHidden

variable {α β State State' : Type}

theorem refl (outcome : Option (Except GrammarError α × State)) : LimitHidden outcome outcome :=
  ⟨fun _ _ there _ => there, fun result state there deep => ⟨result, state, there, deep⟩⟩

theorem of_match {limit limit' : Nat}
    {lower higher : Option (Except GrammarError α × Random.Generator)}
    (matched : OutcomesMatch Eq (Environment.GivesUp limit limit') lower higher) :
    LimitHidden lower higher := by
  cases matched with
  | endless => exact refl none
  | success same => exact same ▸ refl _
  | failure => exact refl _
  | excused givesUp =>
      obtain ⟨-, symbol, rfl⟩ := givesUp
      have deep : ExceedsDepth (.error (.maxDepthExceeded symbol limit) : Except GrammarError α) :=
        ⟨symbol, limit, rfl⟩
      constructor
      · intro result state same shallow
        cases same
        exact absurd deep shallow
      · exact fun _ _ _ _ => ⟨_, _, rfl, deep⟩

/-- Outcomes may be read differently, as long as both are read alike. -/
theorem map {lower higher : Option (Except GrammarError α × State)}
    (hidden : LimitHidden lower higher) {answer : Except GrammarError α → Except GrammarError β}
    (same : ∀ result, ExceedsDepth (answer result) ↔ ExceedsDepth result)
    (left : State → State') :
    LimitHidden (lower.map fun (result, state) => (answer result, left state))
      (higher.map fun (result, state) => (answer result, left state)) := by
  constructor
  · intro result state there shallow
    obtain ⟨⟨given, before⟩, reached, equal⟩ := Option.map_eq_some_iff.mp there
    cases equal
    rw [hidden.kept given before reached fun deep => shallow ((same given).mpr deep)]
    rfl
  · intro result state there deep
    obtain ⟨⟨given, before⟩, reached, equal⟩ := Option.map_eq_some_iff.mp there
    cases equal
    obtain ⟨given', before', reached', deep'⟩ :=
      hidden.exceeded given before reached ((same given).mp deep)
    rw [reached']
    exact ⟨_, _, rfl, (same given').mpr deep'⟩

end LimitHidden

namespace Expansion

variable {limit limit' : Nat}

theorem closed_univ (environment : Environment) : environment.Closed Set.univ :=
  fun _ _ _ _ _ _ _ _ => trivial

theorem Request.within_univ (request : Request) : request.Within Set.univ := by
  cases request with
  | symbol symbol => trivial
  | template template => exact fun _ _ => trivial

theorem Request.limitHidden (request : Request) (noGreater : limit ≤ limit')
    (table : ModifierTable) (state : ExpansionState) :
    LimitHidden (request.answer table limit state) (request.answer table limit' state) := by
  obtain ⟨rules, generator⟩ := state
  have agree := (closed_univ rules.visible?).refl
  have matched := request.evaluations_match table noGreater agree request.within_univ generator
  rw [answer_eq, answer_eq]
  exact (LimitHidden.of_match matched).map (fun _ => Iff.rfl) (ExpansionState.mk rules)

end Expansion

/-! ## Configured depths -/

namespace Grammar

def withMaxDepth (grammar : Grammar) (maxDepth : UInt64) : Grammar :=
  grammar.setConfig { grammar.config with maxDepth }

/-- Performs an operation under another configured depth, which is put back afterwards. -/
def performAtDepth (grammar : Grammar) (maxDepth : UInt64) (operation : Operation) :
    Option (Reply × Grammar) :=
  ((grammar.withMaxDepth maxDepth).perform operation).map fun (reply, after) =>
    (reply, after.withMaxDepth grammar.config.maxDepth)

/-- What an expansion does to a grammar, read as the reply to an operation. -/
def replied (grammar : Grammar)
    (outcome : Option (Except GrammarError String × ExpansionState)) : Option (Reply × Grammar) :=
  outcome.map fun (result, state) =>
    (result.map some, { grammar with rules := state.rules, generator := state.generator })

theorem performAtDepth_expand (grammar : Grammar) (maxDepth : UInt64) (symbol : String) :
    grammar.performAtDepth maxDepth (.expand symbol) =
      grammar.replied ((Expansion.Request.symbol symbol).answer grammar.modifiers
        (min maxDepth.toNat 200) ⟨grammar.rules, grammar.generator⟩) := by
  simp only [performAtDepth, perform, answered, expand, run, Option.map_map]
  rfl

theorem performAtDepth_flatten {text : String} {template : Template}
    (parsed : Template.parse text = .ok template) (grammar : Grammar) (maxDepth : UInt64) :
    grammar.performAtDepth maxDepth (.flatten text) =
      grammar.replied ((Expansion.Request.template template).answer grammar.modifiers
        (min maxDepth.toNat 200) ⟨grammar.rules, grammar.generator⟩) := by
  simp only [performAtDepth, perform, answered, flatten, parsed, run, Option.map_map]
  rfl

theorem replied_limitHidden (grammar : Grammar)
    {lower higher : Option (Except GrammarError String × ExpansionState)}
    (hidden : LimitHidden lower higher) :
    LimitHidden (grammar.replied lower) (grammar.replied higher) := by
  refine hidden.map (fun result => ?_) fun state =>
    { grammar with rules := state.rules, generator := state.generator }
  cases result <;> simp [ExceedsDepth, Except.map]

theorem installRead_withMaxDepth (document : Except GrammarError Document) (grammar : Grammar)
    (maxDepth : UInt64) :
    (grammar.withMaxDepth maxDepth).installRead document =
      ((grammar.installRead document).1,
        (grammar.installRead document).2.withMaxDepth maxDepth) := by
  cases document with
  | error error => rfl
  | ok document => rfl

theorem defineProductions_withMaxDepth (symbol : String)
    (productions : Except GrammarError (List Production)) (grammar : Grammar) (maxDepth : UInt64) :
    (grammar.withMaxDepth maxDepth).defineProductions symbol productions =
      ((grammar.defineProductions symbol productions).1,
        (grammar.defineProductions symbol productions).2.withMaxDepth maxDepth) := by
  cases productions with
  | error error => rfl
  | ok productions =>
      have same : (grammar.withMaxDepth maxDepth).rules = grammar.rules := rfl
      unfold defineProductions
      simp only [same]
      cases grammar.rules.define symbol productions with
      | error error => rfl
      | ok rules => rfl

/-- All that a configured depth changes in an operation is the limit it stands for. -/
theorem performAtDepth_eq (grammar : Grammar) (operation : Operation) :
    ∃ outcome : Nat → Option (Reply × Grammar),
      (∀ maxDepth, grammar.performAtDepth maxDepth operation = outcome (min maxDepth.toNat 200)) ∧
        ∀ limit limit', limit ≤ limit' → LimitHidden (outcome limit) (outcome limit') := by
  have asking (request : Expansion.Request) (asked : ∀ maxDepth,
      grammar.performAtDepth maxDepth operation = grammar.replied (request.answer
        grammar.modifiers (min maxDepth.toNat 200) ⟨grammar.rules, grammar.generator⟩)) :
      ∃ outcome : Nat → Option (Reply × Grammar),
        (∀ maxDepth, grammar.performAtDepth maxDepth operation = outcome (min maxDepth.toNat 200)) ∧
          ∀ limit limit', limit ≤ limit' → LimitHidden (outcome limit) (outcome limit') := by
    refine ⟨fun limit => grammar.replied (request.answer grammar.modifiers limit _), asked, ?_⟩
    intro limit limit' noGreater
    exact grammar.replied_limitHidden (request.limitHidden noGreater grammar.modifiers _)
  have indifferent (same : ∀ maxDepth, grammar.performAtDepth maxDepth operation =
      grammar.performAtDepth 0 operation) :
      ∃ outcome : Nat → Option (Reply × Grammar),
        (∀ maxDepth, grammar.performAtDepth maxDepth operation = outcome (min maxDepth.toNat 200)) ∧
          ∀ limit limit', limit ≤ limit' → LimitHidden (outcome limit) (outcome limit') :=
    ⟨fun _ => grammar.performAtDepth 0 operation, same, fun _ _ _ => .refl _⟩
  cases operation with
  | expand symbol =>
      exact asking (.symbol symbol) fun maxDepth => grammar.performAtDepth_expand maxDepth symbol
  | generate =>
      exact asking (.symbol grammar.config.startSymbol) fun maxDepth =>
        grammar.performAtDepth_expand maxDepth grammar.config.startSymbol
  | flatten text =>
      cases parsed : Template.parse text with
      | error error =>
          refine indifferent fun maxDepth => ?_
          simp only [performAtDepth, perform, answered, flatten, parsed]
          rfl
      | ok template => exact asking (.template template) (performAtDepth_flatten parsed grammar)
  | load text =>
      refine indifferent fun maxDepth => ?_
      simp only [performAtDepth, perform, load, installRead_withMaxDepth]
      rfl
  | loadBytes bytes =>
      refine indifferent fun maxDepth => ?_
      simp only [performAtDepth, perform, loadBytes, installRead_withMaxDepth]
      rfl
  | define symbol sources =>
      refine indifferent fun maxDepth => ?_
      simp only [performAtDepth, perform, define, defineProductions_withMaxDepth]
      rfl
  | defineWeighted symbol sources =>
      refine indifferent fun maxDepth => ?_
      simp only [performAtDepth, perform, defineWeighted, defineProductions_withMaxDepth]
      rfl
  | setSeed | setGenerator | setConfig | register | fork => exact indifferent fun _ => rfl

end Grammar

/-- A depth limit shows only in its own error. Under a greater limit every expansion comes to the
same text or error with the same words drawn, unless the lower limit was exceeded, and it exceeds
the greater limit only if it exceeds the lower one. Of a configured depth only the limit it stands
for matters, so all depths of 200 and more are alike. -/
theorem depth_limit_shows_only_in_its_error :
    (∀ table limit limit' state, limit ≤ limit' →
      (∀ symbol, LimitHidden (Expansion.expand table limit symbol state)
        (Expansion.expand table limit' symbol state)) ∧
      ∀ template, LimitHidden (Expansion.flatten table limit template state)
        (Expansion.flatten table limit' template state)) ∧
    (∀ (grammar : Grammar) operation (maxDepth maxDepth' : UInt64),
      min maxDepth.toNat 200 ≤ min maxDepth'.toNat 200 →
      LimitHidden (grammar.performAtDepth maxDepth operation)
        (grammar.performAtDepth maxDepth' operation)) ∧
    ∀ (grammar : Grammar) operation (maxDepth maxDepth' : UInt64), 200 ≤ maxDepth →
      200 ≤ maxDepth' →
      grammar.performAtDepth maxDepth operation = grammar.performAtDepth maxDepth' operation := by
  refine ⟨?_, ?_, ?_⟩
  · intro table limit limit' state noGreater
    exact ⟨fun symbol => (Expansion.Request.symbol symbol).limitHidden noGreater table state,
      fun template => (Expansion.Request.template template).limitHidden noGreater table state⟩
  · intro grammar operation maxDepth maxDepth' noGreater
    obtain ⟨outcome, performed, hidden⟩ := grammar.performAtDepth_eq operation
    rw [performed, performed]
    exact hidden _ _ noGreater
  · intro grammar operation maxDepth maxDepth' large large'
    obtain ⟨outcome, performed, -⟩ := grammar.performAtDepth_eq operation
    have large : 200 ≤ maxDepth.toNat := large
    have large' : 200 ≤ maxDepth'.toNat := large'
    rw [performed, performed, Nat.min_eq_right large, Nat.min_eq_right large']

/-- A reference to a missing symbol exceeds the limit zero. The limit one finds the symbol missing,
and so does every greater limit and every configured depth. -/
theorem missing_symbol_reported_from_limit_one :
    Expansion.flatten .builtIn 0 [.reference [] "missing" none []] ⟨.empty, .listed []⟩ =
        some (.error (.maxDepthExceeded "missing" 0), ⟨.empty, .listed []⟩) ∧
      Expansion.flatten .builtIn 7 [.reference [] "missing" none []] ⟨.empty, .listed []⟩ =
        some (.error (.unknownSymbol "missing"), ⟨.empty, .listed []⟩) ∧
      LimitHidden ((Grammar.empty (.listed [])).performAtDepth 1 (.flatten "#missing#"))
        ((Grammar.empty (.listed [])).performAtDepth 500 (.flatten "#missing#")) ∧
      (Grammar.empty (.listed [])).performAtDepth 300 (.flatten "#missing#") =
        (Grammar.empty (.listed [])).performAtDepth 1000 (.flatten "#missing#") := by
  obtain ⟨limits, depths, large⟩ := depth_limit_shows_only_in_its_error
  refine ⟨?_, ?_, depths _ _ 1 500 (by decide), large _ _ 300 1000 (by decide) (by decide)⟩
  · refine (Expansion.Request.answer_eq .builtIn 0 (.template _) .empty (.listed [])).trans ?_
    simp only [Expansion.Request.evaluation, Environment.sequenceText, Environment.referenceText,
      Environment.extended, Environment.symbolText]
    rfl
  · refine ((limits .builtIn 1 7 ⟨.empty, .listed []⟩ (by decide)).2 _).kept _ _ ?_ ?_
    · refine (Expansion.Request.answer_eq .builtIn 1 (.template _) .empty (.listed [])).trans ?_
      simp only [Expansion.Request.evaluation, Environment.sequenceText, Environment.referenceText,
        Environment.extended, Environment.symbolText]
      rfl
    · rintro ⟨symbol, limit, same⟩
      cases same

end StoryGrammar
