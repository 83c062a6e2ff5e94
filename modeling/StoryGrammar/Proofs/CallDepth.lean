import StoryGrammar.Proofs.FreshSymbol
import StoryGrammar.Proofs.Template.Explaining
import StoryGrammar.Proofs.Termination
import StoryGrammar.Proofs.WellFormedRules

set_option autoImplicit false

/-!
# Depth of calls

The limit is tested where a symbol is expanded, and not where the values of actions go one level
deeper. Values nest no deeper than actions do in a template that was read, so depths stay bounded
all the same.
-/

namespace StoryGrammar

/-! ## Templates of rules -/

namespace Template

theorem nesting_ofLiteral (text : String) : nesting (ofLiteral text) = 0 := by
  unfold ofLiteral
  split <;> rfl

theorem nesting_of_parse {text : String} {template : Template}
    (parsed : parse text = .ok template) : template.nesting ≤ nestingLimit :=
  (derives_of_parse parsed).2

end Template

theorem Production.Faithful.nesting_le {production : Production} (faithful : production.Faithful) :
    production.template.nesting ≤ nestingLimit := by
  rcases faithful with parsed | literal
  · exact Template.nesting_of_parse parsed
  · rw [literal, Template.nesting_ofLiteral]
    exact Nat.zero_le _

namespace Expansion

/-! ## Depths -/

/-- Depths as they can be under a limit: what is nested in the rest of a template still fits. -/
def Call.Within (limit : Nat) : Call → Prop
  | .symbol _ _ depth => depth ≤ limit + nestingLimit + 1
  | .template nodes depth | .sequence nodes depth =>
      depth + Node.nestingAmong nodes ≤ limit + nestingLimit
  | .reference bindings _ _ _ depth | .target bindings _ _ _ depth | .actions bindings depth =>
      depth + Action.nestingAmong bindings ≤ limit + nestingLimit
  | .values given depth => depth + 1 + ActionValue.nestingAmong given ≤ limit + nestingLimit
  | .modifiers _ _ => True

structure Activation.Within (limit : Nat) (activation : Activation) : Prop where
  rules : activation.state.rules.WellFormed
  call : activation.call.Within limit

section depths

variable {table : ModifierTable} {limit : Nat} {outer inner : Activation}

theorem Makes.within (made : Makes table limit outer inner) (within : outer.Within limit) :
    inner.Within limit := by
  refine ⟨ScopedRules.WellFormed.lasting.makes made within.rules, ?_⟩
  obtain ⟨rules, call⟩ := within
  cases made with
  | production admitted visible drawn =>
      have member := List.mem_of_mem_filter (Rule.mem_candidates_of_draw drawn)
      have shallow := ((rules.held.visible visible).faithful _ member).nesting_le
      exact Nat.add_le_add admitted shallow
  | modifiers | afterModifier => trivial
  | _ =>
      simp only [Call.Within, Node.nestingAmong, Node.nesting, Action.nestingAmong,
        ActionValue.nestingAmong] at call ⊢
      omega

theorem During.within (during : During table limit outer inner) (within : outer.Within limit) :
    inner.Within limit := by
  induction during with
  | refl => exact within
  | tail _ made ih => exact made.within ih

end depths

/-! ## Nested calls -/

def Activation.expandsSymbol (activation : Activation) : Bool :=
  match activation.call with
  | .symbol _ _ _ => true
  | _ => false

/-- Each symbol that is expanded within another takes a level, and the one that exceeds the limit
makes no further call. -/
theorem countP_expandsSymbol_le {table : ModifierTable} {limit : Nat} {start : Activation}
    {inner : List Activation} (nested : (start :: inner).IsChain (Makes table limit)) :
    (start :: inner).countP Activation.expandsSymbol ≤ start.call.levels limit + 1 := by
  induction inner generalizing start with
  | nil =>
      rw [List.countP_singleton]
      split <;> omega
  | cons next inner ih =>
      obtain ⟨made, nested⟩ := List.isChain_cons_cons.mp nested
      have within := ih nested
      have fewer := made.levels_le
      rw [List.countP_cons]
      obtain ⟨call, state⟩ := start
      cases call with
      | symbol symbol filter depth =>
          obtain ⟨admitted, levels⟩ := made.levels_of_symbol
          simp only [Activation.expandsSymbol, Call.levels, if_true]
          omega
      | _ =>
          simp only [Activation.expandsSymbol, Bool.false_eq_true, if_false, Nat.add_zero]
          exact within.trans (Nat.succ_le_succ fewer)

/-- Beyond the limit a symbol makes no call. -/
theorem not_makes_of_exceeded {table : ModifierTable} {limit depth : Nat} {symbol : String}
    {filter : Option Filter} {state : ExpansionState} {inner : Activation}
    (exceeded : limit < depth) :
    ¬Makes table limit ⟨.symbol symbol filter depth, state⟩ inner :=
  fun made => absurd made.levels_of_symbol.1 (Nat.not_le.mpr exceeded)

/-! ## Expansions -/

/-- The call that an expansion begins with, of a symbol or of a template that was read. -/
inductive Begins (table : ModifierTable) (limit : Nat) :
    (ExpansionState → Option (Except GrammarError String × ExpansionState)) → Call → Prop where
  | expand (symbol : String) :
      Begins table limit (expand table limit symbol) (.symbol symbol none 0)
  | flatten {text : String} {template : Template} :
      Template.parse text = .ok template →
      Begins table limit (flatten table limit template) (.template template 0)

/-- What the limit leaves to the calls made during a call, and to calls within one another. -/
structure Bounded (table : ModifierTable) (limit : Nat) (start : Activation) : Prop where
  finite : {inner | During table limit start inner}.Finite
  symbolDepth : ∀ {symbol : String} {filter : Option Filter} {depth : Nat} {state : ExpansionState},
    During table limit start ⟨.symbol symbol filter depth, state⟩ → depth ≤ limit + 65
  templateDepth : ∀ {template : Template} {depth : Nat} {state : ExpansionState},
    During table limit start ⟨.template template depth, state⟩ → depth ≤ limit + 64
  sequenceDepth : ∀ {nodes : List Node} {depth : Nat} {state : ExpansionState},
    During table limit start ⟨.sequence nodes depth, state⟩ → depth ≤ limit + 64
  nestedSymbols : ∀ {inner : List Activation}, (start :: inner).IsChain (Makes table limit) →
    (start :: inner).countP Activation.expandsSymbol ≤ limit + 2
  innermost : ∀ {outer inner : List Activation} {symbol : String} {filter : Option Filter}
    {depth : Nat} {state : ExpansionState},
    (outer ++ ⟨.symbol symbol filter depth, state⟩ :: inner).IsChain (Makes table limit) →
    limit < depth → inner = []

theorem Activation.Within.bounded {table : ModifierTable} {limit : Nat} {start : Activation}
    (within : start.Within limit) (levels : start.call.levels limit ≤ limit + 1) :
    Bounded table limit start where
  finite := finite_during table limit start
  symbolDepth during := (during.within within).call
  templateDepth during := Nat.le_of_add_right_le (during.within within).call
  sequenceDepth during := Nat.le_of_add_right_le (during.within within).call
  nestedSymbols nested := (countP_expandsSymbol_le nested).trans (Nat.succ_le_succ levels)
  innermost {outer inner _ _ _ _} nested exceeded := by
    cases inner with
    | nil => rfl
    | cons next inner =>
        have made := (List.isChain_cons_cons.mp nested.right_of_append).1
        exact absurd made (not_makes_of_exceeded exceeded)

section begins

variable {table : ModifierTable} {limit : Nat} {call : Call} {state : ExpansionState}
  {expansion : ExpansionState → Option (Except GrammarError String × ExpansionState)}

theorem Begins.eq_none_iff (begins : Begins table limit expansion call) :
    expansion state = none ↔ Endless table limit ⟨call, state⟩ := by
  cases begins with
  | expand symbol =>
      rw [expand_eq]
      rfl
  | flatten parsed =>
      rw [flatten_eq]
      rfl

theorem Begins.bounded (begins : Begins table limit expansion call)
    (wellFormed : state.rules.WellFormed) : Bounded table limit ⟨call, state⟩ := by
  cases begins with
  | expand symbol =>
      have within : Activation.Within limit ⟨.symbol symbol none 0, state⟩ :=
        ⟨wellFormed, Nat.zero_le _⟩
      exact within.bounded le_rfl
  | @flatten text template parsed =>
      have shallow : 0 + template.nesting ≤ limit + nestingLimit :=
        (Nat.zero_add _).le.trans ((Template.nesting_of_parse parsed).trans (Nat.le_add_left _ _))
      have within : Activation.Within limit ⟨.template template 0, state⟩ := ⟨wellFormed, shallow⟩
      exact within.bounded (Nat.le_succ limit)

end begins

end Expansion

theorem Config.depthLimit_le (config : Config) : config.depthLimit ≤ 200 :=
  Nat.min_le_right _ _

/-- An expansion has an outcome unless a draw made during it takes words forever. It makes finitely
many calls, none much deeper than the limit, and the symbols that are expanded within one another
are at most two more than the limit, of which only the innermost can exceed it. -/
theorem expansions_are_bounded_by_limit {rules : ScopedRules}
    (reachable : rules.Reachable Production.Built) :
    (∀ {table : ModifierTable} {limit : Nat}
        {expansion : ExpansionState → Option (Except GrammarError String × ExpansionState)}
        {call : Expansion.Call},
      Expansion.Begins table limit expansion call → ∀ generator,
        (expansion ⟨rules, generator⟩ = none ↔ ∃ inner,
          Expansion.During table limit ⟨call, ⟨rules, generator⟩⟩ inner ∧
            Expansion.DrawsForever table limit inner) ∧
        Expansion.Bounded table limit ⟨call, ⟨rules, generator⟩⟩) ∧
    ∀ config : Config, config.depthLimit ≤ 200 := by
  refine ⟨fun begins generator => ⟨?_, begins.bounded reachable.wellFormed⟩, Config.depthLimit_le⟩
  exact begins.eq_none_iff.trans (Expansion.endless_iff _)

/-- Under the limit zero a symbol within a value is come to two levels deep. Where all words have
their highest bit set, the expansion has no outcome. -/
theorem value_is_expanded_beyond_limit :
    ∃ rules : ScopedRules, rules.Reachable Production.Built ∧
      (∃ state, Expansion.During .builtIn 0 ⟨.symbol "a" none 0, ⟨rules, .listed []⟩⟩
        ⟨.symbol "a" none 2, state⟩) ∧
      Expansion.Bounded .builtIn 0 ⟨.symbol "a" none 0, ⟨rules, .listed []⟩⟩ ∧
      Expansion.expand .builtIn 0 "a" ⟨rules, .progression 0x8000000000000000 0⟩ = none := by
  let bindings : List Action := [.bind false "k" [.value .set [.reference [] "a" none []]]]
  let production : Production := ⟨"#[k:#a#]a#", 1, [.reference bindings "a" none []]⟩
  have built : ∀ given ∈ [production], given.Built :=
    fun given member => List.mem_singleton.mp member ▸
      .plain (show Production.plain "#[k:#a#]a#" = .ok production from rfl)
  obtain ⟨rules, defined, visible⟩ : ∃ rules,
      ScopedRules.empty.define "a" [production] = .ok rules ∧
        rules.visible? "a" = some ⟨[production]⟩ :=
    ⟨_, rfl, rfl⟩
  have reachable : rules.Reachable Production.Built := .define .empty built defined
  obtain ⟨runs, -⟩ := expansions_are_bounded_by_limit reachable
  have begins : Expansion.Begins .builtIn 0 (Expansion.expand .builtIn 0 "a")
      (.symbol "a" none 0) := .expand "a"
  refine ⟨rules, reachable, ?_, (runs begins _).2, (runs begins _).1.mpr ⟨_, .refl, ?_⟩⟩
  · have drawn : (Rule.draw ⟨[production]⟩ none).run (.listed []) =
        some (.ok (some production), .listed []) := by
      have first : Random.below64 1 (.listed []) = some (0, .listed []) :=
        @Rule.below64_one_eq_some (.listed []) 0 (fun _ below => absurd below (Nat.not_lt_zero _))
          (by decide)
      change (Rule.choose [production]).run (.listed []) = _
      rw [Rule.choose_single rfl, first]
      rfl
    have unbound : (Expansion.perform .builtIn 0 [] 1).run ⟨rules.openScope, .listed []⟩ =
        some (.ok (), ⟨rules.openScope, .listed []⟩) := by
      rw [Expansion.perform]
      rfl
    exact ⟨_, .head (.production le_rfl visible drawn) <| .head .nodes <| .head .reference <|
      .head (.inScope (List.cons_ne_nil _ _)) <| .head .actions <| .head .values <|
      .head .value <| .head .nodes <| .head .reference <| .head .plain <|
      .single (.symbol unbound)⟩
  · refine .production le_rfl visible ?_
    change (Rule.choose [production]).run _ = none
    rw [Rule.choose_single rfl, Rule.below64_one_eq_none fun place =>
      (Grammar.wordAt_constant 0x8000000000000000 place).ge]
    rfl

end StoryGrammar
