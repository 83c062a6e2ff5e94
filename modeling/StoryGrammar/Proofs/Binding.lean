import StoryGrammar.Proofs.Provenance

set_option autoImplicit false

/-!
# What an action binds

An action expands its values one after another and then gives its key a rule. Plain values make up
the rule alone. If some value adds or removes, the rule is an edition of the one that is visible for
the key. Everything else about the rules stays as it is.
-/

namespace StoryGrammar

/-! ## Edited rules -/

namespace Rule

def removedTexts (texts : List (ValueOperator × String)) : List String :=
  (texts.filter fun given => given.1 = .remove).map (·.2)

/-- The texts of plain values and of those that add. -/
def addedTexts (texts : List (ValueOperator × String)) : List String :=
  (texts.filter fun given => given.1 ≠ .remove).map (·.2)

/-- The productions that are edited: none after a reset, and else those of the visible rule. -/
def previous (reset : Bool) (visible : Option Rule) : List Production :=
  if reset then [] else visible.elim [] (·.productions)

/-- The productions of the rule that is bound for the texts of an action's values: a literal one for
each if all values are plain, and else the previous ones that are not removed before the literal
ones of the texts that are added. -/
def edited (reset : Bool) (visible : Option Rule) (texts : List (ValueOperator × String)) :
    List Production :=
  if ∀ given ∈ texts, given.1 = .set then texts.map fun given => Production.ofLiteral given.2
  else
    ((previous reset visible).filter fun production => production.source ∉ removedTexts texts) ++
      (addedTexts texts).map Production.ofLiteral

variable {reset : Bool} {visible : Option Rule} {texts : List (ValueOperator × String)}

theorem mem_removedTexts {text : String} :
    text ∈ removedTexts texts ↔ (ValueOperator.remove, text) ∈ texts := by
  simp [removedTexts]

theorem addedTexts_of_plain (plain : ∀ given ∈ texts, given.1 = .set) :
    addedTexts texts = texts.map (·.2) := by
  rw [addedTexts, List.filter_eq_self.mpr]
  intro given member
  simp [plain given member]

/-- Either way the literal productions of the texts that are added come last. -/
theorem edited_eq (reset : Bool) (visible : Option Rule)
    (texts : List (ValueOperator × String)) :
    edited reset visible texts =
      (if ∀ given ∈ texts, given.1 = .set then []
        else (previous reset visible).filter fun production =>
          production.source ∉ removedTexts texts) ++
      (addedTexts texts).map Production.ofLiteral := by
  unfold edited
  split
  · rename_i plain
    rw [addedTexts_of_plain plain, List.map_map, List.nil_append]
    rfl
  · rfl

/-- A text that is added is there, whether or not it is removed as well. -/
theorem ofLiteral_mem_edited {operator : ValueOperator} {text : String}
    (adds : operator ≠ .remove) (given : (operator, text) ∈ texts) :
    Production.ofLiteral text ∈ edited reset visible texts := by
  have added : text ∈ addedTexts texts :=
    List.mem_map.mpr ⟨_, List.mem_filter.mpr ⟨given, by simpa using adds⟩, rfl⟩
  rw [edited_eq]
  exact List.mem_append_right _ (List.mem_map_of_mem added)

/-- All values are plain where none removes and all the others are. -/
theorem plain_iff (texts : List (ValueOperator × String)) :
    (∀ given ∈ texts, given.1 = .set) ↔
      (∀ given ∈ texts.filter fun given => given.1 ≠ .remove, given.1 = .set) ∧
        ∀ text, (ValueOperator.remove, text) ∉ texts := by
  constructor
  · intro plain
    refine ⟨fun given member => plain given (List.mem_filter.mp member).1, ?_⟩
    intro text removed
    cases plain _ removed
  · intro parts given member
    obtain ⟨plain, kept⟩ := parts
    by_cases removes : given.1 = .remove
    · exact absurd (removes ▸ member : (ValueOperator.remove, given.2) ∈ texts) (kept given.2)
    · exact plain given (List.mem_filter.mpr ⟨member, by simpa using removes⟩)

/-- Where the values that remove stand among the others, and how often, makes no difference. -/
theorem edited_congr {texts' : List (ValueOperator × String)}
    (others : (texts.filter fun given => given.1 ≠ .remove) =
      texts'.filter fun given => given.1 ≠ .remove)
    (removed : ∀ text, (ValueOperator.remove, text) ∈ texts ↔
      (ValueOperator.remove, text) ∈ texts') :
    edited reset visible texts = edited reset visible texts' := by
  have added : addedTexts texts = addedTexts texts' := by rw [addedTexts, addedTexts, others]
  have alike : (∀ given ∈ texts, given.1 = .set) ↔ ∀ given ∈ texts', given.1 = .set := by
    rw [plain_iff texts, plain_iff texts', others]
    exact and_congr_right fun _ => forall_congr' fun text => not_congr (removed text)
  rw [edited_eq, edited_eq, added]
  simp only [alike, mem_removedTexts, removed]

end Rule

namespace Expansion

/-! ## Values -/

section values

variable (table : ModifierTable) (limit depth : Nat)

/-- Values expand to texts, each in the state that the ones before it leave. -/
inductive ValuesExpand :
    List ActionValue → ExpansionState → List (ValueOperator × String) → ExpansionState → Prop where
  | nil {state : ExpansionState} : ValuesExpand [] state [] state
  | cons {operator : ValueOperator} {template : Template} {rest : List ActionValue}
      {state middle after : ExpansionState} {text : String}
      {texts : List (ValueOperator × String)} :
      (templateText table limit template (depth + 1)).run state = some (.ok text, middle) →
      ValuesExpand rest middle texts after →
      ValuesExpand (.value operator template :: rest) state ((operator, text) :: texts) after

/-- One of the values fails, after those before it have expanded. -/
inductive ValueFails :
    List ActionValue → ExpansionState → GrammarError → ExpansionState → Prop where
  | here {operator : ValueOperator} {template : Template} {rest : List ActionValue}
      {state after : ExpansionState} {error : GrammarError} :
      (templateText table limit template (depth + 1)).run state = some (.error error, after) →
      ValueFails (.value operator template :: rest) state error after
  | later {operator : ValueOperator} {template : Template} {rest : List ActionValue}
      {state middle after : ExpansionState} {text : String} {error : GrammarError} :
      (templateText table limit template (depth + 1)).run state = some (.ok text, middle) →
      ValueFails rest middle error after →
      ValueFails (.value operator template :: rest) state error after

end values

variable {table : ModifierTable} {limit depth : Nat} {values : List ActionValue}
  {state after : ExpansionState}

theorem ValuesExpand.run_valueTexts {texts : List (ValueOperator × String)}
    (expanded : ValuesExpand table limit depth values state texts after) :
    (valueTexts table limit values depth).run state = some (.ok texts, after) := by
  induction expanded with
  | nil =>
      rw [valueTexts]
      rfl
  | cons first _ ih =>
      rw [valueTexts, run_bind_of_ok first, run_bind_of_ok ih]
      rfl

theorem ValueFails.run_valueTexts {error : GrammarError}
    (fails : ValueFails table limit depth values state error after) :
    (valueTexts table limit values depth).run state = some (.error error, after) := by
  induction fails with
  | here failed =>
      rw [valueTexts, run_bind, failed]
      rfl
  | later first _ ih =>
      rw [valueTexts, run_bind_of_ok first, run_bind, ih]
      rfl

/-- Values that come to an end have expanded, or one of them has failed. -/
theorem valuesExpand_or_valueFails {result : Except GrammarError (List (ValueOperator × String))}
    (outcome : (valueTexts table limit values depth).run state = some (result, after)) :
    (∃ texts, ValuesExpand table limit depth values state texts after) ∨
      ∃ error, ValueFails table limit depth values state error after := by
  induction values generalizing state result with
  | nil =>
      rw [valueTexts] at outcome
      cases outcome
      exact .inl ⟨[], .nil⟩
  | cons value rest ih =>
      obtain ⟨operator, template⟩ := value
      rw [valueTexts] at outcome
      obtain ⟨error, failed, -⟩ | ⟨text, middle, first, outcome⟩ := run_bind_eq_some outcome
      · exact .inr ⟨error, .here failed⟩
      · obtain ⟨error, failed, -⟩ | ⟨texts, final, others, returned⟩ := run_bind_eq_some outcome
        · obtain ⟨texts, expanded⟩ | ⟨error, fails⟩ := ih failed
          · exact .inl ⟨_, .cons first expanded⟩
          · exact .inr ⟨error, .later first fails⟩
        · cases returned
          obtain ⟨texts, expanded⟩ | ⟨error, fails⟩ := ih others
          · exact .inl ⟨_, .cons first expanded⟩
          · exact .inr ⟨error, .later first fails⟩

/-! ## Bindings -/

section bindings

variable {reset : Bool} {key : String} {texts : List (ValueOperator × String)}

theorem filterMap_removed (texts : List (ValueOperator × String)) :
    (texts.filterMap fun (operator, text) => if operator = .remove then some text else none) =
      Rule.removedTexts texts := by
  induction texts with
  | nil => rfl
  | cons given texts ih =>
      obtain ⟨operator, text⟩ := given
      rw [List.filterMap_cons, ih]
      cases operator <;> rfl

theorem filterMap_added (texts : List (ValueOperator × String)) :
    (texts.filterMap fun (operator, text) =>
      if operator = .remove then none else some (Production.ofLiteral text)) =
      (Rule.addedTexts texts).map Production.ofLiteral := by
  induction texts with
  | nil => rfl
  | cons given texts ih =>
      obtain ⟨operator, text⟩ := given
      rw [List.filterMap_cons, ih]
      cases operator <;> rfl

theorem edits_eq (operators : texts.map (·.1) = values.map (·.operator)) :
    (Action.bind reset key values).edits = !decide (∀ given ∈ texts, given.1 = .set) := by
  have some : (Action.bind reset key values).edits = (texts.map (·.1)).any (· != .set) := by
    rw [operators, List.any_map]
    rfl
  rw [some, Bool.eq_iff_iff]
  simp

/-- The productions that are bound are those of the edited rule. -/
theorem boundProductions_eq (operators : texts.map (·.1) = values.map (·.operator))
    (visible : Option Rule) :
    boundProductions (.bind reset key values) visible texts = Rule.edited reset visible texts := by
  rw [Rule.edited_eq]
  unfold boundProductions
  rw [filterMap_removed, filterMap_added, edits_eq operators]
  dsimp only
  congr 1
  cases visible with
  | none => cases reset <;> simp [Rule.previous]
  | some rule =>
      by_cases plain : ∀ given ∈ texts, given.1 = .set
      · rw [if_pos plain, decide_eq_true plain]
        rfl
      · rw [if_neg plain, decide_eq_false plain]
        cases reset with
        | false => simp [Rule.previous, Action.reset]
        | true => simp [Rule.previous, Action.reset]

/-- A rule has been bound for a key: it is visible, no other symbol's rule has changed, and neither
have the base rules and the outer scopes. -/
structure BindsOnly (rules : ScopedRules) (key : String) (rule : Rule) (bound : ScopedRules) :
    Prop where
  visible : bound.visible? key = some rule
  others : ∀ symbol, symbol ≠ key → bound.visible? symbol = rules.visible? symbol
  base : bound.base = rules.base
  outer : bound.scopes.tail = rules.scopes.tail
  count : bound.scopes.length = rules.scopes.length

variable {rules : ScopedRules}

theorem bind_bindsOnly (opened : rules.scopes ≠ []) (named : key ≠ "")
    {productions : List Production} (inhabited : productions ≠ [])
    (weighted : ∀ production ∈ productions, production.weight ≠ 0) :
    ∃ bound, rules.bind key productions = .ok bound ∧ BindsOnly rules key ⟨productions⟩ bound := by
  have made : ScopedRules.ruleOf key productions = .ok ⟨productions⟩ :=
    ScopedRules.ruleOf_eq_ok_iff.mpr ⟨named, inhabited, weighted, rfl⟩
  have rebinding := ScopedRules.bind_of_opened opened key productions
  rw [made] at rebinding
  obtain ⟨bound, accepted, visible, rebound⟩ := rebinding
  refine ⟨bound, accepted, ?_, ?_, rebound.base, rebound.outer, rebound.count⟩
  · rw [visible]
    exact if_pos rfl
  · intro symbol other
    rw [visible]
    exact if_neg other

theorem bind_nothing (named : key ≠ "") :
    rules.bind key [] = .error (.invalidRule key .noProductions) := by
  have unmade : ScopedRules.ruleOf key [] = .error (.invalidRule key .noProductions) := by
    unfold ScopedRules.ruleOf
    rw [if_neg (mt String.isEmpty_iff.mp named)]
    rfl
  rw [ScopedRules.bind, unmade]

theorem ValuesExpand.rules_eq (expanded : ValuesExpand table limit depth values state texts after) :
    after.rules = state.rules :=
  valueTexts_leavesRules _ _ _ _ _ _ _ expanded.run_valueTexts

theorem ValuesExpand.run_perform
    (expanded : ValuesExpand table limit depth values state texts after) :
    (perform table limit [.bind reset key values] depth).run state =
      match state.rules.bind key (Rule.edited reset (state.rules.visible? key) texts) with
      | .ok bound => some (.ok (), ⟨bound, after.generator⟩)
      | .error error => some (.error error, ⟨state.rules, after.generator⟩) := by
  have kept := expanded.rules_eq
  obtain ⟨rules, generator⟩ := after
  cases kept
  rw [perform, run_bind_of_ok expanded.run_valueTexts, run_bind, run_bindKey,
    boundProductions_eq (operators_valueTexts expanded.run_valueTexts)]
  change (match state.rules.bind key (Rule.edited reset (state.rules.visible? key) texts) with
    | .ok bound => _
    | .error error => _ : Option _).bind _ = _
  cases state.rules.bind key (Rule.edited reset (state.rules.visible? key) texts) with
  | error error => rfl
  | ok bound =>
      dsimp only [Option.bind_some]
      rw [perform]
      rfl

theorem ValueFails.run_perform {error : GrammarError}
    (fails : ValueFails table limit depth values state error after) :
    (perform table limit [.bind reset key values] depth).run state =
      some (.error error, ⟨state.rules, after.generator⟩) := by
  have kept := valueTexts_leavesRules _ _ _ _ _ _ _ fails.run_valueTexts
  obtain ⟨rules, generator⟩ := after
  cases kept
  rw [perform, run_bind, fails.run_valueTexts]
  rfl

theorem exists_of_run_perform
    (ends : (perform table limit [.bind reset key values] depth).run state ≠ none) :
    (∃ texts after, ValuesExpand table limit depth values state texts after) ∨
      ∃ error after, ValueFails table limit depth values state error after := by
  obtain ⟨⟨result, after⟩, outcome⟩ := Option.ne_none_iff_exists'.mp ends
  rw [perform] at outcome
  obtain ⟨error, failed, -⟩ | ⟨texts, middle, given, -⟩ := run_bind_eq_some outcome
  · obtain ⟨texts, expanded⟩ | ⟨raised, fails⟩ := valuesExpand_or_valueFails failed
    · exact .inl ⟨texts, after, expanded⟩
    · exact .inr ⟨raised, after, fails⟩
  · obtain ⟨texts, expanded⟩ | ⟨raised, fails⟩ := valuesExpand_or_valueFails given
    · exact .inl ⟨texts, middle, expanded⟩
    · exact .inr ⟨raised, middle, fails⟩

theorem weighted_edited {Built : Production → Prop} (reachable : rules.Reachable Built)
    (operators : texts.map (·.1) = values.map (·.operator)) :
    ∀ production ∈ Rule.edited reset (rules.visible? key) texts, production.weight ≠ 0 := by
  rw [← boundProductions_eq operators]
  exact weighted_boundProductions (.bind reset key values) texts fun rule => reachable.sound.visible

end bindings

/-- Runs an action with a key, as every action that was read has one, where a scope is open. If all
of its values expand, its key is bound to the edited rule and nothing else changes; if that rule has
no productions, nothing is bound. A text that is added is in the rule also if it is removed, and the
values that remove may stand anywhere. If a value fails, its error is that of the action and nothing
is bound either. -/
theorem action_binds_edited_rule {Built : Production → Prop} {rules : ScopedRules}
    (reachable : rules.Reachable Built) (opened : rules.scopes ≠ []) {key : String}
    (named : key ≠ "") (table : ModifierTable) (limit depth : Nat) (reset : Bool)
    (values : List ActionValue) (generator : Random.Generator) :
    (∀ texts after, ValuesExpand table limit depth values ⟨rules, generator⟩ texts after →
      let productions := Rule.edited reset (rules.visible? key) texts
      (productions ≠ [] → ∃ bound,
        (perform table limit [.bind reset key values] depth).run ⟨rules, generator⟩ =
            some (.ok (), ⟨bound, after.generator⟩) ∧
          BindsOnly rules key ⟨productions⟩ bound) ∧
      (productions = [] →
        (perform table limit [.bind reset key values] depth).run ⟨rules, generator⟩ =
          some (.error (.invalidRule key .noProductions), ⟨rules, after.generator⟩)) ∧
      (∀ operator text, operator ≠ .remove → (operator, text) ∈ texts →
        Production.ofLiteral text ∈ productions) ∧
      ∀ texts', ((texts'.filter fun given => given.1 ≠ .remove) =
          texts.filter fun given => given.1 ≠ .remove) →
        (∀ text, (ValueOperator.remove, text) ∈ texts' ↔ (ValueOperator.remove, text) ∈ texts) →
        Rule.edited reset (rules.visible? key) texts' = productions) ∧
    (∀ error after, ValueFails table limit depth values ⟨rules, generator⟩ error after →
      (perform table limit [.bind reset key values] depth).run ⟨rules, generator⟩ =
        some (.error error, ⟨rules, after.generator⟩)) ∧
    ((perform table limit [.bind reset key values] depth).run ⟨rules, generator⟩ ≠ none →
      (∃ texts after, ValuesExpand table limit depth values ⟨rules, generator⟩ texts after) ∨
        ∃ error after, ValueFails table limit depth values ⟨rules, generator⟩ error after) := by
  refine ⟨?_, fun error after fails => fails.run_perform, exists_of_run_perform⟩
  intro texts after expanded
  refine ⟨?_, ?_, fun operator text => Rule.ofLiteral_mem_edited, ?_⟩
  · intro inhabited
    have operators := operators_valueTexts expanded.run_valueTexts
    obtain ⟨bound, accepted, binds⟩ :=
      bind_bindsOnly opened named inhabited (weighted_edited reachable operators)
    refine ⟨bound, ?_, binds⟩
    rw [expanded.run_perform, accepted]
  · intro empty
    rw [expanded.run_perform, empty, bind_nothing named]
  · exact fun texts' others removed => Rule.edited_congr others removed

theorem valuesExpand_literal {operator : ValueOperator} {text : String}
    {rest : List ActionValue} {texts : List (ValueOperator × String)}
    (others : ValuesExpand table limit depth rest state texts after) :
    ValuesExpand table limit depth (.value operator (Template.ofLiteral text) :: rest) state
      ((operator, text) :: texts) after := by
  refine .cons ?_ others
  have evaluates := (refines table limit).2.1 (Template.ofLiteral text) (depth + 1) state.rules
  rw [run_of_evaluates evaluates, Environment.sequenceText_ofLiteral]
  rfl

theorem valueFails_tooDeep {operator : ValueOperator} {symbol : String}
    {rest : List ActionValue} (deep : limit ≤ depth + 1) :
    ValueFails table limit depth (.value operator [.reference [] symbol none []] :: rest) state
      (.maxDepthExceeded symbol limit) state := by
  refine .here ?_
  have failed : (Environment.sequenceText table limit state.rules.visible?
      [.reference [] symbol none []] (depth + 1)).run state.generator =
        some (.error (.maxDepthExceeded symbol limit), state.generator) := by
    rw [Environment.sequenceText, Environment.referenceText, Environment.extended, pure_bind,
      Environment.symbolText, if_pos (Nat.lt_succ_of_le deep)]
    rfl
  rw [run_of_evaluates ((refines table limit).2.1 [.reference [] symbol none []] (depth + 1)
    state.rules), failed]
  rfl

/-- Removing x and adding it and z, of the productions x, twice as likely, and y: y is left, and x
and z come after it, no likelier. Removing both leaves nothing to bind, and neither does a value
that fails. -/
theorem removed_text_is_added_again :
    ∃ rules bound : ScopedRules,
      rules.visible? "a" = some ⟨[⟨"x", 2, [.literal "x"]⟩, .ofLiteral "y"]⟩ ∧
      (perform .empty 0 [.bind false "a" [.value .remove (Template.ofLiteral "x"),
          .value .add (Template.ofLiteral "x"), .value .set (Template.ofLiteral "z")]] 0).run
        ⟨rules, .listed []⟩ = some (.ok (), ⟨bound, .listed []⟩) ∧
      bound.visible? "a" = some ⟨[.ofLiteral "y", .ofLiteral "x", .ofLiteral "z"]⟩ ∧
      (perform .empty 0 [.bind false "a" [.value .remove (Template.ofLiteral "x"),
          .value .remove (Template.ofLiteral "y")]] 0).run ⟨rules, .listed []⟩ =
        some (.error (.invalidRule "a" .noProductions), ⟨rules, .listed []⟩) ∧
      (perform .empty 0 [.bind true "a" [.value .add [.reference [] "a" none []]]] 0).run
        ⟨rules, .listed []⟩ = some (.error (.maxDepthExceeded "a" 0), ⟨rules, .listed []⟩) := by
  obtain ⟨defined, accepted, visible⟩ : ∃ defined, ScopedRules.empty.define "a"
      [⟨"x", 2, [.literal "x"]⟩, .ofLiteral "y"] = .ok defined ∧
      defined.visible? "a" = some ⟨[⟨"x", 2, [.literal "x"]⟩, .ofLiteral "y"]⟩ :=
    ⟨_, rfl, rfl⟩
  have reachable : defined.openScope.Reachable fun _ => True :=
    .openScope (.define .empty (fun _ _ => trivial) accepted)
  have opened : defined.openScope.scopes ≠ [] := List.cons_ne_nil _ _
  have named : "a" ≠ "" := by decide
  have binds := action_binds_edited_rule reachable opened named .empty 0 0
  obtain ⟨first, -⟩ := (binds false [.value .remove (Template.ofLiteral "x"),
    .value .add (Template.ofLiteral "x"), .value .set (Template.ofLiteral "z")] (.listed [])).1 _ _
      (valuesExpand_literal (valuesExpand_literal (valuesExpand_literal .nil)))
  obtain ⟨-, second, -⟩ := (binds false [.value .remove (Template.ofLiteral "x"),
    .value .remove (Template.ofLiteral "y")] (.listed [])).1 _ _
      (valuesExpand_literal (valuesExpand_literal .nil))
  have third := (binds true [.value .add [.reference [] "a" none []]] (.listed [])).2.1 _ _
    (valueFails_tooDeep (by decide))
  rw [ScopedRules.visible?_openScope, visible] at first second
  obtain ⟨bound, performed, only⟩ := first (List.cons_ne_nil _ _)
  exact ⟨defined.openScope, bound, visible, performed, only.visible, second rfl, third⟩

end Expansion

end StoryGrammar
