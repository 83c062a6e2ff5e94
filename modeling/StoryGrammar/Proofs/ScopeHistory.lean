import StoryGrammar.Proofs.HeldRules

set_option autoImplicit false

/-!
# Scopes over a run

What base rules and scopes hold after any accesses, failing ones among them, is told by the history
alone. Each scope holds what was bound in it since it was opened, and once it is closed the scopes
around it are what they were before.
-/

namespace StoryGrammar

namespace ScopedRules

/-! ## Accesses -/

inductive Access where
  | define (symbol : String) (productions : List Production)
  | bind (symbol : String) (productions : List Production)
  | openScope
  | closeScope
  | closeScopesTo (count : Nat)
  | look (symbol : String)

inductive Answer where
  | done
  | refused (error : GrammarError)
  | closed (any : Bool)
  | seen (rule : Option Rule)

/-- A definition or binding that fails leaves the rules as they are. -/
def attempted (rules : ScopedRules) : Except GrammarError ScopedRules → Answer × ScopedRules
  | .ok after => (.done, after)
  | .error error => (.refused error, rules)

def perform (rules : ScopedRules) : Access → Answer × ScopedRules
  | .define symbol productions => rules.attempted (rules.define symbol productions)
  | .bind symbol productions => rules.attempted (rules.bind symbol productions)
  | .openScope => (.done, rules.openScope)
  | .closeScope => (.closed (!rules.scopes.isEmpty), rules.closeScope)
  | .closeScopesTo count => (.done, rules.closeScopesTo count)
  | .look symbol => (.seen (rules.visible? symbol), rules)

/-- A run of accesses. Its history lists them with their answers, the latest first. -/
inductive Run (start : ScopedRules) : List (Access × Answer) → ScopedRules → Prop where
  | start : Run start [] start
  | step {before after : ScopedRules} {access : Access} {answer : Answer}
      {history : List (Access × Answer)} :
      Run start history before → before.perform access = (answer, after) →
      Run start ((access, answer) :: history) after

/-! ## What a history tells -/

namespace Access

/-- The number of scopes after an access, where there were `count` before. -/
def countAfter (count : Nat) : Access → Nat
  | .openScope => count + 1
  | .closeScope => count - 1
  | .closeScopesTo limit => min count limit
  | .define _ _ | .bind _ _ | .look _ => count

def closes : Access → Bool
  | .closeScope | .closeScopesTo _ => true
  | _ => false

end Access

def countAfter (count : Nat) : List (Access × Answer) → Nat
  | [] => count
  | (access, _) :: earlier => access.countAfter (countAfter count earlier)

def definition? : Access × Answer → Option (String × Rule)
  | (.define symbol productions, .done) => some (symbol, ⟨productions⟩)
  | _ => none

/-- The rule that a successful binding of the symbol gives it. -/
def binding? (symbol : String) : Access × Answer → Option Rule
  | (.bind named productions, .done) => if symbol = named then some ⟨productions⟩ else none
  | _ => none

/-- The successful definitions of base rules, the latest first. -/
def definitions (history : List (Access × Answer)) : List (String × Rule) :=
  history.filterMap definition?

theorem definitions_append (later earlier : List (Access × Answer)) :
    definitions (later ++ earlier) = definitions later ++ definitions earlier :=
  List.filterMap_append

/-- The rule of a symbol in the scope at a place, counted from the outermost. -/
def ruleAt (rules : ScopedRules) (symbol : String) (place : Nat) : Option Rule :=
  rules.scopes.reverse[place]?.bind (·.find? symbol)

/-- The rule that the latest successful binding of a symbol in the scope at a place gave it, else the
one it had there at the start. Going back in the history, bindings are made in that scope as long as
it is there and none is inside it. -/
def latestBinding (start : ScopedRules) (symbol : String) (place : Nat) :
    List (Access × Answer) → Option Rule
  | [] => start.ruleAt symbol place
  | entry :: earlier =>
      if countAfter start.scopeCount (entry :: earlier) ≤ place then none
      else if countAfter start.scopeCount earlier = place + 1 then
        (binding? symbol entry).or (latestBinding start symbol place earlier)
      else latestBinding start symbol place earlier

/-- The first rule among those at the places below a number, from the highest place down. -/
def innermost (rule : Nat → Option Rule) : Nat → Option Rule
  | 0 => none
  | place + 1 => (rule place).or (innermost rule place)

/-! ## One access -/

/-- What an access does. -/
inductive Step (rules : ScopedRules) : Access → Answer → ScopedRules → Prop where
  | defined {symbol : String} {productions : List Production} :
      Definable symbol productions →
      Step rules (.define symbol productions) .done
        { rules with base := rules.base.insert symbol ⟨productions⟩ }
  | bound {symbol : String} {productions : List Production} {scope : Table Rule}
      {outer : List (Table Rule)} :
      ruleOf symbol productions = .ok ⟨productions⟩ → rules.scopes = scope :: outer →
      Step rules (.bind symbol productions) .done
        { rules with scopes := scope.insert symbol ⟨productions⟩ :: outer }
  | refused {access : Access} {error : GrammarError} :
      access.countAfter rules.scopeCount = rules.scopeCount →
      Step rules access (.refused error) rules
  | opened : Step rules .openScope .done rules.openScope
  | closed {access : Access} {answer : Answer} :
      access.closes = true → (∀ error, answer ≠ .refused error) →
      Step rules access answer (rules.closeScopesTo (access.countAfter rules.scopeCount))
  | looked {symbol : String} : Step rules (.look symbol) (.seen (rules.visible? symbol)) rules

theorem closeScope_eq (rules : ScopedRules) :
    rules.closeScope = rules.closeScopesTo (rules.scopeCount - 1) := by
  cases scopes : rules.scopes with
  | nil => simp [closeScope, closeScopesTo, scopes]
  | cons scope outer => simp [closeScope, closeScopesTo, scopeCount, scopes]

theorem closeScopesTo_min (rules : ScopedRules) (count : Nat) :
    rules.closeScopesTo (min rules.scopeCount count) = rules.closeScopesTo count := by
  have same : rules.scopeCount - min rules.scopeCount count = rules.scopeCount - count := by omega
  unfold scopeCount at same
  simp only [closeScopesTo, scopeCount, same]

@[simp]
theorem scopeCount_closeScopesTo (rules : ScopedRules) (count : Nat) :
    (rules.closeScopesTo count).scopeCount = min rules.scopeCount count := by
  simp only [closeScopesTo, scopeCount, List.length_drop]
  omega

@[simp]
theorem closeScopesTo_scopeCount (rules : ScopedRules) :
    rules.closeScopesTo rules.scopeCount = rules := by
  simp [closeScopesTo, scopeCount]

theorem closeScopesTo_openScope (rules : ScopedRules) :
    rules.openScope.closeScopesTo rules.scopeCount = rules :=
  (closeScope_eq rules.openScope).symm.trans rules.closeScope_openScope

theorem perform_step {rules after : ScopedRules} {access : Access} {answer : Answer}
    (performed : rules.perform access = (answer, after)) : rules.Step access answer after := by
  cases access with
  | define symbol productions =>
      rw [perform] at performed
      cases outcome : rules.define symbol productions with
      | error error =>
          rw [outcome] at performed
          cases performed
          exact .refused rfl
      | ok defined =>
          rw [outcome] at performed
          cases performed
          obtain ⟨definable, rfl⟩ := define_eq_ok_iff.mp outcome
          exact .defined definable
  | bind symbol productions =>
      rw [perform] at performed
      cases outcome : rules.bind symbol productions with
      | error error =>
          rw [outcome] at performed
          cases performed
          exact .refused rfl
      | ok bound =>
          rw [outcome] at performed
          cases performed
          obtain ⟨made, scope, outer, scopes, rfl⟩ := bind_eq_ok outcome
          exact .bound made scopes
  | openScope =>
      cases performed
      exact .opened
  | closeScope =>
      cases performed
      rw [closeScope_eq]
      exact .closed rfl nofun
  | closeScopesTo count =>
      cases performed
      rw [← closeScopesTo_min]
      exact .closed rfl nofun
  | look symbol =>
      cases performed
      exact .looked

section Step

variable {rules after : ScopedRules} {access : Access} {answer : Answer}

theorem Step.scopeCount_eq (step : rules.Step access answer after) :
    after.scopeCount = access.countAfter rules.scopeCount := by
  cases step with
  | defined => rfl
  | bound _ scopes => simp [scopeCount, scopes, Access.countAfter]
  | refused same => exact same.symm
  | opened => rfl
  | closed closes =>
      cases access with
      | closeScope | closeScopesTo => simp [Access.countAfter]
      | _ => cases closes
  | looked => rfl

theorem Step.base_eq (step : rules.Step access answer after) :
    after.base = rules.base.insertAll (definitions [(access, answer)]).reverse := by
  cases step with
  | closed closes =>
      cases access with
      | closeScope | closeScopesTo => rfl
      | _ => cases closes
  | refused => cases access <;> rfl
  | defined | bound | opened | looked => rfl

theorem Step.base_eq_of_fewer (step : rules.Step access answer after)
    (fewer : after.scopeCount < rules.scopeCount) : after.base = rules.base := by
  cases step with
  | defined => exact absurd fewer (Nat.lt_irrefl _)
  | bound | refused | opened | closed | looked => rfl

/-- An access that starts and ends inside scopes, or just closes the innermost of those inside,
leaves the outer ones alone. -/
theorem Step.outerScopes (step : rules.Step access answer after) {count : Nat}
    (inside : count < rules.scopeCount) (remaining : count ≤ after.scopeCount) :
    (after.closeScopesTo count).scopes = (rules.closeScopesTo count).scopes := by
  cases step with
  | defined | refused | looked => rfl
  | @bound symbol productions scope outer _ scopes =>
      have fits : count ≤ outer.length := by
        simp only [scopeCount, scopes, List.length_cons] at inside
        omega
      simp only [closeScopesTo, scopes, List.length_cons, Nat.sub_add_comm fits, List.drop_succ_cons]
  | opened =>
      have fits : count ≤ rules.scopes.length := Nat.le_of_lt inside
      simp only [closeScopesTo, openScope, List.length_cons, Nat.sub_add_comm fits,
        List.drop_succ_cons]
  | closed closes =>
      rw [scopeCount_closeScopesTo] at remaining
      simp only [closeScopesTo, List.length_drop, List.drop_drop]
      unfold scopeCount at *
      congr 1
      omega

end Step

/-! ## The rules at a place -/

section ruleAt

variable {symbol : String} {place : Nat}

theorem ruleAt_eq_none {rules : ScopedRules} (beyond : rules.scopeCount ≤ place) :
    rules.ruleAt symbol place = none := by
  have beyond : rules.scopes.reverse.length ≤ place := by rwa [List.length_reverse]
  rw [ruleAt, List.getElem?_eq_none beyond]
  rfl

theorem ruleAt_cons (base : Table Rule) (scope : Table Rule) (outer : List (Table Rule)) :
    ruleAt ⟨base, scope :: outer⟩ symbol place =
      if place = outer.length then scope.find? symbol else ruleAt ⟨base, outer⟩ symbol place := by
  simp only [ruleAt, List.reverse_cons]
  split
  · rename_i innermost
    rw [innermost, List.getElem?_append_right (by simp)]
    simp
  · rename_i different
    rcases Nat.lt_or_ge place outer.length with outside | beyond
    · rw [List.getElem?_append_left (by simpa using outside)]
    · rw [List.getElem?_eq_none (by simp; omega), List.getElem?_eq_none (by simpa using beyond)]

theorem ruleAt_openScope (rules : ScopedRules) :
    rules.openScope.ruleAt symbol place = rules.ruleAt symbol place := by
  change ruleAt ⟨rules.base, Table.empty :: rules.scopes⟩ symbol place = _
  rw [ruleAt_cons]
  split
  · rename_i innermost
    exact (ruleAt_eq_none (Nat.le_of_eq innermost.symm)).symm
  · rfl

theorem ruleAt_closeScopesTo (rules : ScopedRules) {count : Nat} (outside : place < count) :
    (rules.closeScopesTo count).ruleAt symbol place = rules.ruleAt symbol place := by
  simp only [ruleAt, closeScopesTo, List.reverse_drop]
  rcases Nat.lt_or_ge place rules.scopes.length with there | beyond
  · rw [List.getElem?_take_of_lt (by omega)]
  · have none : rules.scopes.reverse[place]? = none :=
      List.getElem?_eq_none (by rwa [List.length_reverse])
    rw [none, List.getElem?_eq_none (by simp; omega)]

theorem Step.ruleAt_eq {rules after : ScopedRules} {access : Access} {answer : Answer}
    (step : rules.Step access answer after) (symbol : String) (place : Nat) :
    after.ruleAt symbol place =
      if after.scopeCount ≤ place then none
      else if rules.scopeCount = place + 1 then
        (binding? symbol (access, answer)).or (rules.ruleAt symbol place)
      else rules.ruleAt symbol place := by
  split
  · exact ruleAt_eq_none ‹_›
  · rename_i within
    cases step with
    | defined | looked => exact (ite_self _).symm
    | refused => cases access <;> exact (ite_self _).symm
    | @bound named productions scope outer _ scopes =>
        obtain ⟨base, _⟩ := rules
        cases scopes
        simp only [ruleAt_cons, scopeCount, List.length_cons, Nat.add_right_cancel_iff,
          eq_comm (a := outer.length)]
        split
        · rw [Table.find?_insert, binding?]
          split <;> rfl
        · rfl
    | opened =>
        rw [ruleAt_openScope]
        exact (ite_self _).symm
    | closed closes =>
        rw [scopeCount_closeScopesTo] at within
        rw [ruleAt_closeScopesTo _ (by omega)]
        cases access with
        | closeScope | closeScopesTo => exact (ite_self _).symm
        | _ => cases closes

end ruleAt

theorem innermost_congr {first second : Nat → Option Rule} {count : Nat}
    (alike : ∀ place < count, first place = second place) :
    innermost first count = innermost second count := by
  induction count with
  | zero => rfl
  | succ count ih =>
      rw [innermost, innermost, alike count (Nat.lt_succ_self count),
        ih fun place below => alike place (Nat.lt_succ_of_lt below)]

/-- Looking a symbol up is going through the places from the innermost scope outwards. -/
theorem visible?_eq_innermost (rules : ScopedRules) (symbol : String) :
    rules.visible? symbol =
      (innermost (rules.ruleAt symbol) rules.scopeCount).or (rules.base.find? symbol) := by
  rw [visible?]
  congr 1
  obtain ⟨base, scopes⟩ := rules
  change scopes.findSome? (·.find? symbol) = innermost (ruleAt ⟨base, scopes⟩ symbol) scopes.length
  induction scopes with
  | nil => rfl
  | cons scope outer ih =>
      have outside : ∀ place < outer.length,
          ruleAt ⟨base, scope :: outer⟩ symbol place = ruleAt ⟨base, outer⟩ symbol place := by
        intro place below
        rw [ruleAt_cons, if_neg (Nat.ne_of_lt below)]
      rw [List.findSome?_cons, List.length_cons, innermost, innermost_congr outside, ← ih,
        ruleAt_cons, if_pos rfl]
      cases scope.find? symbol <;> rfl

/-! ## Runs -/

section Run

variable {start after : ScopedRules} {history : List (Access × Answer)}

theorem Run.scopeCount_eq (run : Run start history after) :
    after.scopeCount = countAfter start.scopeCount history := by
  induction run with
  | start => rfl
  | step _ performed ih => rw [(perform_step performed).scopeCount_eq, ih, countAfter]

theorem Run.base_eq (run : Run start history after) :
    after.base = start.base.insertAll (definitions history).reverse := by
  induction run with
  | start => rfl
  | @step before after access answer history _ performed ih =>
      have split : definitions ((access, answer) :: history) =
          definitions [(access, answer)] ++ definitions history :=
        definitions_append [(access, answer)] history
      rw [(perform_step performed).base_eq, ih, split, List.reverse_append, Table.insertAll,
        Table.insertAll, Table.insertAll, List.foldl_append]

theorem Run.ruleAt_eq (run : Run start history after) (symbol : String) (place : Nat) :
    after.ruleAt symbol place = latestBinding start symbol place history := by
  induction run with
  | start => rfl
  | step run performed ih =>
      rw [(perform_step performed).ruleAt_eq, latestBinding, ih, run.scopeCount_eq,
        (run.step performed).scopeCount_eq]

theorem Run.outerScopes (run : Run start history after) {count : Nat}
    (inside : ∀ earlier middle, earlier <:+ history → Run start earlier middle →
      count < middle.scopeCount) :
    (after.closeScopesTo count).scopes = (start.closeScopesTo count).scopes := by
  induction run with
  | start => rfl
  | step run performed ih =>
      have within := inside _ _ (List.suffix_cons _ _) run
      have remaining := inside _ _ List.suffix_rfl (run.step performed)
      rw [(perform_step performed).outerScopes within (Nat.le_of_lt remaining)]
      exact ih fun earlier middle part => inside earlier middle (part.trans (List.suffix_cons _ _))

end Run

/-- A history tells the rules that are held after it. When a scope is closed again, the scopes are
those from before it was opened, and the base rules are those that definitions since then leave.
The visible rule of a symbol is the one that was bound last in the innermost scope that has one,
else the one that was defined last, else what base rule there was at the start. Definitions and
bindings that fail change nothing, nor does closing a scope where there is none. -/
theorem rules_follow_history :
    (∀ (start : ScopedRules) history before access answer after,
      Run start.openScope history before →
      (∀ earlier middle, earlier <:+ history → Run start.openScope earlier middle →
        start.scopeCount < middle.scopeCount) →
      before.perform access = (answer, after) → after.scopeCount = start.scopeCount →
      after = { start with base := start.base.insertAll (definitions history).reverse }) ∧
    (∀ start history after, Run start history after →
      after.scopeCount = countAfter start.scopeCount history ∧
      ∀ symbol, after.visible? symbol =
        (innermost (latestBinding start symbol · history) after.scopeCount).or
          (((definitions history).lookup symbol).or (start.base.find? symbol))) ∧
    (∀ rules access error after, perform rules access = (.refused error, after) →
      after = rules) ∧
    ∀ rules : ScopedRules, rules.scopeCount = 0 →
      rules.perform .closeScope = (.closed false, rules) := by
  refine ⟨?_, ?_, ?_, ?_⟩
  · intro start history before access answer after run inside performed back
    have step := perform_step performed
    have within : start.scopeCount < before.scopeCount := inside history before List.suffix_rfl run
    have base : after.base = start.base.insertAll (definitions history).reverse := by
      rw [step.base_eq_of_fewer (back ▸ within), run.base_eq]
      rfl
    have scopes : after.scopes = start.scopes := calc
      after.scopes = (after.closeScopesTo start.scopeCount).scopes := by
        rw [← back, closeScopesTo_scopeCount]
      _ = (before.closeScopesTo start.scopeCount).scopes :=
        step.outerScopes within (Nat.le_of_eq back.symm)
      _ = (start.openScope.closeScopesTo start.scopeCount).scopes := run.outerScopes inside
      _ = start.scopes := by rw [closeScopesTo_openScope]
    rw [← base, ← scopes]
  · intro start history after run
    refine ⟨run.scopeCount_eq, fun symbol => ?_⟩
    have places : (latestBinding start symbol · history) = after.ruleAt symbol :=
      funext fun place => (run.ruleAt_eq symbol place).symm
    rw [visible?_eq_innermost, places, run.base_eq, Table.find?_insertAll, List.reverse_reverse]
  · intro rules access error after performed
    cases perform_step performed with
    | refused => rfl
    | closed _ granted => exact absurd rfl (granted error)
  · rintro ⟨base, scopes⟩ none
    cases List.length_eq_zero_iff.mp none
    rfl

/-- What is bound in a scope is seen there and gone with it. What is defined meanwhile stays, also
when a later definition fails. -/
theorem binding_goes_with_scope :
    ∃ inside outside kept : ScopedRules,
      Run empty.openScope [(.define "place" [.ofLiteral "Oslo"], .done),
        (.bind "name" [.ofLiteral "Ada"], .done)] inside ∧
      inside.visible? "name" = some ⟨[.ofLiteral "Ada"]⟩ ∧
      inside.perform .closeScope = (.closed true, outside) ∧
      outside = { empty with base := empty.base.insertAll [("place", ⟨[.ofLiteral "Oslo"]⟩)] } ∧
      outside.perform (.define "place" []) =
        (.refused (.invalidRule "place" .noProductions), kept) ∧
      kept = outside ∧ outside.perform .closeScope = (.closed false, outside) := by
  obtain ⟨restored, visible, unchanged, unopened⟩ := rules_follow_history
  have run : Run empty.openScope
      [(.define "place" [.ofLiteral "Oslo"], .done), (.bind "name" [.ofLiteral "Ada"], .done)]
      ⟨empty.base.insert "place" ⟨[.ofLiteral "Oslo"]⟩,
        [Table.empty.insert "name" ⟨[.ofLiteral "Ada"]⟩]⟩ :=
    .step (.step .start rfl) rfl
  refine ⟨_, _, _, run, (visible _ _ _ run).2 "name", rfl,
    restored empty _ _ .closeScope (.closed true) _ run ?_ rfl rfl, rfl,
    unchanged _ (.define "place" []) (.invalidRule "place" .noProductions) _ rfl, unopened _ rfl⟩
  intro earlier middle part run
  rw [run.scopeCount_eq]
  rcases List.suffix_cons_iff.mp part with rfl | part
  · decide
  · rcases List.suffix_cons_iff.mp part with rfl | part
    · decide
    · rw [List.suffix_nil.mp part]
      decide

end ScopedRules

end StoryGrammar
