import StoryGrammar.Pattern.Matcher
import StoryGrammar.Pattern.Reader

set_option autoImplicit false

/-!
# Templates

A template is a sequence of nodes: literal text, references to symbols, and bindings. References
and bindings carry actions, which bind keys to productions made from values, and values are
templates again.
-/

namespace StoryGrammar

/-- The text of the pattern that a filter stands for: its own, between an assertion for the start of
a text and one for its end. A pattern that closes a group it did not open is read together with
them. -/
def Filter.anchored (pattern : String) : String :=
  "^(?:" ++ pattern ++ ")$"

/-- A pattern that restricts which productions a reference may select. `whole` is what its anchored
text spells. -/
structure Filter where
  pattern : String
  whole : Pattern
  spelled : Pattern.parse? (Filter.anchored pattern) = some whole

namespace Filter

theorem eq_iff {left right : Filter} : left = right ↔ left.pattern = right.pattern := by
  refine ⟨fun same => same ▸ rfl, fun same => ?_⟩
  obtain ⟨pattern, whole, spelled⟩ := left
  obtain ⟨pattern', whole', spelled'⟩ := right
  cases same
  cases Option.some.inj (spelled.symm.trans spelled')
  rfl

instance : DecidableEq Filter := fun left right =>
  decidable_of_iff (left.pattern = right.pattern) eq_iff.symm

def ofPattern? (pattern : String) : Option Filter :=
  match spelled : Pattern.parse? (anchored pattern) with
  | some whole => some ⟨pattern, whole, spelled⟩
  | none => none

theorem ofPattern?_eq_some_iff {pattern : String} {filter : Filter} :
    ofPattern? pattern = some filter ↔ filter.pattern = pattern := by
  constructor
  · intro made
    unfold ofPattern? at made
    split at made
    · exact Option.some.inj made ▸ rfl
    · simp at made
  · rintro rfl
    unfold ofPattern?
    split
    · exact congrArg some (eq_iff.2 rfl)
    · rename_i missing
      simp [filter.spelled] at missing

def accepts (filter : Filter) (text : String) : Bool :=
  filter.whole.occursIn text

end Filter

structure AppliedModifier where
  name : String
  arguments : List String
  deriving DecidableEq, Repr

/-- How an action value combines with the rule that is visible for its key. -/
inductive ValueOperator where
  /-- The values of the action replace the rule. -/
  | set
  /-- The value is kept beside the productions of the rule. -/
  | add
  /-- The productions of the rule with this text are dropped. -/
  | remove
  deriving DecidableEq, Repr

mutual

inductive Node where
  | literal (text : String)
  /-- Actions that hold for the rest of the sequence the node stands in. -/
  | binding (actions : List Action)
  /-- A symbol to expand while the actions hold, the filter its production has to pass, and the
  modifiers to apply to the result. -/
  | reference (actions : List Action) (symbol : String) (filter : Option Filter)
      (modifiers : List AppliedModifier)

/-- The binding of a key to values. A reset disregards the rule that is visible for the key. -/
inductive Action where
  | bind (reset : Bool) (key : String) (values : List ActionValue)

inductive ActionValue where
  | value (operator : ValueOperator) (template : List Node)

end

abbrev Template := List Node

namespace ActionValue

def operator : ActionValue → ValueOperator
  | .value operator _ => operator

def template : ActionValue → Template
  | .value _ template => template

end ActionValue

namespace Action

def key : Action → String
  | .bind _ key _ => key

def reset : Action → Bool
  | .bind reset _ _ => reset

def values : Action → List ActionValue
  | .bind _ _ values => values

def edits (action : Action) : Bool :=
  action.values.any fun value => value.operator != .set

end Action

namespace Template

def ofLiteral (text : String) : Template :=
  if text.isEmpty then [] else [.literal text]

end Template

end StoryGrammar
