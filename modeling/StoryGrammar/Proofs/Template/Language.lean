import StoryGrammar.Template.Reader

set_option autoImplicit false

/-!
# The language of templates

Which texts spell which templates, as rules about whole texts.
-/

namespace StoryGrammar

/-! ## Nesting of actions -/

mutual

/-- How many actions stand inside each other at most. -/
def Node.nesting : Node → Nat
  | .literal _ => 0
  | .binding actions => Action.nestingAmong actions
  | .reference actions _ _ _ => Action.nestingAmong actions

def Node.nestingAmong : List Node → Nat
  | [] => 0
  | node :: nodes => max node.nesting (Node.nestingAmong nodes)

def Action.nestingAmong : List Action → Nat
  | [] => 0
  | .bind _ _ values :: actions =>
      max (ActionValue.nestingAmong values + 1) (Action.nestingAmong actions)

def ActionValue.nestingAmong : List ActionValue → Nat
  | [] => 0
  | .value _ template :: values =>
      max (Node.nestingAmong template) (ActionValue.nestingAmong values)

end

namespace Template

def nesting (template : Template) : Nat :=
  Node.nestingAmong template

/-! ## Names, filters and modifiers -/

/-- A run of characters without a meaning in references. -/
def IsName (name : String) : Prop :=
  name ≠ "" ∧ ∀ character ∈ name.toList, isReserved character = false

/-- Texts in which every closing brace comes after a backslash of its own. -/
inductive IsPattern : List Char → Prop where
  | nil : IsPattern []
  | character {character : Char} {rest : List Char} :
      character ≠ '}' → character ≠ '\\' → IsPattern rest → IsPattern (character :: rest)
  | escape {character : Char} {rest : List Char} :
      IsPattern rest → IsPattern ('\\' :: character :: rest)

inductive SpellsFilter : List Char → Option Filter → Prop where
  | absent : SpellsFilter [] none
  | present {pattern : String} {filter : Filter} :
      IsPattern pattern.toList → Filter.ofPattern? pattern = some filter →
      SpellsFilter ('{' :: pattern.toList ++ ['}']) (some filter)

/-- The characters of an argument, with their escapes and without. -/
inductive SpellsArgument : List Char → List Char → Prop where
  | nil : SpellsArgument [] []
  | character {character : Char} {text meant : List Char} :
      character ≠ '\\' → character ≠ ',' → character ≠ ')' → SpellsArgument text meant →
      SpellsArgument (character :: text) (character :: meant)
  | escape {character : Char} {text meant : List Char} :
      SpellsArgument text meant → SpellsArgument ('\\' :: character :: text) (character :: meant)

inductive SpellsArguments : List Char → List String → Prop where
  | last {text meant : List Char} :
      SpellsArgument text meant → SpellsArguments text [String.ofList (Text.trim meant)]
  | more {text meant rest : List Char} {arguments : List String} :
      SpellsArgument text meant → SpellsArguments rest arguments →
      SpellsArguments (text ++ ',' :: rest) (String.ofList (Text.trim meant) :: arguments)

inductive SpellsModifier : List Char → AppliedModifier → Prop where
  | plain {name : String} : IsName name → SpellsModifier name.toList ⟨name, []⟩
  /-- A single blank argument counts as none. -/
  | applied {name : String} {text : List Char} {arguments : List String} :
      IsName name → SpellsArguments text arguments →
      SpellsModifier (name.toList ++ '(' :: text ++ [')'])
        ⟨name, if arguments = [""] then [] else arguments⟩

inductive SpellsModifiers : List Char → List AppliedModifier → Prop where
  | nil : SpellsModifiers [] []
  | cons {text rest : List Char} {modifier : AppliedModifier} {modifiers : List AppliedModifier} :
      SpellsModifier text modifier → SpellsModifiers rest modifiers →
      SpellsModifiers ('.' :: text ++ rest) (modifier :: modifiers)

/-! ## Sequences, references and actions -/

/-- The template with one more character in front. -/
def prepend (character : Char) : Template → Template
  | .literal text :: rest => .literal (String.singleton character ++ text) :: rest
  | template => .literal (String.singleton character) :: template

@[simp]
theorem nestingAmong_prepend (character : Char) (template : Template) :
    Node.nestingAmong (prepend character template) = Node.nestingAmong template := by
  cases template with
  | nil => simp [prepend, Node.nestingAmong, Node.nesting]
  | cons node rest =>
      cases node <;> simp [prepend, Node.nestingAmong, Node.nesting]

def IsPlain (inValue : Bool) (character : Char) : Prop :=
  character ≠ '\\' ∧ character ≠ '#' ∧ (inValue = true → character ≠ ',' ∧ character ≠ ']')

mutual

inductive SpellsSequence : (inValue : Bool) → List Char → Template → Prop where
  | nil {inValue : Bool} : SpellsSequence inValue [] []
  | character {inValue : Bool} {character : Char} {text : List Char} {template : Template} :
      IsPlain inValue character → SpellsSequence inValue text template →
      SpellsSequence inValue (character :: text) (prepend character template)
  | escape {inValue : Bool} {character : Char} {text : List Char} {template : Template} :
      SpellsSequence inValue text template →
      SpellsSequence inValue ('\\' :: character :: text) (prepend character template)
  | reference {inValue : Bool} {text rest : List Char} {node : Node} {template : Template} :
      SpellsReference text node → SpellsSequence inValue rest template →
      SpellsSequence inValue (text ++ rest) (node :: template)

inductive SpellsReference : List Char → Node → Prop where
  | binding {text : List Char} {actions : List Action} :
      SpellsActions text actions → actions ≠ [] →
      SpellsReference ('#' :: text ++ ['#']) (.binding actions)
  | reference {actionsText filterText modifiersText : List Char} {actions : List Action}
      {symbol : String} {filter : Option Filter} {modifiers : List AppliedModifier} :
      SpellsActions actionsText actions → IsName symbol → SpellsFilter filterText filter →
      SpellsModifiers modifiersText modifiers →
      SpellsReference ('#' :: actionsText ++ symbol.toList ++ filterText ++ modifiersText ++ ['#'])
        (.reference actions symbol filter modifiers)

inductive SpellsActions : List Char → List Action → Prop where
  | nil : SpellsActions [] []
  | cons {text rest : List Char} {action : Action} {actions : List Action} :
      SpellsAction text action → SpellsActions rest actions →
      SpellsActions (text ++ rest) (action :: actions)

inductive SpellsAction : List Char → Action → Prop where
  | plain {key : String} {text : List Char} {values : List ActionValue} :
      IsName key → key.toList.head? ≠ some '!' → SpellsValues text values →
      SpellsAction ('[' :: key.toList ++ ':' :: text ++ [']']) (.bind false key values)
  | reset {key : String} {text : List Char} {values : List ActionValue} :
      IsName key → SpellsValues text values →
      SpellsAction ('[' :: '!' :: key.toList ++ ':' :: text ++ [']']) (.bind true key values)

inductive SpellsValues : List Char → List ActionValue → Prop where
  | last {text : List Char} {value : ActionValue} :
      SpellsValue text value → SpellsValues text [value]
  | more {text rest : List Char} {value : ActionValue} {values : List ActionValue} :
      SpellsValue text value → SpellsValues rest values →
      SpellsValues (text ++ ',' :: rest) (value :: values)

inductive SpellsValue : List Char → ActionValue → Prop where
  | set {text : List Char} {template : Template} :
      SpellsSequence true text template → text.head? ≠ some '+' → text.head? ≠ some '-' →
      SpellsValue text (.value .set template)
  | add {text : List Char} {template : Template} :
      SpellsSequence true text template → SpellsValue ('+' :: text) (.value .add template)
  | remove {text : List Char} {template : Template} :
      SpellsSequence true text template → SpellsValue ('-' :: text) (.value .remove template)

end

/-! ## Signs before keys and values -/

def mark : (reset : Bool) → List Char
  | true => ['!']
  | false => []

def sign : ValueOperator → List Char
  | .set => []
  | .add => ['+']
  | .remove => ['-']

theorem SpellsAction.marked {reset : Bool} {key : String} {text : List Char}
    {values : List ActionValue} (named : IsName key)
    (unmarked : reset = false → key.toList.head? ≠ some '!') (spelled : SpellsValues text values) :
    SpellsAction ('[' :: mark reset ++ key.toList ++ ':' :: text ++ [']'])
      (.bind reset key values) := by
  cases reset with
  | true => exact .reset named spelled
  | false => exact .plain named (unmarked rfl) spelled

theorem SpellsValue.signed {operator : ValueOperator} {text : List Char} {template : Template}
    (spelled : SpellsSequence true text template)
    (unsigned : operator = .set → text.head? ≠ some '+' ∧ text.head? ≠ some '-') :
    SpellsValue (sign operator ++ text) (.value operator template) := by
  cases operator with
  | set => exact .set spelled (unsigned rfl).1 (unsigned rfl).2
  | add => exact .add spelled
  | remove => exact .remove spelled

/-! ## Literals that are as long as they can be -/

def StartsWithLiteral : Template → Prop
  | .literal _ :: _ => True
  | _ => False

/-- No literal is empty, and none follows another. -/
def Merged : Template → Prop
  | [] => True
  | .literal text :: rest => text ≠ "" ∧ ¬ StartsWithLiteral rest ∧ Merged rest
  | .binding _ :: rest => Merged rest
  | .reference _ _ _ _ :: rest => Merged rest

theorem Merged.prepend {template : Template} (merged : Merged template) (character : Char) :
    Merged (prepend character template) := by
  have inhabited : ∀ text, String.singleton character ++ text ≠ "" := by
    intro text empty
    simpa using congrArg String.toList empty
  have single : String.singleton character ≠ "" := by simp
  cases template with
  | nil => exact ⟨single, id, trivial⟩
  | cons node rest =>
      cases node with
      | literal text => exact ⟨inhabited text, merged.2⟩
      | binding actions => exact ⟨single, id, merged⟩
      | reference actions symbol filter modifiers => exact ⟨single, id, merged⟩

theorem SpellsSequence.merged {inValue : Bool} {text : List Char} {template : Template} :
    SpellsSequence inValue text template → Merged template
  | .nil => trivial
  | .character _ following => following.merged.prepend _
  | .escape following => following.merged.prepend _
  | .reference spelled following => by
      cases spelled
      · exact following.merged
      · exact following.merged

/-! ## Texts that spell templates -/

/-- Whether a text spells a template. -/
def Derives (text : String) (template : Template) : Prop :=
  SpellsSequence false text.toList template ∧ template.nesting ≤ nestingLimit

end Template

end StoryGrammar
