import StoryGrammar.Proofs.Template.Accepting

set_option autoImplicit false

/-!
# Every template that is read is spelled

A reading is explained by a text when the text splits, at the actions that are open and at the
construct under way, into pieces that the rules of the language admit. The empty text explains the
first reading, and one more character explains the next one.
-/

namespace StoryGrammar.Template

/-! ## Texts one after another -/

/-- One template after another, with literals that meet made one. -/
def join : Template → Template → Template
  | [], second => second
  | [.literal text], .literal more :: rest => .literal (text ++ more) :: rest
  | node :: first, second => node :: join first second

theorem join_prepend (character : Char) (first second : Template) :
    join (prepend character first) second = prepend character (join first second) := by
  cases first with
  | nil =>
      cases second with
      | nil => rfl
      | cons node rest =>
          cases node with
          | literal text => simp [prepend, join]
          | binding actions => rfl
          | reference actions symbol filter modifiers => rfl
  | cons node first =>
      cases node with
      | literal text =>
          cases first with
          | nil =>
              cases second with
              | nil => rfl
              | cons other rest =>
                  cases other with
                  | literal more => simp [prepend, join, String.append_assoc]
                  | binding actions => rfl
                  | reference actions symbol filter modifiers => rfl
          | cons following first => rfl
      | binding actions => rfl
      | reference actions symbol filter modifiers => rfl

theorem SpellsReference.join_cons {text : List Char} {node : Node}
    (spelled : SpellsReference text node) (first second : Template) :
    join (node :: first) second = node :: join first second := by
  cases spelled <;> rfl

theorem SpellsSequence.append {inValue : Bool} {text rest : List Char}
    {template following : Template} :
    SpellsSequence inValue text template → SpellsSequence inValue rest following →
      SpellsSequence inValue (text ++ rest) (join template following)
  | .nil, others => others
  | .character plain spelled, others => by
      rw [join_prepend]
      exact .character plain (spelled.append others)
  | .escape spelled, others => by
      rw [join_prepend]
      exact .escape (spelled.append others)
  | .reference first spelled, others => by
      rw [first.join_cons, List.append_assoc]
      exact .reference first (spelled.append others)

theorem absorb_join (sequence : OpenSequence) (first second : Template) :
    sequence.absorb (join first second) = (sequence.absorb first).absorb second := by
  fun_induction join first second generalizing sequence with
  | case1 second => rfl
  | case2 text more rest => simp [OpenSequence.absorb]
  | case3 node first second apart ih => cases node <;> simp [OpenSequence.absorb, ih]

theorem nestingAmong_join (first second : Template) :
    Node.nestingAmong (join first second) =
      max (Node.nestingAmong first) (Node.nestingAmong second) := by
  fun_induction join first second with
  | case1 second => simp [Node.nestingAmong]
  | case2 text more rest => simp [Node.nestingAmong, Node.nesting]
  | case3 node first second apart ih => simp only [Node.nestingAmong, ih, Nat.max_assoc]

theorem SpellsActions.append {text rest : List Char} {actions others : List Action} :
    SpellsActions text actions → SpellsActions rest others →
      SpellsActions (text ++ rest) (actions ++ others)
  | .nil, following => following
  | .cons first spelled, following => by
      rw [List.append_assoc]
      exact .cons first (spelled.append following)

theorem SpellsModifiers.append {text rest : List Char} {modifiers others : List AppliedModifier}
    (spelled : SpellsModifiers text modifiers) (following : SpellsModifiers rest others) :
    SpellsModifiers (text ++ rest) (modifiers ++ others) := by
  induction spelled with
  | nil => exact following
  | cons first _ ih =>
      simp only [List.cons_append, List.append_assoc]
      exact .cons first ih

theorem IsPattern.append {text rest : List Char} (pattern : IsPattern text)
    (following : IsPattern rest) : IsPattern (text ++ rest) := by
  induction pattern with
  | nil => exact following
  | character closing escape _ ih => exact .character closing escape ih
  | escape _ ih => exact .escape ih

theorem SpellsArgument.append {text rest meant more : List Char}
    (spelled : SpellsArgument text meant) (following : SpellsArgument rest more) :
    SpellsArgument (text ++ rest) (meant ++ more) := by
  induction spelled with
  | nil => exact following
  | character escape separator closing _ ih => exact .character escape separator closing ih
  | escape _ ih => exact .escape ih

theorem nestingAmong_actions_append (first second : List Action) :
    Action.nestingAmong (first ++ second) =
      max (Action.nestingAmong first) (Action.nestingAmong second) := by
  induction first with
  | nil => simp [Action.nestingAmong]
  | cons action rest ih =>
      cases action
      simp only [List.cons_append, Action.nestingAmong, ih, Nat.max_assoc]

theorem nestingAmong_values_append (first second : List ActionValue) :
    ActionValue.nestingAmong (first ++ second) =
      max (ActionValue.nestingAmong first) (ActionValue.nestingAmong second) := by
  induction first with
  | nil => simp [ActionValue.nestingAmong]
  | cons value rest ih =>
      cases value
      simp only [List.cons_append, ActionValue.nestingAmong, ih, Nat.max_assoc]

theorem nestingAmong_values_le {values : List ActionValue} {operator : ValueOperator}
    {template : Template} {count : Nat}
    (finished : ActionValue.nestingAmong values.reverse + count ≤ nestingLimit)
    (last : Node.nestingAmong template + count ≤ nestingLimit) :
    ActionValue.nestingAmong (.value operator template :: values).reverse + count ≤
      nestingLimit := by
  rw [List.reverse_cons, nestingAmong_values_append]
  simp only [ActionValue.nestingAmong]
  omega

/-! ## Constructs under way -/

/-- A text that has been read as a sequence with a number of actions around it. -/
def OpenSequence.Read (enclosing : List OpenAction) (text : List Char) (sequence : OpenSequence) :
    Prop :=
  ∃ template, SpellsSequence (!enclosing.isEmpty) text template ∧
    sequence = OpenSequence.start.absorb template ∧
    Node.nestingAmong template + enclosing.length ≤ nestingLimit

namespace OpenSequence.Read

variable {enclosing : List OpenAction} {text : List Char} {sequence : OpenSequence}

theorem start (shallow : enclosing.length ≤ nestingLimit) :
    OpenSequence.start.Read enclosing [] :=
  ⟨[], .nil, rfl, by simpa [Node.nestingAmong] using shallow⟩

theorem push (read : sequence.Read enclosing text) {character : Char}
    (plain : IsPlain (!enclosing.isEmpty) character) :
    (sequence.push character).Read enclosing (text ++ [character]) := by
  obtain ⟨template, spelled, rfl, shallow⟩ := read
  refine ⟨_, spelled.append (.character plain .nil), ?_, ?_⟩
  · rw [absorb_join, OpenSequence.absorb_prepend, OpenSequence.absorb]
  · rw [nestingAmong_join, nestingAmong_prepend]
    simpa [Node.nestingAmong] using shallow

theorem escape (read : sequence.Read enclosing text) (character : Char) :
    (sequence.push character).Read enclosing (text ++ ['\\'] ++ [character]) := by
  obtain ⟨template, spelled, rfl, shallow⟩ := read
  rw [List.append_assoc]
  refine ⟨_, spelled.append (.escape .nil), ?_, ?_⟩
  · rw [absorb_join, OpenSequence.absorb_prepend, OpenSequence.absorb]
  · rw [nestingAmong_join, nestingAmong_prepend]
    simpa [Node.nestingAmong] using shallow

theorem add (read : sequence.Read enclosing text) {rest : List Char} {node : Node}
    (spelled : SpellsReference rest node)
    (shallow : node.nesting + enclosing.length ≤ nestingLimit) :
    (sequence.add node).Read enclosing (text ++ rest) := by
  obtain ⟨template, before, rfl, shallowBefore⟩ := read
  have following : SpellsSequence (!enclosing.isEmpty) (rest ++ []) [node] :=
    .reference spelled .nil
  rw [List.append_nil] at following
  refine ⟨_, before.append following, ?_, ?_⟩
  · rw [absorb_join, OpenSequence.absorb_reference _ spelled, OpenSequence.absorb]
  · rw [nestingAmong_join]
    simp only [Node.nestingAmong]
    omega

end OpenSequence.Read

/-- Values that begin with this text are no edits. -/
def Unsigned (text : List Char) : Prop :=
  ∃ character rest, text = character :: rest ∧ character ≠ '+' ∧ character ≠ '-'

/-- A text within the value of an action begins so that it is not taken for an operator. -/
def Begun (enclosing : List OpenAction) (text : List Char) : Prop :=
  ∀ action ∈ enclosing.head?, action.operator = .set → Unsigned text

theorem Begun.append {enclosing : List OpenAction} {text : List Char} (begun : Begun enclosing text)
    (rest : List Char) : Begun enclosing (text ++ rest) := by
  intro action innermost plain
  obtain ⟨character, others, rfl, unadded, unremoved⟩ := begun action innermost plain
  exact ⟨character, others ++ rest, rfl, unadded, unremoved⟩

theorem Begun.of_character {enclosing : List OpenAction} {character : Char}
    (unadded : character ≠ '+') (unremoved : character ≠ '-') : Begun enclosing [character] :=
  fun _ _ _ => ⟨character, [], rfl, unadded, unremoved⟩

inductive SpellsSymbol : List Char → Option String → Prop where
  | absent : SpellsSymbol [] none
  | present {symbol : String} : IsName symbol → SpellsSymbol symbol.toList (some symbol)

/-- A text that has been read from the beginning of a sequence up to a place in a reference. -/
structure OpenReference.Read (enclosing : List OpenAction) (text : List Char)
    (reference : OpenReference) : Prop where
  begun : Begun enclosing text
  parts : ∃ before actions symbol filter modifiers,
    text = before ++ '#' :: (actions ++ symbol ++ filter ++ modifiers) ∧
      reference.outer.Read enclosing before ∧ SpellsActions actions reference.actions.reverse ∧
      SpellsSymbol symbol reference.symbol ∧ SpellsFilter filter reference.filter ∧
      SpellsModifiers modifiers reference.modifiers.reverse
  shallow : Action.nestingAmong reference.actions.reverse + enclosing.length ≤ nestingLimit

/-- Neither a filter nor a modifier has been read. -/
structure OpenReference.Unfiltered (reference : OpenReference) : Prop where
  filter : reference.filter = none
  modifiers : reference.modifiers = []

/-- Nothing but actions has been read. -/
structure OpenReference.Unnamed (reference : OpenReference) : Prop extends
    reference.Unfiltered where
  symbol : reference.symbol = none

theorem OpenReference.Unfiltered.absent {reference : OpenReference}
    (unfiltered : reference.Unfiltered) :
    SpellsFilter [] reference.filter ∧ SpellsModifiers [] reference.modifiers.reverse := by
  rw [unfiltered.filter, unfiltered.modifiers]
  exact ⟨.absent, .nil⟩

theorem OpenReference.Unnamed.absent {reference : OpenReference} (unnamed : reference.Unnamed) :
    SpellsSymbol [] reference.symbol := by
  rw [unnamed.symbol]
  exact .absent

namespace OpenReference.Read

variable {enclosing : List OpenAction} {text : List Char} {reference : OpenReference}

theorem start {sequence : OpenSequence} (read : sequence.Read enclosing text)
    (begun : Begun enclosing (text ++ ['#'])) (shallow : enclosing.length ≤ nestingLimit)
    (offset : Nat) :
    (OpenReference.start offset sequence).Read enclosing (text ++ ['#']) where
  begun := begun
  parts := ⟨text, [], [], [], [], rfl, read, .nil, .absent, .absent, .nil⟩
  shallow := by simpa [OpenReference.start, Action.nestingAmong] using shallow

theorem unfiltered_parts (read : reference.Read enclosing text)
    (unfiltered : reference.Unfiltered) :
    ∃ before actions symbol, text = before ++ '#' :: (actions ++ symbol) ∧
      reference.outer.Read enclosing before ∧ SpellsActions actions reference.actions.reverse ∧
      SpellsSymbol symbol reference.symbol := by
  obtain ⟨before, actions, symbol, filter, modifiers, rfl, outer, acting, naming, filtered,
    modified⟩ := read.parts
  rw [unfiltered.filter] at filtered
  rw [unfiltered.modifiers] at modified
  cases filtered
  cases modified
  exact ⟨before, actions, symbol, by simp, outer, acting, naming⟩

theorem unnamed_parts (read : reference.Read enclosing text) (unnamed : reference.Unnamed) :
    ∃ before actions, text = before ++ '#' :: actions ∧
      reference.outer.Read enclosing before ∧ SpellsActions actions reference.actions.reverse := by
  obtain ⟨before, actions, symbol, rfl, outer, acting, naming⟩ :=
    read.unfiltered_parts unnamed.toUnfiltered
  rw [unnamed.symbol] at naming
  cases naming
  exact ⟨before, actions, by simp, outer, acting⟩

theorem named {symbol : String} (read : reference.Read enclosing text)
    (unnamed : reference.Unnamed) (name : IsName symbol) :
    { reference with symbol := some symbol }.Read enclosing (text ++ symbol.toList) := by
  obtain ⟨before, actions, rfl, outer, acting⟩ := read.unnamed_parts unnamed
  obtain ⟨filtered, modified⟩ := unnamed.toUnfiltered.absent
  exact ⟨read.begun.append _, ⟨before, actions, symbol.toList, [], [], by simp, outer, acting,
    .present name, filtered, modified⟩, read.shallow⟩

theorem filtered {pattern : List Char} {filter : Filter} (read : reference.Read enclosing text)
    (unfiltered : reference.Unfiltered) (admitted : IsPattern pattern)
    (compiled : Filter.ofPattern? (String.ofList pattern) = some filter) :
    { reference with filter := some filter }.Read enclosing (text ++ '{' :: pattern ++ ['}']) := by
  obtain ⟨before, actions, symbol, rfl, outer, acting, naming⟩ := read.unfiltered_parts unfiltered
  obtain ⟨-, modified⟩ := unfiltered.absent
  have spelled : SpellsFilter ('{' :: (String.ofList pattern).toList ++ ['}']) (some filter) :=
    .present (by rwa [String.toList_ofList]) compiled
  rw [String.toList_ofList] at spelled
  rw [List.append_assoc]
  exact ⟨read.begun.append _, ⟨before, actions, symbol, '{' :: pattern ++ ['}'], [], by simp, outer,
    acting, naming, spelled, modified⟩, read.shallow⟩

theorem modified {rest : List Char} {modifier : AppliedModifier}
    (read : reference.Read enclosing text) (spelled : SpellsModifier rest modifier) :
    { reference with modifiers := modifier :: reference.modifiers }.Read enclosing
      (text ++ '.' :: rest) := by
  obtain ⟨before, actions, symbol, filter, modifiers, rfl, outer, acting, naming, filtered,
    modified⟩ := read.parts
  have last : SpellsModifiers ('.' :: rest ++ []) [modifier] := .cons spelled .nil
  rw [List.append_nil] at last
  have all := modified.append last
  rw [← List.reverse_cons] at all
  exact ⟨read.begun.append _, ⟨before, actions, symbol, filter, modifiers ++ '.' :: rest, by simp,
    outer, acting, naming, filtered, all⟩, read.shallow⟩

theorem acted {rest : List Char} {action : Action} (read : reference.Read enclosing text)
    (unnamed : reference.Unnamed) (spelled : SpellsAction rest action)
    (shallow : Action.nestingAmong [action] + enclosing.length ≤ nestingLimit) :
    { reference with actions := action :: reference.actions }.Read enclosing (text ++ rest) := by
  obtain ⟨before, actions, rfl, outer, acting⟩ := read.unnamed_parts unnamed
  obtain ⟨filtered, modified⟩ := unnamed.toUnfiltered.absent
  have last : SpellsActions (rest ++ []) [action] := .cons spelled .nil
  rw [List.append_nil] at last
  have all := acting.append last
  rw [← List.reverse_cons] at all
  refine ⟨read.begun.append _, ⟨before, actions ++ rest, [], [], [], by simp, outer, all,
    unnamed.absent, filtered, modified⟩, ?_⟩
  have shallowBefore := read.shallow
  simp only [List.reverse_cons, nestingAmong_actions_append]
  omega

/-- The closing sign of a reference that makes a node adds the node to the sequence it stands
in. -/
theorem closed {node : Node} (read : reference.Read enclosing text)
    (made : reference.node? = some node) :
    (reference.outer.add node).Read enclosing (text ++ ['#']) := by
  obtain ⟨-, ⟨before, actionsText, nameText, filterText, modifiersText, rfl, outer, acting, naming,
    filtered, modified⟩, shallow⟩ := read
  obtain ⟨offset, sequence, actions, symbol, filter, modifiers⟩ := reference
  unfold OpenReference.node? at made
  cases naming with
  | present named =>
      cases made
      have spelled := SpellsReference.reference acting named filtered modified
      rw [List.append_assoc]
      refine outer.add ?_ shallow
      simpa using spelled
  | absent =>
      simp only at made
      split at made
      · rename_i action others
        cases made
        cases filtered
        cases modified
        have spelled := SpellsReference.binding acting (by simp)
        rw [List.append_assoc]
        refine outer.add ?_ shallow
        simpa using spelled
      · cases made

end OpenReference.Read

/-! ## Actions that are open -/

/-- Finished values, each with the comma after it. -/
def ValuesRead (text : List Char) (values : List ActionValue) : Prop :=
  ∀ rest more, SpellsValues rest more → SpellsValues (text ++ rest) (values.reverse ++ more)

theorem ValuesRead.nil : ValuesRead [] [] :=
  fun _ _ spelled => spelled

theorem ValuesRead.more {text next : List Char} {values : List ActionValue} {value : ActionValue}
    (read : ValuesRead text values) (spelled : SpellsValue next value) :
    ValuesRead (text ++ next ++ [',']) (value :: values) := by
  intro rest more following
  have both := read _ _ (.more spelled following)
  simpa using both

/-- The text before the value under way: for each open action, the sequence it stands in up to it,
and its own text up to its present value. -/
inductive Around : List Char → List OpenAction → Prop where
  | top : Around [] []
  | value {before text values : List Char} {action : OpenAction} {outer : List OpenAction} :
      Around before outer → action.reference.Read outer text → action.reference.Unnamed →
      outer.length < nestingLimit → IsName action.key →
      (action.reset = false → action.key.toList.head? ≠ some '!') →
      ValuesRead values action.values →
      ActionValue.nestingAmong action.values.reverse + (outer.length + 1) ≤ nestingLimit →
      Around (before ++ text ++ '[' :: mark action.reset ++ action.key.toList ++ ':' :: values ++
        sign action.operator) (action :: outer)

theorem Around.shallow {before : List Char} {enclosing : List OpenAction}
    (around : Around before enclosing) : enclosing.length ≤ nestingLimit := by
  cases around with
  | top => exact Nat.zero_le _
  | value _ _ _ room => exact room

/-! ## The construct under way -/

/-- Finished arguments, each with the comma after it. -/
def ArgumentsRead (text : List Char) (arguments : List String) : Prop :=
  ∀ rest more, SpellsArguments rest more →
    SpellsArguments (text ++ rest) (arguments.reverse ++ more)

theorem ArgumentsRead.nil : ArgumentsRead [] [] :=
  fun _ _ spelled => spelled

theorem ArgumentsRead.more {text next meant : List Char} {arguments : List String}
    (read : ArgumentsRead text arguments) (spelled : SpellsArgument next meant) :
    ArgumentsRead (text ++ next ++ [',']) (String.ofList (Text.trim meant) :: arguments) := by
  intro rest more following
  have both := read _ _ (.more spelled following)
  simpa using both

def Unreserved (characters : List Char) : Prop :=
  ∀ character ∈ characters, isReserved character = false

theorem Unreserved.nil : Unreserved [] :=
  fun _ member => nomatch member

theorem Unreserved.cons {character : Char} {characters : List Char}
    (unreserved : Unreserved characters) (first : ¬isReserved character = true) :
    Unreserved (character :: characters) :=
  List.forall_mem_cons.mpr ⟨Bool.eq_false_iff.mpr first, unreserved⟩

theorem Unreserved.isName {characters : List Char} (unreserved : Unreserved characters)
    (inhabited : characters.isEmpty = false) : IsName (collected characters) := by
  constructor
  · intro empty
    have none := congrArg String.toList empty
    simp [collected] at none
    simp [none] at inhabited
  · intro character member
    exact unreserved character (by simpa [collected] using member)

def Unmarked (text : List Char) : Prop :=
  ∃ character rest, text = character :: rest ∧ character ≠ '!'

/-- The text that has been read since the value under way began, or since the beginning where there
is none. -/
inductive FocusRead (enclosing : List OpenAction) : List Char → Focus → Prop where
  | text {text : List Char} {sequence : OpenSequence} :
      Begun enclosing text → sequence.Read enclosing text →
      FocusRead enclosing text (.text sequence)
  | textEscape {text : List Char} {sequence : OpenSequence} :
      Begun enclosing (text ++ ['\\']) → sequence.Read enclosing text →
      FocusRead enclosing (text ++ ['\\']) (.textEscape sequence)
  | valueStart {action : OpenAction} {outer : List OpenAction} :
      enclosing = action :: outer → action.operator = .set → FocusRead enclosing [] .valueStart
  | actions {text : List Char} {reference : OpenReference} :
      reference.Read enclosing text → reference.Unnamed →
      FocusRead enclosing text (.actions reference)
  | symbol {text characters : List Char} {reference : OpenReference} :
      reference.Read enclosing text → reference.Unnamed → Unreserved characters →
      FocusRead enclosing (text ++ characters.reverse) (.symbol reference characters)
  | filter {text characters : List Char} {reference : OpenReference} {offset : Nat} :
      reference.Read enclosing text → reference.Unfiltered → IsPattern characters.reverse →
      FocusRead enclosing (text ++ '{' :: characters.reverse) (.filter reference offset characters)
  | filterEscape {text characters : List Char} {reference : OpenReference} {offset : Nat} :
      reference.Read enclosing text → reference.Unfiltered → IsPattern characters.reverse →
      FocusRead enclosing (text ++ '{' :: characters.reverse ++ ['\\'])
        (.filterEscape reference offset characters)
  | suffix {text : List Char} {reference : OpenReference} :
      reference.Read enclosing text → FocusRead enclosing text (.suffix reference)
  | modifier {text characters : List Char} {reference : OpenReference} :
      reference.Read enclosing text → Unreserved characters →
      FocusRead enclosing (text ++ '.' :: characters.reverse) (.modifier reference characters)
  | arguments {text finishedText lastText characters : List Char} {name : String}
      {finished : List String} {reference : OpenReference} :
      reference.Read enclosing text → IsName name → ArgumentsRead finishedText finished →
      SpellsArgument lastText characters.reverse →
      FocusRead enclosing (text ++ '.' :: name.toList ++ '(' :: finishedText ++ lastText)
        (.arguments reference name finished characters)
  | argumentEscape {text finishedText lastText characters : List Char} {name : String}
      {finished : List String} {reference : OpenReference} :
      reference.Read enclosing text → IsName name → ArgumentsRead finishedText finished →
      SpellsArgument lastText characters.reverse →
      FocusRead enclosing (text ++ '.' :: name.toList ++ '(' :: finishedText ++ lastText ++ ['\\'])
        (.argumentEscape reference name finished characters)
  | actionStart {text : List Char} {reference : OpenReference} :
      reference.Read enclosing text → reference.Unnamed → enclosing.length < nestingLimit →
      FocusRead enclosing (text ++ ['[']) (.actionStart reference)
  | key {text characters : List Char} {reference : OpenReference} {reset : Bool} :
      reference.Read enclosing text → reference.Unnamed → enclosing.length < nestingLimit →
      Unreserved characters → (reset = false → Unmarked characters.reverse) →
      FocusRead enclosing (text ++ '[' :: mark reset ++ characters.reverse)
        (.key reference reset characters)

/-- The text that a reading has read, taken apart. -/
def Reading.Explained (reading : Reading) (text : List Char) : Prop :=
  ∃ before inner, text = before ++ inner ∧ Around before reading.enclosing ∧
    FocusRead reading.enclosing inner reading.focus

/-! ## One more character -/

namespace Around

variable {before text : List Char} {action : OpenAction} {outer : List OpenAction}
  {template : Template}

/-- The operator of a value is read before its text. -/
theorem marked (around : Around before (action :: outer)) (unread : action.operator = .set)
    {operator : ValueOperator} (edits : operator ≠ .set) :
    Reading.Explained ⟨.text .start, { action with operator } :: outer⟩
      (before ++ sign operator) := by
  have shallow := around.shallow
  cases around with
  | value around read unnamed room named unmarked values shallowBefore =>
      have opened : Around _ ({ action with operator } :: outer) :=
        .value around read unnamed room named unmarked values shallowBefore
      have begun : Begun ({ action with operator } :: outer) [] := by
        rintro _ ⟨⟩ plain
        exact absurd plain edits
      refine ⟨_, [], ?_, opened, .text begun (.start shallow)⟩
      simp [unread, sign]

/-- A comma ends a value and begins another. -/
theorem next (around : Around before (action :: outer))
    (spelled : SpellsValue (sign action.operator ++ text) (.value action.operator template))
    (shallow : Node.nestingAmong template + (action :: outer).length ≤ nestingLimit) :
    Reading.Explained
      ⟨.valueStart,
        { action with
          values := .value action.operator template :: action.values, operator := .set } :: outer⟩
      (before ++ (text ++ [','])) := by
  cases around with
  | value around read unnamed room named unmarked values shallowBefore =>
      have opened : Around _ ({ action with
          values := .value action.operator template :: action.values,
          operator := .set } :: outer) :=
        .value around read unnamed room named unmarked (values.more spelled)
          (nestingAmong_values_le shallowBefore shallow)
      refine ⟨_, [], ?_, opened, .valueStart rfl rfl⟩
      simp [sign]

/-- A closing bracket ends the last value of an action. -/
theorem closed (around : Around before (action :: outer))
    (spelled : SpellsValue (sign action.operator ++ text) (.value action.operator template))
    (shallow : Node.nestingAmong template + (action :: outer).length ≤ nestingLimit) :
    Reading.Explained
      ⟨.actions { action.reference with
          actions := .bind action.reset action.key
            (ActionValue.value action.operator template :: action.values).reverse ::
              action.reference.actions }, outer⟩
      (before ++ (text ++ [']'])) := by
  cases around with
  | @value before inner valuesText _ _ around read unnamed room named unmarked values
      shallowBefore =>
      have all := SpellsAction.marked named unmarked (values _ _ (.last spelled))
      rw [← List.reverse_cons] at all
      have deeper : ActionValue.nestingAmong
          (.value action.operator template :: action.values).reverse + (outer.length + 1) ≤
            nestingLimit :=
        nestingAmong_values_le shallowBefore shallow
      have acted := read.acted unnamed all (by simp only [Action.nestingAmong]; omega)
      refine ⟨before, _, ?_, around,
        .actions acted ⟨⟨unnamed.filter, unnamed.modifiers⟩, unnamed.symbol⟩⟩
      simp

end Around

section step

variable {before text : List Char} {enclosing : List OpenAction} {reference : OpenReference}
  {offset : Nat} {character : Char} {next : Reading}

theorem explained_of_stepSuffix (around : Around before enclosing)
    (read : reference.Read enclosing text)
    (stepped : stepSuffix reference enclosing offset character = .ok next) :
    next.Explained (before ++ (text ++ [character])) := by
  unfold stepSuffix at stepped
  split at stepped
  · rename_i dot
    cases stepped
    rw [dot]
    exact ⟨before, _, rfl, around, .modifier read .nil⟩
  · split at stepped
    · rename_i sign
      unfold closeReference at stepped
      split at stepped
      · rename_i node made
        cases stepped
        rw [sign]
        exact ⟨before, _, rfl, around, .text (read.begun.append _) (read.closed made)⟩
      · cases stepped
    · cases stepped

theorem explained_of_stepSymbol {characters : List Char} (around : Around before enclosing)
    (read : reference.Read enclosing text) (unnamed : reference.Unnamed)
    (unreserved : Unreserved characters)
    (stepped : stepSymbol reference characters enclosing offset character = .ok next) :
    next.Explained (before ++ (text ++ characters.reverse ++ [character])) := by
  unfold stepSymbol at stepped
  split at stepped
  · simp only at stepped
    have named : { reference with
        symbol := if characters.isEmpty then none else some (collected characters) }.Read enclosing
          (text ++ characters.reverse) := by
      cases inhabited : characters.isEmpty with
      | true =>
          have same : ({ reference with symbol := none } : OpenReference) = reference := by
            rw [← unnamed.symbol]
          rw [List.isEmpty_iff.mp inhabited]
          simpa [same] using read
      | false =>
          have read := read.named unnamed (unreserved.isName inhabited)
          simpa [collected] using read
    split at stepped
    · rename_i brace
      cases stepped
      rw [brace]
      have empty : IsPattern ([] : List Char).reverse := .nil
      exact ⟨before, _, rfl, around, .filter named ⟨unnamed.filter, unnamed.modifiers⟩ empty⟩
    · exact explained_of_stepSuffix around named stepped
  · rename_i unreservedNext
    cases stepped
    have read := FocusRead.symbol read unnamed (unreserved.cons unreservedNext)
    exact ⟨before, _, by simp, around, read⟩

theorem explained_of_stepKey {characters : List Char} {reset : Bool}
    (around : Around before enclosing) (read : reference.Read enclosing text)
    (unnamed : reference.Unnamed) (room : enclosing.length < nestingLimit)
    (unreserved : Unreserved characters)
    (unmarked : reset = false → Unmarked (characters.reverse ++ [character]))
    (stepped : stepKey reference reset characters enclosing offset character = .ok next) :
    next.Explained
      (before ++ (text ++ '[' :: mark reset ++ characters.reverse ++ [character])) := by
  unfold stepKey at stepped
  split at stepped
  · rename_i unreservedNext
    cases stepped
    have unreserved := unreserved.cons (by simpa using unreservedNext)
    have read := FocusRead.key read unnamed room unreserved (by simpa using unmarked)
    exact ⟨before, _, by simp, around, read⟩
  · split at stepped
    · rename_i colon
      split at stepped
      · cases stepped
      · rename_i inhabited
        cases stepped
        have named := unreserved.isName (by simpa using inhabited)
        have unmarkedKey : reset = false → (collected characters).toList.head? ≠ some '!' := by
          intro plain
          obtain ⟨first, rest, split, unmarked⟩ := unmarked plain
          cases reversed : characters.reverse with
          | nil => simp [List.reverse_eq_nil_iff.mp reversed] at inhabited
          | cons other others =>
              rw [reversed] at split
              cases split
              simpa [collected, reversed] using unmarked
        have opened : Around _ (⟨reference, reset, collected characters, [], .set⟩ :: enclosing) :=
          .value around read unnamed room named unmarkedKey .nil
            (by simp only [List.reverse_nil, ActionValue.nestingAmong]; omega)
        refine ⟨_, [], ?_, opened, .valueStart rfl rfl⟩
        simp [colon, sign, collected]
    · split at stepped
      · cases stepped
      · cases stepped

theorem explained_of_stepModifier {characters : List Char} (around : Around before enclosing)
    (read : reference.Read enclosing text) (unreserved : Unreserved characters)
    (stepped : stepModifier reference characters enclosing offset character = .ok next) :
    next.Explained (before ++ (text ++ '.' :: characters.reverse ++ [character])) := by
  unfold stepModifier at stepped
  split at stepped
  · rename_i unreservedNext
    cases stepped
    have unreserved := unreserved.cons (by simpa using unreservedNext)
    exact ⟨before, _, by simp, around, .modifier read unreserved⟩
  · split at stepped
    · cases stepped
    · rename_i inhabited
      have named := unreserved.isName (by simpa using inhabited)
      split at stepped
      · rename_i parenthesis
        cases stepped
        have none : SpellsArgument [] ([] : List Char).reverse := .nil
        have read := FocusRead.arguments read named .nil none
        exact ⟨before, _, by simp [parenthesis, collected], around, read⟩
      · have modified := read.modified (.plain named)
        have explained := explained_of_stepSuffix around modified stepped
        simpa [collected] using explained

/-- What ends a value is no part of it. -/
theorem spellsValue_of_begun {operator : ValueOperator} {template : Template}
    (spelled : SpellsSequence true text template)
    (begun : operator = .set → Unsigned (text ++ [character])) :
    SpellsValue (sign operator ++ text) (.value operator template) := by
  refine .signed spelled fun plain => ?_
  obtain ⟨first, rest, split, unadded, unremoved⟩ := begun plain
  cases text with
  | nil => simp
  | cons other others =>
      cases split
      exact ⟨by simpa using unadded, by simpa using unremoved⟩

theorem explained_of_stepText {sequence : OpenSequence} (around : Around before enclosing)
    (read : sequence.Read enclosing text) (begun : Begun enclosing (text ++ [character]))
    (stepped : stepText sequence enclosing offset character = .ok next) :
    next.Explained (before ++ (text ++ [character])) := by
  unfold stepText at stepped
  split at stepped
  · rename_i backslash
    cases stepped
    rw [backslash] at begun ⊢
    exact ⟨before, _, rfl, around, .textEscape begun read⟩
  · rename_i unescaped
    split at stepped
    · rename_i numberSign
      cases stepped
      rw [numberSign] at begun ⊢
      have read := OpenReference.Read.start read begun around.shallow offset
      exact ⟨before, _, rfl, around, .actions read ⟨⟨rfl, rfl⟩, rfl⟩⟩
    · rename_i unopened
      cases enclosing with
      | nil =>
          cases stepped
          have plain : IsPlain false character := ⟨unescaped, unopened, by simp⟩
          exact ⟨before, _, rfl, around, .text begun (read.push plain)⟩
      | cons action outer =>
          simp only at stepped
          obtain ⟨template, spelled, rfl, shallow⟩ := id read
          have value := spellsValue_of_begun spelled (begun action rfl)
          rw [spelled.close] at stepped
          split at stepped
          · rename_i comma
            cases stepped
            rw [comma]
            exact around.next value shallow
          · split at stepped
            · rename_i bracket
              cases stepped
              rw [bracket]
              exact around.closed value shallow
            · rename_i apart unclosed
              cases stepped
              have plain : IsPlain true character :=
                ⟨unescaped, unopened, fun _ => ⟨apart, unclosed⟩⟩
              exact ⟨before, _, rfl, around, .text begun (read.push plain)⟩

theorem explained_of_valueStart {action : OpenAction} {outer : List OpenAction}
    (around : Around before (action :: outer)) (unread : action.operator = .set)
    (stepped : Reading.step ⟨.valueStart, action :: outer⟩ offset character = .ok next) :
    next.Explained (before ++ [character]) := by
  simp only [Reading.step] at stepped
  split at stepped
  · rename_i plus
    cases stepped
    rw [plus]
    exact around.marked unread (by simp)
  · rename_i unadded
    split at stepped
    · rename_i minus
      cases stepped
      rw [minus]
      exact around.marked unread (by simp)
    · rename_i unremoved
      have started := OpenSequence.Read.start around.shallow
      exact explained_of_stepText around started (.of_character unadded unremoved) stepped

theorem explained_of_actions (around : Around before enclosing)
    (read : reference.Read enclosing text) (unnamed : reference.Unnamed)
    (stepped : Reading.step ⟨.actions reference, enclosing⟩ offset character = .ok next) :
    next.Explained (before ++ (text ++ [character])) := by
  simp only [Reading.step] at stepped
  split at stepped
  · rename_i bracket
    split at stepped
    · cases stepped
    · rename_i room
      cases stepped
      rw [bracket]
      have room : enclosing.length < nestingLimit := Nat.lt_of_le_of_ne around.shallow room
      exact ⟨before, _, rfl, around, .actionStart read unnamed room⟩
  · have explained := explained_of_stepSymbol around read unnamed .nil stepped
    simpa using explained

theorem explained_of_filter {characters : List Char} {start : Nat}
    (around : Around before enclosing) (read : reference.Read enclosing text)
    (unfiltered : reference.Unfiltered) (pattern : IsPattern characters.reverse)
    (stepped : Reading.step ⟨.filter reference start characters, enclosing⟩ offset character =
      .ok next) :
    next.Explained (before ++ (text ++ '{' :: characters.reverse ++ [character])) := by
  simp only [Reading.step] at stepped
  split at stepped
  · rename_i brace
    split at stepped
    · rename_i filter compiled
      cases stepped
      rw [brace]
      exact ⟨before, _, rfl, around, .suffix (read.filtered unfiltered pattern compiled)⟩
    · cases stepped
  · rename_i unclosed
    split at stepped
    · rename_i backslash
      cases stepped
      rw [backslash]
      exact ⟨before, _, rfl, around, .filterEscape read unfiltered pattern⟩
    · rename_i unescaped
      cases stepped
      have pattern : IsPattern (character :: characters).reverse := by
        rw [List.reverse_cons]
        exact pattern.append (.character unclosed unescaped .nil)
      exact ⟨before, _, by simp, around, .filter read unfiltered pattern⟩

theorem explained_of_arguments {finishedText lastText characters : List Char} {name : String}
    {finished : List String} (around : Around before enclosing)
    (read : reference.Read enclosing text) (named : IsName name)
    (done : ArgumentsRead finishedText finished) (last : SpellsArgument lastText characters.reverse)
    (stepped : Reading.step ⟨.arguments reference name finished characters, enclosing⟩ offset
      character = .ok next) :
    next.Explained
      (before ++ (text ++ '.' :: name.toList ++ '(' :: finishedText ++ lastText ++ [character])) := by
  simp only [Reading.step] at stepped
  split at stepped
  · rename_i parenthesis
    cases stepped
    have all := done _ _ (.last last)
    have applied := read.modified (.applied named all)
    rw [← closeArguments_eq, List.reverse_reverse] at applied
    exact ⟨before, _, by simp [parenthesis], around, .suffix applied⟩
  · rename_i unclosed
    split at stepped
    · rename_i comma
      cases stepped
      have none : SpellsArgument [] ([] : List Char).reverse := .nil
      have read := FocusRead.arguments read named (done.more last) none
      exact ⟨before, _, by simp [comma], around, read⟩
    · rename_i unseparated
      split at stepped
      · rename_i backslash
        cases stepped
        rw [backslash]
        exact ⟨before, _, rfl, around, .argumentEscape read named done last⟩
      · rename_i unescaped
        cases stepped
        have last : SpellsArgument (lastText ++ [character]) (character :: characters).reverse := by
          rw [List.reverse_cons]
          exact last.append (.character unescaped unseparated unclosed .nil)
        exact ⟨before, _, by simp, around, .arguments read named done last⟩

theorem explained_of_actionStart (around : Around before enclosing)
    (read : reference.Read enclosing text) (unnamed : reference.Unnamed)
    (room : enclosing.length < nestingLimit)
    (stepped : Reading.step ⟨.actionStart reference, enclosing⟩ offset character = .ok next) :
    next.Explained (before ++ (text ++ ['['] ++ [character])) := by
  simp only [Reading.step] at stepped
  split at stepped
  · rename_i exclamation
    cases stepped
    have read : FocusRead enclosing _ (.key reference true []) :=
      .key read unnamed room .nil (by simp)
    exact ⟨before, _, by simp [exclamation, mark], around, read⟩
  · rename_i unmarked
    have explained := explained_of_stepKey around read unnamed room .nil
      (fun _ => ⟨character, [], rfl, unmarked⟩) stepped
    simpa [mark] using explained

/-- What a reading has read explains it, and the next character explains the next reading. -/
theorem Reading.Explained.step {reading : Reading} (explained : reading.Explained text)
    (stepped : reading.step offset character = .ok next) :
    next.Explained (text ++ [character]) := by
  obtain ⟨focus, enclosing⟩ := reading
  obtain ⟨before, inner, rfl, around, read⟩ := explained
  simp only at around read
  rw [List.append_assoc]
  cases read with
  | text begun read => exact explained_of_stepText around read (begun.append _) stepped
  | textEscape begun read =>
      cases stepped
      exact ⟨before, _, rfl, around, .text (begun.append _) (read.escape character)⟩
  | valueStart opened unread =>
      subst opened
      exact explained_of_valueStart around unread stepped
  | actions read unnamed => exact explained_of_actions around read unnamed stepped
  | symbol read unnamed unreserved =>
      exact explained_of_stepSymbol around read unnamed unreserved stepped
  | filter read unfiltered pattern =>
      exact explained_of_filter around read unfiltered pattern stepped
  | @filterEscape inner characters reference start read unfiltered pattern =>
      cases stepped
      have pattern : IsPattern (character :: '\\' :: characters).reverse := by
        rw [List.reverse_cons, List.reverse_cons, List.append_assoc]
        exact pattern.append (.escape .nil)
      exact ⟨before, _, by simp, around, .filter read unfiltered pattern⟩
  | suffix read => exact explained_of_stepSuffix around read stepped
  | modifier read unreserved => exact explained_of_stepModifier around read unreserved stepped
  | arguments read named done last =>
      exact explained_of_arguments around read named done last stepped
  | @argumentEscape inner finishedText lastText characters name finished reference read named done
      last =>
      cases stepped
      have last : SpellsArgument (lastText ++ ['\\', character])
          (character :: characters).reverse := by
        rw [List.reverse_cons]
        exact last.append (.escape .nil)
      exact ⟨before, _, by simp, around, .arguments read named done last⟩
  | actionStart read unnamed room => exact explained_of_actionStart around read unnamed room stepped
  | key read unnamed room unreserved unmarked =>
      refine explained_of_stepKey around read unnamed room unreserved (fun plain => ?_) stepped
      obtain ⟨first, rest, split, other⟩ := unmarked plain
      exact ⟨first, rest ++ [character], by rw [split]; rfl, other⟩

end step

/-! ## Whole texts -/

theorem Reading.Explained.run {reading final : Reading} {text rest : List Char} {offset : Nat}
    (explained : reading.Explained text) (reached : reading.run offset rest = .ok final) :
    final.Explained (text ++ rest) := by
  induction rest generalizing reading text offset with
  | nil =>
      cases reached
      rwa [List.append_nil]
  | cons character rest ih =>
      rw [Reading.run] at reached
      split at reached
      · rename_i next stepped
        have following := ih (explained.step stepped) reached
        rwa [List.append_assoc] at following
      · cases reached

theorem Reading.explained_start : Reading.start.Explained [] := by
  have begun : Begun [] [] := by simp [Begun]
  exact ⟨[], [], rfl, .top, .text begun (.start (Nat.zero_le _))⟩

/-- A reading that may end has read a text with no action open. -/
theorem Reading.Explained.finish {reading : Reading} {text : List Char} {template : Template}
    (explained : reading.Explained text) (finished : reading.finish = .ok template) :
    SpellsSequence false text template ∧ template.nesting ≤ nestingLimit := by
  obtain ⟨focus, enclosing⟩ := reading
  obtain ⟨before, inner, rfl, around, read⟩ := explained
  cases read with
  | text begun read =>
      cases around with
      | value => cases finished
      | top =>
          cases finished
          obtain ⟨template, spelled, rfl, shallow⟩ := read
          rw [spelled.close]
          exact ⟨spelled, shallow⟩
  | @modifier inner characters => cases characters <;> cases finished
  | _ => cases finished

theorem derives_of_parse {text : String} {template : Template}
    (parsed : parse text = .ok template) : Derives text template := by
  obtain ⟨sequence, reached, rfl⟩ := parse_eq_ok_iff.mp parsed
  exact (Reading.explained_start.run reached).finish rfl

/-- The comma splits the values of the innermost open action. -/
example :
    Derives "a#[!k:+b\\,c,#[n:-d,]x#]s.f( e ,)#"
      [.literal "a",
        .reference
          [.bind true "k"
            [.value .add [.literal "b,c"],
              .value .set
                [.reference [.bind false "n" [.value .remove [.literal "d"], .value .set []]] "x"
                  none []]]]
          "s" none [⟨"f", ["e", ""]⟩]] :=
  derives_of_parse rfl

/-- Reading accepts exactly the texts that spell a template, and gives that template. No text
spells two. -/
theorem parse_accepts_language :
    (∀ text template, parse text = .ok template ↔ Derives text template) ∧
      ∀ text, Subsingleton { template // Derives text template } := by
  constructor
  · exact fun text template => ⟨derives_of_parse, parse_of_derives⟩
  · intro text
    refine ⟨fun ⟨left, first⟩ ⟨right, second⟩ => Subtype.ext ?_⟩
    exact Except.ok.inj ((parse_of_derives first).symm.trans (parse_of_derives second))

end StoryGrammar.Template
