import StoryGrammar.Template.Basic
import StoryGrammar.Template.Error
import StoryGrammar.Text.Trim

set_option autoImplicit false

/-!
# Reading templates

A template is read one character at a time. What has been read is a `Reading`: the construct that
the next character belongs to, and the actions that are open around it. No character is looked at
twice, so reading a text in two pieces is reading the second piece from where the first one led.
-/

namespace StoryGrammar.Template

/-! ## Constructs under way -/

/-- Whether a character has a meaning in references, and so ends every name. -/
def isReserved (character : Char) : Bool :=
  ['#', '.', '[', ']', ':', ',', '{', '}', '(', ')', '\\'].contains character

/-- A sequence under way: its finished nodes, newest first, and the literal characters after them,
newest first. -/
structure OpenSequence where
  nodes : List Node
  literal : List Char

namespace OpenSequence

def start : OpenSequence :=
  ⟨[], []⟩

def push (sequence : OpenSequence) (character : Char) : OpenSequence :=
  { sequence with literal := character :: sequence.literal }

def flushed (sequence : OpenSequence) : List Node :=
  match sequence.literal with
  | [] => sequence.nodes
  | literal => .literal (String.ofList literal.reverse) :: sequence.nodes

def add (sequence : OpenSequence) (node : Node) : OpenSequence :=
  ⟨node :: sequence.flushed, []⟩

def close (sequence : OpenSequence) : Template :=
  sequence.flushed.reverse

end OpenSequence

/-- A reference under way: the offset of its number sign, the sequence it stands in, and its parts
so far, actions and modifiers newest first. -/
structure OpenReference where
  offset : Nat
  outer : OpenSequence
  actions : List Action
  symbol : Option String
  filter : Option Filter
  modifiers : List AppliedModifier

def OpenReference.start (offset : Nat) (outer : OpenSequence) : OpenReference :=
  ⟨offset, outer, [], none, none, []⟩

/-- The node that a finished reference makes. Without a symbol it is a binding, which needs an
action and admits neither filter nor modifiers. -/
def OpenReference.node? (reference : OpenReference) : Option Node :=
  match reference.symbol with
  | some symbol =>
      some (.reference reference.actions.reverse symbol reference.filter
        reference.modifiers.reverse)
  | none =>
      match reference.actions, reference.filter, reference.modifiers with
      | _ :: _, none, [] => some (.binding reference.actions.reverse)
      | _, _, _ => none

/-- An action whose values are being read: the reference it belongs to, its finished values, newest
first, and the operator of the present one. -/
structure OpenAction where
  reference : OpenReference
  reset : Bool
  key : String
  values : List ActionValue
  operator : ValueOperator

inductive Focus where
  | text (sequence : OpenSequence)
  | textEscape (sequence : OpenSequence)
  | valueStart
  /-- The start of a reference or the end of one of its actions. -/
  | actions (reference : OpenReference)
  | symbol (reference : OpenReference) (characters : List Char)
  /-- A filter that began at `offset`, its characters newest first. -/
  | filter (reference : OpenReference) (offset : Nat) (characters : List Char)
  | filterEscape (reference : OpenReference) (offset : Nat) (characters : List Char)
  | suffix (reference : OpenReference)
  | modifier (reference : OpenReference) (characters : List Char)
  /-- The arguments of a modifier: the finished ones, newest first, and the characters of the
  present one, newest first. -/
  | arguments (reference : OpenReference) (name : String) (finished : List String)
      (characters : List Char)
  | argumentEscape (reference : OpenReference) (name : String) (finished : List String)
      (characters : List Char)
  | actionStart (reference : OpenReference)
  | key (reference : OpenReference) (reset : Bool) (characters : List Char)

/-- What has been read of a template: the construct under way, and the actions open around it,
innermost first. -/
structure Reading where
  focus : Focus
  enclosing : List OpenAction

def collected (characters : List Char) : String :=
  String.ofList characters.reverse

def argument (characters : List Char) : String :=
  String.ofList (Text.trim characters.reverse)

/-- The arguments at the closing parenthesis. A single blank one counts as none. -/
def closeArguments (finished : List String) (characters : List Char) : List String :=
  let last := argument characters
  if last.isEmpty && finished.isEmpty then [] else (last :: finished).reverse

/-! ## One character -/

abbrev Failure := TemplateFault × Nat

def closeReference (reference : OpenReference) (enclosing : List OpenAction) :
    Except Failure Reading :=
  match reference.node? with
  | some node => .ok ⟨.text (reference.outer.add node), enclosing⟩
  | none => .error (.emptySymbolName, reference.offset)

def stepSuffix (reference : OpenReference) (enclosing : List OpenAction) (offset : Nat)
    (character : Char) : Except Failure Reading :=
  if character = '.' then .ok ⟨.modifier reference [], enclosing⟩
  else if character = '#' then closeReference reference enclosing
  else .error (.unexpectedCharacter character, offset)

def stepSymbol (reference : OpenReference) (characters : List Char)
    (enclosing : List OpenAction) (offset : Nat) (character : Char) : Except Failure Reading :=
  if isReserved character then
    let reference :=
      { reference with symbol := if characters.isEmpty then none else some (collected characters) }
    if character = '{' then .ok ⟨.filter reference offset [], enclosing⟩
    else stepSuffix reference enclosing offset character
  else .ok ⟨.symbol reference (character :: characters), enclosing⟩

def stepKey (reference : OpenReference) (reset : Bool) (characters : List Char)
    (enclosing : List OpenAction) (offset : Nat) (character : Char) : Except Failure Reading :=
  if !isReserved character then .ok ⟨.key reference reset (character :: characters), enclosing⟩
  else if character = ':' then
    if characters.isEmpty then .error (.emptyActionKey, offset)
    else
      .ok ⟨.valueStart, ⟨reference, reset, collected characters, [], .set⟩ :: enclosing⟩
  else if character = ']' then .error (.missingActionOperator, offset)
  else .error (.unexpectedCharacter character, offset)

def stepModifier (reference : OpenReference) (characters : List Char)
    (enclosing : List OpenAction) (offset : Nat) (character : Char) : Except Failure Reading :=
  if !isReserved character then .ok ⟨.modifier reference (character :: characters), enclosing⟩
  else if characters.isEmpty then .error (.emptyModifierName, offset)
  else if character = '(' then
    .ok ⟨.arguments reference (collected characters) [] [], enclosing⟩
  else
    let reference :=
      { reference with modifiers := ⟨collected characters, []⟩ :: reference.modifiers }
    stepSuffix reference enclosing offset character

/-- Reads a character of literal text. Within an action, a comma or a closing bracket ends the
value. -/
def stepText (sequence : OpenSequence) (enclosing : List OpenAction) (offset : Nat)
    (character : Char) : Except Failure Reading :=
  if character = '\\' then .ok ⟨.textEscape sequence, enclosing⟩
  else if character = '#' then .ok ⟨.actions (.start offset sequence), enclosing⟩
  else
    match enclosing with
    | [] => .ok ⟨.text (sequence.push character), enclosing⟩
    | action :: outer =>
        let values := .value action.operator sequence.close :: action.values
        if character = ',' then
          .ok ⟨.valueStart, { action with values, operator := .set } :: outer⟩
        else if character = ']' then
          let finished := .bind action.reset action.key values.reverse
          .ok ⟨.actions { action.reference with actions := finished :: action.reference.actions },
            outer⟩
        else .ok ⟨.text (sequence.push character), enclosing⟩

def setOperator (operator : ValueOperator) : List OpenAction → List OpenAction
  | [] => []
  | action :: outer => { action with operator } :: outer

def Reading.step (reading : Reading) (offset : Nat) (character : Char) : Except Failure Reading :=
  let enclosing := reading.enclosing
  match reading.focus with
  | .text sequence => stepText sequence enclosing offset character
  | .textEscape sequence => .ok ⟨.text (sequence.push character), enclosing⟩
  | .valueStart =>
      if character = '+' then .ok ⟨.text .start, setOperator .add enclosing⟩
      else if character = '-' then .ok ⟨.text .start, setOperator .remove enclosing⟩
      else stepText .start enclosing offset character
  | .actions reference =>
      if character = '[' then
        if enclosing.length = nestingLimit then .error (.tooDeeplyNested, offset)
        else .ok ⟨.actionStart reference, enclosing⟩
      else stepSymbol reference [] enclosing offset character
  | .symbol reference characters => stepSymbol reference characters enclosing offset character
  | .filter reference start characters =>
      if character = '}' then
        match Filter.ofPattern? (collected characters) with
        | some filter => .ok ⟨.suffix { reference with filter := some filter }, enclosing⟩
        | none => .error (.invalidFilter, start)
      else if character = '\\' then .ok ⟨.filterEscape reference start characters, enclosing⟩
      else .ok ⟨.filter reference start (character :: characters), enclosing⟩
  | .filterEscape reference start characters =>
      .ok ⟨.filter reference start (character :: '\\' :: characters), enclosing⟩
  | .suffix reference => stepSuffix reference enclosing offset character
  | .modifier reference characters => stepModifier reference characters enclosing offset character
  | .arguments reference name finished characters =>
      if character = ')' then
        let modifier : AppliedModifier := ⟨name, closeArguments finished characters⟩
        .ok ⟨.suffix { reference with modifiers := modifier :: reference.modifiers }, enclosing⟩
      else if character = ',' then
        .ok ⟨.arguments reference name (argument characters :: finished) [], enclosing⟩
      else if character = '\\' then
        .ok ⟨.argumentEscape reference name finished characters, enclosing⟩
      else .ok ⟨.arguments reference name finished (character :: characters), enclosing⟩
  | .argumentEscape reference name finished characters =>
      .ok ⟨.arguments reference name finished (character :: characters), enclosing⟩
  | .actionStart reference =>
      if character = '!' then .ok ⟨.key reference true [], enclosing⟩
      else stepKey reference false [] enclosing offset character
  | .key reference reset characters =>
      stepKey reference reset characters enclosing offset character

/-! ## Whole texts -/

def Reading.run (reading : Reading) (offset : Nat) : List Char → Except Failure Reading
  | [] => .ok reading
  | character :: rest =>
      match reading.step offset character with
      | .ok reading => reading.run (offset + 1) rest
      | .error failure => .error failure

theorem Reading.run_append (reading : Reading) (offset : Nat) (first second : List Char) :
    reading.run offset (first ++ second) =
      (reading.run offset first).bind fun middle => middle.run (offset + first.length) second := by
  induction first generalizing reading offset with
  | nil => rfl
  | cons character rest ih =>
      simp only [List.cons_append, Reading.run, List.length_cons]
      cases reading.step offset character with
      | error failure => rfl
      | ok next =>
          dsimp only
          rw [ih, Nat.add_right_comm, Nat.add_assoc]

/-- What is missing at the end of the text, or the finished template. -/
def Reading.finish (reading : Reading) : Except TemplateFault Template :=
  match reading.focus with
  | .text sequence =>
      match reading.enclosing with
      | [] => .ok sequence.close
      | _ :: _ => .error .unterminatedAction
  | .textEscape _ | .filterEscape _ _ _ | .argumentEscape _ _ _ _ => .error .danglingEscape
  | .valueStart | .actionStart _ | .key _ _ _ => .error .unterminatedAction
  | .filter _ _ _ => .error .unterminatedFilter
  | .modifier _ [] => .error .emptyModifierName
  | .actions _ | .symbol _ _ | .suffix _ | .modifier _ _ | .arguments _ _ _ _ =>
      .error .unterminatedReference

def Reading.start : Reading :=
  ⟨.text .start, []⟩

def parseCharacters (characters : List Char) : Except Failure Template :=
  match Reading.start.run 0 characters with
  | .error failure => .error failure
  | .ok reading => reading.finish.mapError fun fault => (fault, characters.length)

def parse (text : String) : Except TemplateError Template :=
  (parseCharacters text.toList).mapError fun (fault, offset) => ⟨fault, offset, text⟩

end StoryGrammar.Template
