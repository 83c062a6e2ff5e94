import StoryGrammar.Proofs.Template.Explaining

set_option autoImplicit false

/-!
# Where faults are reported

Most faults are reported where reading stops: at the character that is in its way, or at the end of
a text that breaks off. A filter that spells no pattern and a reference without a symbol are noticed
only when they end, and reported where they began.
-/

namespace StoryGrammar.Template

/-! ## Places in a text -/

/-- A text that stops where the text of a sequence may go on, within the values of `count` open
actions. -/
inductive StopsWithin : (count : Nat) → List Char → Prop where
  | outermost {text : List Char} {template : Template} :
      SpellsSequence false text template → StopsWithin 0 text
  | value {count : Nat} {before actionsText text : List Char} {actions : List Action}
      {reset : Bool} {key : String} {values : List ActionValue} :
      StopsWithin count before → SpellsActions actionsText actions → IsName key →
      (reset = false → key.toList.head? ≠ some '!') → SpellsValues text values →
      StopsWithin (count + 1)
        (before ++ '#' :: actionsText ++ '[' :: mark reset ++ key.toList ++ ':' :: text)

/-- What stands at the place where a fault is reported, given the text before the place and the rest
of the text. -/
def FaultStands (before rest : List Char) : TemplateFault → Prop
  | .unterminatedReference | .unterminatedAction | .unterminatedFilter => rest = []
  | .danglingEscape => rest = [] ∧ before.getLast? = some '\\'
  | .unexpectedCharacter character =>
      rest.head? = some character ∧
        (isReserved character = true ∨ before.getLast? = some '}' ∨ before.getLast? = some ')')
  | .emptySymbolName => rest.head? = some '#' ∧ ∃ count, StopsWithin count before
  | .invalidFilter => ∃ pattern others, rest = '{' :: pattern ++ '}' :: others ∧
      IsPattern pattern ∧ Filter.ofPattern? (String.ofList pattern) = none
  | .missingActionOperator => rest.head? = some ']'
  | .emptyActionKey => rest.head? = some ':'
  | .tooDeeplyNested =>
      rest.head? = some '[' ∧ ∃ outer actionsText actions,
        before = outer ++ '#' :: actionsText ∧ StopsWithin nestingLimit outer ∧
          SpellsActions actionsText actions
  | .emptyModifierName =>
      before.getLast? = some '.' ∧ ∀ character ∈ rest.head?, isReserved character = true

def Reported (text : List Char) (failure : Failure) : Prop :=
  ∃ before rest, text = before ++ rest ∧ failure.2 = before.length ∧
    FaultStands before rest failure.1

theorem Reported.here {before rest : List Char} {fault : TemplateFault}
    (stands : FaultStands before rest fault) : Reported (before ++ rest) (fault, before.length) :=
  ⟨before, rest, rfl, rfl, stands⟩

/-! ## What an explanation says about the place -/

theorem Begun.unsigned {enclosing : List OpenAction} {text rest : List Char}
    (begun : Begun enclosing (text ++ rest)) :
    ∀ action ∈ enclosing.head?, action.operator = .set →
      text.head? ≠ some '+' ∧ text.head? ≠ some '-' := by
  intro action innermost plain
  obtain ⟨first, others, split, unadded, unremoved⟩ := begun action innermost plain
  cases text with
  | nil => simp
  | cons character text =>
      cases split
      exact ⟨by simpa using unadded, by simpa using unremoved⟩

/-- The induction is on the open actions: the text before the reference of the innermost one stops
within the others. -/
theorem Around.stopsWithin {before text : List Char} {enclosing : List OpenAction}
    {sequence : OpenSequence} (around : Around before enclosing)
    (read : sequence.Read enclosing text)
    (unsigned : ∀ action ∈ enclosing.head?, action.operator = .set →
      text.head? ≠ some '+' ∧ text.head? ≠ some '-') :
    StopsWithin enclosing.length (before ++ text) := by
  induction around generalizing text sequence with
  | top =>
      obtain ⟨template, spelled, -, -⟩ := read
      exact .outermost spelled
  | @value before inner valuesText action outer _ acting unnamed _ named unmarked values _ ih =>
      obtain ⟨template, spelled, -, -⟩ := read
      have begun := acting.begun
      obtain ⟨first, actionsText, rfl, outerRead, actions⟩ := acting.unnamed_parts unnamed
      have outside := ih outerRead begun.unsigned
      have value := SpellsValue.signed spelled (unsigned action rfl)
      have all := values _ _ (.last value)
      have within := StopsWithin.value outside actions named unmarked all
      simpa using within

theorem Reading.Explained.stopsWithin_of_text {sequence : OpenSequence}
    {enclosing : List OpenAction} {text : List Char}
    (explained : Reading.Explained ⟨.text sequence, enclosing⟩ text) :
    StopsWithin enclosing.length text := by
  obtain ⟨before, inner, rfl, around, read⟩ := explained
  cases read with
  | text begun read =>
      rw [← List.append_nil inner] at begun
      exact around.stopsWithin read begun.unsigned

theorem Reading.Explained.stopsWithin_of_valueStart {enclosing : List OpenAction}
    {text : List Char} (explained : Reading.Explained ⟨.valueStart, enclosing⟩ text) :
    StopsWithin enclosing.length text := by
  obtain ⟨before, inner, rfl, around, read⟩ := explained
  cases read with
  | valueStart =>
      have empty := OpenSequence.Read.start around.shallow
      exact around.stopsWithin empty (by simp)

theorem Reading.Explained.stopsWithin_of_actions {reference : OpenReference}
    {enclosing : List OpenAction} {text : List Char}
    (explained : Reading.Explained ⟨.actions reference, enclosing⟩ text) :
    ∃ outer actionsText actions, text = outer ++ '#' :: actionsText ∧
      StopsWithin enclosing.length outer ∧ SpellsActions actionsText actions := by
  obtain ⟨before, inner, rfl, around, read⟩ := explained
  cases read with
  | actions read unnamed =>
      have begun := read.begun
      obtain ⟨first, actionsText, rfl, outerRead, actions⟩ := read.unnamed_parts unnamed
      refine ⟨before ++ first, actionsText, _, by simp, ?_, actions⟩
      exact around.stopsWithin outerRead begun.unsigned

/-! ## Offsets that are kept -/

/-- The number sign of a reference stands at its offset, with `count` actions open around it. -/
def OpenReference.Placed (text : List Char) (count : Nat) (reference : OpenReference) : Prop :=
  ∃ before rest, text = before ++ '#' :: rest ∧ reference.offset = before.length ∧
    StopsWithin count before

inductive EnclosingPlaced (text : List Char) : List OpenAction → Prop where
  | nil : EnclosingPlaced text []
  | cons {action : OpenAction} {outer : List OpenAction} :
      action.reference.Placed text outer.length → EnclosingPlaced text outer →
      EnclosingPlaced text (action :: outer)

inductive FocusPlaced (text : List Char) (count : Nat) : Focus → Prop where
  | text {sequence : OpenSequence} : FocusPlaced text count (.text sequence)
  | textEscape {sequence : OpenSequence} : FocusPlaced text count (.textEscape sequence)
  | valueStart : FocusPlaced text count .valueStart
  | actions {reference : OpenReference} :
      reference.Placed text count → FocusPlaced text count (.actions reference)
  | symbol {reference : OpenReference} {characters : List Char} :
      reference.Placed text count → FocusPlaced text count (.symbol reference characters)
  | filter {reference : OpenReference} {before characters : List Char} :
      reference.Placed text count → text = before ++ '{' :: characters.reverse →
      FocusPlaced text count (.filter reference before.length characters)
  | filterEscape {reference : OpenReference} {before characters : List Char} :
      reference.Placed text count → text = before ++ '{' :: characters.reverse ++ ['\\'] →
      FocusPlaced text count (.filterEscape reference before.length characters)
  /-- What comes after a symbol is read as a suffix only from the end of a filter or of arguments
  on. -/
  | suffix {reference : OpenReference} :
      reference.Placed text count → text.getLast? = some '}' ∨ text.getLast? = some ')' →
      FocusPlaced text count (.suffix reference)
  | modifier {reference : OpenReference} {characters : List Char} :
      reference.Placed text count → FocusPlaced text count (.modifier reference characters)
  | arguments {reference : OpenReference} {name : String} {finished : List String}
      {characters : List Char} :
      reference.Placed text count →
      FocusPlaced text count (.arguments reference name finished characters)
  | argumentEscape {reference : OpenReference} {name : String} {finished : List String}
      {characters : List Char} :
      reference.Placed text count →
      FocusPlaced text count (.argumentEscape reference name finished characters)
  | actionStart {reference : OpenReference} :
      reference.Placed text count → FocusPlaced text count (.actionStart reference)
  | key {reference : OpenReference} {reset : Bool} {characters : List Char} :
      reference.Placed text count → FocusPlaced text count (.key reference reset characters)

/-- The offsets that a reading keeps are those of the characters they are kept for. -/
structure Reading.Placed (text : List Char) (reading : Reading) : Prop where
  focus : FocusPlaced text reading.enclosing.length reading.focus
  enclosing : EnclosingPlaced text reading.enclosing

theorem OpenReference.Placed.append {reference : OpenReference} {text : List Char} {count : Nat}
    (placed : reference.Placed text count) (more : List Char) :
    reference.Placed (text ++ more) count := by
  obtain ⟨before, rest, rfl, counted, stops⟩ := placed
  exact ⟨before, rest ++ more, by simp, counted, stops⟩

theorem EnclosingPlaced.append {enclosing : List OpenAction} {text : List Char}
    (placed : EnclosingPlaced text enclosing) (more : List Char) :
    EnclosingPlaced (text ++ more) enclosing := by
  induction placed with
  | nil => exact .nil
  | cons within _ ih => exact .cons (within.append more) ih

theorem EnclosingPlaced.setOperator {enclosing : List OpenAction} {text : List Char}
    (placed : EnclosingPlaced text enclosing) (operator : ValueOperator) :
    EnclosingPlaced text (setOperator operator enclosing) := by
  cases placed with
  | nil => exact .nil
  | cons within outer => exact .cons within outer

/-! ## One more character -/

section step

variable {text : List Char} {enclosing : List OpenAction} {reference : OpenReference}
  {characters : List Char} {character : Char} {next : Reading}

theorem placed_of_stepSuffix {offset : Nat} (placed : reference.Placed text enclosing.length)
    (around : EnclosingPlaced text enclosing)
    (stepped : stepSuffix reference enclosing offset character = .ok next) : next.Placed text := by
  unfold stepSuffix at stepped
  split at stepped
  · cases stepped
    exact ⟨.modifier placed, around⟩
  · split at stepped
    · unfold closeReference at stepped
      split at stepped
      · cases stepped
        exact ⟨.text, around⟩
      · cases stepped
    · cases stepped

theorem placed_of_stepSymbol
    (placed : reference.Placed (text ++ [character]) enclosing.length)
    (around : EnclosingPlaced (text ++ [character]) enclosing)
    (stepped : stepSymbol reference characters enclosing text.length character = .ok next) :
    next.Placed (text ++ [character]) := by
  unfold stepSymbol at stepped
  split at stepped
  · simp only at stepped
    split at stepped
    · rename_i brace
      cases stepped
      exact ⟨.filter placed (by rw [brace, List.reverse_nil]), around⟩
    · refine placed_of_stepSuffix ?_ around stepped
      exact placed
  · cases stepped
    exact ⟨.symbol placed, around⟩

theorem placed_of_stepKey {reset : Bool} {offset : Nat}
    (placed : reference.Placed text enclosing.length) (around : EnclosingPlaced text enclosing)
    (stepped : stepKey reference reset characters enclosing offset character = .ok next) :
    next.Placed text := by
  unfold stepKey at stepped
  split at stepped
  · cases stepped
    exact ⟨.key placed, around⟩
  · split at stepped
    · split at stepped
      · cases stepped
      · cases stepped
        exact ⟨.valueStart, .cons placed around⟩
    · split at stepped
      · cases stepped
      · cases stepped

theorem placed_of_stepModifier {offset : Nat} (placed : reference.Placed text enclosing.length)
    (around : EnclosingPlaced text enclosing)
    (stepped : stepModifier reference characters enclosing offset character = .ok next) :
    next.Placed text := by
  unfold stepModifier at stepped
  split at stepped
  · cases stepped
    exact ⟨.modifier placed, around⟩
  · split at stepped
    · cases stepped
    · split at stepped
      · cases stepped
        exact ⟨.arguments placed, around⟩
      · refine placed_of_stepSuffix ?_ around stepped
        exact placed

theorem placed_of_stepText {sequence : OpenSequence} (stops : StopsWithin enclosing.length text)
    (around : EnclosingPlaced (text ++ [character]) enclosing)
    (stepped : stepText sequence enclosing text.length character = .ok next) :
    next.Placed (text ++ [character]) := by
  unfold stepText at stepped
  split at stepped
  · cases stepped
    exact ⟨.textEscape, around⟩
  · split at stepped
    · rename_i sign
      cases stepped
      exact ⟨.actions ⟨text, [], by rw [sign], rfl, stops⟩, around⟩
    · cases around with
      | nil =>
          cases stepped
          exact ⟨.text, .nil⟩
      | cons within outer =>
          simp only at stepped
          split at stepped
          · cases stepped
            exact ⟨.valueStart, .cons within outer⟩
          · split at stepped
            · cases stepped
              exact ⟨.actions within, outer⟩
            · cases stepped
              exact ⟨.text, .cons within outer⟩

theorem Reading.Placed.step {reading : Reading} (placed : reading.Placed text)
    (explained : reading.Explained text) (stepped : reading.step text.length character = .ok next) :
    next.Placed (text ++ [character]) := by
  obtain ⟨focus, enclosing⟩ := reading
  obtain ⟨within, around⟩ := placed
  dsimp only at within around
  have around := around.append [character]
  cases within with
  | text => exact placed_of_stepText explained.stopsWithin_of_text around stepped
  | textEscape =>
      cases stepped
      exact ⟨.text, around⟩
  | valueStart =>
      simp only [Reading.step] at stepped
      split at stepped
      · cases stepped
        exact ⟨.text, around.setOperator .add⟩
      · split at stepped
        · cases stepped
          exact ⟨.text, around.setOperator .remove⟩
        · exact placed_of_stepText explained.stopsWithin_of_valueStart around stepped
  | actions placed =>
      have placed := placed.append [character]
      simp only [Reading.step] at stepped
      split at stepped
      · split at stepped
        · cases stepped
        · cases stepped
          exact ⟨.actionStart placed, around⟩
      · exact placed_of_stepSymbol placed around stepped
  | symbol placed => exact placed_of_stepSymbol (placed.append _) around stepped
  | filter placed opened =>
      have placed := placed.append [character]
      simp only [Reading.step] at stepped
      split at stepped
      · rename_i brace
        split at stepped
        · cases stepped
          exact ⟨.suffix placed (.inl (by simp [brace])), around⟩
        · cases stepped
      · split at stepped
        · rename_i escape
          cases stepped
          exact ⟨.filterEscape placed (by rw [opened, escape]), around⟩
        · cases stepped
          exact ⟨.filter placed (by simp [opened]), around⟩
  | filterEscape placed opened =>
      cases stepped
      exact ⟨.filter (placed.append _) (by simp [opened]), around⟩
  | suffix placed => exact placed_of_stepSuffix (placed.append _) around stepped
  | modifier placed => exact placed_of_stepModifier (placed.append _) around stepped
  | arguments placed =>
      have placed := placed.append [character]
      simp only [Reading.step] at stepped
      split at stepped
      · rename_i parenthesis
        cases stepped
        exact ⟨.suffix placed (.inr (by simp [parenthesis])), around⟩
      · split at stepped
        · cases stepped
          exact ⟨.arguments placed, around⟩
        · split at stepped
          · cases stepped
            exact ⟨.argumentEscape placed, around⟩
          · cases stepped
            exact ⟨.arguments placed, around⟩
  | argumentEscape placed =>
      cases stepped
      exact ⟨.arguments (placed.append _), around⟩
  | actionStart placed =>
      have placed := placed.append [character]
      simp only [Reading.step] at stepped
      split at stepped
      · cases stepped
        exact ⟨.key placed, around⟩
      · exact placed_of_stepKey placed around stepped
  | key placed => exact placed_of_stepKey (placed.append _) around stepped

end step

theorem Reading.Placed.run {reading final : Reading} {text rest : List Char}
    (placed : reading.Placed text) (explained : reading.Explained text)
    (reached : reading.run text.length rest = .ok final) : final.Placed (text ++ rest) := by
  induction rest generalizing reading text with
  | nil =>
      cases reached
      rwa [List.append_nil]
  | cons character rest ih =>
      rw [Reading.run] at reached
      split at reached
      · rename_i next stepped
        have counted : (text ++ [character]).length = text.length + 1 := by simp
        rw [← counted] at reached
        have following := ih (placed.step explained stepped) (explained.step stepped) reached
        rwa [List.append_assoc] at following
      · cases reached

theorem Reading.placed_start : Reading.start.Placed [] :=
  ⟨.text, .nil⟩

/-! ## A character that is in the way -/

section fault

variable {text rest characters : List Char} {enclosing : List OpenAction}
  {reference : OpenReference} {character : Char} {failure : Failure}

theorem reported_of_stepSuffix (placed : reference.Placed text enclosing.length)
    (expected : isReserved character = true ∨ text.getLast? = some '}' ∨ text.getLast? = some ')')
    (failed : stepSuffix reference enclosing text.length character = .error failure) :
    Reported (text ++ character :: rest) failure := by
  unfold stepSuffix at failed
  split at failed
  · cases failed
  · split at failed
    · unfold closeReference at failed
      split at failed
      · cases failed
      · cases failed
        obtain ⟨before, others, rfl, counted, stops⟩ := placed
        rw [List.append_assoc, List.cons_append, counted]
        exact .here ⟨rfl, _, stops⟩
    · cases failed
      exact .here ⟨rfl, expected⟩

theorem reported_of_stepSymbol (placed : reference.Placed text enclosing.length)
    (failed : stepSymbol reference characters enclosing text.length character = .error failure) :
    Reported (text ++ character :: rest) failure := by
  unfold stepSymbol at failed
  split at failed
  · rename_i reserved
    simp only at failed
    split at failed
    · cases failed
    · refine reported_of_stepSuffix ?_ (.inl reserved) failed
      exact placed
  · cases failed

theorem reported_of_stepKey {reset : Bool}
    (failed : stepKey reference reset characters enclosing text.length character =
      .error failure) :
    Reported (text ++ character :: rest) failure := by
  unfold stepKey at failed
  split at failed
  · cases failed
  · rename_i reserved
    split at failed
    · rename_i colon
      split at failed
      · cases failed
        rw [colon]
        exact .here rfl
      · cases failed
    · split at failed
      · rename_i bracket
        cases failed
        rw [bracket]
        exact .here rfl
      · cases failed
        exact .here ⟨rfl, .inl (by simpa using reserved)⟩

theorem reported_of_stepModifier (placed : reference.Placed text enclosing.length)
    (named : characters.isEmpty = true → text.getLast? = some '.')
    (failed : stepModifier reference characters enclosing text.length character =
      .error failure) :
    Reported (text ++ character :: rest) failure := by
  unfold stepModifier at failed
  split at failed
  · cases failed
  · rename_i reserved
    have reserved : isReserved character = true := by simpa using reserved
    split at failed
    · rename_i empty
      cases failed
      exact .here ⟨named empty, by simpa using reserved⟩
    · split at failed
      · cases failed
      · refine reported_of_stepSuffix ?_ (.inl reserved) failed
        exact placed

theorem stepText_ne_error {sequence : OpenSequence} {offset : Nat} :
    stepText sequence enclosing offset character ≠ .error failure := by
  intro failed
  unfold stepText at failed
  split at failed
  · cases failed
  · split at failed
    · cases failed
    · cases enclosing with
      | nil => cases failed
      | cons action outer =>
          simp only at failed
          split at failed
          · cases failed
          · split at failed <;> cases failed

/-- The dot before the name of a modifier is the last character as long as the name is empty. -/
theorem Reading.Explained.getLast?_of_modifier
    (explained : Reading.Explained ⟨.modifier reference characters, enclosing⟩ text)
    (empty : characters.isEmpty = true) : text.getLast? = some '.' := by
  obtain ⟨before, inner, rfl, around, read⟩ := explained
  cases read with
  | modifier read unreserved =>
      rw [List.isEmpty_iff.mp empty]
      simp

theorem Reading.Explained.isPattern_of_filter {offset : Nat}
    (explained : Reading.Explained ⟨.filter reference offset characters, enclosing⟩ text) :
    IsPattern characters.reverse := by
  obtain ⟨before, inner, rfl, around, read⟩ := explained
  cases read with
  | filter read unfiltered pattern => exact pattern

theorem Reading.Placed.reported {reading : Reading} (placed : reading.Placed text)
    (explained : reading.Explained text)
    (failed : reading.step text.length character = .error failure) :
    Reported (text ++ character :: rest) failure := by
  obtain ⟨focus, enclosing⟩ := reading
  obtain ⟨within, around⟩ := placed
  dsimp only at within around
  cases within with
  | text => exact absurd failed stepText_ne_error
  | valueStart =>
      simp only [Reading.step] at failed
      split at failed
      · cases failed
      · split at failed
        · cases failed
        · exact absurd failed stepText_ne_error
  | actions placed =>
      simp only [Reading.step] at failed
      split at failed
      · rename_i bracket
        split at failed
        · rename_i full
          cases failed
          have deepest := explained.stopsWithin_of_actions
          rw [full] at deepest
          rw [bracket]
          exact .here ⟨rfl, deepest⟩
        · cases failed
      · exact reported_of_stepSymbol placed failed
  | symbol placed => exact reported_of_stepSymbol placed failed
  | filter placed opened =>
      simp only [Reading.step] at failed
      split at failed
      · rename_i brace
        split at failed
        · cases failed
        · rename_i refused
          cases failed
          rw [opened, brace, List.append_assoc]
          exact .here ⟨_, rest, rfl, explained.isPattern_of_filter, refused⟩
      · split at failed <;> cases failed
  | suffix placed last => exact reported_of_stepSuffix placed (.inr last) failed
  | modifier placed =>
      exact reported_of_stepModifier placed explained.getLast?_of_modifier failed
  | arguments placed =>
      simp only [Reading.step] at failed
      split at failed
      · cases failed
      · split at failed
        · cases failed
        · split at failed <;> cases failed
  | actionStart placed =>
      simp only [Reading.step] at failed
      split at failed
      · cases failed
      · exact reported_of_stepKey failed
  | key placed => exact reported_of_stepKey failed
  | textEscape => cases failed
  | filterEscape => cases failed
  | argumentEscape => cases failed

end fault

/-! ## A text that breaks off -/

theorem Reading.Explained.reported {reading : Reading} {text : List Char} {fault : TemplateFault}
    (explained : reading.Explained text) (finished : reading.finish = .error fault) :
    Reported text (fault, text.length) := by
  suffices stands : FaultStands text [] fault by
    have reported := Reported.here stands
    rwa [List.append_nil] at reported
  obtain ⟨focus, enclosing⟩ := reading
  have kept := explained
  obtain ⟨before, inner, rfl, around, read⟩ := explained
  have escape : ∀ rest : List Char, (before ++ (rest ++ ['\\'])).getLast? = some '\\' := by
    intro rest
    rw [← List.append_assoc, List.getLast?_concat]
  cases read with
  | text =>
      cases around with
      | top => cases finished
      | value =>
          cases finished
          rfl
  | textEscape =>
      cases finished
      exact ⟨rfl, escape _⟩
  | filterEscape =>
      cases finished
      exact ⟨rfl, escape _⟩
  | argumentEscape =>
      cases finished
      exact ⟨rfl, escape _⟩
  | @modifier inner characters =>
      cases characters with
      | nil =>
          cases finished
          exact ⟨kept.getLast?_of_modifier rfl, by simp⟩
      | cons =>
          cases finished
          rfl
  | _ =>
      cases finished
      rfl

/-! ## Whole texts -/

theorem Reading.exists_of_run_eq_error {reading : Reading} {offset : Nat} {text : List Char}
    {failure : Failure} (failed : reading.run offset text = .error failure) :
    ∃ before character rest middle, text = before ++ character :: rest ∧
      reading.run offset before = .ok middle ∧
      middle.step (offset + before.length) character = .error failure := by
  induction text generalizing reading offset with
  | nil => cases failed
  | cons character text ih =>
      rw [Reading.run] at failed
      split at failed
      · rename_i next stepped
        obtain ⟨before, other, rest, middle, rfl, reached, refused⟩ := ih failed
        refine ⟨character :: before, other, rest, middle, rfl, ?_, ?_⟩
        · rw [Reading.run, stepped]
          exact reached
        · rwa [List.length_cons, Nat.add_comm before.length, ← Nat.add_assoc]
      · rename_i refusal refused
        cases failed
        exact ⟨[], character, text, reading, rfl, rfl, refused⟩

theorem reported_of_parse {text : String} {error : TemplateError}
    (failed : parse text = .error error) :
    Reported text.toList (error.fault, error.offset) := by
  obtain ⟨-, failed | ⟨reading, reached, finished, atEnd⟩⟩ := parse_eq_error_iff.mp failed
  · obtain ⟨before, character, rest, middle, split, reached, refused⟩ :=
      Reading.exists_of_run_eq_error failed
    have explained := Reading.explained_start.run reached
    have placed := Reading.placed_start.run Reading.explained_start reached
    rw [List.nil_append] at explained placed
    rw [Nat.zero_add] at refused
    rw [split]
    exact placed.reported explained refused
  · have explained := Reading.explained_start.run reached
    rw [List.nil_append] at explained
    rw [atEnd, ← String.length_toList]
    exact explained.reported finished

/-- A brace that comes after a backslash belongs to the pattern. -/
example : (TemplateError.mk .invalidFilter 2 "#a\x7b(\\\x7d\x7d#").pattern = "(\\\x7d" := by
  decide

/-- A text that spells no template is reported as it is, and at the place given for the fault
something stands that accounts for it. -/
theorem errors_point_at_their_cause {text : String} {error : TemplateError}
    (failed : parse text = .error error) :
    error.template = text ∧ error.offset ≤ text.length ∧
      ∃ before rest, text.toList = before ++ rest ∧ error.offset = before.length ∧
        FaultStands before rest error.fault := by
  obtain ⟨before, rest, split, counted, stands⟩ := reported_of_parse failed
  refine ⟨(parse_eq_error_iff.mp failed).1, ?_, before, rest, split, counted, stands⟩
  have whole := congrArg List.length split
  rw [String.length_toList, List.length_append] at whole
  dsimp only at counted
  omega

/-- A reference without a symbol in the value of an action is reported at the number sign that opens
it, within that one action. -/
theorem nameless_reference_points_at_its_sign :
    parse "a#[k:b##]x#" = .error ⟨.emptySymbolName, 6, "a#[k:b##]x#"⟩ ∧
      ∃ before rest, "a#[k:b##]x#".toList = before ++ rest ∧ 6 = before.length ∧
        FaultStands before rest .emptySymbolName := by
  have failed : parse "a#[k:b##]x#" = .error ⟨.emptySymbolName, 6, "a#[k:b##]x#"⟩ := rfl
  exact ⟨failed, (errors_point_at_their_cause failed).2.2⟩

end StoryGrammar.Template
