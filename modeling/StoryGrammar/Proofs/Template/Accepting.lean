import StoryGrammar.Proofs.Template.Language

set_option autoImplicit false

/-!
# Every template that a text spells is read

One lemma for each rule of the language says where reading a text that the rule admits leads.
-/

namespace StoryGrammar.Template

/-- Reading a text leads from one reading to another, wherever the text begins. -/
def Reading.Reaches (reading : Reading) (text : List Char) (final : Reading) : Prop :=
  ∀ offset, reading.run offset text = .ok final

namespace Reading.Reaches

variable {reading other next final : Reading} {character : Char} {text : List Char}

theorem nil : reading.Reaches [] reading :=
  fun _ => rfl

theorem of_step (stepped : ∀ offset, ∃ next, reading.step offset character = .ok next ∧
    next.Reaches text final) : reading.Reaches (character :: text) final := by
  intro offset
  obtain ⟨next, reached, following⟩ := stepped offset
  rw [Reading.run, reached]
  exact following (offset + 1)

theorem step (following : next.Reaches text final)
    (stepped : ∀ offset, reading.step offset character = .ok next) :
    reading.Reaches (character :: text) final :=
  of_step fun offset => ⟨next, stepped offset, following⟩

/-- Two readings that the next character leads to the same place are equally good. -/
theorem likewise (following : other.Reaches (character :: text) final)
    (same : ∀ offset, reading.step offset character = other.step offset character) :
    reading.Reaches (character :: text) final := by
  intro offset
  have reached := following offset
  rw [Reading.run] at reached ⊢
  rw [same]
  exact reached

end Reading.Reaches

/-! ## Names, filters and modifiers -/

/-- A name is collected character by character, whatever it names. -/
theorem reaches_name {focus : List Char → Focus} {enclosing : List OpenAction} {name : List Char}
    (unreserved : ∀ character ∈ name, isReserved character = false)
    (collects : ∀ characters character offset, isReserved character = false →
      Reading.step ⟨focus characters, enclosing⟩ offset character =
        .ok ⟨focus (character :: characters), enclosing⟩)
    {characters rest : List Char} {final : Reading}
    (following : Reading.Reaches ⟨focus (name.reverse ++ characters), enclosing⟩ rest final) :
    Reading.Reaches ⟨focus characters, enclosing⟩ (name ++ rest) final := by
  induction name generalizing characters with
  | nil => exact following
  | cons character name ih =>
      have remaining : Reading.Reaches ⟨focus (character :: characters), enclosing⟩ (name ++ rest)
          final :=
        ih (fun other member => unreserved other (.tail _ member)) (by simpa using following)
      exact remaining.step fun offset => collects _ _ _ (unreserved _ (.head _))

theorem IsName.reverse_ne_nil {name : String} (named : IsName name) :
    name.toList.reverse.isEmpty = false := by
  have characters : name.toList ≠ [] := fun none => named.1 (String.toList_eq_nil_iff.mp none)
  simp [characters]

theorem collected_reverse (name : String) : collected name.toList.reverse = name := by
  simp [collected]

theorem IsPattern.reaches {text : List Char} (pattern : IsPattern text)
    {reference : OpenReference} {start : Nat} {enclosing : List OpenAction}
    {characters rest : List Char} {final : Reading}
    (following : Reading.Reaches ⟨.filter reference start (text.reverse ++ characters), enclosing⟩
      rest final) :
    Reading.Reaches ⟨.filter reference start characters, enclosing⟩ (text ++ rest) final := by
  induction pattern generalizing characters with
  | nil => exact following
  | @character character text closing escape _ ih =>
      have remaining : Reading.Reaches
          ⟨.filter reference start (character :: characters), enclosing⟩ (text ++ rest) final :=
        ih (by simpa using following)
      refine remaining.step fun offset => ?_
      simp [Reading.step, closing, escape]
  | @escape character text _ ih =>
      have remaining : Reading.Reaches
          ⟨.filter reference start (character :: '\\' :: characters), enclosing⟩ (text ++ rest)
          final :=
        ih (by simpa using following)
      exact (remaining.step fun offset => rfl).step fun offset => rfl

/-- What may follow a symbol with its filter. -/
def EndsName (text : List Char) : Prop :=
  ∃ character rest, text = character :: rest ∧ (character = '.' ∨ character = '#')

theorem SpellsFilter.reaches {text : List Char} {filter : Option Filter}
    (spelled : SpellsFilter text filter) {reference : OpenReference} {symbol : String}
    (named : IsName symbol) (unfiltered : reference.filter = none) {enclosing : List OpenAction}
    {rest : List Char} {final : Reading} (ends : EndsName rest)
    (following : Reading.Reaches
      ⟨.suffix { reference with symbol := some symbol, filter }, enclosing⟩ rest final) :
    Reading.Reaches ⟨.symbol reference symbol.toList.reverse, enclosing⟩ (text ++ rest) final := by
  cases spelled with
  | absent =>
      obtain ⟨character, rest, rfl, ending⟩ := ends
      have same : ({ reference with symbol := some symbol, filter := none } : OpenReference) =
          { reference with symbol := some symbol } := by rw [← unfiltered]
      rw [same] at following
      refine following.likewise fun offset => ?_
      have reserved : isReserved character = true := by rcases ending with rfl | rfl <;> rfl
      have other : character ≠ '{' := by rcases ending with rfl | rfl <;> decide
      simp [Reading.step, stepSymbol, reserved, other, named.reverse_ne_nil, collected_reverse]
  | @present pattern filter admitted compiled =>
      rw [List.cons_append, List.cons_append, List.append_assoc]
      refine .of_step fun offset => ⟨⟨.filter { reference with symbol := some symbol } offset [],
        enclosing⟩, ?_, ?_⟩
      · simp [Reading.step, stepSymbol, show isReserved '{' = true from rfl, named.reverse_ne_nil,
          collected_reverse]
      · refine admitted.reaches (following.step fun offset => ?_)
        simp [Reading.step, collected_reverse, compiled]

theorem SpellsArgument.reaches {text meant : List Char} (spelled : SpellsArgument text meant)
    {reference : OpenReference} {name : String} {finished : List String}
    {enclosing : List OpenAction} {characters rest : List Char} {final : Reading}
    (following : Reading.Reaches
      ⟨.arguments reference name finished (meant.reverse ++ characters), enclosing⟩ rest final) :
    Reading.Reaches ⟨.arguments reference name finished characters, enclosing⟩ (text ++ rest)
      final := by
  induction spelled generalizing characters with
  | nil => exact following
  | @character character text meant escape separator closing _ ih =>
      have remaining : Reading.Reaches
          ⟨.arguments reference name finished (character :: characters), enclosing⟩ (text ++ rest)
          final :=
        ih (by simpa using following)
      refine remaining.step fun offset => ?_
      simp [Reading.step, escape, separator, closing]
  | @escape character text meant _ ih =>
      have remaining : Reading.Reaches
          ⟨.arguments reference name finished (character :: characters), enclosing⟩ (text ++ rest)
          final :=
        ih (by simpa using following)
      exact (remaining.step fun offset => rfl).step fun offset => rfl

theorem closeArguments_eq (finished : List String) (meant : List Char) :
    closeArguments finished meant.reverse =
      if finished.reverse ++ [String.ofList (Text.trim meant)] = [""] then []
      else finished.reverse ++ [String.ofList (Text.trim meant)] := by
  cases finished with
  | nil => simp [closeArguments, argument]
  | cons last finished =>
      have several : (finished.reverse ++ [last]) ++ [String.ofList (Text.trim meant)] ≠ [""] := by
        intro single
        simpa using congrArg List.length single
      rw [List.reverse_cons, if_neg several]
      simp [closeArguments, argument]

theorem SpellsArguments.reaches {text : List Char} {arguments : List String}
    (spelled : SpellsArguments text arguments) {reference : OpenReference} {name : String}
    {finished : List String} {enclosing : List OpenAction} {rest : List Char} {final : Reading}
    (following : Reading.Reaches
      ⟨.suffix { reference with
          modifiers := ⟨name, if finished.reverse ++ arguments = [""] then []
            else finished.reverse ++ arguments⟩ :: reference.modifiers }, enclosing⟩ rest final) :
    Reading.Reaches ⟨.arguments reference name finished [], enclosing⟩ (text ++ ')' :: rest)
      final := by
  induction spelled generalizing finished with
  | @last text meant argument =>
      refine argument.reaches (following.step fun offset => ?_)
      simp only [List.append_nil, ← closeArguments_eq]
      rfl
  | @more text meant others arguments argument _ ih =>
      rw [List.append_assoc]
      refine argument.reaches ?_
      have remaining : Reading.Reaches
          ⟨.arguments reference name (String.ofList (Text.trim meant) :: finished) [], enclosing⟩
          (others ++ ')' :: rest) final :=
        ih (by simpa using following)
      refine remaining.step fun offset => ?_
      simp [Reading.step, Template.argument]

theorem SpellsModifier.reaches {text : List Char} {modifier : AppliedModifier}
    (spelled : SpellsModifier text modifier) {reference : OpenReference}
    {enclosing : List OpenAction} {rest : List Char} {final : Reading} (ends : EndsName rest)
    (following : Reading.Reaches
      ⟨.suffix { reference with modifiers := modifier :: reference.modifiers }, enclosing⟩ rest
      final) :
    Reading.Reaches ⟨.modifier reference [], enclosing⟩ (text ++ rest) final := by
  have collects : ∀ characters character offset, isReserved character = false →
      Reading.step ⟨.modifier reference characters, enclosing⟩ offset character =
        .ok ⟨.modifier reference (character :: characters), enclosing⟩ := by
    intro characters character offset unreserved
    simp [Reading.step, stepModifier, unreserved]
  cases spelled with
  | @plain name named =>
      refine reaches_name named.2 collects ?_
      obtain ⟨character, rest, rfl, ending⟩ := ends
      refine following.likewise fun offset => ?_
      have reserved : isReserved character = true := by rcases ending with rfl | rfl <;> rfl
      have other : character ≠ '(' := by rcases ending with rfl | rfl <;> decide
      simp [Reading.step, stepModifier, reserved, other, named.reverse_ne_nil, collected_reverse]
  | @applied name text arguments named given =>
      rw [List.append_assoc, List.cons_append, List.append_assoc]
      refine reaches_name named.2 collects ?_
      have remaining : Reading.Reaches ⟨.arguments reference name [] [], enclosing⟩
          (text ++ ')' :: rest) final :=
        given.reaches following
      refine remaining.step fun offset => ?_
      simp [Reading.step, stepModifier, show isReserved '(' = true from rfl, named.reverse_ne_nil,
        collected_reverse]

theorem SpellsModifiers.endsName {text : List Char} {modifiers : List AppliedModifier}
    (spelled : SpellsModifiers text modifiers) (rest : List Char) :
    EndsName (text ++ '#' :: rest) := by
  cases spelled with
  | nil => exact ⟨_, _, rfl, .inr rfl⟩
  | cons => exact ⟨_, _, rfl, .inl rfl⟩

theorem SpellsModifiers.reaches {text : List Char} {modifiers : List AppliedModifier}
    (spelled : SpellsModifiers text modifiers) {reference : OpenReference}
    {enclosing : List OpenAction} {rest : List Char} {final : Reading}
    (following : Reading.Reaches
      ⟨.suffix { reference with modifiers := modifiers.reverse ++ reference.modifiers }, enclosing⟩
      ('#' :: rest) final) :
    Reading.Reaches ⟨.suffix reference, enclosing⟩ (text ++ '#' :: rest) final := by
  induction spelled generalizing reference with
  | nil => exact following
  | @cons text others modifier modifiers applied more ih =>
      rw [List.cons_append, List.cons_append, List.append_assoc]
      have remaining : Reading.Reaches
          ⟨.suffix { reference with modifiers := modifier :: reference.modifiers }, enclosing⟩
          (others ++ '#' :: rest) final :=
        ih (by simpa using following)
      exact (applied.reaches (more.endsName rest) remaining).step fun offset => rfl

/-! ## Sequences under way -/

namespace OpenSequence

/-- The sequence after the nodes of a template have been read. -/
def absorb (sequence : OpenSequence) : Template → OpenSequence
  | [] => sequence
  | .literal text :: rest =>
      absorb { sequence with literal := text.toList.reverse ++ sequence.literal } rest
  | node :: rest => absorb (sequence.add node) rest

theorem absorb_prepend (sequence : OpenSequence) (character : Char) (template : Template) :
    sequence.absorb (prepend character template) = (sequence.push character).absorb template := by
  cases template with
  | nil => simp [prepend, absorb, push]
  | cons node rest =>
      cases node with
      | literal text => simp [prepend, absorb, push]
      | binding actions => simp [prepend, absorb, push]
      | reference actions symbol filter modifiers => simp [prepend, absorb, push]

theorem absorb_reference (sequence : OpenSequence) {text : List Char} {node : Node}
    (spelled : SpellsReference text node) (template : Template) :
    sequence.absorb (node :: template) = (sequence.add node).absorb template := by
  cases spelled <;> rfl

end OpenSequence

/-- A sequence that has absorbed a merged template is closed with the nodes of that template, after
those it had. -/
theorem OpenSequence.close_absorb {template : Template} (merged : Merged template)
    (sequence : OpenSequence) (apart : sequence.literal = [] ∨ ¬ StartsWithLiteral template) :
    (sequence.absorb template).close = sequence.flushed.reverse ++ template := by
  induction template generalizing sequence with
  | nil => simp [absorb, close]
  | cons node rest ih =>
      cases node with
      | literal text =>
          have empty : sequence.literal = [] := apart.resolve_right fun holds => holds trivial
          have characters : text.toList.reverse ≠ [] := by
            simpa using merged.1
          rw [absorb, ih merged.2.2 _ (.inr merged.2.1)]
          cases reversed : text.toList.reverse with
          | nil => exact absurd reversed characters
          | cons first others =>
              have whole : String.ofList (first :: others).reverse = text := by
                rw [← reversed, List.reverse_reverse, String.ofList_toList]
              simp only [empty, List.append_nil, flushed, whole]
              simp
      | binding actions =>
          rw [absorb, ih merged _ (.inl rfl)]
          · simp [add, flushed]
          · simp
      | reference actions symbol filter modifiers =>
          rw [absorb, ih merged _ (.inl rfl)]
          · simp [add, flushed]
          · simp

/-! ## Sequences, references and actions -/

theorem stepText_plain {sequence : OpenSequence} {enclosing : List OpenAction} {offset : Nat}
    {character : Char} (plain : IsPlain (!enclosing.isEmpty) character) :
    stepText sequence enclosing offset character =
      .ok ⟨.text (sequence.push character), enclosing⟩ := by
  obtain ⟨escape, sign, inner⟩ := plain
  cases enclosing with
  | nil => simp [stepText, escape, sign]
  | cons action outer =>
      obtain ⟨separator, closing⟩ := inner rfl
      simp [stepText, escape, sign, separator, closing]

theorem SpellsSequence.close {inValue : Bool} {text : List Char} {template : Template}
    (spelled : SpellsSequence inValue text template) :
    (OpenSequence.start.absorb template).close = template :=
  OpenSequence.close_absorb spelled.merged .start (.inl rfl)

theorem SpellsValue.close {text : List Char} {value : ActionValue}
    (spelled : SpellsValue text value) :
    ActionValue.value value.operator (OpenSequence.start.absorb value.template).close = value := by
  cases spelled with
  | set spelled _ _ => exact congrArg (ActionValue.value .set) spelled.close
  | add spelled => exact congrArg (ActionValue.value .add) spelled.close
  | remove spelled => exact congrArg (ActionValue.value .remove) spelled.close

theorem node?_binding {actions : List Action} (acting : actions ≠ [])
    (offset : Nat) (outer : OpenSequence) :
    OpenReference.node? ⟨offset, outer, actions.reverse, none, none, []⟩ =
      some (.binding actions) := by
  unfold OpenReference.node?
  cases reversed : actions.reverse with
  | nil => exact absurd (List.reverse_eq_nil_iff.mp reversed) acting
  | cons => simp [← reversed]

/-- A symbol begins after the actions of its reference. -/
theorem IsName.reaches_symbol {symbol : String} (named : IsName symbol)
    {reference : OpenReference} {enclosing : List OpenAction} {rest : List Char} {final : Reading}
    (following : Reading.Reaches ⟨.symbol reference symbol.toList.reverse, enclosing⟩ rest final) :
    Reading.Reaches ⟨.actions reference, enclosing⟩ (symbol.toList ++ rest) final := by
  have remaining : Reading.Reaches ⟨.symbol reference [], enclosing⟩ (symbol.toList ++ rest)
      final := by
    refine reaches_name named.2 ?_ (by simpa using following)
    intro characters character offset unreserved
    simp [Reading.step, stepSymbol, unreserved]
  cases characters : symbol.toList with
  | nil => exact absurd (String.toList_eq_nil_iff.mp characters) named.1
  | cons character others =>
      rw [characters] at remaining
      have unreserved := named.2 character (characters ▸ .head _)
      have other : character ≠ '[' := by
        rintro rfl
        cases unreserved
      exact remaining.likewise fun offset => by simp [Reading.step, other]

/-- The key of an action begins after its bracket, or after the mark of a reset. -/
theorem IsName.reaches_key {key : String} (named : IsName key) {reference : OpenReference}
    {reset : Bool} {enclosing : List OpenAction} {rest : List Char} {final : Reading}
    (following : Reading.Reaches
      ⟨.valueStart, ⟨reference, reset, key, [], .set⟩ :: enclosing⟩ rest final) :
    Reading.Reaches ⟨.key reference reset [], enclosing⟩ (key.toList ++ ':' :: rest) final := by
  refine reaches_name named.2 ?_ (following.step fun offset => ?_)
  · intro characters character offset unreserved
    simp [Reading.step, stepKey, unreserved]
  · simp [Reading.step, stepKey, show isReserved ':' = true from rfl, named.reverse_ne_nil,
      collected_reverse]

/-! ## One lemma for each rule

What it means for a text to be read as what it spells: reading goes on behind the text with that
added to what was under way. -/

def SequenceReaches (inValue : Bool) (text : List Char) (template : Template) : Prop :=
  ∀ (sequence : OpenSequence) (enclosing : List OpenAction) (rest : List Char) (final : Reading),
    inValue = !enclosing.isEmpty →
    Node.nestingAmong template + enclosing.length ≤ nestingLimit →
    Reading.Reaches ⟨.text (sequence.absorb template), enclosing⟩ rest final →
    Reading.Reaches ⟨.text sequence, enclosing⟩ (text ++ rest) final

def ReferenceReaches (text : List Char) (node : Node) : Prop :=
  ∀ (sequence : OpenSequence) (enclosing : List OpenAction) (rest : List Char) (final : Reading),
    node.nesting + enclosing.length ≤ nestingLimit →
    Reading.Reaches ⟨.text (sequence.add node), enclosing⟩ rest final →
    Reading.Reaches ⟨.text sequence, enclosing⟩ (text ++ rest) final

def ActionsReach (text : List Char) (actions : List Action) : Prop :=
  ∀ (reference : OpenReference) (enclosing : List OpenAction) (rest : List Char) (final : Reading),
    Action.nestingAmong actions + enclosing.length ≤ nestingLimit →
    Reading.Reaches
      ⟨.actions { reference with actions := actions.reverse ++ reference.actions }, enclosing⟩
      rest final →
    Reading.Reaches ⟨.actions reference, enclosing⟩ (text ++ rest) final

/-- After its values comes the bracket that closes an action. -/
def ValuesReach (text : List Char) (values : List ActionValue) : Prop :=
  ∀ (action : OpenAction) (outer : List OpenAction) (rest : List Char) (final : Reading),
    action.operator = .set →
    ActionValue.nestingAmong values + (outer.length + 1) ≤ nestingLimit →
    Reading.Reaches
      ⟨.actions { action.reference with
          actions := .bind action.reset action.key (action.values.reverse ++ values) ::
            action.reference.actions }, outer⟩ rest final →
    Reading.Reaches ⟨.valueStart, action :: outer⟩ (text ++ ']' :: rest) final

/-- A value has been read up to the character that ends it. -/
def ValueReaches (text : List Char) (value : ActionValue) : Prop :=
  ∀ (action : OpenAction) (outer : List OpenAction) (finish : Char) (rest : List Char)
    (final : Reading), action.operator = .set →
    Node.nestingAmong value.template + (outer.length + 1) ≤ nestingLimit →
    finish = ',' ∨ finish = ']' →
    Reading.Reaches
      ⟨.text (OpenSequence.start.absorb value.template),
        { action with operator := value.operator } :: outer⟩ (finish :: rest) final →
    Reading.Reaches ⟨.valueStart, action :: outer⟩ (text ++ finish :: rest) final

theorem sequenceReaches_nil {inValue : Bool} : SequenceReaches inValue [] [] :=
  fun _ _ _ _ _ _ following => following

theorem sequenceReaches_character {inValue : Bool} {character : Char} {text : List Char}
    {template : Template} (plain : IsPlain inValue character)
    (spelled : SequenceReaches inValue text template) :
    SequenceReaches inValue (character :: text) (prepend character template) := by
  intro sequence enclosing rest final within shallow following
  rw [nestingAmong_prepend] at shallow
  rw [OpenSequence.absorb_prepend] at following
  have remaining := spelled _ _ _ _ within shallow following
  exact remaining.step fun offset => stepText_plain (within ▸ plain)

theorem sequenceReaches_escape {inValue : Bool} (character : Char) {text : List Char}
    {template : Template} (spelled : SequenceReaches inValue text template) :
    SequenceReaches inValue ('\\' :: character :: text) (prepend character template) := by
  intro sequence enclosing rest final within shallow following
  rw [nestingAmong_prepend] at shallow
  rw [OpenSequence.absorb_prepend] at following
  have remaining := spelled _ _ _ _ within shallow following
  exact (remaining.step fun offset => rfl).step fun offset => rfl

theorem sequenceReaches_reference {inValue : Bool} {text rest : List Char} {node : Node}
    {template : Template} (spelled : SpellsReference text node)
    (first : ReferenceReaches text node) (others : SequenceReaches inValue rest template) :
    SequenceReaches inValue (text ++ rest) (node :: template) := by
  intro sequence enclosing rest final within shallow following
  simp only [Node.nestingAmong] at shallow
  rw [OpenSequence.absorb_reference _ spelled] at following
  rw [List.append_assoc]
  exact first _ _ _ _ (by omega) (others _ _ _ _ within (by omega) following)

theorem referenceReaches_binding {text : List Char} {actions : List Action}
    (spelled : ActionsReach text actions) (acting : actions ≠ []) :
    ReferenceReaches ('#' :: text ++ ['#']) (.binding actions) := by
  intro sequence enclosing rest final shallow following
  rw [List.cons_append, List.cons_append, List.append_assoc]
  refine .of_step fun offset => ⟨⟨.actions (.start offset sequence), enclosing⟩, rfl, ?_⟩
  refine spelled _ _ _ _ shallow (following.step fun offset => ?_)
  simp [Reading.step, stepSymbol, show isReserved '#' = true from rfl, stepSuffix,
    closeReference, OpenReference.start, node?_binding acting]

theorem referenceReaches_symbol {actionsText filterText modifiersText : List Char}
    {actions : List Action} {symbol : String} {filter : Option Filter}
    {modifiers : List AppliedModifier} (spelled : ActionsReach actionsText actions)
    (named : IsName symbol) (filtered : SpellsFilter filterText filter)
    (modified : SpellsModifiers modifiersText modifiers) :
    ReferenceReaches
      ('#' :: actionsText ++ symbol.toList ++ filterText ++ modifiersText ++ ['#'])
      (.reference actions symbol filter modifiers) := by
  intro sequence enclosing rest final shallow following
  simp only [List.cons_append, List.append_assoc]
  refine .of_step fun offset => ⟨⟨.actions (.start offset sequence), enclosing⟩, rfl, ?_⟩
  refine spelled _ _ _ _ shallow (named.reaches_symbol ?_)
  refine filtered.reaches named rfl (modified.endsName rest) (modified.reaches ?_)
  refine following.step fun offset => ?_
  simp [Reading.step, stepSuffix, closeReference, OpenReference.start, OpenReference.node?]

theorem actionsReach_nil : ActionsReach [] [] :=
  fun _ _ _ _ _ following => following

theorem actionsReach_cons {text rest : List Char} {action : Action} {actions : List Action}
    (first : ActionsReach text [action]) (others : ActionsReach rest actions) :
    ActionsReach (text ++ rest) (action :: actions) := by
  intro reference enclosing rest final shallow following
  cases action with
  | bind reset key values =>
      simp only [Action.nestingAmong] at shallow
      rw [List.append_assoc]
      refine first _ _ _ _ (by simp only [Action.nestingAmong]; omega) ?_
      exact others _ _ _ _ (by omega) (by simpa using following)

theorem step_bracket {reference : OpenReference} {enclosing : List OpenAction}
    (room : enclosing.length < nestingLimit) (offset : Nat) :
    Reading.step ⟨.actions reference, enclosing⟩ offset '[' =
      .ok ⟨.actionStart reference, enclosing⟩ := by
  simp [Reading.step, Nat.ne_of_lt room]

theorem actionsReach_plain {key : String} {text : List Char} {values : List ActionValue}
    (named : IsName key) (unmarked : key.toList.head? ≠ some '!')
    (spelled : ValuesReach text values) :
    ActionsReach ('[' :: key.toList ++ ':' :: text ++ [']']) [.bind false key values] := by
  intro reference enclosing rest final shallow following
  simp only [Action.nestingAmong] at shallow
  simp only [List.cons_append, List.append_assoc]
  have remaining := spelled ⟨reference, false, key, [], .set⟩ enclosing _ _ rfl (by omega) following
  refine Reading.Reaches.step ?_ (step_bracket (by omega))
  have keyed := named.reaches_key remaining
  cases characters : key.toList with
  | nil => exact absurd (String.toList_eq_nil_iff.mp characters) named.1
  | cons character others =>
      rw [characters] at keyed unmarked
      have other : character ≠ '!' := by simpa using unmarked
      exact keyed.likewise fun offset => by simp [Reading.step, other]

theorem actionsReach_reset {key : String} {text : List Char} {values : List ActionValue}
    (named : IsName key) (spelled : ValuesReach text values) :
    ActionsReach ('[' :: '!' :: key.toList ++ ':' :: text ++ [']']) [.bind true key values] := by
  intro reference enclosing rest final shallow following
  simp only [Action.nestingAmong] at shallow
  simp only [List.cons_append, List.append_assoc]
  have remaining := spelled ⟨reference, true, key, [], .set⟩ enclosing _ _ rfl (by omega) following
  refine Reading.Reaches.step ?_ (step_bracket (by omega))
  exact (named.reaches_key remaining).step fun offset => rfl

theorem valuesReach_last {text : List Char} {value : ActionValue}
    (spelled : SpellsValue text value) (reaches : ValueReaches text value) :
    ValuesReach text [value] := by
  intro action outer rest final unread shallow following
  cases value with
  | value operator template =>
      simp only [ActionValue.nestingAmong] at shallow
      have closed := spelled.close
      refine reaches _ _ _ _ _ unread (by simp only [ActionValue.template]; omega) (.inr rfl) ?_
      refine following.step fun offset => ?_
      simp [Reading.step, stepText, closed]

theorem valuesReach_more {text rest : List Char} {value : ActionValue}
    {values : List ActionValue} (spelled : SpellsValue text value)
    (first : ValueReaches text value) (others : ValuesReach rest values) :
    ValuesReach (text ++ ',' :: rest) (value :: values) := by
  intro action outer rest final unread shallow following
  cases value with
  | value operator template =>
      simp only [ActionValue.nestingAmong] at shallow
      have closed := spelled.close
      rw [List.append_assoc]
      refine first _ _ _ _ _ unread (by simp only [ActionValue.template]; omega) (.inl rfl) ?_
      have remaining := others
        { action with values := .value operator template :: action.values, operator := .set }
        outer rest final rfl (by omega) (by simpa using following)
      refine remaining.step fun offset => ?_
      simp [Reading.step, stepText, closed]

theorem valueReaches_set {text : List Char} {template : Template}
    (spelled : SequenceReaches true text template) (added : text.head? ≠ some '+')
    (removed : text.head? ≠ some '-') : ValueReaches text (.value .set template) := by
  intro action outer finish rest final unread shallow ending following
  have unchanged : { action with operator := .set } = action := by rw [← unread]
  simp only [ActionValue.operator, ActionValue.template, unchanged] at following
  have remaining := spelled .start (action :: outer) _ _ rfl shallow following
  cases text with
  | nil =>
      refine remaining.likewise fun offset => ?_
      rcases ending with rfl | rfl <;> rfl
  | cons character text =>
      have unadded : character ≠ '+' := by simpa using added
      have unremoved : character ≠ '-' := by simpa using removed
      exact remaining.likewise fun offset => by simp [Reading.step, unadded, unremoved]

theorem valueReaches_edit {operator : ValueOperator} {text : List Char} {template : Template}
    (edits : operator ≠ .set) (spelled : SequenceReaches true text template) :
    ValueReaches (sign operator ++ text) (.value operator template) := by
  intro action outer finish rest final unread shallow ending following
  have remaining := spelled .start ({ action with operator } :: outer) _ _ rfl shallow following
  cases operator with
  | set => exact absurd rfl edits
  | add => exact remaining.step fun offset => rfl
  | remove => exact remaining.step fun offset => rfl

/-! ## Whole texts -/

mutual

theorem SpellsSequence.reaches {inValue : Bool} {text : List Char} {template : Template} :
    SpellsSequence inValue text template → SequenceReaches inValue text template
  | .nil => sequenceReaches_nil
  | .character plain spelled => sequenceReaches_character plain spelled.reaches
  | .escape spelled => sequenceReaches_escape _ spelled.reaches
  | .reference first others => sequenceReaches_reference first first.reaches others.reaches

theorem SpellsReference.reaches {text : List Char} {node : Node} :
    SpellsReference text node → ReferenceReaches text node
  | .binding spelled acting => referenceReaches_binding spelled.reaches acting
  | .reference spelled named filtered modified =>
      referenceReaches_symbol spelled.reaches named filtered modified

theorem SpellsActions.reaches {text : List Char} {actions : List Action} :
    SpellsActions text actions → ActionsReach text actions
  | .nil => actionsReach_nil
  | .cons first others => actionsReach_cons first.reaches others.reaches

theorem SpellsAction.reaches {text : List Char} {action : Action} :
    SpellsAction text action → ActionsReach text [action]
  | .plain named unmarked spelled => actionsReach_plain named unmarked spelled.reaches
  | .reset named spelled => actionsReach_reset named spelled.reaches

theorem SpellsValues.reaches {text : List Char} {values : List ActionValue} :
    SpellsValues text values → ValuesReach text values
  | .last spelled => valuesReach_last spelled spelled.reaches
  | .more first others => valuesReach_more first first.reaches others.reaches

theorem SpellsValue.reaches {text : List Char} {value : ActionValue} :
    SpellsValue text value → ValueReaches text value
  | .set spelled added removed => valueReaches_set spelled.reaches added removed
  | .add spelled => valueReaches_edit (by decide) spelled.reaches
  | .remove spelled => valueReaches_edit (by decide) spelled.reaches

end

/-! ## Whole texts -/

theorem parse_eq_ok_iff {text : String} {template : Template} :
    parse text = .ok template ↔
      ∃ sequence, Reading.start.run 0 text.toList = .ok ⟨.text sequence, []⟩ ∧
        sequence.close = template := by
  unfold parse parseCharacters
  constructor
  · intro parsed
    cases reached : Reading.start.run 0 text.toList with
    | error failure =>
        rw [reached] at parsed
        cases parsed
    | ok reading =>
        obtain ⟨focus, enclosing⟩ := reading
        simp only [reached] at parsed
        cases focus with
        | text sequence =>
            cases enclosing with
            | nil =>
                cases parsed
                exact ⟨sequence, rfl, rfl⟩
            | cons action outer => cases parsed
        | modifier reference characters => cases characters <;> cases parsed
        | _ => cases parsed
  · rintro ⟨sequence, reached, rfl⟩
    rw [reached]
    rfl

/-- Reading fails at some character, or something is missing at the end. -/
theorem parse_eq_error_iff {text : String} {error : TemplateError} :
    parse text = .error error ↔
      error.template = text ∧
        (Reading.start.run 0 text.toList = .error (error.fault, error.offset) ∨
          ∃ reading, Reading.start.run 0 text.toList = .ok reading ∧
            reading.finish = .error error.fault ∧ error.offset = text.length) := by
  obtain ⟨fault, offset, template⟩ := error
  unfold parse parseCharacters
  cases reached : Reading.start.run 0 text.toList with
  | error failure =>
      change Except.error (TemplateError.mk failure.1 failure.2 text) = .error _ ↔ _
      grind
  | ok reading =>
      dsimp only
      cases finished : reading.finish with
      | ok result =>
          change Except.ok result = .error _ ↔ _
          grind
      | error fault' =>
          change Except.error (TemplateError.mk fault' text.length text) = .error _ ↔ _
          grind

theorem parse_of_derives {text : String} {template : Template} (derived : Derives text template) :
    parse text = .ok template := by
  obtain ⟨spelled, shallow⟩ := derived
  have reached := spelled.reaches .start [] [] _ rfl shallow .nil 0
  rw [List.append_nil] at reached
  exact parse_eq_ok_iff.mpr ⟨_, reached, spelled.close⟩

end StoryGrammar.Template
