import Mathlib.Data.List.Forall2
import StoryGrammar.Proofs.Template.Explaining

set_option autoImplicit false

/-!
# Texts one after another

Where the text before a character ends a template, the character is read as if it came first, so a
text that follows it is read as on its own. What differs is the sequence that the nodes are added
to, which no step looks into, and the offsets, by the number of characters before.
-/

namespace StoryGrammar.Template

/-! ## Readings of the same text -/

/-- A reference that is read `count` characters later. Of its actions, only their presence matters
to what follows. -/
structure OpenReference.Displaced (count : Nat) (first second : OpenReference) : Prop where
  offset : second.offset = first.offset + count
  acting : first.actions = [] ↔ second.actions = []
  symbol : second.symbol = first.symbol
  filter : second.filter = first.filter
  modifiers : second.modifiers = first.modifiers

def OpenAction.Displaced (count : Nat) (first second : OpenAction) : Prop :=
  first.reference.Displaced count second.reference

/-- The same construct `count` characters later. -/
inductive Focus.Displaced (count : Nat) : Focus → Focus → Prop where
  | text {sequence other : OpenSequence} : Displaced count (.text sequence) (.text other)
  | textEscape {sequence other : OpenSequence} :
      Displaced count (.textEscape sequence) (.textEscape other)
  | valueStart : Displaced count .valueStart .valueStart
  | actions {reference other : OpenReference} :
      reference.Displaced count other → Displaced count (.actions reference) (.actions other)
  | symbol {reference other : OpenReference} {characters : List Char} :
      reference.Displaced count other →
      Displaced count (.symbol reference characters) (.symbol other characters)
  | filter {reference other : OpenReference} {offset : Nat} {characters : List Char} :
      reference.Displaced count other →
      Displaced count (.filter reference offset characters)
        (.filter other (offset + count) characters)
  | filterEscape {reference other : OpenReference} {offset : Nat} {characters : List Char} :
      reference.Displaced count other →
      Displaced count (.filterEscape reference offset characters)
        (.filterEscape other (offset + count) characters)
  | suffix {reference other : OpenReference} :
      reference.Displaced count other → Displaced count (.suffix reference) (.suffix other)
  | modifier {reference other : OpenReference} {characters : List Char} :
      reference.Displaced count other →
      Displaced count (.modifier reference characters) (.modifier other characters)
  | arguments {reference other : OpenReference} {name : String} {finished : List String}
      {characters : List Char} :
      reference.Displaced count other →
      Displaced count (.arguments reference name finished characters)
        (.arguments other name finished characters)
  | argumentEscape {reference other : OpenReference} {name : String} {finished : List String}
      {characters : List Char} :
      reference.Displaced count other →
      Displaced count (.argumentEscape reference name finished characters)
        (.argumentEscape other name finished characters)
  | actionStart {reference other : OpenReference} :
      reference.Displaced count other →
      Displaced count (.actionStart reference) (.actionStart other)
  | key {reference other : OpenReference} {reset : Bool} {characters : List Char} :
      reference.Displaced count other →
      Displaced count (.key reference reset characters) (.key other reset characters)

structure Reading.Displaced (count : Nat) (first second : Reading) : Prop where
  focus : first.focus.Displaced count second.focus
  enclosing : List.Forall₂ (OpenAction.Displaced count) first.enclosing second.enclosing

/-- Both go on alike, or both fail for the same reason, `count` characters apart. -/
inductive DisplacedOutcome (count : Nat) :
    Except Failure Reading → Except Failure Reading → Prop where
  | ok {first second : Reading} :
      first.Displaced count second → DisplacedOutcome count (.ok first) (.ok second)
  | error (fault : TemplateFault) (offset : Nat) :
      DisplacedOutcome count (.error (fault, offset)) (.error (fault, offset + count))

/-! ## One more character -/

section step

variable {count offset : Nat} {reference other : OpenReference} {enclosing around : List OpenAction}
  {characters : List Char} {character : Char}

theorem OpenReference.Displaced.node?_isSome (displaced : reference.Displaced count other) :
    other.node?.isSome = reference.node?.isSome := by
  obtain ⟨offset, outer, actions, symbol, filter, modifiers⟩ := reference
  obtain ⟨offset', outer', actions', symbol', filter', modifiers'⟩ := other
  obtain ⟨-, acting, rfl, rfl, rfl⟩ := displaced
  cases symbol' with
  | some symbol => rfl
  | none =>
      cases actions with
      | nil =>
          cases acting.mp rfl
          rfl
      | cons action actions =>
          cases actions' with
          | nil => cases acting.mpr rfl
          | cons action' actions' => cases filter' <;> cases modifiers' <;> rfl

theorem OpenReference.Displaced.modified (displaced : reference.Displaced count other)
    (modifier : AppliedModifier) :
    OpenReference.Displaced count
      { reference with modifiers := modifier :: reference.modifiers }
      { other with modifiers := modifier :: other.modifiers } :=
  { displaced with modifiers := congrArg (modifier :: ·) displaced.modifiers }

theorem displaced_closeReference (displaced : reference.Displaced count other)
    (nested : List.Forall₂ (OpenAction.Displaced count) enclosing around) :
    DisplacedOutcome count (closeReference reference enclosing) (closeReference other around) := by
  have made := displaced.node?_isSome
  unfold closeReference
  cases first : reference.node? with
  | none =>
      rw [first, Option.isSome_none, Option.isSome_eq_false_iff, Option.isNone_iff_eq_none] at made
      rw [made, displaced.offset]
      exact .error _ _
  | some node =>
      rw [first, Option.isSome_some, Option.isSome_iff_exists] at made
      obtain ⟨second, made⟩ := made
      rw [made]
      exact .ok ⟨.text, nested⟩

theorem displaced_stepSuffix (displaced : reference.Displaced count other)
    (nested : List.Forall₂ (OpenAction.Displaced count) enclosing around) :
    DisplacedOutcome count (stepSuffix reference enclosing offset character)
      (stepSuffix other around (offset + count) character) := by
  unfold stepSuffix
  split
  · exact .ok ⟨.modifier displaced, nested⟩
  · split
    · exact displaced_closeReference displaced nested
    · exact .error _ _

theorem displaced_stepSymbol (displaced : reference.Displaced count other)
    (nested : List.Forall₂ (OpenAction.Displaced count) enclosing around) :
    DisplacedOutcome count (stepSymbol reference characters enclosing offset character)
      (stepSymbol other characters around (offset + count) character) := by
  unfold stepSymbol
  split
  · have named : OpenReference.Displaced count
        { reference with symbol := if characters.isEmpty then none else some (collected characters) }
        { other with symbol := if characters.isEmpty then none else some (collected characters) } :=
      { displaced with symbol := rfl }
    dsimp only
    split
    · exact .ok ⟨.filter named, nested⟩
    · exact displaced_stepSuffix named nested
  · exact .ok ⟨.symbol displaced, nested⟩

theorem displaced_stepKey {reset : Bool} (displaced : reference.Displaced count other)
    (nested : List.Forall₂ (OpenAction.Displaced count) enclosing around) :
    DisplacedOutcome count (stepKey reference reset characters enclosing offset character)
      (stepKey other reset characters around (offset + count) character) := by
  unfold stepKey
  split
  · exact .ok ⟨.key displaced, nested⟩
  · split
    · split
      · exact .error _ _
      · exact .ok ⟨.valueStart, .cons displaced nested⟩
    · split
      · exact .error _ _
      · exact .error _ _

theorem displaced_stepModifier (displaced : reference.Displaced count other)
    (nested : List.Forall₂ (OpenAction.Displaced count) enclosing around) :
    DisplacedOutcome count (stepModifier reference characters enclosing offset character)
      (stepModifier other characters around (offset + count) character) := by
  unfold stepModifier
  split
  · exact .ok ⟨.modifier displaced, nested⟩
  · split
    · exact .error _ _
    · split
      · exact .ok ⟨.arguments displaced, nested⟩
      · exact displaced_stepSuffix (displaced.modified _) nested

theorem displaced_stepText (sequence other : OpenSequence)
    (nested : List.Forall₂ (OpenAction.Displaced count) enclosing around) :
    DisplacedOutcome count (stepText sequence enclosing offset character)
      (stepText other around (offset + count) character) := by
  unfold stepText
  split
  · exact .ok ⟨.textEscape, nested⟩
  · split
    · exact .ok ⟨.actions ⟨rfl, Iff.rfl, rfl, rfl, rfl⟩, nested⟩
    · cases nested with
      | nil => exact .ok ⟨.text, .nil⟩
      | @cons action next enclosing around within nested =>
          dsimp only
          split
          · exact .ok ⟨.valueStart, .cons within nested⟩
          · split
            · refine .ok ⟨.actions ?_, nested⟩
              exact { within with acting := by simp }
            · exact .ok ⟨.text, .cons within nested⟩

theorem displaced_setOperator (operator : ValueOperator)
    (nested : List.Forall₂ (OpenAction.Displaced count) enclosing around) :
    List.Forall₂ (OpenAction.Displaced count) (setOperator operator enclosing)
      (setOperator operator around) := by
  cases nested with
  | nil => exact .nil
  | cons within nested => exact .cons within nested

theorem Reading.Displaced.step {first second : Reading} (displaced : first.Displaced count second)
    (offset : Nat) (character : Char) :
    DisplacedOutcome count (first.step offset character)
      (second.step (offset + count) character) := by
  obtain ⟨focus, enclosing⟩ := first
  obtain ⟨focus', around⟩ := second
  obtain ⟨same, nested⟩ := displaced
  dsimp only at same nested
  cases same with
  | text => exact displaced_stepText _ _ nested
  | textEscape => exact .ok ⟨.text, nested⟩
  | valueStart =>
      unfold Reading.step
      dsimp only
      split
      · exact .ok ⟨.text, displaced_setOperator .add nested⟩
      · split
        · exact .ok ⟨.text, displaced_setOperator .remove nested⟩
        · exact displaced_stepText _ _ nested
  | actions within =>
      unfold Reading.step
      dsimp only
      split
      · rw [nested.length_eq]
        split
        · exact .error _ _
        · exact .ok ⟨.actionStart within, nested⟩
      · exact displaced_stepSymbol within nested
  | symbol within => exact displaced_stepSymbol within nested
  | filter within =>
      unfold Reading.step
      dsimp only
      split
      · split
        · exact .ok ⟨.suffix { within with filter := rfl }, nested⟩
        · exact .error _ _
      · split
        · exact .ok ⟨.filterEscape within, nested⟩
        · exact .ok ⟨.filter within, nested⟩
  | filterEscape within => exact .ok ⟨.filter within, nested⟩
  | suffix within => exact displaced_stepSuffix within nested
  | modifier within => exact displaced_stepModifier within nested
  | arguments within =>
      unfold Reading.step
      dsimp only
      split
      · exact .ok ⟨.suffix (within.modified _), nested⟩
      · split
        · exact .ok ⟨.arguments within, nested⟩
        · split
          · exact .ok ⟨.argumentEscape within, nested⟩
          · exact .ok ⟨.arguments within, nested⟩
  | argumentEscape within => exact .ok ⟨.arguments within, nested⟩
  | actionStart within =>
      unfold Reading.step
      dsimp only
      split
      · exact .ok ⟨.key within, nested⟩
      · exact displaced_stepKey within nested
  | key within => exact displaced_stepKey within nested

end step

/-! ## Whole texts -/

theorem Reading.Displaced.run {count : Nat} {first second : Reading}
    (displaced : first.Displaced count second) (offset : Nat) (text : List Char) :
    DisplacedOutcome count (first.run offset text) (second.run (offset + count) text) := by
  induction text generalizing first second offset with
  | nil => exact .ok displaced
  | cons character rest ih =>
      have stepped := displaced.step offset character
      simp only [Reading.run]
      generalize first.step offset character = one at stepped ⊢
      generalize second.step (offset + count) character = another at stepped ⊢
      cases stepped with
      | error fault offset => exact .error fault offset
      | ok displaced =>
          have following := ih displaced (offset + 1)
          rwa [Nat.add_right_comm] at following

theorem Reading.Displaced.finish {count : Nat} {first second : Reading} {fault : TemplateFault}
    (displaced : first.Displaced count second) (finished : first.finish = .error fault) :
    second.finish = .error fault := by
  obtain ⟨focus, enclosing⟩ := first
  obtain ⟨focus', around⟩ := second
  obtain ⟨same, nested⟩ := displaced
  dsimp only at same nested
  cases same with
  | text =>
      cases nested with
      | nil => cases finished
      | cons within nested => exact finished
  | @modifier reference other characters within => cases characters <;> exact finished
  | _ => exact finished

theorem parse_append_ok {first second : String} {before after : Template}
    (read : parse first = .ok before) (following : parse second = .ok after) :
    parse (first ++ second) = .ok (join before after) := by
  obtain ⟨spelled, shallow⟩ := derives_of_parse read
  obtain ⟨others, shallow'⟩ := derives_of_parse following
  refine parse_of_derives ⟨?_, ?_⟩
  · rw [String.toList_append]
    exact spelled.append others
  · rw [nesting, nestingAmong_join]
    exact Nat.max_le.mpr ⟨shallow, shallow'⟩

theorem parse_append_error {first second : String} {before : Template} {error : TemplateError}
    (read : parse first = .ok before) (failed : parse second = .error error) :
    parse (first ++ second) =
      .error ⟨error.fault, error.offset + first.length, first ++ second⟩ := by
  obtain ⟨sequence, reached, -⟩ := parse_eq_ok_iff.mp read
  obtain ⟨-, failed⟩ := parse_eq_error_iff.mp failed
  have start : Reading.start.Displaced first.length ⟨.text sequence, []⟩ := ⟨.text, .nil⟩
  have displaced := start.run 0 second.toList
  have resumed : Reading.start.run 0 (first ++ second).toList =
      Reading.run ⟨.text sequence, []⟩ (0 + first.length) second.toList := by
    rw [String.toList_append, Reading.run_append, reached, Except.bind, String.length_toList]
  refine parse_eq_error_iff.mpr ⟨rfl, ?_⟩
  rw [resumed]
  generalize Reading.run ⟨.text sequence, []⟩ (0 + first.length) second.toList = later
    at displaced ⊢
  rcases failed with failed | ⟨reading, ended, missing, atEnd⟩
  · rw [failed] at displaced
    cases displaced
    exact .inl rfl
  · rw [ended] at displaced
    cases displaced with
    | @ok _ final displaced =>
        refine .inr ⟨final, rfl, displaced.finish missing, ?_⟩
        rw [String.length_append, atEnd, Nat.add_comm]

/-- An error that is not at the end is reported whatever follows the text. -/
theorem parse_append_of_error {first second : String} {error : TemplateError}
    (failed : parse first = .error error) (within : error.offset < first.length) :
    parse (first ++ second) = .error ⟨error.fault, error.offset, first ++ second⟩ := by
  obtain ⟨-, failed⟩ := parse_eq_error_iff.mp failed
  refine parse_eq_error_iff.mpr ⟨rfl, .inl ?_⟩
  rcases failed with failed | ⟨reading, ended, missing, atEnd⟩
  · rw [String.toList_append, Reading.run_append, failed]
    rfl
  · exact absurd atEnd (Nat.ne_of_lt within)

/-- Reading two texts one after another. Where the first is a template, what the second gives comes
after it: its nodes, with literals that meet made one, or its error, as many characters later. Where
the first fails before its end, it does so whatever the second is. -/
theorem reading_composes :
    (∀ (first second : String) (before after : Template),
      parse first = .ok before → parse second = .ok after →
      parse (first ++ second) = .ok (join before after)) ∧
    (∀ (first second : String) (before : Template) (error : TemplateError),
      parse first = .ok before → parse second = .error error →
      parse (first ++ second) =
        .error ⟨error.fault, error.offset + first.length, first ++ second⟩) ∧
    ∀ (first second : String) (error : TemplateError),
      parse first = .error error → error.offset < first.length →
      parse (first ++ second) = .error ⟨error.fault, error.offset, first ++ second⟩ := by
  refine ⟨?_, ?_, ?_⟩
  · intro first second before after read following
    exact parse_append_ok read following
  · intro first second before error read failed
    exact parse_append_error read failed
  · intro first second error failed within
    exact parse_append_of_error failed within

/-- Two templates whose literals meet, a template before an unfinished reference, and a misplaced
bracket before a template. -/
theorem texts_read_one_after_another :
    parse "a" = .ok [.literal "a"] ∧
    parse "b#c#" = .ok [.literal "b", .reference [] "c" none []] ∧
    parse ("a" ++ "b#c#") = .ok [.literal "ab", .reference [] "c" none []] ∧
    parse "#c" = .error ⟨.unterminatedReference, 2, "#c"⟩ ∧
    parse ("a" ++ "#c") = .error ⟨.unterminatedReference, 3, "a" ++ "#c"⟩ ∧
    parse "#]x" = .error ⟨.unexpectedCharacter ']', 1, "#]x"⟩ ∧
    parse ("#]x" ++ "a") = .error ⟨.unexpectedCharacter ']', 1, "#]x" ++ "a"⟩ := by
  obtain ⟨joined, later, kept⟩ := reading_composes
  have literal : parse "a" = .ok [.literal "a"] := rfl
  have reference : parse "b#c#" = .ok [.literal "b", .reference [] "c" none []] := rfl
  have unfinished : parse "#c" = .error ⟨.unterminatedReference, 2, "#c"⟩ := rfl
  have misplaced : parse "#]x" = .error ⟨.unexpectedCharacter ']', 1, "#]x"⟩ := rfl
  exact ⟨literal, reference, joined _ _ _ _ literal reference, unfinished,
    later _ _ _ _ literal unfinished, misplaced, kept _ _ _ misplaced (by decide)⟩

end StoryGrammar.Template
