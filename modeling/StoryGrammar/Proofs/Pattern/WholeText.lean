import StoryGrammar.Template.Equality
import StoryGrammar.Proofs.Pattern.Anchoring
import StoryGrammar.Proofs.Pattern.Matching
import StoryGrammar.Proofs.Selection

set_option autoImplicit false

/-!
# Filters and whole texts

A filter whose text spells a pattern by itself selects by whole texts. A text that closes a group it
did not open spells no pattern, yet it may be accepted as a filter, and then the ends of a text bind
only the alternatives they stand next to.
-/

namespace StoryGrammar

namespace Pattern

theorem atTextStart_iff {text : List Char} {place : Nat} (inside : place ≤ text.length) :
    Assertion.textStart.holdsBetween (characterBefore text place) text[place]? = true ↔
      place = 0 := by
  cases place with
  | zero => exact iff_of_true rfl rfl
  | succ place =>
      have present : characterBefore text (place + 1) = some text[place] :=
        List.getElem?_eq_getElem inside
      rw [present]
      exact iff_of_false Bool.false_ne_true (Nat.succ_ne_zero place)

theorem atTextEnd_iff {text : List Char} {place : Nat} (inside : place ≤ text.length) :
    Assertion.textEnd.holdsBetween (characterBefore text place) text[place]? = true ↔
      place = text.length := by
  rw [Assertion.holdsBetween, Option.isNone_iff_eq_none, List.getElem?_eq_none_iff]
  exact ⟨Nat.le_antisymm inside, Nat.le_of_eq ∘ Eq.symm⟩

/-- A pattern between the two ends of a text occurs where a match of it spans the whole text. -/
theorem occursIn_between_ends_iff (pattern : Pattern) (text : String) :
    (Pattern.concatenation (.holds .textStart)
        (.concatenation pattern (.holds .textEnd))).occursIn text = true ↔
      Spans text.toList pattern 0 text.toList.length := by
  rw [occursIn_iff]
  simp only [spans_concatenation_iff, spans_holds_iff]
  constructor
  · rintro ⟨start, stop, inside, _, ⟨rfl, begun⟩, _, spans, rfl, ended⟩
    rw [atTextStart_iff (Nat.le_trans spans.le inside)] at begun
    rw [atTextEnd_iff inside] at ended
    rwa [begun, ended] at spans
  · intro spans
    exact ⟨0, _, Nat.le_refl _, 0, ⟨rfl, rfl⟩, _, spans, rfl,
      (atTextEnd_iff (Nat.le_refl _)).mpr rfl⟩

end Pattern

theorem Filter.accepts_iff {filter : Filter} {pattern : Pattern}
    (parsed : Pattern.parse? filter.pattern = some pattern) (text : String) :
    filter.accepts text = true ↔ Pattern.Spans text.toList pattern 0 text.toList.length := by
  rw [Filter.accepts, Pattern.parse?_anchored parsed filter.spelled,
    Pattern.occursIn_between_ends_iff]

/-- A filter whose text spells a pattern by itself accepts a text exactly where some match of the
pattern spans the whole text. So every production that is drawn through it is one of the rule, and
all of its source is in the language of the pattern. -/
theorem filters_select_whole_texts :
    ∀ (filter : Filter) pattern, Pattern.parse? filter.pattern = some pattern →
      (∀ text, filter.accepts text = true ↔
        Pattern.Spans text.toList pattern 0 text.toList.length) ∧
      ∀ (rule : Rule) generator production left,
        (rule.draw (some filter)).run generator = some (.ok (some production), left) →
        production ∈ rule.productions ∧
          Pattern.Spans production.source.toList pattern 0 production.source.toList.length := by
  intro filter pattern parsed
  refine ⟨filter.accepts_iff parsed, fun rule generator production left drawn => ?_⟩
  obtain ⟨listed, accepted⟩ := List.mem_filter.mp (Rule.mem_candidates_of_draw drawn)
  exact ⟨listed, (filter.accepts_iff parsed _).mp accepted⟩

/-- Alternatives stand together between the two ends: with `a|b` a production `ax` is passed over
and `b` is drawn. -/
theorem alternatives_anchored_together :
    ∃ (filter : Filter) (pattern : Pattern), filter.pattern = "a|b" ∧
      Pattern.parse? "a|b" = some pattern ∧ ¬Pattern.Spans ['a', 'x'] pattern 0 2 ∧
      (Rule.draw ⟨[.ofLiteral "ax", .ofLiteral "b"]⟩ (some filter)).run (.listed [0]) =
        some (.ok (some (.ofLiteral "b")), .listed []) ∧
      Pattern.Spans ['b'] pattern 0 1 := by
  have parsed : Pattern.parse? "a|b" =
      some (.alternation (.oneOf (.single 'a')) (.oneOf (.single 'b'))) := by decide +kernel
  have spelled : Pattern.parse? (Filter.anchored "a|b") = some
      (.concatenation (.holds .textStart) (.concatenation
        (.alternation (.oneOf (.single 'a')) (.oneOf (.single 'b'))) (.holds .textEnd))) := by
    decide +kernel
  obtain ⟨accepts_iff, selects⟩ := filters_select_whole_texts ⟨"a|b", _, spelled⟩ _ parsed
  have drawn : (Rule.draw ⟨[.ofLiteral "ax", .ofLiteral "b"]⟩ (some ⟨"a|b", _, spelled⟩)).run
      (.listed [0]) = some (.ok (some (.ofLiteral "b")), .listed []) := by
    change (Rule.choose [.ofLiteral "b"]).run (.listed [0]) = _
    unfold Rule.choose
    rw [if_neg (by decide), if_pos (by decide), run_draw_return, Random.below64,
      Random.Generator.firstAccepted]
    rfl
  refine ⟨⟨"a|b", _, spelled⟩, _, rfl, parsed, ?_, drawn, (selects _ _ _ _ drawn).2⟩
  exact mt (accepts_iff "ax").mpr Bool.false_ne_true

/-- With a parenthesis of its own that closes the group around it, a text is accepted although it
spells no pattern, and each end of the text binds one alternative. -/
theorem anchored_stray_parenthesis :
    Pattern.parse? (Filter.anchored "a)|(?:b") = some
      (.alternation (.concatenation (.holds .textStart) (.oneOf (.single 'a')))
        (.concatenation (.oneOf (.single 'b')) (.holds .textEnd))) := by
  decide +kernel

/-- A filter in a template need not spell a pattern, and may accept a text for its beginning. -/
theorem stray_parenthesis_escapes_anchors :
    ∃ filter : Filter,
      Template.parse "#x{a)|(?:b}#" = .ok [.reference [] "x" (some filter) []] ∧
      Pattern.parse? filter.pattern = none ∧ filter.accepts "ax" = true := by
  have read : (Template.parse "#x{a)|(?:b}#").toOption =
      some [.reference [] "x" (some ⟨"a)|(?:b", _, anchored_stray_parenthesis⟩) []] := by
    decide +kernel
  refine ⟨⟨"a)|(?:b", _, anchored_stray_parenthesis⟩, ?_, by rfl, by rfl⟩
  cases outcome : Template.parse "#x{a)|(?:b}#" with
  | error error => rw [outcome] at read; cases read
  | ok template => rw [outcome] at read; cases read; rfl

end StoryGrammar
