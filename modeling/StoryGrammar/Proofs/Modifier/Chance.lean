import Mathlib.Data.Nat.Digits.Defs
import StoryGrammar.Modifier
import StoryGrammar.Proofs.Rejection
import StoryGrammar.Proofs.Simulation

set_option autoImplicit false

/-!
# Texts kept by chance

The percentage that a text is kept with is read from at most one argument, however many digits it
is written with. A percentage is exact: of all the words that are accepted, as many hundredths keep
the text, and the first accepted word decides.
-/

namespace StoryGrammar

/-! ## Written numbers -/

namespace Text

/-- Decimal digits, at least one of them. -/
structure Numeral (digits : List Char) : Prop where
  inhabited : digits ≠ []
  decimal : ∀ digit ∈ digits, digit.isDigit = true

/-- What decimal digits stand for, the last one being the lowest. -/
def numeralValue (digits : List Char) : Nat :=
  Nat.ofDigits 10 (digits.reverse.map fun digit => digit.toNat - '0'.toNat)

/-- The characters are a numeral after an optional plus sign. -/
inductive Spells : List Char → Nat → Prop where
  | unsigned {digits : List Char} : Numeral digits → Spells digits (numeralValue digits)
  | signed {digits : List Char} : Numeral digits → Spells ('+' :: digits) (numeralValue digits)

theorem digitsValue_eq_numeralValue (digits : List Char) :
    digitsValue digits = numeralValue digits := by
  induction digits using List.reverseRecOn with
  | nil => rfl
  | append_singleton digits digit ih =>
      have appended : digitsValue (digits ++ [digit]) =
          digitsValue digits * 10 + (digit.toNat - '0'.toNat) :=
        List.foldl_append
      rw [appended, ih, numeralValue, numeralValue, List.reverse_append, List.reverse_singleton,
        List.singleton_append, List.map_cons, Nat.ofDigits_cons, Nat.mul_comm, Nat.add_comm]

theorem numeral_iff {digits : List Char} :
    Numeral digits ↔ ¬(digits.isEmpty || !digits.all Char.isDigit) = true := by
  rw [Bool.not_eq_true, Bool.or_eq_false_iff, Bool.not_eq_false', List.all_eq_true,
    List.isEmpty_eq_false_iff]
  exact ⟨fun numeral => ⟨numeral.inhabited, numeral.decimal⟩,
    fun ⟨inhabited, decimal⟩ => ⟨inhabited, decimal⟩⟩

/-- The characters behind a plus sign, or all of them where there is none. -/
def withoutSign : List Char → List Char
  | '+' :: rest => rest
  | characters => characters

theorem Numeral.withoutSign {digits : List Char} (numeral : Numeral digits) :
    withoutSign digits = digits := by
  unfold Text.withoutSign
  split
  · rename_i rest
    exact absurd (numeral.decimal '+' (.head rest)) (by decide)
  · rfl

theorem spells_iff {characters : List Char} {value : Nat} :
    Spells characters value ↔
      Numeral (withoutSign characters) ∧ numeralValue (withoutSign characters) = value := by
  constructor
  · intro spelt
    cases spelt with
    | unsigned numeral =>
        rw [numeral.withoutSign]
        exact ⟨numeral, rfl⟩
    | signed numeral => exact ⟨numeral, rfl⟩
  · rintro ⟨numeral, rfl⟩
    unfold withoutSign at numeral ⊢
    split at numeral
    · exact .signed numeral
    · exact .unsigned numeral

/-- A numeral of any length is read, and nothing else. -/
theorem natural?_eq_some_iff {bound value : Nat} {text : String} :
    natural? bound text = some value ↔ Spells text.toList value ∧ value < bound := by
  have unfolded : natural? bound text =
      if (withoutSign text.toList).isEmpty || !(withoutSign text.toList).all Char.isDigit then none
      else if digitsValue (withoutSign text.toList) < bound then
        some (digitsValue (withoutSign text.toList))
      else none := rfl
  rw [unfolded, Option.ite_none_left_eq_some, Option.ite_none_right_eq_some, Option.some.injEq,
    ← numeral_iff, digitsValue_eq_numeralValue, spells_iff]
  constructor
  · rintro ⟨numeral, small, rfl⟩
    exact ⟨⟨numeral, rfl⟩, small⟩
  · rintro ⟨⟨numeral, rfl⟩, small⟩
    exact ⟨numeral, small, rfl⟩

end Text

namespace Modifier

/-! ## Percentages -/

/-- The arguments that say with how many chances in a hundred a text is kept. -/
inductive Percentage : List String → Nat → Prop where
  | unsaid : Percentage [] 50
  | said {argument : String} {percentage : Nat} :
      Text.Spells argument.toList percentage → percentage ≤ 100 → Percentage [argument] percentage

theorem Percentage.le {arguments : List String} {percentage : Nat}
    (given : Percentage arguments percentage) : percentage ≤ 100 := by
  cases given with
  | unsaid => decide
  | said _ bounded => exact bounded

/-- Numbers that a 32-bit word does not hold are no percentages anyway. -/
theorem percentage_singleton_iff {argument : String} {percentage : Nat} :
    Percentage [argument] percentage ↔
      Text.natural? UInt32.size argument = some percentage ∧ percentage ≤ 100 := by
  rw [Text.natural?_eq_some_iff]
  constructor
  · rintro (_ | ⟨spelt, bounded⟩)
    exact ⟨⟨spelt, Nat.lt_of_le_of_lt bounded (by decide)⟩, bounded⟩
  · rintro ⟨⟨spelt, -⟩, bounded⟩
    exact .said spelt bounded

theorem chance_eq_ok_iff {modifier : String} {arguments : List String} {percentage : Nat} :
    chance modifier arguments = .ok percentage ↔ Percentage arguments percentage := by
  match arguments with
  | [] =>
      constructor
      · rintro ⟨⟩
        exact .unsaid
      · rintro ⟨⟩
        rfl
  | [argument] =>
      rw [percentage_singleton_iff, chance]
      cases Text.natural? UInt32.size argument with
      | none => simp
      | some value =>
          by_cases bounded : value ≤ 100
          · simp only [if_pos bounded, Except.ok.injEq, Option.some.injEq]
            exact ⟨fun same => ⟨same, same ▸ bounded⟩, And.left⟩
          · simp only [if_neg bounded, reduceCtorEq, Option.some.injEq, false_iff]
            rintro ⟨rfl, small⟩
            exact bounded small
  | _ :: _ :: _ =>
      constructor
      · rintro ⟨⟩
      · rintro ⟨⟩

theorem chance_eq_error {modifier : String} {arguments : List String} {error : GrammarError}
    (refused : chance modifier arguments = .error error) :
    ∃ reason, error = .invalidModifierArgument modifier reason := by
  unfold chance at refused
  split at refused
  · cases refused
  · split at refused
    · split at refused
      · cases refused
      · cases refused
        exact ⟨_, rfl⟩
    · cases refused
      exact ⟨_, rfl⟩
  · cases refused
    exact ⟨_, rfl⟩

theorem exists_chance_eq_error {modifier : String} {arguments : List String}
    (unread : ∀ percentage, ¬Percentage arguments percentage) :
    ∃ reason, chance modifier arguments = .error (.invalidModifierArgument modifier reason) := by
  cases given : chance modifier arguments with
  | ok percentage => exact absurd (chance_eq_ok_iff.mp given) (unread percentage)
  | error error =>
      obtain ⟨reason, rfl⟩ := chance_eq_error given
      exact ⟨reason, rfl⟩

/-! ## Words -/

/-- Which hundredth a word falls to, unless the word is passed over. -/
def hundredth? (word : Nat) : Option Nat :=
  Random.choice? 32 100 (Random.uniformZone 32 100) word

/-- Whether a word keeps the text. -/
def keptBy? (percentage word : Nat) : Option Bool :=
  (hundredth? word).map fun hundredth => decide (hundredth < percentage)

def wordsDeciding (percentage : Nat) (kept : Bool) : Finset Nat :=
  (Finset.range UInt32.size).filter fun word => keptBy? percentage word = some kept

/-- The word is not passed over, whatever the percentage. -/
def Accepted (word : Nat) : Prop :=
  ∃ hundredth, hundredth? word = some hundredth

theorem keptBy?_eq_some_iff {percentage word : Nat} {kept : Bool} :
    keptBy? percentage word = some kept ↔
      ∃ hundredth, hundredth? word = some hundredth ∧ decide (hundredth < percentage) = kept :=
  Option.map_eq_some_iff

/-- Every hundredth has the same words. -/
theorem card_words_of_hundredths {hundredths : Finset Nat}
    (below : ∀ hundredth ∈ hundredths, hundredth < 100) :
    ((Finset.range (Nat.pow 2 32)).filter fun word =>
      ∃ hundredth ∈ hundredths, hundredth? word = some hundredth).card =
        hundredths.card * 2 ^ 25 :=
  Random.card_choice?_mem below (Random.uniformZone_succ (by decide))
    (@Random.uniformZone_fits 32 100 (by decide))

theorem card_wordsDeciding_true {percentage : Nat} (bounded : percentage ≤ 100) :
    (wordsDeciding percentage true).card = percentage * 2 ^ 25 := by
  have counted := @card_words_of_hundredths (Finset.range percentage) fun _ member =>
    Nat.lt_of_lt_of_le (Finset.mem_range.mp member) bounded
  rw [Finset.card_range] at counted
  rw [← counted]
  refine congrArg Finset.card (Finset.filter_congr fun word _ => ?_)
  simp only [keptBy?_eq_some_iff, decide_eq_true_eq, Finset.mem_range]
  exact exists_congr fun _ => and_comm

theorem card_wordsDeciding_false {percentage : Nat} :
    (wordsDeciding percentage false).card = (100 - percentage) * 2 ^ 25 := by
  have counted := @card_words_of_hundredths (Finset.Ico percentage 100) fun _ member =>
    (Finset.mem_Ico.mp member).2
  rw [Nat.card_Ico] at counted
  rw [← counted]
  refine congrArg Finset.card (Finset.filter_congr fun word member => ?_)
  have small : word < Nat.pow 2 32 := Finset.mem_range.mp member
  simp only [keptBy?_eq_some_iff, decide_eq_false_iff_not, Nat.not_lt, Finset.mem_Ico]
  refine exists_congr fun hundredth => ?_
  constructor
  · rintro ⟨chosen, late⟩
    exact ⟨⟨late, Random.choice?_lt (by decide) small chosen⟩, chosen⟩
  · rintro ⟨⟨late, -⟩, chosen⟩
    exact ⟨chosen, late⟩

/-! ## Drawing -/

/-- The numbers that the modifier reads from a generator. -/
def nextWord (generator : Random.Generator) : Nat × Random.Generator :=
  (generator.next32.1.toNat, generator.next32.2)

section

variable {text : String} {arguments : List String} {generator left : Random.Generator}
  {outcome : Except GrammarError String}

theorem run_optional_of_unread (unread : ∀ percentage, ¬Percentage arguments percentage) :
    ∃ reason, (optional.apply text arguments).run generator =
      some (.error (.invalidModifierArgument "optional" reason), generator) := by
  obtain ⟨reason, refused⟩ := @exists_chance_eq_error "optional" arguments unread
  refine ⟨reason, ?_⟩
  change (keepByChance "optional" text arguments).run generator = _
  rw [keepByChance, refused]
  rfl

theorem run_optional {percentage : Nat} (given : Percentage arguments percentage) :
    (optional.apply text arguments).run generator =
      (Random.below32 100 generator).map fun (place, left) =>
        (.ok (if place < percentage then text else ""), left) := by
  have read : chance "optional" arguments = .ok percentage := chance_eq_ok_iff.mpr given
  refine Eq.trans ?_ (run_draw_return (Random.below32 100)
    (fun place => if place < percentage then text else "") generator)
  change (keepByChance "optional" text arguments).run generator = _
  rw [keepByChance, read]
  rfl

/-- The first word that is accepted decides whether the text is kept. -/
theorem run_optional_eq_some_iff {percentage : Nat} (given : Percentage arguments percentage) :
    (optional.apply text arguments).run generator = some (outcome, left) ↔
      ∃ place kept, generator.AcceptsAt nextWord (keptBy? percentage) place kept ∧
        outcome = .ok (if kept then text else "") ∧
        left = generator.after nextWord (place + 1) := by
  rw [run_optional given, Option.map_eq_some_iff]
  constructor
  · rintro ⟨⟨hundredth, after⟩, drawn, same⟩
    obtain ⟨place, accepts, rfl⟩ := Random.Generator.firstAccepted_eq_some_iff.mp drawn
    cases same
    refine ⟨place, decide (hundredth < percentage),
      Random.Generator.acceptsAt_map_iff.mpr ⟨hundredth, accepts, rfl⟩, ?_, rfl⟩
    simp only [decide_eq_true_eq]
  · rintro ⟨place, kept, accepts, rfl, rfl⟩
    obtain ⟨hundredth, chosen, rfl⟩ := Random.Generator.acceptsAt_map_iff.mp accepts
    refine ⟨(hundredth, _), chosen.firstAccepted, ?_⟩
    simp only [decide_eq_true_eq]

theorem run_optional_eq_ok_iff :
    (∃ result left, (optional.apply text arguments).run generator = some (.ok result, left)) ↔
      (∃ percentage, Percentage arguments percentage) ∧
        ∃ place, Accepted (generator.wordAt nextWord place) := by
  constructor
  · rintro ⟨result, left, succeeded⟩
    by_cases read : ∃ percentage, Percentage arguments percentage
    · obtain ⟨percentage, given⟩ := read
      obtain ⟨place, kept, accepts, -⟩ := (run_optional_eq_some_iff given).mp succeeded
      obtain ⟨hundredth, chosen, -⟩ := keptBy?_eq_some_iff.mp accepts.there
      exact ⟨⟨percentage, given⟩, place, hundredth, chosen⟩
    · obtain ⟨reason, refused⟩ := run_optional_of_unread (not_exists.mp read)
      rw [refused] at succeeded
      cases succeeded
  · rintro ⟨⟨percentage, given⟩, place, hundredth, chosen⟩
    obtain ⟨first, other, accepts⟩ := Random.Generator.exists_acceptsAt_of_accepted chosen
    exact ⟨_, _, (run_optional_eq_some_iff given).mpr
      ⟨first, _, Random.Generator.acceptsAt_map_iff.mpr ⟨other, accepts, rfl⟩, rfl, rfl⟩⟩

end

/-- What becomes of a text that is kept by chance, with arguments of any number and length. -/
structure KeptByChance (text : String) (arguments : List String) : Prop where
  /-- It is kept or dropped if the arguments say with what chance, unless all words there are are
  passed over. -/
  succeeds : ∀ generator : Random.Generator,
    (∃ result left, (optional.apply text arguments).run generator = some (.ok result, left)) ↔
      (∃ percentage, Percentage arguments percentage) ∧
        ∃ place, Accepted (generator.wordAt nextWord place)
  /-- Other arguments are refused before a word is drawn. -/
  refused : (∀ percentage, ¬Percentage arguments percentage) → ∀ generator, ∃ reason,
    (optional.apply text arguments).run generator =
      some (.error (.invalidModifierArgument "optional" reason), generator)
  /-- Otherwise the first accepted word decides, and no word after it is drawn. -/
  decided : ∀ percentage, Percentage arguments percentage → ∀ generator outcome left,
    (optional.apply text arguments).run generator = some (outcome, left) ↔
      ∃ place kept, generator.AcceptsAt nextWord (keptBy? percentage) place kept ∧
        outcome = .ok (if kept then text else "") ∧
        left = generator.after nextWord (place + 1)
  keeping : ∀ percentage, Percentage arguments percentage →
    (wordsDeciding percentage true).card = percentage * 2 ^ 25
  dropping : ∀ percentage, Percentage arguments percentage →
    (wordsDeciding percentage false).card = (100 - percentage) * 2 ^ 25

theorem optional_keeps_by_chance (text : String) (arguments : List String) :
    KeptByChance text arguments := by
  refine ⟨?_, ?_, ?_, ?_, ?_⟩
  · exact fun _ => run_optional_eq_ok_iff
  · exact fun unread _ => run_optional_of_unread unread
  · exact fun _ given _ _ _ => run_optional_eq_some_iff given
  · exact fun _ given => card_wordsDeciding_true given.le
  · exact fun _ _ => card_wordsDeciding_false

/-- A sign and zeros before a number do not change it. The first of the two words is passed over,
and the second one keeps the text. -/
theorem signed_quarter_keeps_text :
    (wordsDeciding 25 true).card = 25 * 2 ^ 25 ∧
      (optional.apply "rare" ["+0025"]).run (.listed [4294967295, 0]) =
        some (.ok "rare", .listed []) := by
  have digits : Text.Numeral ['0', '0', '2', '5'] := ⟨by decide, by simp⟩
  have given : Percentage ["+0025"] 25 := .said (.signed digits) (by decide)
  have kept := optional_keeps_by_chance "rare" ["+0025"]
  refine ⟨kept.keeping 25 given, (kept.decided 25 given _ _ _).mpr ⟨1, true, ⟨?_, ?_⟩, rfl, rfl⟩⟩
  · intro earlier first
    obtain rfl : earlier = 0 := by omega
    decide
  · decide

end Modifier

end StoryGrammar
