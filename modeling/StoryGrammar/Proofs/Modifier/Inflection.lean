import StoryGrammar.Modifier

set_option autoImplicit false

/-!
# Inflections of the two ends of a text

Plurals and past tenses look at the last two characters of a text, capitals and articles at the
first one. As long as these do not overlap, it does not matter which inflection comes first.
-/

namespace StoryGrammar.Modifier

/-! ## Inflections of the end -/

/-- Whatever stands before two characters or more is left as it is. -/
def InflectsEnd (inflect : List Char → List Char) : Prop :=
  ∀ before text, 2 ≤ text.length → inflect (before ++ text) = before ++ inflect text

/-- What takes the place of the last character in a plural, which may depend on whether a consonant
stands before it. -/
def pluralEnding (last : Char) (consonant : Bool) : List Char :=
  if last = 's' ∨ last = 'h' ∨ last = 'x' then [last, 'e', 's']
  else if last = 'y' ∧ consonant then ['i', 'e', 's']
  else [last, 's']

def pastEnding (last : Char) (consonant : Bool) : List Char :=
  if last = 'e' then [last, 'd']
  else if last = 'y' ∧ consonant then ['i', 'e', 'd']
  else [last, 'e', 'd']

theorem pluralize_concat (stem : List Char) (last : Char) :
    pluralize (stem ++ [last]) = stem ++ pluralEnding last (endsWithConsonant stem) := by
  simp only [pluralize, pluralEnding, List.getLast?_concat, List.dropLast_concat]
  split
  · exact List.append_assoc _ _ _
  · split
    · rfl
    · exact List.append_assoc _ _ _

theorem pastTense_concat (stem : List Char) (last : Char) :
    pastTense (stem ++ [last]) = stem ++ pastEnding last (endsWithConsonant stem) := by
  simp only [pastTense, pastEnding, List.getLast?_concat, List.dropLast_concat]
  split
  · exact List.append_assoc _ _ _
  · split
    · rfl
    · exact List.append_assoc _ _ _

theorem endsWithConsonant_append (before : List Char) {stem : List Char} (inhabited : stem ≠ []) :
    endsWithConsonant (before ++ stem) = endsWithConsonant stem := by
  rw [endsWithConsonant, endsWithConsonant, List.getLast?_append,
    List.getLast?_eq_some_getLast inhabited, Option.some_or]

/-- Of two characters or more, the last one has one before it, and that tells whether a consonant
does. -/
theorem inflectsEnd_of_concat {inflect : List Char → List Char} {ending : Char → Bool → List Char}
    (inflected : ∀ stem last,
      inflect (stem ++ [last]) = stem ++ ending last (endsWithConsonant stem)) :
    InflectsEnd inflect := by
  intro before text long
  obtain ⟨stem, last, rfl⟩ : ∃ stem last, text = stem ++ [last] := by
    have inhabited : text ≠ [] := List.length_pos_iff.mp (by omega)
    exact ⟨_, _, (List.dropLast_concat_getLast inhabited).symm⟩
  have inhabited : stem ≠ [] := by
    rintro rfl
    simp at long
  rw [← List.append_assoc, inflected, inflected, endsWithConsonant_append before inhabited,
    List.append_assoc]

theorem pluralize_inflectsEnd : InflectsEnd pluralize :=
  inflectsEnd_of_concat pluralize_concat

theorem pastTense_inflectsEnd : InflectsEnd pastTense :=
  inflectsEnd_of_concat pastTense_concat

/-! ## Inflections of the start -/

/-- Whatever stands after one character or more is left as it is. -/
def InflectsStart (inflect : List Char → List Char) : Prop :=
  ∀ text after, text ≠ [] → inflect (text ++ after) = inflect text ++ after

theorem capitalizeFirst_inflectsStart : InflectsStart capitalizeFirst := by
  intro text after inhabited
  cases text with
  | nil => exact absurd rfl inhabited
  | cons first rest => exact (List.append_assoc _ _ _).symm

theorem withArticle_inflectsStart : InflectsStart withArticle := by
  intro text after inhabited
  cases text with
  | nil => exact absurd rfl inhabited
  | cons first rest =>
      simp only [List.cons_append, withArticle]
      split <;> rfl

/-! ## Both ends -/

/-- The first of three characters is not among the last two. -/
theorem InflectsEnd.comm {inflectEnd inflectStart : List Char → List Char}
    (atEnd : InflectsEnd inflectEnd) (atStart : InflectsStart inflectStart) {text : List Char}
    (long : 3 ≤ text.length) :
    inflectEnd (inflectStart text) = inflectStart (inflectEnd text) := by
  cases text with
  | nil => cases long
  | cons first rest =>
      have apart : 2 ≤ rest.length := Nat.le_of_succ_le_succ long
      have alone : [first] ≠ [] := List.cons_ne_nil first []
      calc
        inflectEnd (inflectStart ([first] ++ rest)) =
            inflectEnd (inflectStart [first] ++ rest) := by rw [atStart _ _ alone]
        _ = inflectStart [first] ++ inflectEnd rest := atEnd _ _ apart
        _ = inflectStart ([first] ++ inflectEnd rest) := (atStart _ _ alone).symm
        _ = inflectStart (inflectEnd ([first] ++ rest)) := by rw [atEnd _ _ apart]

/-! ## Modifiers -/

def ActsOnEnd (modifier : Modifier) : Prop :=
  ∀ (before text : String) (arguments : List String), 2 ≤ text.length →
    modifier.apply (before ++ text) arguments = (before ++ ·) <$> modifier.apply text arguments

def ActsOnStart (modifier : Modifier) : Prop :=
  ∀ (text after : String) (arguments : List String), text ≠ "" →
    modifier.apply (text ++ after) arguments = (· ++ after) <$> modifier.apply text arguments

/-- Texts of three characters or more become the same in either order. -/
def CommutesWith (modifier other : Modifier) : Prop :=
  ∀ (text : String) (arguments otherArguments : List String), 3 ≤ text.length →
    (do
      let changed ← modifier.apply text arguments
      other.apply changed otherArguments) =
    (do
      let changed ← other.apply text otherArguments
      modifier.apply changed arguments)

section

variable {inflectEnd inflectStart : List Char → List Char}

theorem InflectsEnd.actsOnEnd (atEnd : InflectsEnd inflectEnd) (name detailed : String) :
    (ofInflection name detailed inflectEnd).ActsOnEnd := by
  intro before text arguments long
  have apart : 2 ≤ text.toList.length := by rwa [String.length_toList]
  have whole : String.ofList (inflectEnd (before ++ text).toList) =
      before ++ String.ofList (inflectEnd text.toList) := by
    rw [String.toList_append, atEnd _ _ apart, String.ofList_append, String.ofList_toList]
  exact congrArg pure whole

theorem InflectsStart.actsOnStart (atStart : InflectsStart inflectStart) (name detailed : String) :
    (ofInflection name detailed inflectStart).ActsOnStart := by
  intro text after arguments inhabited
  have some : text.toList ≠ [] := fun none => inhabited (String.toList_eq_nil_iff.mp none)
  have whole : String.ofList (inflectStart (text ++ after).toList) =
      String.ofList (inflectStart text.toList) ++ after := by
    rw [String.toList_append, atStart _ _ some, String.ofList_append, String.ofList_toList]
  exact congrArg pure whole

theorem InflectsEnd.commutesWith (atEnd : InflectsEnd inflectEnd)
    (atStart : InflectsStart inflectStart) (name detailed otherName otherDetailed : String) :
    (ofInflection name detailed inflectEnd).CommutesWith
      (ofInflection otherName otherDetailed inflectStart) := by
  intro text arguments otherArguments long
  have apart : 3 ≤ text.toList.length := by rwa [String.length_toList]
  have same : String.ofList (inflectStart (String.ofList (inflectEnd text.toList)).toList) =
      String.ofList (inflectEnd (String.ofList (inflectStart text.toList)).toList) := by
    rw [String.toList_ofList, String.toList_ofList, atEnd.comm atStart apart]
  exact congrArg (fun changed => (pure changed : Sampled String)) same

end

/-- Plurals and past tenses act on the end of a text, capitals and articles on its start, and each
of the former commutes with each of the latter. -/
theorem inflections_of_end_and_start_commute :
    ∀ atEnd ∈ [ofInflection "pluralize" "Pluralize" pluralize,
      ofInflection "ed" "PastTense" pastTense],
    ∀ atStart ∈ [ofInflection "capitalizeFirst" "CapitalizeFirst" capitalizeFirst,
      ofInflection "articleA" "IndefiniteArticle" withArticle],
    atEnd.ActsOnEnd ∧ atStart.ActsOnStart ∧ atEnd.CommutesWith atStart := by
  have ends : ∀ atEnd ∈ [ofInflection "pluralize" "Pluralize" pluralize,
      ofInflection "ed" "PastTense" pastTense],
      ∃ name detailed inflect, atEnd = ofInflection name detailed inflect ∧ InflectsEnd inflect :=
    List.forall_mem_cons.mpr ⟨⟨_, _, _, rfl, pluralize_inflectsEnd⟩,
      List.forall_mem_singleton.mpr ⟨_, _, _, rfl, pastTense_inflectsEnd⟩⟩
  have starts : ∀ atStart ∈ [ofInflection "capitalizeFirst" "CapitalizeFirst" capitalizeFirst,
      ofInflection "articleA" "IndefiniteArticle" withArticle],
      ∃ name detailed inflect,
        atStart = ofInflection name detailed inflect ∧ InflectsStart inflect :=
    List.forall_mem_cons.mpr ⟨⟨_, _, _, rfl, capitalizeFirst_inflectsStart⟩,
      List.forall_mem_singleton.mpr ⟨_, _, _, rfl, withArticle_inflectsStart⟩⟩
  intro atEnd listedEnd atStart listedStart
  obtain ⟨name, detailed, inflectEnd, rfl, inflectsEnd⟩ := ends atEnd listedEnd
  obtain ⟨otherName, otherDetailed, inflectStart, rfl, inflectsStart⟩ := starts atStart listedStart
  exact ⟨inflectsEnd.actsOnEnd _ _, inflectsStart.actsOnStart _ _,
    inflectsEnd.commutesWith inflectsStart _ _ _ _⟩

/-- The capital of `ŉ` is two characters, and the last character of a plural in `ies` is gone; the
two do not meet. -/
theorem longer_capital_and_shorter_stem_commute :
    3 ≤ "ŉly".length ∧
      (do
        let changed ← (ofInflection "pluralize" "Pluralize" pluralize).apply "ŉly" []
        (ofInflection "capitalizeFirst" "CapitalizeFirst" capitalizeFirst).apply changed []) =
        (return "ʼNlies" : Sampled String) ∧
      (do
        let changed ←
          (ofInflection "capitalizeFirst" "CapitalizeFirst" capitalizeFirst).apply "ŉly" []
        (ofInflection "pluralize" "Pluralize" pluralize).apply changed []) =
        (return "ʼNlies" : Sampled String) := by
  have long : 3 ≤ "ŉly".length := by decide
  obtain ⟨-, -, commutes⟩ := inflections_of_end_and_start_commute _ (.head _) _ (.head _)
  have first := commutes "ŉly" [] [] long
  refine ⟨long, rfl, ?_⟩
  rw [← first]
  rfl

/-- Of two characters, the first one is still seen from the end: the capital of the consonant `ı` is
a vowel. -/
example :
    capitalizeFirst (pluralize ['ı', 'y']) = ['I', 'i', 'e', 's'] ∧
      pluralize (capitalizeFirst ['ı', 'y']) = ['I', 'y', 's'] := by
  decide

end StoryGrammar.Modifier
