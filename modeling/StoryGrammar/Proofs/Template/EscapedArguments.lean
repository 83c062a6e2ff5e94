import StoryGrammar.Proofs.Template.Canonical

set_option autoImplicit false

/-!
# Escaped arguments

With a backslash before each of its characters, an argument may hold commas, parentheses and
backslashes. White space at its ends is taken away all the same: escapes are resolved first, and
what they leave is trimmed.
-/

namespace StoryGrammar.Template

/-- A reference to a symbol with one modifier, every character of whose arguments is escaped. -/
def escapedReference (symbol name : String) (arguments : List String) : String :=
  "#" ++ symbol ++ "." ++ name ++ "(" ++ String.ofList (printArguments arguments) ++ ")#"

/-- The arguments that are read where these were escaped. -/
def readArguments (arguments : List String) : List String :=
  if arguments.map trimmed = [""] then [] else arguments.map trimmed

section

variable {symbol name : String} {arguments : List String}

theorem derives_escapedReference (naming : IsName symbol) (named : IsName name)
    (given : arguments ≠ []) :
    Derives (escapedReference symbol name arguments)
      [.reference [] symbol none [⟨name, readArguments arguments⟩]] := by
  have applied := SpellsModifier.applied named (spellsArguments_escaped given)
  have spelled := SpellsReference.reference .nil naming .absent (.cons applied .nil)
  have sequence : SpellsSequence false _ _ := .reference spelled .nil
  refine ⟨?_, by simp [nesting, Node.nestingAmong, Node.nesting, Action.nestingAmong]⟩
  simpa [escapedReference, readArguments] using sequence

theorem readArguments_eq_self_iff (given : arguments ≠ [])
    (inhabited : ∀ argument ∈ arguments, argument ≠ "") :
    readArguments arguments = arguments ↔ ∀ argument ∈ arguments, Trimmed argument := by
  constructor
  · intro same
    unfold readArguments at same
    split at same
    · exact absurd same.symm given
    · intro argument member
      rw [← same] at member
      obtain ⟨written, -, rfl⟩ := List.mem_map.mp member
      exact trimmed_trim written.toList
  · intro kept
    have several : arguments ≠ [""] := by
      rintro rfl
      exact inhabited "" (.head _) rfl
    rw [readArguments, map_trimmed kept, if_neg several]

/-- Escaped arguments are read as one modifier of one reference, and as they are exactly where none
of them begins or ends with white space. -/
theorem escaped_arguments_are_trimmed (naming : IsName symbol) (named : IsName name)
    (given : arguments ≠ []) (inhabited : ∀ argument ∈ arguments, argument ≠ "") :
    parse (escapedReference symbol name arguments) =
        .ok [.reference [] symbol none [⟨name, readArguments arguments⟩]] ∧
      (readArguments arguments = arguments ↔ ∀ argument ∈ arguments, Trimmed argument) :=
  ⟨parse_of_derives (derives_escapedReference naming named given),
    readArguments_eq_self_iff given inhabited⟩

end

/-- Marks of the language and blanks between words survive in escaped arguments. -/
theorem escaped_marks_are_read :
    escapedReference "x" "wrap" [",", "(a b)\\"] = "#x.wrap(\\,,\\(\\a\\ \\b\\)\\\\)#" ∧
      parse "#x.wrap(\\,,\\(\\a\\ \\b\\)\\\\)#" =
        .ok [.reference [] "x" none [⟨"wrap", [",", "(a b)\\"]⟩]] := by
  have naming : IsName "x" := ⟨by decide, by simp [isReserved]⟩
  have named : IsName "wrap" := ⟨by decide, by simp [isReserved]⟩
  have read := @escaped_arguments_are_trimmed "x" "wrap" [",", "(a b)\\"] naming named (by decide)
    (by decide)
  exact ⟨rfl, read.1⟩

/-- A blank that is the whole of an escaped argument is lost, so a backslash does not make every
character literal. -/
theorem escaped_blank_is_lost :
    parse "#x.wrap(\\ )#" = .ok [.reference [] "x" none [⟨"wrap", []⟩]] ∧
      ¬∀ (symbol name : String) (arguments : List String), IsName symbol → IsName name →
        arguments ≠ [] → (∀ argument ∈ arguments, argument ≠ "") →
        parse (escapedReference symbol name arguments) =
          .ok [.reference [] symbol none [⟨name, arguments⟩]] := by
  have read : parse "#x.wrap(\\ )#" = .ok [.reference [] "x" none [⟨"wrap", []⟩]] := rfl
  refine ⟨read, fun literal => ?_⟩
  have naming : IsName "x" := ⟨by decide, by simp [isReserved]⟩
  have named : IsName "wrap" := ⟨by decide, by simp [isReserved]⟩
  have kept : parse "#x.wrap(\\ )#" = .ok [.reference [] "x" none [⟨"wrap", [" "]⟩]] :=
    literal "x" "wrap" [" "] naming named (by decide) (by decide)
  rw [read] at kept
  cases kept

end StoryGrammar.Template
