import StoryGrammar.Unicode.Property

set_option autoImplicit false

/-!
# Trimming

Removing the white space at both ends of a text.
-/

namespace StoryGrammar.Text

/-- The characters between the first and the last that are not white space, both included. -/
def trim (characters : List Char) : List Char :=
  ((characters.dropWhile Unicode.isBlank).reverse.dropWhile Unicode.isBlank).reverse

/-- A text that neither begins nor ends with white space is its own trimming. -/
theorem trim_eq_self {characters : List Char}
    (first : ∀ character ∈ characters.head?, Unicode.isBlank character = false)
    (last : ∀ character ∈ characters.getLast?, Unicode.isBlank character = false) :
    trim characters = characters := by
  have keep : ∀ {list : List Char},
      (∀ character ∈ list.head?, Unicode.isBlank character = false) →
        list.dropWhile Unicode.isBlank = list := by
    intro list start
    cases list with
    | nil => rfl
    | cons head tail => simp [start head (by simp)]
  unfold trim
  rw [keep first, keep (by simpa using last), List.reverse_reverse]

theorem head?_dropWhile_isBlank (characters : List Char) :
    ∀ character ∈ (characters.dropWhile Unicode.isBlank).head?,
      Unicode.isBlank character = false := by
  intro character first
  have kept := characters.head?_dropWhile_not Unicode.isBlank
  rwa [first] at kept

theorem head?_trim (characters : List Char) :
    ∀ character ∈ (trim characters).head?, Unicode.isBlank character = false := by
  intro character first
  obtain ⟨dropped, together⟩ :=
    (characters.dropWhile Unicode.isBlank).reverse.dropWhile_suffix Unicode.isBlank
  have start : (trim characters ++ dropped.reverse) = characters.dropWhile Unicode.isBlank := by
    rw [trim, ← List.reverse_append, together, List.reverse_reverse]
  apply head?_dropWhile_isBlank characters
  rw [← start, List.head?_append, first]
  rfl

theorem getLast?_trim (characters : List Char) :
    ∀ character ∈ (trim characters).getLast?, Unicode.isBlank character = false := by
  rw [trim, List.getLast?_reverse]
  exact head?_dropWhile_isBlank _

end StoryGrammar.Text
