import StoryGrammar.CommandLine
import StoryGrammar.Proofs.FreshSymbol
import StoryGrammar.Proofs.Modifier.Chance
import StoryGrammar.Proofs.Template.FaultPlaces

set_option autoImplicit false

/-!
# Texts that the command line prints

The program generates texts one after another and prints each on a line, up to the first generation
that fails. So what it prints for a count is the beginning of what it prints for a greater one.
-/

namespace StoryGrammar

/-! ## Written numbers -/

namespace Text

end Text

namespace Grammar

/-- The results of generations one after another. Each is made with the grammar that the one before
it leaves, which may have failed. -/
inductive Generations : Grammar → List (Except GrammarError String) → Grammar → Prop where
  | none {grammar : Grammar} : Generations grammar [] grammar
  | next {grammar middle after : Grammar} {result : Except GrammarError String}
      {results : List (Except GrammarError String)} :
      grammar.generate = some (result, middle) → Generations middle results after →
      Generations grammar (result :: results) after

namespace Generations

theorem split {grammar after : Grammar} {first second : List (Except GrammarError String)}
    (generations : Generations grammar (first ++ second) after) :
    ∃ middle, Generations grammar first middle ∧ Generations middle second after := by
  induction first generalizing grammar with
  | nil => exact ⟨grammar, .none, generations⟩
  | cons result first ih =>
      cases generations with
      | next generated others =>
          obtain ⟨middle, before, behind⟩ := ih others
          exact ⟨middle, .next generated before, behind⟩

end Generations

end Grammar

namespace CommandLine

/-! ## Texts up to the first failure -/

section Printed

variable {refusals : String → String}

variable (refusals) in
/-- What texts up to the first failure leave printed. -/
def printed (generated : List String × Option GrammarError) : Outcome :=
  .ofTexts generated.1 (generated.2.map (·.detailed refusals))

end Printed

/-! ## Arguments -/

section Runs

variable {arguments : List String} {invocation : Invocation} {file : String}
  {contents : String → Except FileError (List UInt8)} {wording : Wording} {bytes : List UInt8}

end Runs

section Counts

variable {refusals : String → String}

end Counts

end CommandLine

end StoryGrammar
