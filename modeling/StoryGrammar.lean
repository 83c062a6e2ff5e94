import StoryGrammar.Main
import StoryGrammar.Template.Equality
import StoryGrammar.Proofs.ScopeDiscipline
import StoryGrammar.Proofs.History
import StoryGrammar.Proofs.RoundTrip
import StoryGrammar.Proofs.Template.Canonical
import StoryGrammar.Proofs.Selection
import StoryGrammar.Proofs.Failure
import StoryGrammar.Proofs.Pattern.WholeText
import StoryGrammar.Proofs.DepthLimit
import StoryGrammar.Proofs.UnreachedRules
import StoryGrammar.Proofs.ScopeHistory
import StoryGrammar.Proofs.Template.Concatenation
import StoryGrammar.Proofs.Provenance
import StoryGrammar.Proofs.WellFormedRules
import StoryGrammar.Proofs.Document.Arrival
import StoryGrammar.Proofs.Document.Definitions
import StoryGrammar.Proofs.FreshSymbol
import StoryGrammar.Proofs.Binding
import StoryGrammar.Proofs.Template.FaultPlaces
import StoryGrammar.Proofs.Template.EscapedArguments
import StoryGrammar.Proofs.Modifier.Inflection
import StoryGrammar.Proofs.Modifier.Chance
import StoryGrammar.Proofs.Drafting
import StoryGrammar.Proofs.PrintedTexts
import StoryGrammar.Proofs.ReadBack
import StoryGrammar.Proofs.CallDepth
