import StoryGrammar.Error
import StoryGrammar.Random.Draw
import StoryGrammar.Template.Reader

set_option autoImplicit false

/-!
# Rules

A rule is the list of productions a symbol may expand to. One of them is selected at random, by
weight, among those that pass a filter.
-/

namespace StoryGrammar

/-- A computation that draws words and may fail. The generator it leaves behind is known either
way. -/
abbrev Sampled := ExceptT GrammarError Random.Draw

/-- One candidate expansion: its text, its relative weight, and the template it stands for. -/
structure Production where
  source : String
  weight : UInt32
  template : Template

namespace Production

def ofSource (source : String) (weight : UInt32) : Except GrammarError Production :=
  match Template.parse source with
  | .ok template => .ok ⟨source, weight, template⟩
  | .error error => .error (.template error)

def plain (source : String) : Except GrammarError Production :=
  ofSource source 1

def weighted (given : String × UInt32) : Except GrammarError Production :=
  ofSource given.1 given.2

def ofLiteral (text : String) : Production :=
  ⟨text, 1, Template.ofLiteral text⟩

end Production

structure Rule where
  productions : List Production

namespace Rule

def candidates (rule : Rule) (filter : Option Filter) : List Production :=
  rule.productions.filter fun production =>
    filter.all fun filter => filter.accepts production.source

/-- The sum of the weights. It fits 64 bits where there are at most `2 ^ 32` productions. -/
def totalWeight (productions : List Production) : Nat :=
  productions.foldr (fun production total => production.weight.toNat + total) 0

def atWeight : List Production → Nat → Option Production
  | [], _ => none
  | production :: productions, place =>
      if place < production.weight.toNat then some production
      else atWeight productions (place - production.weight.toNat)

/-- Draws one of the productions, uniformly while all weights are one. -/
def choose (productions : List Production) : Sampled (Option Production) :=
  if productions.isEmpty then return none
  else if productions.all fun production => production.weight == 1 then do
    let place ← Random.below64 productions.length
    return productions[place]?
  else
    let total := totalWeight productions
    if total = 0 then throw .zeroWeights
    else do
      let place ← Random.belowTotal total
      return atWeight productions place

/-- Draws one of the productions that pass the filter. There is none, and nothing is drawn, where no
production passes it. -/
def draw (rule : Rule) (filter : Option Filter) : Sampled (Option Production) :=
  choose (rule.candidates filter)

end Rule

end StoryGrammar
