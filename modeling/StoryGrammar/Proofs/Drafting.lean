import StoryGrammar.Proofs.Steps

set_option autoImplicit false

/-!
# Drafts and direct construction

A step of a draft is an operation on the grammar so far. Whether it fails, and with which error,
does not depend on that grammar, so the first step that fails on its own decides what comes of a
draft. Where none fails, the draft is finished as the grammar that the operations lead to.
-/

namespace StoryGrammar

namespace Grammar

/-! ## Errors that do not depend on the grammar -/

end Grammar

namespace GrammarDraft

/-! ## Steps as operations -/

namespace Step

/-- The operation that a step stands for on a grammar with the given settings. A step that limits
the depth keeps the start symbol. -/
def operation (config : Config) : Step → Operation
  | .seed value => .setSeed value
  | .generator source => .setGenerator source
  | .config settings => .setConfig settings
  | .maxDepth depth => .setConfig { config with maxDepth := min depth 200 }
  | .rule symbol sources => .define symbol sources
  | .json text => .load text
  | .modifier name registered => .register name registered

end Step

end GrammarDraft

end StoryGrammar
