import StoryGrammar.Proofs.Steps

set_option autoImplicit false

/-!
# Base rules over a run

The base rule of a symbol is the one that the latest successful definition gave it. Definitions that
fail leave no trace, and those that succeed change no symbol they do not name.
-/

namespace StoryGrammar

/-- The productions that a document, as a JSON value, names for a symbol. -/
def Json.Value.productions? (value : Json.Value) (symbol : String) :
    Option (Except GrammarError (List Production)) :=
  match value with
  | .object members => (members.reverse.lookup symbol).map (Document.productions symbol)
  | _ => none

namespace Operation

def defines : Operation → Bool
  | .load _ | .loadBytes _ | .define _ _ | .defineWeighted _ _ => true
  | _ => false

/-- The productions that a load or a definition names for a symbol, if it names the symbol. -/
def productions? (symbol : String) : Operation → Option (Except GrammarError (List Production))
  | .load text => (Json.parseText text).toOption.bind (·.productions? symbol)
  | .loadBytes bytes => (Json.parse .streamed bytes).toOption.bind (·.productions? symbol)
  | .define named sources =>
      if symbol = named then some (sources.mapM Production.plain) else none
  | .defineWeighted named sources =>
      if symbol = named then some (sources.mapM Production.weighted) else none
  | _ => none

theorem defines_iff (operation : Operation) :
    operation.defines = true ↔ operation.definitions ≠ none := by
  cases operation <;> simp [defines, definitions]

theorem productions?_of_ofBytes {arrival : Json.Arrival} {bytes : List UInt8}
    {entries : List (String × List Production)}
    (read : (Document.ofBytes arrival bytes).map (·.rules) = .ok entries) (symbol : String) :
    (Json.parse arrival bytes).toOption.bind (·.productions? symbol) =
      (entries.lookup symbol).map Except.ok := by
  cases made : Document.ofBytes arrival bytes with
  | error error =>
      rw [made] at read
      cases read
  | ok document =>
      rw [made] at read
      cases read
      obtain ⟨value, parsed, made⟩ := Document.ofBytes_eq_ok_iff.mp made
      obtain ⟨members, rfl, mapped⟩ := Document.ofValue_eq_ok made
      rw [parsed, ← Document.lookup_of_mapM mapped symbol]
      change (members.reverse.lookup symbol).map _ =
        ((Table.ofList members).find? symbol).map _
      rw [Table.find?_ofList]

theorem lookup_of_map {named symbol : String} {made : Except GrammarError (List Production)}
    {entries : List (String × List Production)}
    (mapped : (made.map fun productions => [(named, productions)]) = .ok entries) :
    (if symbol = named then some made else none) = (entries.lookup symbol).map Except.ok := by
  cases made with
  | error error => cases mapped
  | ok productions =>
      cases mapped
      rw [Table.lookup_entry]
      by_cases same : symbol = named <;> simp [same]

theorem productions?_of_definitions {operation : Operation}
    {entries : List (String × List Production)}
    (defined : operation.definitions = some (.ok entries)) (symbol : String) :
    operation.productions? symbol = (entries.lookup symbol).map Except.ok := by
  cases operation with
  | load text => exact productions?_of_ofBytes (Option.some.inj defined) symbol
  | loadBytes bytes => exact productions?_of_ofBytes (Option.some.inj defined) symbol
  | define named sources => exact lookup_of_map (Option.some.inj defined)
  | defineWeighted named sources => exact lookup_of_map (Option.some.inj defined)
  | expand | generate | flatten | setSeed | setGenerator | setConfig | register | fork =>
      cases defined

theorem productions?_of_definitions_none {operation : Operation}
    (undefined : operation.definitions = none) (symbol : String) :
    operation.productions? symbol = none := by
  cases operation <;> first | rfl | cases undefined

end Operation

namespace Grammar

/-! ## One operation -/

def ruleAfter (operation : Operation) (reply : Reply) (symbol : String) (before : Option Rule) :
    Option Rule :=
  match reply, operation.productions? symbol with
  | .ok _, some (.ok productions) => some ⟨productions⟩
  | _, _ => before

theorem Step.productions?_ne_error {grammar after : Grammar} {operation : Operation}
    {text : Option String} (step : grammar.Step operation (.ok text) after) (symbol : String)
    (error : GrammarError) : operation.productions? symbol ≠ some (.error error) := by
  cases step with
  | @installed entries defined installable =>
      rw [Operation.productions?_of_definitions defined]
      cases entries.lookup symbol <;> simp
  | other undefined _ =>
      rw [Operation.productions?_of_definitions_none undefined]
      simp

theorem Step.find?_base {grammar after : Grammar} {operation : Operation} {reply : Reply}
    (step : grammar.Step operation reply after) (symbol : String) :
    after.rules.base.find? symbol =
      ruleAfter operation reply symbol (grammar.rules.base.find? symbol) := by
  cases step with
  | @installed entries defined installable =>
      unfold ruleAfter
      rw [Operation.productions?_of_definitions defined,
        ScopedRules.find?_withRules installable.distinct]
      cases entries.lookup symbol <;> rfl
  | refused => rfl
  | other undefined same =>
      unfold ruleAfter
      rw [Operation.productions?_of_definitions_none undefined, same]
      cases reply <;> rfl

/-! ## Runs -/

/-- The latest operation of a history that succeeded and named the symbol. -/
def latestNaming (symbol : String) : List (Operation × Reply) → Option Operation
  | [] => none
  | (operation, reply) :: later =>
      (latestNaming symbol later).or
        (if reply.isOk && (operation.productions? symbol).isSome then some operation else none)

/-- The base rule that a history gives a symbol which had the given one before. -/
def ruleGiven (symbol : String) (history : List (Operation × Reply)) (before after : Option Rule) :
    Prop :=
  match latestNaming symbol history with
  | none => after = before
  | some operation => ∃ productions,
      operation.productions? symbol = some (.ok productions) ∧ after = some ⟨productions⟩

theorem Run.ruleGiven {start after : Grammar} {history : List (Operation × Reply)}
    (run : Run start history after) (symbol : String) :
    Grammar.ruleGiven symbol history (start.rules.base.find? symbol)
      (after.rules.base.find? symbol) := by
  unfold Grammar.ruleGiven
  induction run with
  | start => rfl
  | @step start middle after operation reply history performed run ih =>
      rw [latestNaming]
      cases latest : latestNaming symbol history with
      | some operation =>
          simp only [latest] at ih
          exact ih
      | none =>
          simp only [latest] at ih
          have step := perform_step performed
          rw [ih, step.find?_base symbol]
          unfold ruleAfter
          cases reply with
          | error error => rfl
          | ok text =>
              cases named : operation.productions? symbol with
              | none => rfl
              | some made =>
                  cases made with
                  | error error => exact absurd named (step.productions?_ne_error symbol error)
                  | ok productions => exact ⟨productions, named, rfl⟩

theorem Step.eq_of_error {grammar after : Grammar} {operation : Operation} {error : GrammarError}
    (step : grammar.Step operation (.error error) after) (defining : operation.defines = true) :
    after = grammar := by
  cases step with
  | refused => rfl
  | other undefined _ => exact absurd undefined (operation.defines_iff.mp defining)

theorem Step.eq_withBase {grammar after : Grammar} {operation : Operation} {reply : Reply}
    (step : grammar.Step operation reply after) (defining : operation.defines = true) :
    after = { grammar with rules := { grammar.rules with base := after.rules.base } } := by
  cases step with
  | installed => rfl
  | refused => rfl
  | other undefined _ => exact absurd undefined (operation.defines_iff.mp defining)

/-- At the end of a run every symbol has the base rule that the latest successful definition of it
gave, and none if there was none since the grammar was empty. A load or a definition that fails
leaves the grammar as it was; one that succeeds changes only the base rules of symbols it names. -/
theorem base_rules_follow_history :
    (∀ start history after, Run start history after → ∀ symbol,
      ruleGiven symbol history (start.rules.base.find? symbol) (after.rules.base.find? symbol)) ∧
    (∀ generator history after, Run (.empty generator) history after → ∀ symbol,
      latestNaming symbol history = none → after.rules.base.find? symbol = none) ∧
    (∀ grammar operation error after, operation.defines = true →
      perform grammar operation = some (.error error, after) → after = grammar) ∧
    ∀ grammar operation text after, operation.defines = true →
      perform grammar operation = some (.ok text, after) →
        after = { grammar with rules := { grammar.rules with base := after.rules.base } } ∧
        ∀ symbol, operation.productions? symbol = none →
          after.rules.base.find? symbol = grammar.rules.base.find? symbol := by
  refine ⟨?_, ?_, ?_, ?_⟩
  · exact fun start history after run => run.ruleGiven
  · intro generator history after run symbol unnamed
    have given := run.ruleGiven symbol
    rw [Grammar.ruleGiven, unnamed] at given
    exact given
  · exact fun grammar operation error after defining performed =>
      (perform_step performed).eq_of_error defining
  · intro grammar operation text after defining performed
    have step := perform_step performed
    refine ⟨step.eq_withBase defining, fun symbol unnamed => ?_⟩
    rw [step.find?_base symbol]
    unfold ruleAfter
    rw [unnamed]

/-- A rule stays although a later definition of its symbol fails, and only its symbol has one. -/
theorem rule_remains_after_refusal :
    ∃ defined refused : Grammar,
      Run (.empty (.listed [])) [(.define "name" ["Ada"], .ok none)] defined ∧
      defined.perform (.define "name" []) =
        some (.error (.invalidRule "name" .noProductions), refused) ∧
      refused = defined ∧
      defined.rules.base.find? "name" = some ⟨[⟨"Ada", 1, [.literal "Ada"]⟩]⟩ ∧
      defined.rules.base.find? "place" = (empty (.listed [])).rules.base.find? "place" ∧
      defined.rules.base.find? "place" = none := by
  obtain ⟨given, absent, unchanged, named⟩ := base_rules_follow_history
  obtain ⟨defined, performed⟩ : ∃ defined, (empty (.listed [])).perform (.define "name" ["Ada"]) =
      some (.ok none, defined) := ⟨_, rfl⟩
  have refusal : defined.perform (.define "name" []) =
      some (.error (.invalidRule "name" .noProductions), defined) := rfl
  have run : Run (empty (.listed [])) [(.define "name" ["Ada"], .ok none)] defined :=
    .step performed .start
  obtain ⟨productions, asked, found⟩ := given _ _ _ run "name"
  have written : productions = [⟨"Ada", 1, [.literal "Ada"]⟩] :=
    (Except.ok.inj (Option.some.inj asked)).symm
  refine ⟨defined, defined, run, refusal, unchanged _ _ _ _ rfl refusal, written ▸ found,
    (named _ _ _ _ rfl performed).2 "place" rfl, absent _ _ _ run "place" rfl⟩

end Grammar

end StoryGrammar
