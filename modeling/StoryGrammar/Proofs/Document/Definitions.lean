import StoryGrammar.Proofs.RoundTrip

set_option autoImplicit false

/-!
# Definitions as documents

A rule can be defined from its productions, or be loaded from a document of its symbol alone. The
checks are made in different orders, but they are the same checks: either way the rule is installed
exactly where its symbol has a name and there are productions, all of which can be made.
-/

namespace StoryGrammar

/-! ## Productions -/

namespace WrittenProduction

/-- The production of an entry as a definition makes it, before its text and weight are checked. -/
def unchecked (entry : WrittenProduction) : Except GrammarError Production :=
  Production.ofSource entry.text entry.weight

/-- Whether an entry is made into a production as far as a definition makes it. -/
structure StandsFor (entry : WrittenProduction) (production : Production) : Prop where
  source : production.source = entry.text
  weight : production.weight = entry.weight
  read : Template.parse entry.text = .ok production.template

theorem unchecked_specified :
    Specified unchecked StandsFor fun entry error =>
      ∃ fault, Template.parse entry.text = .error fault ∧ error = .template fault where
  gives := by
    intro entry production stands
    obtain ⟨source, weight, template⟩ := production
    obtain ⟨rfl, rfl, read⟩ := stands
    rw [unchecked, Production.ofSource, read]
  fails := by
    intro entry error failing
    obtain ⟨fault, read, rfl⟩ := failing
    rw [unchecked, Production.ofSource, read]
  total := by
    intro entry
    cases read : Template.parse entry.text with
    | ok template => exact .inl ⟨⟨entry.text, entry.weight, template⟩, rfl, rfl, read⟩
    | error fault => exact .inr ⟨_, fault, rfl, rfl⟩

theorem makes_iff {entry : WrittenProduction} {production : Production} :
    entry.Makes production ↔
      entry.StandsFor production ∧ production.source ≠ "" ∧ production.weight ≠ 0 := by
  constructor
  · intro makes
    obtain ⟨source, weight, written, weighted, read⟩ := makes
    exact ⟨⟨source, weight, read⟩, source ▸ written, weight ▸ weighted⟩
  · intro parts
    obtain ⟨⟨source, weight, read⟩, written, weighted⟩ := parts
    exact ⟨source, weight, source ▸ written, weight ▸ weighted, read⟩

theorem forall₂_makes_iff {entries : List WrittenProduction} {productions : List Production} :
    List.Forall₂ Makes entries productions ↔
      List.Forall₂ StandsFor entries productions ∧
        (∀ production ∈ productions, production.source ≠ "") ∧
          ∀ production ∈ productions, production.weight ≠ 0 := by
  constructor
  · intro made
    induction made with
    | nil => exact ⟨.nil, List.forall_mem_nil _, List.forall_mem_nil _⟩
    | cons makes _ ih =>
        obtain ⟨stands, written, weighted⟩ := makes_iff.mp makes
        exact ⟨.cons stands ih.1, List.forall_mem_cons.mpr ⟨written, ih.2.1⟩,
          List.forall_mem_cons.mpr ⟨weighted, ih.2.2⟩⟩
  · intro parts
    obtain ⟨stand, written, weighted⟩ := parts
    induction stand with
    | nil => exact .nil
    | cons stands _ ih =>
        obtain ⟨first, written⟩ := List.forall_mem_cons.mp written
        obtain ⟨first', weighted⟩ := List.forall_mem_cons.mp weighted
        exact .cons (makes_iff.mpr ⟨stands, first, first'⟩) (ih written weighted)

end WrittenProduction

/-- The entries of a symbol that make up the rule of the given productions. -/
structure Definition (symbol : String) (entries : List WrittenProduction)
    (productions : List Production) : Prop where
  named : symbol ≠ ""
  inhabited : entries ≠ []
  made : List.Forall₂ WrittenProduction.Makes entries productions

theorem definition_iff {symbol : String} {entries : List WrittenProduction}
    {productions : List Production} :
    Definition symbol entries productions ↔
      entries.mapM WrittenProduction.unchecked = .ok productions ∧
        Definable symbol productions := by
  rw [WrittenProduction.unchecked_specified.mapM.eq_ok_iff]
  constructor
  · intro definition
    obtain ⟨named, inhabited, made⟩ := definition
    obtain ⟨stand, written, weighted⟩ := WrittenProduction.forall₂_makes_iff.mp made
    refine ⟨stand, named, fun none => inhabited ?_, written, weighted⟩
    subst none
    exact List.forall₂_nil_right_iff.mp made
  · intro parts
    obtain ⟨stand, named, inhabited, written, weighted⟩ := parts
    refine ⟨named, fun none => inhabited ?_,
      WrittenProduction.forall₂_makes_iff.mpr ⟨stand, written, weighted⟩⟩
    subst none
    exact List.forall₂_nil_left_iff.mp stand

/-! ## Documents of one symbol -/

namespace Document

/-- A text spells a document that maps one symbol to an array of the given entries. -/
def Spells (text symbol : String) (entries : List WrittenProduction) : Prop :=
  ∃ members items, Json.parseText text = .ok (.object members) ∧
    (∀ key, Json.valueOf? members key = if key = symbol then some (.array items) else none) ∧
    List.Forall₂ WrittenProduction.WrittenAs items entries

theorem gives_array_iff {items : List Json.Value} {entries : List WrittenProduction}
    (written : List.Forall₂ WrittenProduction.WrittenAs items entries)
    {productions : List Production} :
    Gives (.array items) productions ↔
      entries ≠ [] ∧ List.Forall₂ WrittenProduction.Makes entries productions := by
  constructor
  · intro gives
    obtain ⟨listed, lists, inhabited, made⟩ := gives
    have same : entries = listed := by
      have outcome := (entries_specified "").gives (.array written)
      rw [(entries_specified "").gives lists] at outcome
      exact (Except.ok.inj outcome).symm
    rw [same]
    exact ⟨inhabited, made⟩
  · intro parts
    exact ⟨entries, .array written, parts.1, parts.2⟩

theorem describes_singleton {symbol : String} {value : Json.Value} {productions : List Production}
    (named : symbol ≠ "") (gives : Gives value productions) :
    Describes (fun key => if key = symbol then some value else none) ⟨[(symbol, productions)]⟩ where
  ascending := List.pairwise_singleton _ _
  named := if_neg named.symm
  listed := by
    intro key
    rw [Table.lookup_entry]
    dsimp only
    split
    · exact .some gives
    · exact .none

theorem describes_single_iff {symbol : String} {value : Json.Value} {document : Document} :
    Describes (fun key => if key = symbol then some value else none) document ↔
      ∃ productions, symbol ≠ "" ∧ Gives value productions ∧
        document = ⟨[(symbol, productions)]⟩ := by
  constructor
  · intro described
    obtain ⟨named, productions, gives⟩ := described.admits (if_pos rfl)
    exact ⟨productions, named, gives, described.unique (describes_singleton named gives)⟩
  · intro parts
    obtain ⟨productions, named, gives, rfl⟩ := parts
    exact describes_singleton named gives

theorem Spells.parse_eq_ok_iff {text symbol : String} {entries : List WrittenProduction}
    (spells : Spells text symbol entries) {document : Document} :
    parse text = .ok document ↔
      ∃ productions, Definition symbol entries productions ∧
        document = ⟨[(symbol, productions)]⟩ := by
  obtain ⟨members, items, read, values, written⟩ := spells
  rw [parse_of_object read, ofValue_specified.eq_ok_iff, funext values, describes_single_iff]
  constructor
  · intro parts
    obtain ⟨productions, named, gives, rfl⟩ := parts
    obtain ⟨inhabited, made⟩ := (gives_array_iff written).mp gives
    exact ⟨productions, ⟨named, inhabited, made⟩, rfl⟩
  · intro parts
    obtain ⟨productions, ⟨named, inhabited, made⟩, rfl⟩ := parts
    exact ⟨productions, named, (gives_array_iff written).mpr ⟨inhabited, made⟩, rfl⟩

/-- The document that maps a symbol to an array of entries, as it is usually written. -/
def single (symbol : String) (entries : List WrittenProduction) : Json.Value :=
  .object [(symbol, .array (entries.map WrittenProduction.toJson))]

theorem spells_single (symbol : String) (entries : List WrittenProduction) :
    Spells ((single symbol entries).pretty 0) symbol entries := by
  refine ⟨_, entries.map WrittenProduction.toJson, Json.parse_written (.pretty 0) ?_ .whole, ?_, ?_⟩
  · intro member present
    rw [List.mem_singleton.mp present]
    intro item listed
    obtain ⟨entry, -, rfl⟩ := List.mem_map.mp listed
    exact entry.fits_toJson _
  · exact fun key => Table.lookup_entry _ _ _
  · rw [List.forall₂_map_left_iff, List.forall₂_same]
    exact fun entry _ => entry.writtenAs_toJson

end Document

/-! ## Both ways -/

namespace Grammar

theorem install_single (grammar : Grammar) (symbol : String) (productions : List Production) :
    grammar.install ⟨[(symbol, productions)]⟩ =
      grammar.defineProductions symbol (.ok productions) := by
  unfold install ScopedRules.install ScopedRules.defineAll defineProductions
  cases defined : grammar.rules.define symbol productions with
  | error error => simp only [defined]
  | ok rules => simp only [defined, ScopedRules.defineAll]

theorem defineProductions_of_not_definable {grammar : Grammar} {symbol : String}
    {productions : List Production} (refused : ¬Definable symbol productions) :
    ∃ error, grammar.defineProductions symbol (.ok productions) = (.error error, grammar) := by
  unfold defineProductions
  cases defined : grammar.rules.define symbol productions with
  | error error => exact ⟨error, by simp only [defined]⟩
  | ok rules => exact absurd (ScopedRules.define_eq_ok_iff.mp defined).1 refused

theorem defineProductions_alike_load (grammar : Grammar) {text symbol : String}
    {entries : List WrittenProduction} (spells : Document.Spells text symbol entries) :
    let defined := grammar.defineProductions symbol (entries.mapM WrittenProduction.unchecked)
    (defined.1 = .ok () ↔ (grammar.load text).1 = .ok ()) ∧ defined.2 = (grammar.load text).2 := by
  by_cases accepted : ∃ productions, Definition symbol entries productions
  · obtain ⟨productions, definition⟩ := accepted
    have parsed := spells.parse_eq_ok_iff.mpr ⟨productions, definition, rfl⟩
    have same : grammar.load text =
        grammar.defineProductions symbol (entries.mapM WrittenProduction.unchecked) := by
      rw [load, parsed, installRead, install_single, (definition_iff.mp definition).1]
    rw [same]
    exact ⟨Iff.rfl, rfl⟩
  · have loaded : ∃ error, grammar.load text = (.error error, grammar) := by
      cases parsed : Document.parse text with
      | error error => exact ⟨error, by rw [load, parsed, installRead]⟩
      | ok document =>
          obtain ⟨productions, definition, -⟩ := spells.parse_eq_ok_iff.mp parsed
          exact absurd ⟨productions, definition⟩ accepted
    have defined : ∃ error, grammar.defineProductions symbol
        (entries.mapM WrittenProduction.unchecked) = (.error error, grammar) := by
      cases made : entries.mapM WrittenProduction.unchecked with
      | error error => exact ⟨error, rfl⟩
      | ok productions =>
          refine defineProductions_of_not_definable fun definable => ?_
          exact accepted ⟨productions, definition_iff.mpr ⟨made, definable⟩⟩
    obtain ⟨error, loaded⟩ := loaded
    obtain ⟨error', defined⟩ := defined
    rw [loaded, defined]
    refine ⟨iff_of_false ?_ ?_, rfl⟩
    · intro done
      cases done
    · intro done
      cases done

theorem defineWeighted_eq (grammar : Grammar) (symbol : String)
    (sources : List (String × UInt32)) :
    grammar.defineWeighted symbol sources =
      grammar.defineProductions symbol
        ((sources.map fun source => WrittenProduction.weighted source.1 source.2).mapM
          WrittenProduction.unchecked) := by
  rw [List.mapM_map]
  rfl

theorem define_eq (grammar : Grammar) (symbol : String) (sources : List String) :
    grammar.define symbol sources =
      grammar.defineProductions symbol
        ((sources.map WrittenProduction.plain).mapM WrittenProduction.unchecked) := by
  rw [List.mapM_map]
  rfl

/-- A definition succeeds exactly where loading a document of the symbol with the same texts and
weights does, whatever else the grammar holds, and both leave the same grammar. There is such a
document for every definition, also for one that is refused. -/
theorem definitions_are_checked_as_documents (grammar : Grammar) (symbol : String) :
    (∀ sources : List (String × UInt32),
      let entries := sources.map fun source => WrittenProduction.weighted source.1 source.2
      (∃ text, Document.Spells text symbol entries) ∧
        ∀ text, Document.Spells text symbol entries →
          ((grammar.defineWeighted symbol sources).1 = .ok () ↔ (grammar.load text).1 = .ok ()) ∧
            (grammar.defineWeighted symbol sources).2 = (grammar.load text).2) ∧
    ∀ sources : List String,
      let entries := sources.map WrittenProduction.plain
      (∃ text, Document.Spells text symbol entries) ∧
        ∀ text, Document.Spells text symbol entries →
          ((grammar.define symbol sources).1 = .ok () ↔ (grammar.load text).1 = .ok ()) ∧
            (grammar.define symbol sources).2 = (grammar.load text).2 := by
  constructor
  · intro sources
    refine ⟨⟨_, Document.spells_single symbol _⟩, fun text spells => ?_⟩
    rw [defineWeighted_eq]
    exact grammar.defineProductions_alike_load spells
  · intro sources
    refine ⟨⟨_, Document.spells_single symbol _⟩, fun text spells => ?_⟩
    rw [define_eq]
    exact grammar.defineProductions_alike_load spells

/-- A document that gives the weight before the text, and a definition of a text without weight. -/
theorem weight_first_and_no_weight :
    (∃ text grammar, Document.Spells text "a" [.weighted "x" 2] ∧
      (empty (.listed [])).defineWeighted "a" [("x", 2)] = (.ok (), grammar) ∧
      (empty (.listed [])).load text = (.ok (), grammar)) ∧
    ∃ text error, Document.Spells text "a" [.weighted "x" 0] ∧
      (empty (.listed [])).defineWeighted "a" [("x", 0)] = (.error error, empty (.listed [])) ∧
      ((empty (.listed [])).load text).1 ≠ .ok () ∧
      ((empty (.listed [])).load text).2 = empty (.listed []) := by
  obtain ⟨weighted, -⟩ := definitions_are_checked_as_documents (empty (.listed [])) "a"
  constructor
  · have spells : Document.Spells
        "\x7b\"a\":[\x7b\"weight\":2,\"text\":\"x\"\x7d]\x7d" "a" [.weighted "x" 2] := by
      have read : Json.parseText "\x7b\"a\":[\x7b\"weight\":2,\"text\":\"x\"\x7d]\x7d" =
          .ok (.object [("a", .array [.object [("weight", .number (.integer 2)),
            ("text", .string "x")]])]) := by
        rw [Json.parseText, Json.toUTF8_toList]
        rfl
      refine ⟨_, _, read, fun key => Table.lookup_entry _ _ _, .cons (.weighted ?_) .nil⟩
      intro field
      exact (Table.lookup_entry _ _ _).trans (if_congr Iff.rfl rfl (Table.lookup_entry _ _ _))
    obtain ⟨succeeds, leaves⟩ := (weighted [("x", 2)]).2 _ spells
    refine ⟨_, _, spells, rfl, ?_⟩
    exact Prod.ext (succeeds.mp rfl) leaves.symm
  · obtain ⟨text, spells⟩ := (weighted [("x", 0)]).1
    obtain ⟨succeeds, leaves⟩ := (weighted [("x", 0)]).2 text spells
    refine ⟨text, _, spells, rfl, fun loaded => ?_, leaves.symm⟩
    cases succeeds.mpr loaded

end Grammar

end StoryGrammar
