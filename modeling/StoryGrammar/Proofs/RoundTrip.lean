import StoryGrammar.Proofs.Json.Written
import StoryGrammar.Proofs.Steps

set_option autoImplicit false

/-!
# Grammars written and loaded again

Every base rule that a grammar can come to have passes all checks of a document once more, so the
text of a grammar is a document of exactly its base rules.
-/

namespace StoryGrammar

/-! ## Productions -/

namespace WrittenProduction

theorem writtenAs_toJson (entry : WrittenProduction) : WrittenAs entry.toJson entry := by
  cases entry with
  | plain text => exact .plain text
  | weighted text weight =>
      have distinct (text weight : Json.Value) :
          (List.map Prod.fst [("text", text), ("weight", weight)]).Nodup := by simp
      refine .weighted fun field => ?_
      rw [Json.valueOf?, Table.lookup_reverse (distinct _ _), Table.lookup_entry,
        Table.lookup_entry, List.lookup_nil]

theorem fits_toJson (entry : WrittenProduction) (room : Nat) : entry.toJson.Fits (room + 1) := by
  cases entry with
  | plain text => exact Json.Value.fits_string (room + 1) text
  | weighted text weight =>
      intro field named
      simp only [List.mem_cons, List.not_mem_nil, or_false] at named
      rcases named with rfl | rfl
      · exact Json.Value.fits_string room text
      · have small : weight.toNat < UInt64.size := Nat.lt_trans weight.toNat_lt (by decide)
        exact Json.Value.fits_natural room small

theorem text_ofProduction (production : Production) :
    (ofProduction production).text = production.source := by
  unfold ofProduction
  split <;> rfl

theorem weight_ofProduction (production : Production) :
    (ofProduction production).weight = production.weight := by
  unfold ofProduction
  split
  · rename_i one
    exact one.symm
  · rfl

theorem makes_ofProduction {production : Production} (checked : production.Checked) :
    (ofProduction production).Makes production := by
  obtain ⟨written, weighted, authored⟩ := checked
  have text := text_ofProduction production
  have weight := weight_ofProduction production
  exact ⟨text.symm, weight.symm, text ▸ written, weight ▸ weighted,
    text ▸ Production.parse_of_ofSource authored⟩

end WrittenProduction

namespace Document

def written (productions : List Production) : Json.Value :=
  .array (productions.map fun production => (WrittenProduction.ofProduction production).toJson)

theorem gives_written {productions : List Production} (inhabited : productions ≠ [])
    (checked : ∀ production ∈ productions, production.Checked) :
    Gives (written productions) productions := by
  refine ⟨productions.map WrittenProduction.ofProduction, .array ?_, ?_, ?_⟩
  · rw [List.forall₂_map_left_iff, List.forall₂_map_right_iff, List.forall₂_same]
    exact fun production _ => WrittenProduction.writtenAs_toJson _
  · exact fun none => inhabited (List.map_eq_nil_iff.mp none)
  · rw [List.forall₂_map_left_iff, List.forall₂_same]
    exact fun production present =>
      WrittenProduction.makes_ofProduction (checked production present)

end Document

/-! ## Base rules -/

namespace ScopedRules

def entries (rules : ScopedRules) : List (String × List Production) :=
  rules.base.entries.map fun entry => (entry.1, entry.2.productions)

def Redefinable (rules : ScopedRules) : Prop :=
  ∀ symbol rule, rules.base.find? symbol = some rule →
    Definable symbol rule.productions ∧ Authored rule.productions

theorem Redefinable.withRules {rules : ScopedRules} (redefinable : rules.Redefinable)
    {entries : List (String × List Production)} (installable : Installable entries) :
    (rules.withRules entries).Redefinable := by
  intro symbol rule found
  rw [find?_withRules installable.distinct] at found
  cases given : entries.lookup symbol with
  | none =>
      rw [given] at found
      exact redefinable symbol rule found
  | some productions =>
      rw [given] at found
      cases found
      have member := Table.mem_of_lookup given
      exact ⟨installable.definable _ member, installable.authored _ member⟩

theorem Redefinable.definable {rules : ScopedRules} (redefinable : rules.Redefinable) :
    ∀ entry ∈ rules.entries, Definable entry.1 entry.2 := by
  intro entry member
  obtain ⟨stored, present, rfl⟩ := List.mem_map.mp member
  exact (redefinable stored.1 stored.2 (Table.find?_of_mem present)).1

theorem toValue_eq (rules : ScopedRules) :
    rules.toValue = .object (rules.base.entries.map fun entry =>
      (entry.1, Document.written entry.2.productions)) :=
  rfl

theorem ofValue_toValue {rules : ScopedRules} (redefinable : rules.Redefinable) :
    Document.ofValue rules.toValue = .ok ⟨rules.entries⟩ := by
  have made : List.Forall₂ Document.MadeOf
      (rules.base.entries.map fun entry => (entry.1, Document.written entry.2.productions))
      rules.entries := by
    rw [entries, List.forall₂_map_left_iff, List.forall₂_map_right_iff, List.forall₂_same]
    intro entry member
    obtain ⟨definable, authored⟩ := redefinable entry.1 entry.2 (Table.find?_of_mem member)
    have checked : ∀ production ∈ entry.2.productions, production.Checked :=
      fun production present => ⟨definable.written production present,
        definable.weighted production present, authored production present⟩
    exact ⟨rfl, definable.named, Document.gives_written definable.inhabited checked⟩
  have sorted : (Table.ofList (rules.base.entries.map fun entry =>
      (entry.1, Document.written entry.2.productions))).entries =
        rules.base.entries.map fun entry => (entry.1, Document.written entry.2.productions) :=
    Table.entries_ofList (rules.base.ascending.map _ fun _ _ before => before)
  rw [toValue_eq, Document.ofValue_object, sorted, Document.rule_specified.mapM.gives made]
  rfl

/-- In the document that the rules are written as, objects stand in arrays in one object. -/
theorem fits_toValue (rules : ScopedRules) (room : Nat) : rules.toValue.Fits (room + 3) := by
  rw [toValue_eq]
  intro member present
  obtain ⟨entry, -, rfl⟩ := List.mem_map.mp present
  intro item listed
  obtain ⟨production, -, rfl⟩ := List.mem_map.mp listed
  exact WrittenProduction.fits_toJson _ room

theorem ofBytes_toJson {rules : ScopedRules} (redefinable : rules.Redefinable)
    (arrival : Json.Arrival) :
    Document.ofBytes arrival rules.toJson.toUTF8.toList = .ok ⟨rules.entries⟩ := by
  have fits : rules.toValue.Fits Json.depthLimit := rules.fits_toValue 124
  rw [Document.ofBytes, toJson, Json.parse_written (.pretty 0) fits]
  exact ofValue_toValue redefinable

theorem withRules_entries (rules : ScopedRules) :
    empty.withRules rules.entries = ⟨rules.base, []⟩ := by
  have listed : (rules.entries.map fun entry => (entry.1, Rule.mk entry.2)) = rules.base.entries := by
    rw [entries, List.map_map]
    exact List.map_id _
  rw [withRules, listed]
  exact congrArg (ScopedRules.mk · []) (Table.ofList_entries rules.base)

end ScopedRules

/-! ## Grammars -/

namespace Grammar

theorem Reachable.redefinable {grammar : Grammar} (reachable : grammar.Reachable) :
    grammar.rules.Redefinable := by
  refine reachable.invariant (fun grammar => grammar.rules.Redefinable) ?_ ?_
  · intro generator symbol rule found
    cases found
  · intro before after operation reply performed redefinable
    cases perform_step performed with
    | installed _ installable => exact redefinable.withRules installable
    | refused => exact redefinable
    | other _ same =>
        rw [same]
        exact redefinable

/-- A grammar without rules that is given the text of another has the base rules of that one. -/
theorem installRead_written {grammar : Grammar} (redefinable : grammar.rules.Redefinable)
    (target : Grammar) (unfilled : target.rules = .empty) (arrival : Json.Arrival) :
    target.installRead (Document.ofBytes arrival grammar.toJson.toUTF8.toList) =
      (.ok (), { target with rules := ⟨grammar.rules.base, []⟩ }) := by
  rw [toJson, ScopedRules.ofBytes_toJson redefinable]
  change (target.rules.defineAll grammar.rules.entries |>.1,
    { target with rules := (target.rules.defineAll grammar.rules.entries).2 }) = _
  rw [ScopedRules.defineAll_of_definable redefinable.definable, unfilled,
    ScopedRules.withRules_entries]

/-- The text of a grammar loads into a grammar without rules and gives it exactly the base rules
that were written. With the modifiers and settings of the original and a generator of a seed, it is
the fork of the original with that seed, so it answers every later operation alike. -/
theorem written_grammar_loads_again {grammar : Grammar} (reachable : grammar.Reachable) :
    (∀ generator, ∃ loaded,
      (empty generator).load grammar.toJson = (.ok (), loaded) ∧
        (empty generator).loadBytes grammar.toJson.toUTF8.toList = (.ok (), loaded) ∧
        loaded.rules.base = grammar.rules.base) ∧
    ∀ seed, ∃ loaded,
      load { ofSeed seed with modifiers := grammar.modifiers, config := grammar.config }
          grammar.toJson = (.ok (), loaded) ∧
        loaded = grammar.fork seed ∧
        ∀ history after, Run loaded history after ↔ Run (grammar.fork seed) history after := by
  have redefinable := reachable.redefinable
  constructor
  · intro generator
    exact ⟨_, installRead_written redefinable (empty generator) rfl .whole,
      installRead_written redefinable (empty generator) rfl .streamed, rfl⟩
  · intro seed
    have unscoped : (⟨grammar.rules.base, []⟩ : ScopedRules) = grammar.rules := by
      rw [← reachable.scopes_eq_nil]
    have loads := installRead_written redefinable
      { ofSeed seed with modifiers := grammar.modifiers, config := grammar.config } rfl .whole
    rw [unscoped] at loads
    exact ⟨_, loads, rfl, fun history after => Iff.rfl⟩

theorem written_definition_loads_again :
    ∃ grammar loaded : Grammar,
      (empty (.listed [])).perform (.define "name" ["Ada"]) = some (.ok none, grammar) ∧
      (empty (.listed [])).load grammar.toJson = (.ok (), loaded) ∧
      loaded.rules.base.find? "name" = some ⟨[⟨"Ada", 1, [.literal "Ada"]⟩]⟩ := by
  obtain ⟨grammar, performed, found⟩ : ∃ grammar : Grammar,
      (empty (.listed [])).perform (.define "name" ["Ada"]) = some (.ok none, grammar) ∧
        grammar.rules.base.find? "name" = some ⟨[⟨"Ada", 1, [.literal "Ada"]⟩]⟩ :=
    ⟨_, rfl, rfl⟩
  have reachable : grammar.Reachable := .performed (.empty (.listed [])) performed
  obtain ⟨loaded, loads, -, same⟩ := (written_grammar_loads_again reachable).1 (.listed [])
  exact ⟨grammar, loaded, performed, loads, same ▸ found⟩

end Grammar

end StoryGrammar
