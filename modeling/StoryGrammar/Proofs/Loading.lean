import StoryGrammar.Proofs.Document.Checking

set_option autoImplicit false

/-!
# Documents that were read

The rules of a document that was read are definable, their templates come from their texts, and its
symbols are the keys of the object it was read from, each once.
-/

namespace StoryGrammar

namespace Production

theorem ofSource_eq_ok {source : String} {weight : UInt32} {production : Production}
    (made : ofSource source weight = .ok production) :
    production.source = source ∧ production.weight = weight ∧
      ofSource production.source production.weight = .ok production := by
  have same : production.source = source ∧ production.weight = weight := by
    unfold ofSource at made
    cases read : Template.parse source with
    | error error => simp [read] at made
    | ok template =>
        simp only [read, Except.ok.injEq] at made
        subst made
        exact ⟨rfl, rfl⟩
  obtain ⟨rfl, rfl⟩ := same
  exact ⟨rfl, rfl, made⟩

theorem parse_of_ofSource {source : String} {weight : UInt32} {production : Production}
    (made : ofSource source weight = .ok production) :
    Template.parse source = .ok production.template := by
  unfold ofSource at made
  cases read : Template.parse source with
  | error error => simp [read] at made
  | ok template =>
      simp only [read, Except.ok.injEq] at made
      rw [← made]

end Production

def Production.Checked (production : Production) : Prop :=
  production.source ≠ "" ∧ production.weight ≠ 0 ∧
    Production.ofSource production.source production.weight = .ok production

theorem WrittenProduction.Makes.checked {entry : WrittenProduction} {production : Production}
    (makes : entry.Makes production) : production.Checked := by
  obtain ⟨source, weight, template⟩ := production
  obtain ⟨rfl, rfl, written, weighted, read⟩ := makes
  refine ⟨written, weighted, ?_⟩
  rw [Production.ofSource, read]

namespace Document

theorem Gives.checked {value : Json.Value} {productions : List Production}
    (gives : Gives value productions) :
    productions ≠ [] ∧ ∀ production ∈ productions, production.Checked := by
  obtain ⟨entries, -, inhabited, made⟩ := gives
  constructor
  · rintro rfl
    exact inhabited (List.forall₂_nil_right_iff.mp made)
  · clear inhabited
    intro production present
    induction made with
    | nil => cases present
    | cons makes _ ih =>
        rcases List.mem_cons.mp present with rfl | later
        · exact makes.checked
        · exact ih later

theorem MadeOf.definable {member : String × Json.Value} {entry : String × List Production}
    (made : MadeOf member entry) : Definable entry.1 entry.2 ∧ Authored entry.2 := by
  obtain ⟨same, named, gives⟩ := made
  obtain ⟨inhabited, checked⟩ := gives.checked
  refine ⟨⟨?_, inhabited, ?_, ?_⟩, ?_⟩
  · rwa [same]
  · exact fun production present => (checked production present).1
  · exact fun production present => (checked production present).2.1
  · exact fun production present => (checked production present).2.2

theorem ofValue_eq_ok {value : Json.Value} {document : Document}
    (read : Document.ofValue value = .ok document) :
    ∃ members, value = .object members ∧
      (Table.ofList members).entries.mapM Document.rule = .ok document.rules := by
  unfold Document.ofValue at read
  cases value with
  | object members =>
      refine ⟨members, rfl, ?_⟩
      simp only at read
      cases mapped : (Table.ofList members).entries.mapM Document.rule with
      | error error => simp [mapped, bind, Except.bind] at read
      | ok rules =>
          simp only [mapped, bind, Except.bind, pure, Except.pure, Except.ok.injEq] at read
          rw [← read]
  | null | boolean _ | number _ | string _ | array _ => cases read

theorem symbols_of_mapM {table : Table Json.Value} {rules : List (String × List Production)}
    (mapped : table.entries.mapM Document.rule = .ok rules) :
    rules.map (·.1) = table.names :=
  symbols_of_madeOf (rule_specified.mapM.eq_ok_iff.mp mapped)

theorem installable_of_ofValue {value : Json.Value} {document : Document}
    (read : Document.ofValue value = .ok document) : Installable document.rules := by
  obtain ⟨members, rfl, mapped⟩ := ofValue_eq_ok read
  have made : ∀ entry ∈ document.rules, Definable entry.1 entry.2 ∧ Authored entry.2 := by
    intro entry present
    obtain ⟨member, -, origin⟩ := exists_of_mem_mapM mapped present
    exact (rule_specified.eq_ok_iff.mp origin).definable
  refine ⟨fun entry present => (made entry present).1,
    fun entry present => (made entry present).2, ?_⟩
  rw [symbols_of_mapM mapped]
  exact (Table.ofList members).names_nodup

/-- What a document that was read gives a symbol is what its object gives it. -/
theorem lookup_of_mapM {members : List (String × Json.Value)}
    {rules : List (String × List Production)} (mapped : members.mapM Document.rule = .ok rules)
    (symbol : String) :
    (members.lookup symbol).map (Document.productions symbol) =
      (rules.lookup symbol).map Except.ok := by
  have related := lookup_of_madeOf (rule_specified.mapM.eq_ok_iff.mp mapped) symbol
  generalize members.lookup symbol = value at related ⊢
  generalize rules.lookup symbol = productions at related ⊢
  cases related with
  | none => rfl
  | some given => exact congrArg some ((productions_specified symbol).gives given.2)

end Document

end StoryGrammar
