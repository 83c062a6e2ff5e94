import StoryGrammar.Document
import StoryGrammar.Proofs.Outcome

set_option autoImplicit false

/-!
# Defining base rules

Which productions may become a base rule, and what is left after defining one or several. A document
that was read contains nothing that could be refused, so it is installed as a whole.
-/

namespace StoryGrammar

/-! ## Tables filled in order -/

namespace Table

variable {α : Type}

def insertAll (table : Table α) (entries : List (String × α)) : Table α :=
  entries.foldl (fun table entry => table.insert entry.1 entry.2) table

/-- Among inserted entries of one name the last counts. -/
theorem find?_insertAll (table : Table α) (entries : List (String × α)) (name : String) :
    (table.insertAll entries).find? name =
      (entries.reverse.lookup name).or (table.find? name) := by
  induction entries generalizing table with
  | nil => rfl
  | cons entry entries ih =>
      change ((table.insert entry.1 entry.2).insertAll entries).find? name = _
      rw [ih, find?_insert, List.reverse_cons, List.lookup_append, lookup_entry]
      cases entries.reverse.lookup name with
      | some value => rfl
      | none =>
          by_cases same : name = entry.1 <;> simp [same]

theorem lookup_eq_none_of_not_mem {entries : List (String × α)} {name : String}
    (absent : name ∉ entries.map (·.1)) : entries.lookup name = none := by
  refine List.lookup_eq_none_iff.mpr fun entry present => ?_
  have different : name ≠ entry.1 := fun same => absent (List.mem_map.mpr ⟨entry, present, same.symm⟩)
  simpa using different

theorem lookup_map {β : Type} (entries : List (String × α)) (function : α → β) (name : String) :
    (entries.map fun entry => (entry.1, function entry.2)).lookup name =
      (entries.lookup name).map function := by
  induction entries with
  | nil => rfl
  | cons entry entries ih =>
      rw [List.map_cons, lookup_entry, lookup_entry, ih]
      by_cases same : name = entry.1 <;> simp [same]

/-- Without repetition it does not matter from which end entries are searched. -/
theorem lookup_reverse {entries : List (String × α)} (distinct : (entries.map (·.1)).Nodup)
    (name : String) : entries.reverse.lookup name = entries.lookup name := by
  induction entries with
  | nil => rfl
  | cons entry entries ih =>
      rw [List.map_cons, List.nodup_cons] at distinct
      rw [List.reverse_cons, List.lookup_append, ih distinct.2, lookup_entry, lookup_entry]
      by_cases same : name = entry.1
      · rw [lookup_eq_none_of_not_mem (same ▸ distinct.1)]
        simp [same]
      · simp [same]

theorem names_nodup (table : Table α) : table.names.Nodup := by
  refine List.Pairwise.map (·.1) (fun earlier later before => ?_) table.ascending
  rintro same
  exact String.lt_irrefl _ (same ▸ before)

theorem find?_ofList (members : List (String × α)) (name : String) :
    (ofList members).find? name = members.reverse.lookup name := by
  change (empty.insertAll members).find? name = _
  rw [find?_insertAll, find?_empty, Option.or_none]

/-- Listing a table and filling another with the list gives the same table. -/
theorem ofList_entries (table : Table α) : ofList table.entries = table := by
  refine ext fun name => ?_
  rw [find?_ofList, lookup_reverse table.names_nodup]
  rfl

theorem find?_of_mem {table : Table α} {entry : String × α} (member : entry ∈ table.entries) :
    table.find? entry.1 = some entry.2 := by
  obtain ⟨entries, ascending⟩ := table
  change entries.lookup entry.1 = some entry.2
  induction entries with
  | nil => cases member
  | cons first entries ih =>
      obtain ⟨above, ascending⟩ := List.pairwise_cons.mp ascending
      rw [lookup_entry]
      rcases List.mem_cons.mp member with rfl | later
      · rw [if_pos rfl]
      · have different : entry.1 ≠ first.1 := fun same =>
          String.lt_irrefl _ (same ▸ above entry later)
        rw [if_neg different]
        exact ih ascending later

theorem mem_of_lookup {entries : List (String × α)} {name : String} {value : α}
    (found : entries.lookup name = some value) : (name, value) ∈ entries := by
  induction entries with
  | nil => cases found
  | cons first entries ih =>
      rw [lookup_entry] at found
      split at found
      · rename_i same
        cases found
        rw [same]
        exact .head _
      · exact .tail _ (ih found)

theorem entries_ofList {entries : List (String × α)}
    (ascending : entries.Pairwise fun earlier later => earlier.1 < later.1) :
    (ofList entries).entries = entries :=
  congrArg Table.entries (ofList_entries ⟨entries, ascending⟩)

end Table

/-! ## Productions of base rules -/

/-- Productions that may become the base rule of a symbol. -/
structure Definable (symbol : String) (productions : List Production) : Prop where
  named : symbol ≠ ""
  inhabited : productions ≠ []
  written : ∀ production ∈ productions, production.source ≠ ""
  weighted : ∀ production ∈ productions, production.weight ≠ 0

def Authored (productions : List Production) : Prop :=
  ∀ production ∈ productions,
    Production.ofSource production.source production.weight = .ok production

structure Installable (entries : List (String × List Production)) : Prop where
  definable : ∀ entry ∈ entries, Definable entry.1 entry.2
  authored : ∀ entry ∈ entries, Authored entry.2
  distinct : (entries.map (·.1)).Nodup

namespace ScopedRules

theorem ruleOf_eq_ok_iff {symbol : String} {productions : List Production} {rule : Rule} :
    ruleOf symbol productions = .ok rule ↔
      symbol ≠ "" ∧ productions ≠ [] ∧ (∀ production ∈ productions, production.weight ≠ 0) ∧
        rule = ⟨productions⟩ := by
  unfold ruleOf
  split
  · simp_all
  · split
    · simp_all
    · split
      · rename_i weightless
        obtain ⟨production, member, zero⟩ := List.any_eq_true.mp weightless
        constructor
        · intro made
          cases made
        · rintro ⟨-, -, weighted, -⟩
          exact absurd (eq_of_beq zero) (weighted production member)
      · constructor
        · rintro made
          cases made
          simp_all
        · rintro ⟨-, -, -, rfl⟩
          rfl

/-- A rule is defined exactly where its productions may become one, and nothing else changes. -/
theorem define_eq_ok_iff {rules after : ScopedRules} {symbol : String}
    {productions : List Production} :
    rules.define symbol productions = .ok after ↔
      Definable symbol productions ∧
        after = { rules with base := rules.base.insert symbol ⟨productions⟩ } := by
  unfold define
  split
  · rename_i unwritten
    constructor
    · intro defined
      cases defined
    · rintro ⟨definable, -⟩
      obtain ⟨production, member, empty⟩ := List.any_eq_true.mp unwritten
      exact absurd (String.isEmpty_iff.mp empty) (definable.written production member)
  · rename_i written
    cases made : ruleOf symbol productions with
    | error error =>
        constructor
        · intro defined
          cases defined
        · rintro ⟨definable, -⟩
          have valid := ruleOf_eq_ok_iff.mpr
            ⟨definable.named, definable.inhabited, definable.weighted, rfl⟩
          rw [made] at valid
          cases valid
    | ok rule =>
        obtain ⟨named, inhabited, weighted, rfl⟩ := ruleOf_eq_ok_iff.mp made
        constructor
        · intro defined
          cases defined
          refine ⟨⟨named, inhabited, ?_, weighted⟩, rfl⟩
          intro production member empty
          exact written (List.any_eq_true.mpr ⟨production, member, String.isEmpty_iff.mpr empty⟩)
        · rintro ⟨-, rfl⟩
          rfl

def withRules (rules : ScopedRules) (entries : List (String × List Production)) : ScopedRules :=
  { rules with base := rules.base.insertAll (entries.map fun entry => (entry.1, ⟨entry.2⟩)) }

theorem find?_withRules {entries : List (String × List Production)}
    (distinct : (entries.map (·.1)).Nodup) (rules : ScopedRules) (symbol : String) :
    (rules.withRules entries).base.find? symbol =
      ((entries.lookup symbol).map Rule.mk).or (rules.base.find? symbol) := by
  rw [withRules, Table.find?_insertAll, Table.lookup_reverse, Table.lookup_map]
  rwa [List.map_map]

/-- Nothing stops a definition of rules that are all definable. -/
theorem defineAll_of_definable {entries : List (String × List Production)}
    (definable : ∀ entry ∈ entries, Definable entry.1 entry.2) (rules : ScopedRules) :
    rules.defineAll entries = (.ok (), rules.withRules entries) := by
  induction entries generalizing rules with
  | nil => rfl
  | cons entry entries ih =>
      have defined : rules.define entry.1 entry.2 = .ok (rules.withRules [entry]) :=
        define_eq_ok_iff.mpr ⟨definable entry (.head _), rfl⟩
      rw [defineAll, defined]
      exact ih (fun other later => definable other (.tail _ later)) _

end ScopedRules

end StoryGrammar
