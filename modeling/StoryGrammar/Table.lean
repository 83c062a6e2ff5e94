set_option autoImplicit false

/-!
# Tables

A table maps names to values. Its entries are kept in ascending order of their names, so two tables
are equal exactly when they map every name alike, and listing a table needs no sorting.
-/

namespace StoryGrammar

/-- A finite map from names, in ascending order and without repetition. -/
structure Table (α : Type) where
  entries : List (String × α)
  ascending : entries.Pairwise fun earlier later => earlier.1 < later.1

namespace Table

variable {α : Type}

def empty : Table α :=
  ⟨[], .nil⟩

/-- The entries with one more, in place of the one of the same name if there is one. -/
def insertEntry (name : String) (value : α) : List (String × α) → List (String × α)
  | [] => [(name, value)]
  | entry :: entries =>
      if name < entry.1 then (name, value) :: entry :: entries
      else if name = entry.1 then (name, value) :: entries
      else entry :: insertEntry name value entries

theorem mem_insertEntry {name : String} {value : α} {entries : List (String × α)}
    {entry : String × α} (present : entry ∈ insertEntry name value entries) :
    entry.1 = name ∨ entry ∈ entries := by
  induction entries with
  | nil => simp_all [insertEntry]
  | cons head tail ih =>
      unfold insertEntry at present
      split at present
      · rcases List.mem_cons.1 present with same | rest
        · exact .inl (by rw [same])
        · exact .inr rest
      · split at present
        · rcases List.mem_cons.1 present with same | rest
          · exact .inl (by rw [same])
          · exact .inr (List.mem_cons_of_mem _ rest)
        · rcases List.mem_cons.1 present with same | rest
          · exact .inr (same ▸ List.mem_cons_self)
          · exact (ih rest).imp id (List.mem_cons_of_mem _)

theorem pairwise_insertEntry (name : String) (value : α) {entries : List (String × α)}
    (ascending : entries.Pairwise fun earlier later => earlier.1 < later.1) :
    (insertEntry name value entries).Pairwise fun earlier later => earlier.1 < later.1 := by
  induction entries with
  | nil => simp [insertEntry]
  | cons head tail ih =>
      obtain ⟨above, ascendingTail⟩ := List.pairwise_cons.1 ascending
      unfold insertEntry
      split
      · rename_i before
        refine List.pairwise_cons.2 ⟨fun entry present => ?_, ascending⟩
        rcases List.mem_cons.1 present with same | rest
        · exact same ▸ before
        · exact String.lt_trans before (above entry rest)
      · split
        · rename_i same
          exact List.pairwise_cons.2 ⟨fun entry present => same ▸ above entry present,
            ascendingTail⟩
        · rename_i notBefore different
          refine List.pairwise_cons.2 ⟨fun entry present => ?_, ih ascendingTail⟩
          rcases mem_insertEntry present with same | rest
          · exact same ▸ Std.lt_of_le_of_ne (String.not_lt.1 notBefore) (Ne.symm different)
          · exact above entry rest

/-- The table with one more entry, in place of the one of the same name if there is one. -/
def insert (table : Table α) (name : String) (value : α) : Table α :=
  ⟨insertEntry name value table.entries, pairwise_insertEntry name value table.ascending⟩

def find? (table : Table α) (name : String) : Option α :=
  table.entries.lookup name

def contains (table : Table α) (name : String) : Bool :=
  (table.find? name).isSome

def names (table : Table α) : List String :=
  table.entries.map (·.1)

def ofList (entries : List (String × α)) : Table α :=
  entries.foldl (fun table entry => table.insert entry.1 entry.2) empty

/-- A name is looked up in the first entry and then in the others. -/
theorem lookup_entry (entry : String × α) (entries : List (String × α)) (name : String) :
    (entry :: entries).lookup name =
      if name = entry.1 then some entry.2 else entries.lookup name := by
  obtain ⟨key, value⟩ := entry
  by_cases same : name = key
  · simp [same]
  · simp [List.lookup_cons, same, beq_false_of_ne same]

@[simp]
theorem find?_empty (name : String) : (empty : Table α).find? name = none :=
  rfl

/-- An inserted value is found under its name, and nothing else changes. -/
theorem find?_insert (table : Table α) (name : String) (value : α) (sought : String) :
    (table.insert name value).find? sought =
      if sought = name then some value else table.find? sought := by
  suffices found : ∀ entries : List (String × α),
      (insertEntry name value entries).lookup sought =
        if sought = name then some value else entries.lookup sought from found table.entries
  intro entries
  induction entries with
  | nil => simp [insertEntry, lookup_entry]
  | cons head tail ih =>
      unfold insertEntry
      split
      · rw [lookup_entry]
      · split
        · rename_i same
          rw [lookup_entry, lookup_entry, ← same]
          split <;> rfl
        · rename_i different
          rw [lookup_entry, lookup_entry, ih]
          by_cases atHead : sought = head.1
          · simp [atHead, Ne.symm different]
          · simp [atHead]

theorem lookup_eq_none_of_lt {entries : List (String × α)} {name : String}
    (above : ∀ entry ∈ entries, name < entry.1) : entries.lookup name = none := by
  induction entries with
  | nil => rfl
  | cons head tail ih =>
      have different : name ≠ head.1 := fun same =>
        String.lt_irrefl _ (same ▸ above head List.mem_cons_self)
      rw [lookup_entry, if_neg different]
      exact ih fun entry present => above entry (List.mem_cons_of_mem _ present)

theorem ext {left right : Table α} (alike : ∀ name, left.find? name = right.find? name) :
    left = right := by
  obtain ⟨entries, ascending⟩ := left
  obtain ⟨others, ascending'⟩ := right
  simp only [mk.injEq]
  simp only [find?] at alike
  induction entries generalizing others with
  | nil =>
      cases others with
      | nil => rfl
      | cons head tail => simpa [lookup_entry] using alike head.1
  | cons head tail ih =>
      cases others with
      | nil => simpa [lookup_entry] using alike head.1
      | cons other rest =>
          obtain ⟨above, ascendingTail⟩ := List.pairwise_cons.1 ascending
          obtain ⟨above', ascendingRest⟩ := List.pairwise_cons.1 ascending'
          have notBefore : ¬head.1 < other.1 := by
            intro before
            have missing : (other :: rest).lookup head.1 = none :=
              lookup_eq_none_of_lt fun entry present => by
                rcases List.mem_cons.1 present with atHead | inRest
                · exact atHead ▸ before
                · exact String.lt_trans before (above' entry inRest)
            have found := alike head.1
            rw [missing, lookup_entry, if_pos rfl] at found
            exact absurd found (by simp)
          have notAfter : ¬other.1 < head.1 := by
            intro after
            have missing : (head :: tail).lookup other.1 = none :=
              lookup_eq_none_of_lt fun entry present => by
                rcases List.mem_cons.1 present with atHead | inTail
                · exact atHead ▸ after
                · exact String.lt_trans after (above entry inTail)
            have found := alike other.1
            rw [missing, lookup_entry, if_pos rfl] at found
            exact absurd found (by simp)
          have same : head.1 = other.1 :=
            String.le_antisymm (String.not_lt.1 notAfter) (String.not_lt.1 notBefore)
          have value : head.2 = other.2 := by
            have found := alike other.1
            rw [lookup_entry, lookup_entry, if_pos same.symm, if_pos rfl] at found
            exact Option.some.inj found
          have tails : tail = rest := by
            refine ih ascendingTail rest ascendingRest fun name => ?_
            by_cases atHead : name = head.1
            · rw [lookup_eq_none_of_lt (atHead ▸ above),
                lookup_eq_none_of_lt (atHead ▸ same ▸ above')]
            · have found := alike name
              rwa [lookup_entry, lookup_entry, if_neg atHead, if_neg (same ▸ atHead)] at found
          rw [Prod.ext same value, tails]

end Table

end StoryGrammar
