import StoryGrammar.Proofs.Document.Format

set_option autoImplicit false

/-!
# Written productions are checked by the format

The functions that read an item of an array and make a production of it give what the format says,
or fail as the format says.
-/

namespace StoryGrammar

/-! ## Tables -/

namespace Table

variable {α Error : Type} {Fits : String → α → Prop} {Fault : String → α → Error → Prop}

theorem forall_find?_iff (table : Table α) :
    (∀ key value, table.find? key = some value → Fits key value) ↔
      ∀ entry ∈ table.entries, Fits entry.1 entry.2 :=
  ⟨fun all _ present => all _ _ (find?_of_mem present),
    fun all _ _ found => all _ (mem_of_lookup found)⟩

/-- Entries are in order, so the least key with a fault is that of the first entry with one. -/
theorem leastFault_iff (table : Table α) {error : Error} :
    LeastFault table.find? Fits Fault error ↔
      FirstFault (fun entry => Fits entry.1 entry.2) (fun entry => Fault entry.1 entry.2)
        table.entries error := by
  constructor
  · intro least
    obtain ⟨key, value, found, fault, lesser⟩ := least
    obtain ⟨before, after, split⟩ := List.append_of_mem (mem_of_lookup found)
    refine ⟨before, (key, value), after, split, fun earlier member => ?_, fault⟩
    have present : earlier ∈ table.entries := split ▸ List.mem_append_left _ member
    have ascending := split ▸ table.ascending
    exact lesser _ _ ((List.pairwise_append.mp ascending).2.2 earlier member _ (.head _))
      (find?_of_mem present)
  · intro first
    obtain ⟨before, ⟨key, value⟩, after, split, fit, fault⟩ := first
    have present : (key, value) ∈ table.entries :=
      split ▸ List.mem_append_right _ (.head _)
    refine ⟨key, value, find?_of_mem present, fault, fun lesser other below found => ?_⟩
    have member := mem_of_lookup found
    have ascending := split ▸ table.ascending
    obtain ⟨-, above, -⟩ := List.pairwise_append.mp ascending
    rw [split] at member
    rcases List.mem_append.mp member with earlier | later
    · exact fit _ earlier
    · rcases List.mem_cons.mp later with same | later
      · cases same
        exact absurd below (String.lt_irrefl _)
      · exact absurd (String.lt_trans below ((List.pairwise_cons.mp above).1 _ later))
          (String.lt_irrefl _)

end Table

theorem Json.valueOf?_eq_find? (members : List (String × Json.Value)) :
    Json.valueOf? members = (Table.ofList members).find? :=
  funext fun key => (Table.find?_ofList members key).symm

/-! ## Fields of weighted productions -/

namespace WrittenProduction

theorem weight?_natural (weight : UInt32) :
    weight? (Json.Value.number (.integer weight.toNat)).found = .ok weight := by
  have bounded : (0 : Int) ≤ weight.toNat ∧ (weight.toNat : Int).toNat < Nat.pow 2 32 :=
    ⟨Int.natCast_nonneg _, weight.toNat_lt⟩
  simp only [weight?, Json.Value.found, Json.Found.natural?, if_pos bounded]
  exact congrArg Except.ok weight.ofNat_toNat

theorem weight?_outside {number : Int} (outside : ¬(0 ≤ number ∧ number ≤ 4294967295)) :
    weight? (Json.Value.number (.integer number)).found =
      .error (.range (.number (.integer number)) "u32") := by
  have unbounded : ¬(0 ≤ number ∧ number.toNat < Nat.pow 2 32) := by
    simp only [Nat.pow_eq, Nat.reducePow]
    omega
  simp only [weight?, Json.Value.found, Json.Found.natural?, if_neg unbounded]
  rfl

theorem fits_or_fault (field : String) (value : Json.Value) :
    FieldFits field value ∨ ∃ fault, FieldFault field value fault := by
  by_cases isText : field = "text"
  · subst isText
    cases value with
    | string text => exact .inl (.text text)
    | _ => exact .inr ⟨_, .textKind (by simp)⟩
  · by_cases isWeight : field = "weight"
    · subst isWeight
      rcases value with _ | _ | number | _ | _ | _
      case number =>
        cases number with
        | float value => exact .inr ⟨_, .weightKind (by simp)⟩
        | integer number =>
            by_cases bounded : 0 ≤ number ∧ number ≤ 4294967295
            · have small : number.toNat < UInt32.size := by
                simp only [UInt32.size]
                omega
              have same : number = (UInt32.ofNat number.toNat).toNat := by
                rw [UInt32.toNat_ofNat_of_lt' small]
                omega
              exact .inl (same ▸ .weight _)
            · exact .inr ⟨_, .weightRange bounded⟩
      all_goals exact .inr ⟨_, .weightKind (by simp)⟩
    · exact .inr ⟨_, .unknown isText isWeight⟩

theorem FieldFits.text_or_weight {field : String} {value : Json.Value}
    (fits : FieldFits field value) :
    (field = "text" ∧ ∃ text, value = .string text) ∨
      (field = "weight" ∧ ∃ weight : UInt32, value = .number (.integer weight.toNat)) := by
  cases fits with
  | text text => exact .inl ⟨rfl, text, rfl⟩
  | weight weight => exact .inr ⟨rfl, weight, rfl⟩

section fields

variable {members : List (String × Json.Value)}

theorem collectFields_fault {fault : WeightedFault}
    (failing : FirstFault (fun member => FieldFits member.1 member.2)
      (fun member => FieldFault member.1 member.2) members fault)
    (text : Option String) (weight : Option UInt32) :
    collectFields text weight members = .error fault := by
  obtain ⟨before, ⟨field, value⟩, after, rfl, fit, fault⟩ := failing
  induction before generalizing text weight with
  | nil =>
      rw [List.nil_append, collectFields]
      dsimp only at fault
      cases fault with
      | unknown notText notWeight => rw [if_neg notText, if_neg notWeight]
      | textKind other =>
          cases value with
          | string text => exact absurd rfl (other text)
          | _ => rfl
      | weightKind other =>
          cases value with
          | number number =>
              cases number with
              | integer number => exact absurd rfl (other number)
              | float value => rfl
          | _ => rfl
      | weightRange outside => rw [if_neg (by decide), if_pos rfl, weight?_outside outside]
  | cons member before ih =>
      obtain ⟨first, others⟩ := List.forall_mem_cons.mp fit
      obtain ⟨field', value'⟩ := member
      rw [List.cons_append, collectFields]
      dsimp only at first
      cases first with
      | text text => exact ih (some text) weight others
      | weight weight =>
          rw [if_neg (by decide), if_pos rfl, weight?_natural]
          exact ih text (some weight) others

theorem collectFields_textMissing (fit : ∀ member ∈ members, FieldFits member.1 member.2)
    (missing : members.lookup "text" = none) (weight : Option UInt32) :
    collectFields none weight members = .error (.missingField "text") := by
  induction members generalizing weight with
  | nil => rfl
  | cons member members ih =>
      obtain ⟨first, others⟩ := List.forall_mem_cons.mp fit
      obtain ⟨field, value⟩ := member
      dsimp only at first
      cases first with
      | text text => cases missing
      | weight weight =>
          rw [collectFields, if_neg (by decide), if_pos rfl, weight?_natural]
          exact ih others missing (some weight)

theorem collectFields_weightMissing (fit : ∀ member ∈ members, FieldFits member.1 member.2)
    (missing : members.lookup "weight" = none) {text : Option String}
    (present : text.isSome ∨ (members.lookup "text").isSome) :
    collectFields text none members = .error (.missingField "weight") := by
  induction members generalizing text with
  | nil =>
      cases text with
      | none => simp at present
      | some text => rfl
  | cons member members ih =>
      obtain ⟨first, others⟩ := List.forall_mem_cons.mp fit
      obtain ⟨field, value⟩ := member
      dsimp only at first
      cases first with
      | text text => exact ih others missing (.inl rfl)
      | weight weight => cases missing

end fields

/-- The fields of a weighted production in order. -/
def fields (text : String) (weight : UInt32) : Table Json.Value where
  entries := [("text", .string text), ("weight", .number (.integer weight.toNat))]
  ascending :=
    have before : "text" < "weight" := by decide
    List.pairwise_pair.mpr before

theorem sortedMembers_of_writtenAs {members : List (String × Json.Value)} {text : String}
    {weight : UInt32} (written : WrittenAs (.object members) (.weighted text weight)) :
    sortedMembers members = (fields text weight).entries := by
  cases written with
  | weighted exactly =>
      have same : Table.ofList members = fields text weight := by
        refine Table.ext fun field => ?_
        rw [← Json.valueOf?_eq_find?, exactly, Table.find?]
        simp only [fields, Table.lookup_entry, List.lookup_nil]
      exact congrArg Table.entries same

theorem find?_of_fit {fields : Table Json.Value} {text weight : Json.Value}
    (fit : ∀ field value, fields.find? field = some value → FieldFits field value)
    (texts : fields.find? "text" = some text) (weights : fields.find? "weight" = some weight)
    (field : String) :
    fields.find? field =
      if field = "text" then some text else if field = "weight" then some weight else none := by
  split
  · rename_i isText
    rw [isText, texts]
  · rename_i notText
    split
    · rename_i isWeight
      rw [isWeight, weights]
    · rename_i notWeight
      cases found : fields.find? field with
      | none => rfl
      | some value =>
          obtain ⟨isText, -⟩ | ⟨isWeight, -⟩ := (fit field value found).text_or_weight
          · exact absurd isText notText
          · exact absurd isWeight notWeight

theorem fields_specified :
    Specified (fun members => collectFields none none (sortedMembers members))
      (fun members entry => WrittenAs (.object members) entry)
      fun members fault => FieldsFault (Json.valueOf? members) fault where
  gives := by
    intro members entry written
    cases entry with
    | plain text => cases written
    | weighted text weight =>
        have different : ("weight" : String) ≠ "text" := by decide
        simp only [sortedMembers_of_writtenAs written, fields, collectFields, if_neg different,
          if_true, weight?_natural]
        rfl
  fails := by
    intro members fault failing
    rw [Json.valueOf?_eq_find?] at failing
    cases failing with
    | unfit least => exact collectFields_fault ((Table.leastFault_iff _).mp least) none none
    | textMissing fit missing =>
        exact collectFields_textMissing ((Table.forall_find?_iff _).mp fit) missing none
    | weightMissing fit present missing =>
        refine collectFields_weightMissing ((Table.forall_find?_iff _).mp fit) missing (.inr ?_)
        exact Option.isSome_iff_exists.mpr ⟨_, present⟩
  total := by
    intro members
    rw [Json.valueOf?_eq_find?]
    rcases fit_or_firstFault (fun member => fits_or_fault member.1 member.2)
      (Table.ofList members).entries with fit | ⟨fault, first⟩
    · have fit := (Table.forall_find?_iff _).mpr fit
      cases texts : (Table.ofList members).find? "text" with
      | none => exact .inr ⟨_, .textMissing fit texts⟩
      | some value =>
          cases weights : (Table.ofList members).find? "weight" with
          | none => exact .inr ⟨_, .weightMissing fit texts weights⟩
          | some number =>
              obtain ⟨-, text, rfl⟩ | ⟨different, -⟩ := (fit _ _ texts).text_or_weight
              · obtain ⟨different, -⟩ | ⟨-, weight, rfl⟩ := (fit _ _ weights).text_or_weight
                · exact absurd different (by decide)
                · refine .inl ⟨.weighted text weight, .weighted fun field => ?_⟩
                  rw [Json.valueOf?_eq_find?]
                  exact find?_of_fit fit texts weights field
              · exact absurd different (by decide)
    · exact .inr ⟨fault, .unfit ((Table.leastFault_iff _).mpr first)⟩

/-! ## Items and entries -/

theorem ofItem_specified (symbol : String) :
    Specified (ofItem symbol) WrittenAs fun item error =>
      ∃ fault, ShapeFault item fault ∧ error = .invalidRule symbol fault where
  gives := by
    intro item entry written
    cases item with
    | string text =>
        cases written
        rfl
    | object members =>
        have collected := fields_specified.gives written
        simp only [ofItem, collected]
    | _ => cases written
  fails := by
    intro item error outcome
    obtain ⟨fault, failing, rfl⟩ := outcome
    cases failing with
    | @kind item notText notObject =>
        cases item with
        | string text => exact absurd rfl (notText text)
        | object members => exact absurd rfl (notObject members)
        | _ => rfl
    | fields failing =>
        have collected := fields_specified.fails failing
        simp only [ofItem, collected]
  total := by
    intro item
    cases item with
    | string text => exact .inl ⟨_, .plain text⟩
    | object members =>
        rcases fields_specified.total members with given | ⟨fault, failing⟩
        · exact .inl given
        · exact .inr ⟨_, _, .fields failing, rfl⟩
    | _ => exact .inr ⟨_, _, .kind (by simp) (by simp), rfl⟩

theorem production_eq (symbol : String) (entry : WrittenProduction) :
    entry.production symbol =
      if entry.text = "" then .error (.invalidRule symbol .emptyProduction)
      else if entry.weight = 0 then .error (.invalidRule symbol .zeroWeight)
      else Production.ofSource entry.text entry.weight := by
  cases entry <;> simp only [production, text, weight, String.isEmpty_iff] <;> congr

theorem production_specified (symbol : String) :
    Specified (WrittenProduction.production symbol) Makes (MakingFault symbol) where
  gives := by
    intro entry production makes
    obtain ⟨source, weight, template⟩ := production
    obtain ⟨rfl, rfl, written, weighted, read⟩ := makes
    rw [production_eq, if_neg written, if_neg weighted, Production.ofSource, read]
  fails := by
    intro entry error failing
    rw [production_eq]
    cases failing with
    | empty empty => rw [if_pos empty]
    | weightless written weightless => rw [if_neg written, if_pos weightless]
    | malformed written weighted failed =>
        rw [if_neg written, if_neg weighted, Production.ofSource, failed]
  total := by
    intro entry
    by_cases empty : entry.text = ""
    · exact .inr ⟨_, .empty empty⟩
    · by_cases weightless : entry.weight = 0
      · exact .inr ⟨_, .weightless empty weightless⟩
      · cases read : Template.parse entry.text with
        | ok template =>
            exact .inl ⟨⟨entry.text, entry.weight, template⟩, rfl, rfl, empty, weightless, read⟩
        | error error => exact .inr ⟨_, .malformed empty weightless read⟩

end WrittenProduction

end StoryGrammar
