import StoryGrammar.Proofs.Document.Items
import StoryGrammar.Proofs.Json.Lexeme

set_option autoImplicit false

/-!
# Documents are checked by the format

Each function that reads a value, a rule, or a whole document gives what the format says of it, or
fails as the format says. The parts are put together the way the functions are.
-/

namespace StoryGrammar.Document

/-! ## Values -/

theorem entries_specified (symbol : String) :
    Specified (entries symbol) Lists (ListingFault symbol) where
  gives := by
    intro value entries lists
    cases lists with
    | text text => rfl
    | array written => exact (WrittenProduction.ofItem_specified symbol).mapM.gives written
  fails := by
    intro value error failing
    cases failing with
    | kind notText notArray =>
        cases value with
        | string text => exact absurd rfl (notText text)
        | array items => exact absurd rfl (notArray items)
        | _ => rfl
    | item first =>
        obtain ⟨before, item, after, split, fit, fault⟩ := first
        exact (WrittenProduction.ofItem_specified symbol).mapM.fails
          ⟨before, item, after, split, fit, _, fault, rfl⟩
  total := by
    intro value
    cases value with
    | string text => exact .inl ⟨_, .text text⟩
    | array items =>
        rcases (WrittenProduction.ofItem_specified symbol).mapM.total items with
          ⟨entries, written⟩ | ⟨error, before, item, after, split, fit, fault, failing, rfl⟩
        · exact .inl ⟨entries, .array written⟩
        · exact .inr ⟨_, .item ⟨before, item, after, split, fit, failing⟩⟩
    | _ => exact .inr ⟨_, .kind (by simp) (by simp)⟩

theorem productions_eq_of_listed {symbol : String} {value : Json.Value}
    {listed : List WrittenProduction} (lists : Lists value listed) :
    productions symbol value =
      if listed = [] then .error (.invalidRule symbol .noProductions)
      else listed.mapM (WrittenProduction.production symbol) := by
  have outcome := (entries_specified symbol).gives lists
  cases listed with
  | nil =>
      simp only [productions, outcome, bind, Except.bind]
      rfl
  | cons entry others => simp [productions, outcome, bind, Except.bind]

theorem Lists.of_nil {value : Json.Value} (lists : Lists value []) : value = .array [] := by
  cases lists with
  | array written =>
      cases written
      rfl

theorem productions_specified (symbol : String) :
    Specified (productions symbol) Gives (ValueFault symbol) where
  gives := by
    intro value made gives
    obtain ⟨entries, lists, inhabited, makes⟩ := gives
    rw [productions_eq_of_listed lists, if_neg inhabited]
    exact (WrittenProduction.production_specified symbol).mapM.gives makes
  fails := by
    intro value error failing
    cases failing with
    | listing failing =>
        have outcome := (entries_specified symbol).fails failing
        simp [productions, outcome, bind, Except.bind]
    | empty => rw [productions_eq_of_listed (.array .nil), if_pos rfl]
    | @entry value entries error lists first =>
        have inhabited : entries ≠ [] := by
          obtain ⟨before, entry, after, rfl, -⟩ := first
          simp
        rw [productions_eq_of_listed lists, if_neg inhabited]
        exact (WrittenProduction.production_specified symbol).mapM.fails first
  total := by
    intro value
    rcases (entries_specified symbol).total value with ⟨entries, lists⟩ | ⟨error, failing⟩
    · by_cases empty : entries = []
      · subst empty
        rw [lists.of_nil]
        exact .inr ⟨_, .empty⟩
      · rcases (WrittenProduction.production_specified symbol).mapM.total entries with
          ⟨made, makes⟩ | ⟨error, first⟩
        · exact .inl ⟨made, entries, lists, empty, makes⟩
        · exact .inr ⟨error, .entry lists first⟩
    · exact .inr ⟨error, .listing failing⟩

/-! ## Rules -/

/-- A rule that is made of a member of an object. -/
def MadeOf (member : String × Json.Value) (entry : String × List Production) : Prop :=
  entry.1 = member.1 ∧ member.1 ≠ "" ∧ Gives member.2 entry.2

theorem rule_specified :
    Specified rule MadeOf fun member => KeyFault member.1 member.2 where
  gives := by
    intro member entry made
    obtain ⟨key, value⟩ := member
    obtain ⟨symbol, productions⟩ := entry
    obtain ⟨rfl, named, gives⟩ := made
    have outcome := (productions_specified symbol).gives gives
    simp only [rule, String.isEmpty_iff, if_neg named, outcome]
    rfl
  fails := by
    intro member error failing
    cases failing with
    | unnamed unnamed => simp only [rule, String.isEmpty_iff, if_pos unnamed]
    | value named failing =>
        have outcome := (productions_specified member.1).fails failing
        simp only [rule, String.isEmpty_iff, if_neg named, outcome]
        rfl
  total := by
    intro member
    by_cases unnamed : member.1 = ""
    · exact .inr ⟨_, .unnamed unnamed⟩
    · rcases (productions_specified member.1).total member.2 with
        ⟨productions, gives⟩ | ⟨error, failing⟩
      · exact .inl ⟨(member.1, productions), rfl, unnamed, gives⟩
      · exact .inr ⟨error, .value unnamed failing⟩

theorem admits_iff (member : String × Json.Value) :
    Admits member.1 member.2 ↔ ∃ entry, MadeOf member entry :=
  ⟨fun ⟨named, productions, gives⟩ => ⟨(member.1, productions), rfl, named, gives⟩,
    fun ⟨entry, _, named, gives⟩ => ⟨named, entry.2, gives⟩⟩

theorem Admits.not_fault {key : String} {value : Json.Value} {error : GrammarError}
    (admitted : Admits key value) : ¬KeyFault key value error := by
  intro failing
  obtain ⟨entry, made⟩ := (admits_iff (key, value)).mp admitted
  have outcome := rule_specified.gives made
  rw [rule_specified.fails failing] at outcome
  cases outcome

theorem symbols_of_madeOf {members : List (String × Json.Value)}
    {rules : List (String × List Production)} (made : List.Forall₂ MadeOf members rules) :
    rules.map (·.1) = members.map (·.1) := by
  induction made with
  | nil => rfl
  | cons first _ ih => rw [List.map_cons, List.map_cons, first.1, ih]

theorem lookup_of_madeOf {members : List (String × Json.Value)}
    {rules : List (String × List Production)} (made : List.Forall₂ MadeOf members rules)
    (key : String) :
    Option.Rel (fun value productions => key ≠ "" ∧ Gives value productions)
      (members.lookup key) (rules.lookup key) := by
  induction made with
  | nil => exact .none
  | cons first _ ih =>
      obtain ⟨same, named, gives⟩ := first
      rw [Table.lookup_entry, Table.lookup_entry, same]
      split
      · rename_i here
        exact .some ⟨here ▸ named, gives⟩
      · exact ih

theorem describes_of_madeOf {table : Table Json.Value} {rules : List (String × List Production)}
    (made : List.Forall₂ MadeOf table.entries rules) : Describes table.find? ⟨rules⟩ where
  ascending := by
    have names : (table.entries.map (·.1)).Pairwise (· < ·) := List.pairwise_map.mpr table.ascending
    rw [← symbols_of_madeOf made] at names
    exact List.pairwise_map.mp names
  named := by
    have related := lookup_of_madeOf made ""
    change table.entries.lookup "" = none
    generalize table.entries.lookup "" = value at related ⊢
    generalize rules.lookup "" = productions at related
    cases related with
    | none => rfl
    | some given => exact absurd rfl given.1
  listed := by
    intro key
    have related := lookup_of_madeOf made key
    change Option.Rel Gives (table.entries.lookup key) (rules.lookup key)
    generalize table.entries.lookup key = value at related ⊢
    generalize rules.lookup key = productions at related ⊢
    cases related with
    | none => exact .none
    | some given => exact .some given.2

/-! ## Documents -/

theorem Describes.unique {value? : String → Option Json.Value} {document other : Document}
    (described : Describes value? document) (likewise : Describes value? other) :
    document = other := by
  obtain ⟨rules⟩ := document
  obtain ⟨rules'⟩ := other
  have same : (⟨rules, described.ascending⟩ : Table (List Production)) =
      ⟨rules', likewise.ascending⟩ := by
    refine Table.ext fun key => ?_
    have first := described.listed key
    have second := likewise.listed key
    change rules.lookup key = rules'.lookup key
    dsimp only at first second
    generalize value? key = value at first second
    generalize rules.lookup key = productions at first ⊢
    generalize rules'.lookup key = productions' at second ⊢
    cases first with
    | none =>
        cases second
        rfl
    | some gives =>
        cases second with
        | some gives' =>
            have outcome := (productions_specified key).gives gives
            rw [(productions_specified key).gives gives'] at outcome
            cases outcome
            rfl
  cases same
  rfl

theorem Describes.admits {value? : String → Option Json.Value} {document : Document}
    (described : Describes value? document) {key : String} {value : Json.Value}
    (found : value? key = some value) : Admits key value := by
  constructor
  · rintro rfl
    rw [described.named] at found
    cases found
  · have related := described.listed key
    rw [found] at related
    generalize document.rules.lookup key = productions at related
    cases related with
    | some gives => exact ⟨_, gives⟩

theorem ofValue_object (members : List (String × Json.Value)) :
    ofValue (.object members) = ((Table.ofList members).entries.mapM rule).map Document.mk := by
  simp only [ofValue]
  cases (Table.ofList members).entries.mapM rule <;> rfl

theorem leastFault_iff_firstFault (members : List (String × Json.Value)) {error : GrammarError} :
    LeastFault (Json.valueOf? members) Admits KeyFault error ↔
      FirstFault (fun member => ∃ entry, MadeOf member entry)
        (fun member => KeyFault member.1 member.2) (Table.ofList members).entries error := by
  rw [Json.valueOf?_eq_find?, Table.leastFault_iff]
  simp only [admits_iff]

theorem ofValue_specified :
    Specified (fun members => ofValue (.object members))
      (fun members document => Describes (Json.valueOf? members) document)
      fun members error => LeastFault (Json.valueOf? members) Admits KeyFault error where
  gives := by
    intro members document described
    rw [Json.valueOf?_eq_find?] at described
    rcases rule_specified.mapM.total (Table.ofList members).entries with
      ⟨rules, made⟩ | ⟨error, before, item, after, split, -, failing⟩
    · rw [ofValue_object, rule_specified.mapM.gives made,
        described.unique (describes_of_madeOf made)]
      rfl
    · have present : item ∈ (Table.ofList members).entries :=
        split ▸ List.mem_append_right _ (.head _)
      exact absurd failing (described.admits (Table.find?_of_mem present)).not_fault
  fails := by
    intro members error least
    rw [ofValue_object, rule_specified.mapM.fails ((leastFault_iff_firstFault members).mp least)]
    rfl
  total := by
    intro members
    rcases rule_specified.mapM.total (Table.ofList members).entries with
      ⟨rules, made⟩ | ⟨error, first⟩
    · refine .inl ⟨⟨rules⟩, ?_⟩
      rw [Json.valueOf?_eq_find?]
      exact describes_of_madeOf made
    · exact .inr ⟨error, (leastFault_iff_firstFault members).mpr first⟩

theorem parse_of_object {text : String} {members : List (String × Json.Value)}
    (read : Json.parseText text = .ok (.object members)) :
    parse text = ofValue (.object members) := by
  unfold Json.parseText at read
  rw [parse, ofBytes, read]

theorem ofBytes_eq_ok_iff {arrival : Json.Arrival} {bytes : List UInt8} {document : Document} :
    ofBytes arrival bytes = .ok document ↔
      ∃ value, Json.parse arrival bytes = .ok value ∧ ofValue value = .ok document := by
  unfold ofBytes
  cases Json.parse arrival bytes <;> simp

theorem parse_eq_ok_iff {text : String} {document : Document} :
    parse text = .ok document ↔
      ∃ members, Json.parseText text = .ok (.object members) ∧
        Describes (Json.valueOf? members) document := by
  constructor
  · intro parsed
    obtain ⟨value, read, made⟩ := ofBytes_eq_ok_iff.mp parsed
    cases value with
    | object members => exact ⟨members, read, ofValue_specified.eq_ok_iff.mp made⟩
    | _ => cases made
  · intro format
    obtain ⟨members, read, described⟩ := format
    exact ofBytes_eq_ok_iff.mpr ⟨_, read, ofValue_specified.gives described⟩

/-- A text is read as a document exactly where it spells an object of which every key has a value
that the format admits, and the document is what the format says. Of any other object, the fault of
the least key that has one is reported. -/
theorem documents_are_read_by_format :
    (∀ text document, parse text = .ok document ↔
      ∃ members, Json.parseText text = .ok (.object members) ∧
        Describes (Json.valueOf? members) document) ∧
    (∀ text, (∃ document, parse text = .ok document) ↔
      ∃ members, Json.parseText text = .ok (.object members) ∧
        ∀ key value, Json.valueOf? members key = some value → Admits key value) ∧
    ∀ text members, Json.parseText text = .ok (.object members) →
      ∀ error, parse text = .error error ↔
        LeastFault (Json.valueOf? members) Admits KeyFault error := by
  refine ⟨fun text document => parse_eq_ok_iff, ?_, ?_⟩
  · intro text
    constructor
    · intro accepted
      obtain ⟨document, parsed⟩ := accepted
      obtain ⟨members, read, described⟩ := parse_eq_ok_iff.mp parsed
      exact ⟨members, read, fun key value found => described.admits found⟩
    · intro format
      obtain ⟨members, read, admitted⟩ := format
      rcases ofValue_specified.total members with
        ⟨document, described⟩ | ⟨error, key, value, found, failing, -⟩
      · exact ⟨document, parse_eq_ok_iff.mpr ⟨members, read, described⟩⟩
      · exact absurd failing (admitted key value found).not_fault
  · intro text members read error
    rw [parse_of_object read]
    exact ofValue_specified.eq_error_iff

/-- Of a repeated key the last value counts, and the fields of an object may be in any order. Of two
keys with faults the lesser one is reported, and of its items the number before the empty text. -/
theorem repeated_key_and_two_faults :
    (∃ document,
      parse "\x7b\"a\":3,\"a\":[\"x\",\x7b\"weight\":2,\"text\":\"y\"\x7d]\x7d" =
        .ok document ∧
      document.rules = [("a", [⟨"x", 1, [.literal "x"]⟩, ⟨"y", 2, [.literal "y"]⟩])]) ∧
    LeastFault
      (Json.valueOf? [("b", .null), ("a", .array [.string "", .number (.integer 7)])])
      Admits KeyFault (.invalidRule "a" (.notAProduction (.number (.integer 7)))) ∧
    parse "\x7b\"b\":null,\"a\":[\"\",7]\x7d" =
      .error (.invalidRule "a" (.notAProduction (.number (.integer 7)))) := by
  obtain ⟨format, -, faults⟩ := documents_are_read_by_format
  constructor
  · have spelled : Json.parseText
        "\x7b\"a\":3,\"a\":[\"x\",\x7b\"weight\":2,\"text\":\"y\"\x7d]\x7d" =
          .ok (.object [("a", .number (.integer 3)), ("a", .array [.string "x",
            .object [("weight", .number (.integer 2)), ("text", .string "y")]])]) := by
      rw [Json.parseText, Json.toUTF8_toList]
      rfl
    exact ⟨_, (format _ _).mpr ⟨_, spelled, ofValue_specified.eq_ok_iff.mp rfl⟩, rfl⟩
  · have spelled : Json.parseText "\x7b\"b\":null,\"a\":[\"\",7]\x7d" =
        .ok (.object [("b", .null), ("a", .array [.string "", .number (.integer 7)])]) := by
      rw [Json.parseText, Json.toUTF8_toList]
      rfl
    have least : LeastFault
        (Json.valueOf? [("b", .null), ("a", .array [.string "", .number (.integer 7)])])
        Admits KeyFault (.invalidRule "a" (.notAProduction (.number (.integer 7)))) := by
      refine ⟨"a", _, rfl, .value (by decide) (.listing (.item ?_)), ?_⟩
      · refine ⟨[.string ""], .number (.integer 7), [], rfl, ?_, .kind (by simp) (by simp)⟩
        exact fun earlier member => List.mem_singleton.mp member ▸ ⟨_, .plain ""⟩
      · intro lesser other below found
        have among : lesser = "a" ∨ lesser = "b" := by
          have member := Table.mem_of_lookup found
          simp only [List.reverse_cons, List.reverse_nil, List.nil_append, List.cons_append,
            List.mem_cons, Prod.mk.injEq, List.not_mem_nil, or_false] at member
          exact member.imp And.left And.left
        rcases among with rfl | rfl <;> exact absurd below (by decide)
    exact ⟨least, (faults _ _ spelled _).mpr least⟩

end StoryGrammar.Document
