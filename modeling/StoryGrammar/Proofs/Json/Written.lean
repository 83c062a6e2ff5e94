import StoryGrammar.Proofs.Json.Value

set_option autoImplicit false

/-!
# Reading back what was written

The text of a value, on one line or over several, is read back as that value, if its numbers are
natural and its nesting is not too deep.
-/

namespace StoryGrammar.Json

/-- Values that are read back: their numbers are natural and take at most 64 bits, and at most
`room` arrays and objects are open at once. -/
def Value.Fits : (room : Nat) → Value → Prop
  | _, .null | _, .boolean _ | _, .string _ => True
  | _, .number (.integer value) => 0 ≤ value ∧ value < UInt64.size
  | _, .number (.float _) => False
  | 0, .array _ | 0, .object _ => False
  | room + 1, .array items => ∀ item ∈ items, item.Fits room
  | room + 1, .object members => ∀ member ∈ members, member.2.Fits room

theorem Value.fits_string (room : Nat) (text : String) : (Value.string text).Fits room := by
  cases room <;> trivial

theorem Value.fits_natural (room : Nat) {number : Nat} (small : number < UInt64.size) :
    (Value.number (.integer number)).Fits room := by
  have bounds : (0 : Int) ≤ number ∧ (number : Int) < UInt64.size :=
    ⟨Int.natCast_nonneg number, Int.ofNat_lt.mpr small⟩
  cases room <;> exact bounds

theorem blank_newLine (level : Nat) : Blank (spelling (newLine level)) := by
  intro byte member
  rw [spelling, newLine, String.toList_ofList, encode, List.mem_flatMap] at member
  obtain ⟨character, written, member⟩ := member
  rcases List.mem_cons.mp written with rfl | space
  · rw [List.mem_singleton.mp member]
    rfl
  · rw [List.eq_of_mem_replicate space] at member
    rw [List.mem_singleton.mp member]
    rfl

/-! ## Layouts -/

/-- How the texts of values are laid out at each level: with blanks before every item, member and
closing mark of an inner level, and blanks between the colon of a member and its value. -/
structure LaysOut (text : (level : Nat) → Value → List UInt8) (before : (level : Nat) → List UInt8)
    (gap : List UInt8) : Prop where
  blank : ∀ level, Blank (before level)
  gapBlank : Blank gap
  flat : ∀ level {value}, value.Fits 0 → text level value = spelling value.compact
  emptyArray : ∀ level, text level (.array []) = [91, 93]
  array : ∀ level {items}, items ≠ [] → text level (.array items) =
    91 :: ([44].intercalate (items.map fun item => before (level + 1) ++ text (level + 1) item) ++
      (before level ++ [93]))
  emptyObject : ∀ level, text level (.object []) = [123, 125]
  object : ∀ level {members}, members ≠ [] → text level (.object members) =
    123 :: ([44].intercalate (members.map fun member =>
        memberBytes (before (level + 1)) member.1 gap (text (level + 1) member.2)) ++
      (before level ++ [125]))

/-- Texts with commas between them. -/
theorem intercalate_map_cons {α : Type} (text : α → List UInt8) (first : α) {others : List α}
    (some : others ≠ []) :
    [44].intercalate ((first :: others).map text) =
      text first ++ 44 :: [44].intercalate (others.map text) := by
  rw [List.map_cons, List.intercalate_cons_of_ne_nil (by simpa using some), List.append_assoc,
    List.singleton_append]

theorem spelling_prettyItems (level : Nat) (items : List Value) :
    spelling (prettyItems level items) =
      [44].intercalate (items.map fun item =>
        spelling (newLine level) ++ spelling (item.pretty level)) := by
  induction items with
  | nil => rfl
  | cons item items ih =>
      cases items with
      | nil => rw [prettyItems, spelling_append, List.map_singleton, List.intercalate_singleton]
      | cons next items =>
          rw [prettyItems, spelling_append, spelling_append, spelling_append, ih,
            intercalate_map_cons _ item (List.cons_ne_nil next items), List.append_assoc]
          · rfl
          · simp

theorem spelling_prettyMembers (level : Nat) (members : List (String × Value)) :
    spelling (prettyMembers level members) =
      [44].intercalate (members.map fun member =>
        memberBytes (spelling (newLine level)) member.1 [32]
          (spelling (member.2.pretty level))) := by
  have spelt (key : String) (value : Value) :
      spelling (newLine level ++ writeString key ++ ": " ++ value.pretty level) =
        memberBytes (spelling (newLine level)) key [32] (spelling (value.pretty level)) := by
    simp only [spelling_append, spelling_writeString, memberBytes, List.append_assoc]
    rfl
  induction members with
  | nil => rfl
  | cons member members ih =>
      cases members with
      | nil => rw [prettyMembers, spelt, List.map_singleton, List.intercalate_singleton]
      | cons next members =>
          rw [prettyMembers, spelling_append, spelling_append, spelt, ih,
            intercalate_map_cons _ member (List.cons_ne_nil next members), List.append_assoc]
          · rfl
          · simp

theorem spelling_compactItems (items : List Value) :
    spelling (compactItems items) =
      [44].intercalate (items.map fun item => spelling item.compact) := by
  induction items with
  | nil => rfl
  | cons item items ih =>
      cases items with
      | nil => rw [compactItems, List.map_singleton, List.intercalate_singleton]
      | cons next items =>
          rw [compactItems, spelling_append, spelling_append, ih,
            intercalate_map_cons _ item (List.cons_ne_nil next items), List.append_assoc]
          · rfl
          · simp

theorem spelling_compactMembers (members : List (String × Value)) :
    spelling (compactMembers members) =
      [44].intercalate (members.map fun member =>
        memberBytes [] member.1 [] (spelling member.2.compact)) := by
  have spelt (key : String) (value : Value) :
      spelling (writeString key ++ ":" ++ value.compact) =
        memberBytes [] key [] (spelling value.compact) := by
    simp only [spelling_append, spelling_writeString, memberBytes, List.append_assoc]
    rfl
  induction members with
  | nil => rfl
  | cons member members ih =>
      cases members with
      | nil => rw [compactMembers, spelt, List.map_singleton, List.intercalate_singleton]
      | cons next members =>
          rw [compactMembers, spelling_append, spelling_append, spelt, ih,
            intercalate_map_cons _ member (List.cons_ne_nil next members), List.append_assoc]
          · rfl
          · simp

theorem pretty_of_flat {value : Value} (flat : value.Fits 0) (level : Nat) :
    value.pretty level = value.compact := by
  cases value with
  | array | object => exact absurd flat id
  | _ => rfl

theorem laysOut_pretty :
    LaysOut (fun level value => spelling (value.pretty level))
      (fun level => spelling (newLine level)) [32] where
  blank := blank_newLine
  gapBlank byte member := by
    rw [List.mem_singleton.mp member]
    rfl
  flat level _ flat := congrArg spelling (pretty_of_flat flat level)
  emptyArray _ := by rw [Value.pretty]; rfl
  array level items some := by
    cases items with
    | nil => exact absurd rfl some
    | cons item items =>
        rw [Value.pretty, spelling_append, spelling_append, spelling_append, spelling_prettyItems,
          List.append_assoc]
        · rfl
        · simp
  emptyObject _ := by rw [Value.pretty]; rfl
  object level members some := by
    cases members with
    | nil => exact absurd rfl some
    | cons member members =>
        rw [Value.pretty, spelling_append, spelling_append, spelling_append, spelling_prettyMembers,
          List.append_assoc]
        · rfl
        · simp

theorem laysOut_compact :
    LaysOut (fun _ value => spelling value.compact) (fun _ => []) [] where
  blank _ := List.forall_mem_nil _
  gapBlank := List.forall_mem_nil _
  flat _ _ _ := rfl
  emptyArray _ := rfl
  array _ items _ := by
    rw [Value.compact, spelling_append, spelling_append, spelling_compactItems]
    rfl
  emptyObject _ := rfl
  object _ members _ := by
    rw [Value.compact, spelling_append, spelling_append, spelling_compactMembers]
    rfl

/-! ## Reading -/

theorem reads_null (room : Nat) : Reads room .null (spelling "null") :=
  reads_of_readStart rfl (by decide) fun _ _ _ _ _ => rfl

theorem reads_boolean (room : Nat) (value : Bool) :
    Reads room (.boolean value) (spelling (if value then "true" else "false")) := by
  cases value with
  | true => exact reads_of_readStart rfl (by decide) fun _ _ _ _ _ => rfl
  | false => exact reads_of_readStart rfl (by decide) fun _ _ _ _ _ => rfl

theorem reads_compact_of_flat {value : Value} (flat : value.Fits 0) (room : Nat) :
    Reads room value (spelling value.compact) := by
  cases value with
  | null => exact reads_null room
  | boolean value => exact reads_boolean room value
  | string text =>
      rw [Value.compact, spelling_writeString]
      exact reads_string room text
  | number number =>
      cases number with
      | integer number =>
          obtain ⟨natural, rfl⟩ := Int.eq_ofNat_of_zero_le flat.1
          have fits : natural < UInt64.size := Int.ofNat_lt.mp flat.2
          rw [Value.compact, spelling_integer]
          exact reads_natural room fits
      | float number => exact absurd flat id
  | array items => exact absurd flat id
  | object members => exact absurd flat id

theorem readsItems_intercalate {room : Nat} {items : List Value} (some : items ≠ [])
    {before after : List UInt8} (blank : Blank before) (blank' : Blank after)
    {text : Value → List UInt8} (reads : ∀ item ∈ items, Reads room item (text item)) :
    ReadsItems room items
      ([44].intercalate (items.map fun item => before ++ text item) ++ (after ++ [93])) := by
  induction items with
  | nil => exact absurd rfl some
  | cons item items ih =>
      have first := reads item (.head _)
      cases items with
      | nil =>
          rw [List.map_singleton, List.intercalate_singleton, List.append_assoc]
          exact .last blank first blank'
      | cons next items =>
          have others := ih (by simp) fun other later => reads other (.tail _ later)
          rw [intercalate_map_cons _ item (List.cons_ne_nil next items)]
          simp only [List.append_assoc, List.cons_append]
          exact .more blank first (List.forall_mem_nil _) others

theorem readsMembers_intercalate {room : Nat} {members : List (String × Value)}
    (some : members ≠ []) {before gap after : List UInt8} (blank : Blank before)
    (gapBlank : Blank gap) (blank' : Blank after) {text : Value → List UInt8}
    (reads : ∀ member ∈ members, Reads room member.2 (text member.2)) :
    ReadsMembers room members
      ([44].intercalate (members.map fun member =>
          memberBytes before member.1 gap (text member.2)) ++ (after ++ [125])) := by
  induction members with
  | nil => exact absurd rfl some
  | cons member members ih =>
      have first := reads member (.head _)
      cases members with
      | nil =>
          rw [List.map_singleton, List.intercalate_singleton]
          exact .last blank gapBlank first blank'
      | cons next members =>
          have others := ih (by simp) fun other later => reads other (.tail _ later)
          rw [intercalate_map_cons _ member (List.cons_ne_nil next members)]
          simp only [List.append_assoc, List.cons_append]
          exact .more blank gapBlank first (List.forall_mem_nil _) others

theorem LaysOut.reads {text : (level : Nat) → Value → List UInt8}
    {before : (level : Nat) → List UInt8} {gap : List UInt8} (laysOut : LaysOut text before gap)
    {room : Nat} {value : Value} (fits : value.Fits room) (level : Nat) :
    Reads room value (text level value) := by
  have ofFlat {value : Value} (flat : value.Fits 0) (room level : Nat) :
      Reads room value (text level value) := by
    rw [laysOut.flat level flat]
    exact reads_compact_of_flat flat room
  induction room generalizing value level with
  | zero => exact ofFlat fits 0 level
  | succ room ih =>
      cases value with
      | null | boolean | string => exact ofFlat (by trivial) (room + 1) level
      | number number =>
          refine ofFlat ?_ (room + 1) level
          cases number <;> exact fits
      | array items =>
          by_cases none : items = []
          · rw [none, laysOut.emptyArray]
            exact reads_emptyArray room
          · rw [laysOut.array level none]
            exact .array (readsItems_intercalate none (laysOut.blank _) (laysOut.blank _)
              fun item present => ih (fits item present) (level + 1))
      | object members =>
          by_cases none : members = []
          · rw [none, laysOut.emptyObject]
            exact reads_emptyObject room
          · rw [laysOut.object level none]
            exact .object (readsMembers_intercalate none (laysOut.blank _) laysOut.gapBlank
              (laysOut.blank _) fun member present => ih (fits member present) (level + 1))

theorem readValue_of_reads {value : Value} {bytes : List UInt8}
    (reads : Reads depthLimit value bytes) (arrival : Arrival) :
    readValue arrival bytes = .ok (value, []) := by
  obtain ⟨used, bound, run⟩ := reads.leads arrival [] [] (Nat.zero_add _).le (by simp [EndsNumber])
  obtain ⟨spare, rounds⟩ : ∃ spare, bytes.length + 1 = spare + (used + 1) :=
    ⟨bytes.length - used, by omega⟩
  rw [readValue, rounds, ← List.append_nil bytes, run, Reading.run]

/-- The texts that a value is written as, on one line or over several. -/
inductive Value.Writes (value : Value) : String → Prop where
  | compact : value.Writes value.compact
  | pretty (level : Nat) : value.Writes (value.pretty level)

theorem Value.Writes.laidOut {value : Value} {written : String} (writes : value.Writes written) :
    ∃ text before gap level, LaysOut text before gap ∧ spelling written = text level value := by
  cases writes with
  | compact => exact ⟨_, _, _, 0, laysOut_compact, rfl⟩
  | pretty level => exact ⟨_, _, _, level, laysOut_pretty, rfl⟩

theorem readValue_written {value : Value} {written : String} (writes : value.Writes written)
    (fits : value.Fits depthLimit) (arrival : Arrival) :
    readValue arrival written.toUTF8.toList = .ok (value, []) := by
  obtain ⟨text, before, gap, level, laysOut, same⟩ := writes.laidOut
  rw [toUTF8_toList, same]
  exact readValue_of_reads (laysOut.reads fits level) arrival

/-- A value that was written is read back, however its bytes arrive. -/
theorem parse_written {value : Value} {written : String} (writes : value.Writes written)
    (fits : value.Fits depthLimit) (arrival : Arrival) :
    parse arrival written.toUTF8.toList = .ok value := by
  rw [parse, readValue_written writes fits]
  rfl

end StoryGrammar.Json
