import StoryGrammar.Config
import StoryGrammar.Proofs.RoundTrip

set_option autoImplicit false

/-!
# Values read back from their JSON texts

Settings and productions are read back from the texts that they are written as. Settings are read
from the bytes as they come. A production is read on its own and as an item of a document, and both
readers give the same.
-/

namespace StoryGrammar

/-! ## Values in their places -/

namespace Json

section Found

variable {blanks rest : List UInt8}

theorem readFound_string (blank : Blank blanks) (text : String) :
    readFound (blanks ++ 34 :: (writtenAfterQuote text ++ rest)) = .ok (.string text, rest) := by
  rw [readFound, skipBlanks_append_cons blank rfl]
  change (readString (writtenAfterQuote text ++ rest) >>= fun read =>
    Except.ok (Found.string read.1, read.2)) = _
  rw [readString_written]
  rfl

theorem readFound_natural (blank : Blank blanks) {number : Nat} (small : number < UInt64.size)
    (ends : EndsNumber rest) :
    readFound (blanks ++ (decimal number ++ rest)) =
      .ok (.number (.integer number), rest) := by
  obtain ⟨digit, more, isDigit, digits⟩ := decimal_eq_cons number
  have solid : isBlankByte (UInt8.ofNat (48 + digit)) = false := by
    interval_cases digit <;> rfl
  have start : readFound (UInt8.ofNat (48 + digit) :: (more ++ rest)) =
      (readNumber .whole false (UInt8.ofNat (48 + digit) :: (more ++ rest))).map fun read =>
        (.number read.1, read.2) := by
    interval_cases digit <;> rfl
  have skipped : readFound (blanks ++ (decimal number ++ rest)) =
      readFound (decimal number ++ rest) := by
    rw [readFound, readFound, skipBlanks_append blank]
  rw [skipped, digits, List.cons_append, start, ← List.cons_append, ← digits,
    readNumber_decimal small .whole ends]
  rfl

theorem readExpected_of_found {α : Type} {convert : Found → Except Mismatch α}
    {bytes : List UInt8} {found : Found} {value : α} (read : readFound bytes = .ok (found, rest))
    (fits : convert found = .ok value) : readExpected convert bytes = .ok (value, rest) := by
  simp only [readExpected, read, asShape, Except.mapError, bind, Except.bind, fits]
  rfl

end Found

end Json

namespace Config

open Json

variable {blanks rest : List UInt8}

theorem readMemberStart_quote (blank : Blank blanks) :
    readMemberStart true (blanks ++ 34 :: rest) = .ok (true, rest) := by
  rw [readMemberStart, skipBlanks_append_cons blank rfl]
  rfl

theorem readMemberStart_comma (blank : Blank blanks) :
    readMemberStart false (44 :: (blanks ++ 34 :: rest)) = .ok (true, rest) := by
  have comma : Char.ofUInt8 44 = ',' := rfl
  rw [readMemberStart, skipBlanks_cons rfl]
  simp only [comma, Bool.false_eq_true, if_false, skipBlanks_append_cons blank
    (show isBlankByte 34 = false from rfl)]
  rfl

theorem readMemberStart_brace (blank : Blank blanks) :
    readMemberStart false (blanks ++ 125 :: rest) = .ok (false, rest) := by
  rw [readMemberStart, skipBlanks_append_cons blank rfl]
  rfl

theorem readColon_colon : readColon (58 :: rest) = .ok rest := by
  rw [readColon, skipBlanks_cons rfl]
  rfl

theorem readMember_startSymbol {given : Given} (unset : given.startSymbol = none)
    (gapBlank : Blank blanks) (symbol : String) :
    readMember given (writtenAfterQuote "start_symbol" ++
        58 :: (blanks ++ 34 :: (writtenAfterQuote symbol ++ rest))) =
      .ok ({ given with startSymbol := some symbol }, rest) := by
  have value : readExpected Found.text? (blanks ++ 34 :: (writtenAfterQuote symbol ++ rest)) =
      .ok (symbol, rest) :=
    readExpected_of_found (readFound_string gapBlank symbol) rfl
  simp only [readMember, readString_written, asShape, Except.mapError, bind, Except.bind, if_true,
    unset, Option.isSome_none, Bool.false_eq_true, if_false, readColon_colon, value]
  rfl

theorem depth?_natural (depth : UInt64) :
    depth? (.number (.integer depth.toNat)) = .ok depth := by
  have bounded : (0 : Int) ≤ depth.toNat ∧ (depth.toNat : Int).toNat < Nat.pow 2 64 :=
    ⟨Int.natCast_nonneg _, depth.toNat_lt⟩
  simp only [depth?, Found.natural?, if_pos bounded]
  exact congrArg Except.ok depth.ofNat_toNat

theorem readMember_maxDepth {given : Given} (unset : given.maxDepth = none)
    (gapBlank : Blank blanks) (depth : UInt64) (ends : EndsNumber rest) :
    readMember given (writtenAfterQuote "max_depth" ++
        58 :: (blanks ++ (decimal depth.toNat ++ rest))) =
      .ok ({ given with maxDepth := some depth }, rest) := by
  have value : readExpected depth? (blanks ++ (decimal depth.toNat ++ rest)) = .ok (depth, rest) :=
    readExpected_of_found (readFound_natural gapBlank depth.toNat_lt ends) (depth?_natural depth)
  have different : ("max_depth" : String) ≠ "start_symbol" := by decide
  simp only [readMember, readString_written, asShape, Except.mapError, bind, Except.bind, if_true,
    if_neg different, unset, Option.isSome_none, Bool.false_eq_true, if_false, readColon_colon,
    value]
  rfl

theorem readObject_of_member {first : Bool} {given given' : Given} {bytes inside : List UInt8}
    (start : readMemberStart first bytes = .ok (true, inside))
    (member : readMember given inside = .ok (given', rest)) (rounds : Nat) :
    readObject first given (rounds + 1) bytes = readObject false given' rounds rest := by
  rw [readObject, start]
  change (readMember given inside >>= fun read => readObject false read.1 rounds read.2) = _
  rw [member]
  rfl

theorem readObject_of_end {given : Given} {bytes : List UInt8}
    (ended : readMemberStart false bytes = .ok (false, rest)) (rounds : Nat) :
    readObject false given (rounds + 1) bytes = .ok (given, rest) := by
  rw [readObject, ended]
  rfl

theorem readGiven_brace (bytes : List UInt8) :
    readGiven (123 :: bytes) = readObject true ⟨none, none⟩ (bytes.length + 1) bytes := by
  rw [readGiven, skipBlanks_cons rfl]
  rfl

theorem text_toValue {text : (level : Nat) → Value → List UInt8}
    {before : (level : Nat) → List UInt8} {gap : List UInt8} (laysOut : LaysOut text before gap)
    (level : Nat) (config : Config) :
    text level config.toValue =
      123 :: (memberBytes (before (level + 1)) "start_symbol" gap
          (34 :: writtenAfterQuote config.startSymbol) ++
        44 :: (memberBytes (before (level + 1)) "max_depth" gap (decimal config.maxDepth.toNat) ++
          (before level ++ [125]))) := by
  have symbol : text (level + 1) (.string config.startSymbol) =
      34 :: writtenAfterQuote config.startSymbol := by
    rw [laysOut.flat _ (Value.fits_string 0 _), Value.compact, spelling_writeString]
  have depth : text (level + 1) (.number (.integer config.maxDepth.toNat)) =
      decimal config.maxDepth.toNat := by
    rw [laysOut.flat _ (Value.fits_natural 0 config.maxDepth.toNat_lt), Value.compact,
      spelling_integer]
  rw [toValue, laysOut.object level (List.cons_ne_nil _ _),
    intercalate_map_cons _ _ (List.cons_ne_nil _ _), List.map_singleton,
    List.intercalate_singleton, symbol, depth, List.append_assoc, List.cons_append]

/-- Two members are read, and then the end of the object. -/
theorem readGiven_laidOut {text : (level : Nat) → Value → List UInt8}
    {before : (level : Nat) → List UInt8} {gap : List UInt8} (laysOut : LaysOut text before gap)
    (level : Nat) (config : Config) :
    readGiven (text level config.toValue) =
      .ok (⟨some config.startSymbol, some config.maxDepth⟩, []) := by
  have ends : EndsNumber (before level ++ [125]) :=
    .append (laysOut.blank level) (endsNumber_of_mark (.inr (.inl rfl)) [])
  have depth := @readMember_maxDepth gap _ ⟨some config.startSymbol, none⟩ rfl laysOut.gapBlank
    config.maxDepth ends
  have ended : readMemberStart false (before level ++ [125]) = .ok (false, []) :=
    readMemberStart_brace (laysOut.blank level)
  rw [text_toValue laysOut, readGiven_brace]
  generalize rounds : List.length _ + 1 = count
  obtain ⟨spare, rfl⟩ : ∃ spare, count = spare + 1 + 1 + 1 := by
    refine ⟨count - 3, ?_⟩
    simp only [List.length_append, List.length_cons, List.length_nil] at rounds
    omega
  simp only [memberBytes, List.append_assoc, List.cons_append]
  rw [readObject_of_member (readMemberStart_quote (laysOut.blank _))
      (readMember_startSymbol rfl laysOut.gapBlank _),
    readObject_of_member (readMemberStart_comma (laysOut.blank _)) depth,
    readObject_of_end ended]

theorem parse_written {config : Config} {written : String}
    (writes : config.toValue.Writes written) : parse written = .ok config := by
  obtain ⟨text, before, gap, level, laysOut, same⟩ := writes.laidOut
  rw [parse, toUTF8_toList, same, readGiven_laidOut laysOut]
  rfl

end Config

/-! ## Productions -/

namespace WrittenProduction

theorem ofValue?_toJson (entry : WrittenProduction) : ofValue? entry.toJson = some entry := by
  cases entry with
  | plain text => rfl
  | weighted text weight =>
      change ofValue?.fields? (.string text) (.number (.integer weight.toNat)) = _
      rw [ofValue?.fields?, weight?_natural]
      rfl

/-- A text that gives an entry on its own, and as an item of any symbol once it is read as a value,
however its bytes arrive. -/
structure ReadsBack (entry : WrittenProduction) (written : String) : Prop where
  alone : parse written = .ok entry
  asItem : ∃ value, (∀ arrival, Json.parse arrival written.toUTF8.toList = .ok value) ∧
    ∀ symbol, ofItem symbol value = .ok entry

theorem readsBack_of_writes {entry : WrittenProduction} {written : String}
    (writes : entry.toJson.Writes written) : entry.ReadsBack written where
  alone := by
    rw [parse, Json.readValue_written writes (entry.fits_toJson _)]
    dsimp only
    rw [ofValue?_toJson]
    rfl
  asItem := ⟨entry.toJson, Json.parse_written writes (entry.fits_toJson _),
    fun symbol => (ofItem_specified symbol).gives entry.writtenAs_toJson⟩

end WrittenProduction

/-- Settings and productions are read back from their texts, on one line or over several. A
production is the same on its own and within a document. -/
theorem written_values_are_read_back :
    (∀ config : Config, Config.parse config.toJson = .ok config ∧
      ∀ level, Config.parse (config.toValue.pretty level) = .ok config) ∧
    ∀ entry : WrittenProduction, entry.ReadsBack entry.toJson.compact ∧
      ∀ level, entry.ReadsBack (entry.toJson.pretty level) :=
  ⟨fun _ => ⟨Config.parse_written .compact, fun level => Config.parse_written (.pretty level)⟩,
    fun _ => ⟨WrittenProduction.readsBack_of_writes .compact,
      fun level => WrittenProduction.readsBack_of_writes (.pretty level)⟩⟩

end StoryGrammar
