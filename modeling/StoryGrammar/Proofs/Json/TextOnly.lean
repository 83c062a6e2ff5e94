import StoryGrammar.Proofs.Json.Lexeme

set_option autoImplicit false

/-!
# Only text is read

Bytes that are read as a value spell a text, however they arrive. What spells no characters is
refused between the lexemes, where every byte stands for itself, and in strings, which have to spell
a text after their escapes are put in.
-/

namespace StoryGrammar.Json

/-! ## Bytes that spell a text -/

theorem encode_singleton (character : Char) :
    encode [character] = String.utf8EncodeChar character := by
  rw [encode_cons, encode_nil, List.append_nil]

theorem encode_ascii {byte : UInt8} (ascii : byte.toNat < 128) :
    encode [Char.ofUInt8 byte] = [byte] := by
  have small : (Char.ofUInt8 byte).val.toNat ≤ 127 := Nat.le_of_lt_succ ascii
  rw [encode_singleton, String.utf8EncodeChar]
  simp only [if_pos small]
  exact congrArg (fun byte => [byte]) byte.ofNat_toNat

/-- Characters are told apart by their first bytes: a text can be taken apart before any byte that
is the first of a character. -/
theorem exists_of_encode_eq_append {characters : List Char} {before after : List UInt8}
    {byte : UInt8} (split : encode characters = before ++ byte :: after)
    (first : byte.IsUTF8FirstByte) :
    ∃ earlier later, before = encode earlier ∧ byte :: after = encode later := by
  induction characters generalizing before with
  | nil => simp [encode_nil] at split
  | cons character characters ih =>
      rw [encode_cons] at split
      obtain ⟨middle, whole, others⟩ | ⟨middle, part, whole⟩ :=
        List.append_eq_append_iff.mp split
      · obtain ⟨earlier, later, same, rest⟩ := ih others
        exact ⟨character :: earlier, later, by rw [whole, same, encode_cons], rest⟩
      · cases middle with
        | nil =>
            refine ⟨[character], characters, ?_, whole⟩
            rw [encode_singleton, part, List.append_nil]
        | cons next middle =>
            obtain ⟨rfl, -⟩ := List.cons.inj whole
            have inside : before.length < (String.utf8EncodeChar character).length := by
              simp [part]
            have there : (String.utf8EncodeChar character)[before.length] = byte := by
              simp [part]
            have start := UInt8.isUTF8FirstByte_getElem_utf8EncodeChar.mp (there ▸ first)
            cases List.length_eq_zero_iff.mp start
            exact ⟨[], character :: characters, rfl, by rw [encode_cons, part, whole]; rfl⟩

theorem exists_of_encode_eq_character_append {characters : List Char} {character : Char}
    {after : List UInt8} (split : encode characters = String.utf8EncodeChar character ++ after) :
    ∃ later, after = encode later := by
  have whole : ([character].utf8Encode ++ after.toByteArray).IsValidUTF8 := by
    refine ⟨characters, ?_⟩
    change (encode [character]).toByteArray ++ _ = (encode characters).toByteArray
    rw [split, encode_singleton, List.toByteArray_append]
  obtain ⟨later, same⟩ := ByteArray.isValidUTF8_utf8Encode_singleton_append_iff.mp whole
  exact ⟨later, List.toByteArray_inj.mp same⟩

/-- What stands before and after a character of a text are texts. -/
theorem exists_of_encode_eq_around {characters : List Char} {character : Char}
    {before after : List UInt8}
    (split : encode characters = before ++ (String.utf8EncodeChar character ++ after)) :
    ∃ earlier later, before = encode earlier ∧ after = encode later := by
  obtain ⟨first, others, bytes⟩ := List.exists_cons_of_ne_nil (l := String.utf8EncodeChar character)
    String.utf8EncodeChar_ne_nil
  have starts : first.IsUTF8FirstByte := by
    have positive : 0 < (String.utf8EncodeChar character).length := by simp [bytes]
    have there : (String.utf8EncodeChar character)[0] = first := by simp [bytes]
    exact there ▸ UInt8.isUTF8FirstByte_getElem_utf8EncodeChar.mpr rfl
  have parts := split
  rw [bytes, List.cons_append] at parts
  obtain ⟨earlier, later, same, rest⟩ := exists_of_encode_eq_append parts starts
  rw [← List.cons_append, ← bytes] at rest
  obtain ⟨following, after⟩ := exists_of_encode_eq_character_append rest.symm
  exact ⟨earlier, following, same, after⟩

/-- Bytes that are the characters of some text, and then the rest. -/
def TextBefore (rest bytes : List UInt8) : Prop :=
  ∃ characters, bytes = encode characters ++ rest

theorem TextBefore.refl (bytes : List UInt8) : TextBefore bytes bytes :=
  ⟨[], rfl⟩

theorem TextBefore.trans {bytes middle rest : List UInt8} (first : TextBefore middle bytes)
    (second : TextBefore rest middle) : TextBefore rest bytes := by
  obtain ⟨characters, rfl⟩ := first
  obtain ⟨others, rfl⟩ := second
  exact ⟨characters ++ others, by rw [encode_append, List.append_assoc]⟩

theorem TextBefore.ascii {byte : UInt8} {bytes rest : List UInt8} (ascii : byte.toNat < 128)
    (before : TextBefore rest bytes) : TextBefore rest (byte :: bytes) := by
  obtain ⟨characters, rfl⟩ := before
  refine ⟨Char.ofUInt8 byte :: characters, ?_⟩
  rw [encode_cons, ← encode_singleton, encode_ascii ascii]
  rfl

theorem textBefore_dropWhile {accepted : UInt8 → Bool}
    (ascii : ∀ byte, accepted byte = true → byte.toNat < 128) (bytes : List UInt8) :
    TextBefore (bytes.dropWhile accepted) bytes := by
  induction bytes with
  | nil => exact .refl []
  | cons byte bytes ih =>
      rw [List.dropWhile_cons]
      split
      · rename_i here
        exact .ascii (ascii byte here) ih
      · exact .refl _

theorem ascii_of_isDigitByte (byte : UInt8) (digit : isDigitByte byte = true) :
    byte.toNat < 128 := by
  have bounds : 48 ≤ byte.toNat ∧ byte.toNat ≤ 57 := Char.isDigit_iff_toNat.mp digit
  omega

theorem ascii_of_character {byte : UInt8} {character : Char}
    (same : Char.ofUInt8 byte = character) (ascii : character.toNat < 128) : byte.toNat < 128 := by
  rw [← same, toNat_ofUInt8] at ascii
  exact ascii

theorem ascii_of_isBlankByte (byte : UInt8) (blank : isBlankByte byte = true) :
    byte.toNat < 128 := by
  have listed : Char.ofUInt8 byte ∈ [' ', '\n', '\t', '\r'] := List.contains_iff_mem.mp blank
  have ascii : ∀ character ∈ [' ', '\n', '\t', '\r'], character.toNat < 128 := by simp
  exact ascii_of_character rfl (ascii _ listed)

theorem textBefore_skipBlanks (bytes : List UInt8) : TextBefore (skipBlanks bytes) bytes :=
  textBefore_dropWhile ascii_of_isBlankByte bytes

/-- A mark after blanks is passed over with them. -/
theorem textBefore_mark {bytes rest : List UInt8} {byte : UInt8} {character : Char}
    (skipped : skipBlanks bytes = byte :: rest) (same : Char.ofUInt8 byte = character)
    (ascii : character.toNat < 128) : TextBefore rest bytes := by
  have before := textBefore_skipBlanks bytes
  rw [skipped] at before
  exact before.trans (.ascii (ascii_of_character same ascii) (.refl rest))

/-! ## Readers that pass over texts -/

/-- A reader that succeeds has passed over a text. -/
def Consumes {α : Type} (bytes : List UInt8) (outcome : Except Failure (α × List UInt8)) : Prop :=
  ∀ value rest, outcome = .ok (value, rest) → TextBefore rest bytes

section Consumes

variable {α β : Type} {bytes middle rest : List UInt8}

theorem consumes_error (failure : Failure) :
    Consumes bytes (.error failure : Except Failure (α × List UInt8)) := by
  intro value rest same
  cases same

theorem consumes_ok {value : α} (before : TextBefore rest bytes) :
    Consumes bytes (.ok (value, rest)) := by
  intro value rest same
  cases same
  exact before

theorem Consumes.after {outcome : Except Failure (α × List UInt8)}
    (consumes : Consumes middle outcome) (before : TextBefore middle bytes) :
    Consumes bytes outcome :=
  fun value rest same => before.trans (consumes value rest same)

theorem Consumes.bind {outcome : Except Failure (α × List UInt8)}
    {next : α × List UInt8 → Except Failure (β × List UInt8)} (first : Consumes bytes outcome)
    (second : ∀ value rest, Consumes rest (next (value, rest))) :
    Consumes bytes (outcome >>= next) := by
  cases outcome with
  | error failure => exact consumes_error failure
  | ok given => exact (second given.1 given.2).after (first given.1 given.2 rfl)

/-- A reader that gives nothing but the rest comes first. -/
theorem consumes_bind_rest {outcome : Except Failure (List UInt8)}
    {next : List UInt8 → Except Failure (β × List UInt8)}
    (first : ∀ rest, outcome = .ok rest → TextBefore rest bytes)
    (second : ∀ rest, Consumes rest (next rest)) : Consumes bytes (outcome >>= next) := by
  cases outcome with
  | error failure => exact consumes_error failure
  | ok rest => exact (second rest).after (first rest rfl)

end Consumes

/-! ## Strings -/

theorem ascii_of_hexadecimalValue? {byte : UInt8} {value : Nat}
    (digit : hexadecimalValue? byte = some value) : byte.toNat < 128 := by
  have bounded : ∀ {last : Char}, Char.ofUInt8 byte ≤ last → byte.toNat ≤ last.toNat :=
    fun below => below
  simp only [hexadecimalValue?] at digit
  split at digit
  · rename_i bounds
    exact Nat.lt_of_le_of_lt (bounded bounds.2) (by decide)
  · split at digit
    · rename_i bounds
      exact Nat.lt_of_le_of_lt (bounded bounds.2) (by decide)
    · split at digit
      · rename_i bounds
        exact Nat.lt_of_le_of_lt (bounded bounds.2) (by decide)
      · cases digit

theorem readUnit_consumes (bytes : List UInt8) : Consumes bytes (readUnit bytes) := by
  unfold readUnit
  split
  · rename_i a b c d rest
    split
    · rename_i first second third fourth
      have last := TextBefore.ascii (ascii_of_hexadecimalValue? fourth) (.refl rest)
      have more := (last.ascii (ascii_of_hexadecimalValue? third)).ascii
        (ascii_of_hexadecimalValue? second)
      exact consumes_ok (more.ascii (ascii_of_hexadecimalValue? first))
    · exact consumes_error _
  · exact consumes_error _

theorem readPairMark_textBefore {expected : Char} (ascii : expected.toNat < 128)
    (bytes rest : List UInt8) (read : readPairMark expected bytes = .ok rest) :
    TextBefore rest bytes := by
  cases bytes with
  | nil => cases read
  | cons byte bytes =>
      simp only [readPairMark] at read
      split at read
      · rename_i same
        cases read
        exact .ascii (ascii_of_character same ascii) (.refl rest)
      · cases read

theorem readCodeEscape_consumes (bytes : List UInt8) : Consumes bytes (readCodeEscape bytes) := by
  refine (readUnit_consumes bytes).bind fun unit rest => ?_
  dsimp only
  split
  · exact consumes_error _
  · split
    · refine consumes_bind_rest (readPairMark_textBefore (by decide) rest) fun rest => ?_
      refine consumes_bind_rest (readPairMark_textBefore (by decide) rest) fun rest => ?_
      refine (readUnit_consumes rest).bind fun second rest => ?_
      dsimp only
      split
      · exact consumes_ok (.refl rest)
      · exact consumes_error _
    · exact consumes_ok (.refl rest)

theorem readEscape_consumes (bytes : List UInt8) : Consumes bytes (readEscape bytes) := by
  cases bytes with
  | nil => exact consumes_error _
  | cons byte rest =>
      have mark : ∀ {character : Char}, Char.ofUInt8 byte = character → character.toNat < 128 →
          TextBefore rest (byte :: rest) :=
        fun same ascii => .ascii (ascii_of_character same ascii) (.refl rest)
      unfold readEscape
      dsimp only
      split
      case h_9 same => exact (readCodeEscape_consumes rest).after (mark same (by decide))
      case h_10 => exact consumes_error _
      all_goals
        rename_i same
        exact consumes_ok (mark same (by decide))

/-- A string that is collected to a text is written as a text. Raw bytes that are collected may be
part of a character only, so what was collected before has to be taken along. -/
theorem collectString_collects {rounds : Nat} {collected bytes final rest : List UInt8}
    (read : collectString rounds collected bytes = .ok (final, rest)) :
    ∃ raw added, bytes = raw ++ rest ∧ final.reverse = collected.reverse ++ added ∧
      ∀ before characters, encode characters = before ++ added →
        ∃ written, encode written = before ++ raw := by
  induction rounds generalizing collected bytes with
  | zero => cases read
  | succ rounds ih =>
      cases bytes with
      | nil => cases read
      | cons byte bytes =>
          rw [collectString] at read
          split at read
          · rename_i quote
            cases read
            refine ⟨[byte], [], rfl, (List.append_nil _).symm, fun before characters whole => ?_⟩
            refine ⟨characters ++ [Char.ofUInt8 byte], ?_⟩
            rw [encode_append, encode_ascii (ascii_of_character quote (by decide)), whole,
              List.append_nil]
          · split at read
            · rename_i backslash
              cases escape : readEscape bytes with
              | error failure => simp [escape, bind, Except.bind] at read
              | ok escaped =>
                  obtain ⟨character, middle⟩ := escaped
                  simp only [escape, bind, Except.bind] at read
                  obtain ⟨raw, added, rfl, same, writes⟩ := ih read
                  obtain ⟨escaping, rfl⟩ := readEscape_consumes bytes character _ escape
                  refine ⟨byte :: (encode escaping ++ raw),
                    String.utf8EncodeChar character ++ added, by simp, ?_, ?_⟩
                  · simp [same]
                  · intro before characters whole
                    obtain ⟨earlier, later, rfl, others⟩ := exists_of_encode_eq_around whole
                    obtain ⟨written, spelled⟩ := writes [] later others.symm
                    refine ⟨earlier ++ Char.ofUInt8 byte :: (escaping ++ written), ?_⟩
                    rw [encode_append, encode_cons, ← encode_singleton,
                      encode_ascii (ascii_of_character backslash (by decide)), encode_append,
                      spelled]
                    rfl
            · split at read
              · cases read
              · obtain ⟨raw, added, rfl, same, writes⟩ := ih read
                refine ⟨byte :: raw, byte :: added, rfl, by simp [same], ?_⟩
                intro before characters whole
                obtain ⟨written, spelled⟩ := writes (before ++ [byte]) characters (by simp [whole])
                exact ⟨written, by simp [spelled]⟩

theorem exists_of_fromUTF8? {bytes : List UInt8} {text : String}
    (spelled : String.fromUTF8? ⟨bytes.toArray⟩ = some text) :
    ∃ characters, encode characters = bytes := by
  unfold String.fromUTF8? at spelled
  split at spelled
  · rename_i valid
    obtain ⟨characters, same⟩ := valid
    refine ⟨characters, ?_⟩
    have data := congrArg (fun bytes : ByteArray => bytes.data.toList) same
    exact (data.trans List.toList_data_toByteArray).symm
  · cases spelled

theorem readString_consumes (bytes : List UInt8) : Consumes bytes (readString bytes) := by
  intro text rest read
  unfold readString at read
  cases collects : collectString (bytes.length + 1) [] bytes with
  | error failure => simp [collects, bind, Except.bind] at read
  | ok collected =>
      obtain ⟨final, following⟩ := collected
      obtain ⟨raw, added, rfl, same, writes⟩ := collectString_collects collects
      simp only [collects, bind, Except.bind] at read
      split at read
      · rename_i spelled
        cases read
        obtain ⟨characters, whole⟩ := exists_of_fromUTF8? spelled
        obtain ⟨written, spelling⟩ := writes [] characters (whole.trans same)
        exact ⟨written, by rw [spelling]; rfl⟩
      · cases read

/-! ## Numbers -/

theorem readExponentSign_textBefore (bytes : List UInt8) :
    TextBefore (readExponentSign bytes).2 bytes := by
  cases bytes with
  | nil => exact .refl []
  | cons byte rest =>
      unfold readExponentSign
      dsimp only
      split
      · rename_i plus
        exact .ascii (ascii_of_character plus (by decide)) (.refl rest)
      · rename_i minus
        exact .ascii (ascii_of_character minus (by decide)) (.refl rest)
      · exact .refl _

theorem absorbExponent_textBefore (exponent : Nat) (bytes : List UInt8) :
    TextBefore (absorbExponent exponent bytes).2.2 bytes := by
  induction bytes generalizing exponent with
  | nil => exact .refl []
  | cons byte rest ih =>
      unfold absorbExponent
      split
      · rename_i digit
        have ascii := ascii_of_isDigitByte byte digit
        dsimp only
        split
        · exact .ascii ascii (ih _)
        · exact .ascii ascii (.refl rest)
      · exact .refl _

section numbers

variable (arrival : Arrival) (negative : Bool)

theorem floatOrFail_consumes (significand : Nat) (power : Int) (bytes : List UInt8) :
    Consumes bytes (floatOrFail arrival negative significand power bytes) := by
  unfold floatOrFail
  split
  · exact consumes_ok (.refl bytes)
  · cases arrival with
    | whole => exact consumes_error _
    | streamed => exact consumes_error _

theorem readExponent_consumes (significand : Nat) (power : Int) (bytes : List UInt8) :
    Consumes bytes (readExponent arrival negative significand power bytes) := by
  have sign := readExponentSign_textBefore bytes
  unfold readExponent
  generalize readExponentSign bytes = signed at sign ⊢
  obtain ⟨small, bytes⟩ := signed
  dsimp only at sign ⊢
  refine Consumes.after ?_ sign
  cases bytes with
  | nil => exact consumes_error _
  | cons byte rest =>
      dsimp only
      split
      · rename_i digit
        refine Consumes.after ?_ (.ascii (ascii_of_isDigitByte byte digit) (.refl rest))
        have exponent := absorbExponent_textBefore (digitValue byte) rest
        split
        · rename_i same
          rw [same] at exponent
          exact (floatOrFail_consumes arrival negative _ _ _).after exponent
        · rename_i same
          rw [same] at exponent
          split
          · exact consumes_error _
          · exact consumes_ok
              (exponent.trans (textBefore_dropWhile ascii_of_isDigitByte _))
      · exact consumes_error _

theorem readFraction_consumes (significand ignored : Nat) (bytes : List UInt8) :
    Consumes bytes (readFraction arrival negative significand ignored bytes) := by
  have digits := textBefore_dropWhile ascii_of_isDigitByte bytes
  unfold readFraction
  dsimp only
  generalize bytes.dropWhile isDigitByte = rest at digits ⊢
  split
  · exact consumes_error _
  · refine Consumes.after ?_ digits
    cases rest with
    | nil => exact floatOrFail_consumes arrival negative _ _ _
    | cons byte more =>
        dsimp only
        split
        · rename_i mark
          have ascii : byte.toNat < 128 := by
            rcases mark with small | large
            · exact ascii_of_character small (by decide)
            · exact ascii_of_character large (by decide)
          exact (readExponent_consumes arrival negative _ _ more).after (.ascii ascii (.refl more))
        · exact floatOrFail_consumes arrival negative _ _ _

theorem readAfterDigits_consumes (digits bytes : List UInt8) :
    Consumes bytes (readAfterDigits arrival negative digits bytes) := by
  unfold readAfterDigits
  generalize absorbDigits 0 0 digits = absorbed
  obtain ⟨significand, used⟩ := absorbed
  dsimp only
  have whole : Consumes bytes
      (if digits.length - used = 0 then .ok (wholeNumber negative significand, bytes)
        else floatOrFail arrival negative significand (digits.length - used : Nat) bytes) := by
    split
    · exact consumes_ok (.refl bytes)
    · exact floatOrFail_consumes arrival negative _ _ bytes
  cases bytes with
  | nil => exact whole
  | cons byte more =>
      have mark : ∀ {character : Char}, Char.ofUInt8 byte = character → character.toNat < 128 →
          TextBefore more (byte :: more) :=
        fun same ascii => .ascii (ascii_of_character same ascii) (.refl more)
      dsimp only
      split
      · rename_i point
        exact (readFraction_consumes arrival negative _ _ more).after (mark point (by decide))
      · rename_i small
        exact (readExponent_consumes arrival negative _ _ more).after (mark small (by decide))
      · rename_i large
        exact (readExponent_consumes arrival negative _ _ more).after (mark large (by decide))
      · exact whole

theorem readNumber_consumes (bytes : List UInt8) :
    Consumes bytes (readNumber arrival negative bytes) := by
  unfold readNumber
  cases bytes with
  | nil => exact consumes_error _
  | cons byte rest =>
      dsimp only
      split
      · exact consumes_error _
      · rename_i digit
        have digit : isDigitByte byte = true := by simpa using digit
        split
        · split
          · exact consumes_error _
          · exact (readAfterDigits_consumes arrival negative _ rest).after
              (.ascii (ascii_of_isDigitByte byte digit) (.refl rest))
        · exact (readAfterDigits_consumes arrival negative _ _).after
            (textBefore_dropWhile ascii_of_isDigitByte _)

end numbers

/-! ## Values -/

theorem readIdentifier_textBefore {expected : List Char}
    (ascii : ∀ character ∈ expected, character.toNat < 128) (bytes rest : List UInt8)
    (read : readIdentifier expected bytes = .ok rest) : TextBefore rest bytes := by
  induction expected generalizing bytes with
  | nil =>
      cases read
      exact .refl rest
  | cons character expected ih =>
      obtain ⟨first, others⟩ := List.forall_mem_cons.mp ascii
      cases bytes with
      | nil => cases read
      | cons byte bytes =>
          rw [readIdentifier] at read
          split at read
          · rename_i same
            exact .ascii (ascii_of_character same first) (ih others bytes read)
          · cases read

theorem identifier_consumes {α : Type} {expected : List Char}
    (ascii : ∀ character ∈ expected, character.toNat < 128) (value : α) (bytes : List UInt8) :
    Consumes bytes (do let rest ← readIdentifier expected bytes; return (value, rest)) :=
  consumes_bind_rest (readIdentifier_textBefore ascii bytes) fun rest => consumes_ok (.refl rest)

theorem readKey_consumes (members : List (String × Value)) (outer : List Container)
    (bytes : List UInt8) : Consumes bytes (readKey members outer bytes) := by
  refine (readString_consumes bytes).bind fun key rest => ?_
  dsimp only
  split
  · exact consumes_error _
  · rename_i skipped
    split
    · rename_i colon
      exact consumes_ok (textBefore_mark skipped colon (by decide))
    · exact consumes_error _

theorem readStart_consumes (arrival : Arrival) (outer : List Container) (bytes : List UInt8) :
    Consumes bytes (readStart arrival outer bytes) := by
  unfold readStart
  split
  · exact consumes_error _
  · rename_i byte rest skipped
    split
    · rename_i null
      exact (identifier_consumes (by simp) _ rest).after
        (textBefore_mark skipped null (by decide))
    · rename_i yes
      exact (identifier_consumes (by simp) _ rest).after
        (textBefore_mark skipped yes (by decide))
    · rename_i no
      exact (identifier_consumes (by simp) _ rest).after
        (textBefore_mark skipped no (by decide))
    · rename_i minus
      refine Consumes.after ?_ (textBefore_mark skipped minus (by decide))
      exact (readNumber_consumes arrival true rest).bind fun number rest => consumes_ok (.refl rest)
    · rename_i quote
      refine Consumes.after ?_ (textBefore_mark skipped quote (by decide))
      exact (readString_consumes rest).bind fun text rest => consumes_ok (.refl rest)
    · rename_i bracket
      refine Consumes.after ?_ (textBefore_mark skipped bracket (by decide))
      split
      · exact consumes_error _
      · split
        · exact consumes_error _
        · rename_i first more following
          split
          · rename_i close
            exact consumes_ok (textBefore_mark following close (by decide))
          · exact consumes_ok (following ▸ textBefore_skipBlanks rest)
    · rename_i brace
      refine Consumes.after ?_ (textBefore_mark skipped brace (by decide))
      split
      · exact consumes_error _
      · split
        · exact consumes_error _
        · rename_i first more following
          split
          · rename_i close
            exact consumes_ok (textBefore_mark following close (by decide))
          · rename_i quote
            exact (readKey_consumes [] outer more).after
              (textBefore_mark following quote (by decide))
          · exact consumes_error _
    · split
      · have before := skipped ▸ textBefore_skipBlanks bytes
        refine Consumes.after ?_ before
        exact (readNumber_consumes arrival false _).bind fun number rest => consumes_ok (.refl rest)
      · exact consumes_error _

theorem readAfterItem_consumes (items : List Value) (outer : List Container)
    (bytes : List UInt8) : Consumes bytes (readAfterItem items outer bytes) := by
  unfold readAfterItem
  split
  · exact consumes_error _
  · rename_i byte rest skipped
    split
    · rename_i close
      exact consumes_ok (textBefore_mark skipped close (by decide))
    · rename_i comma
      refine Consumes.after ?_ (textBefore_mark skipped comma (by decide))
      split
      · exact consumes_error _
      · rename_i first more following
        split
        · exact consumes_error _
        · exact consumes_ok (following ▸ textBefore_skipBlanks rest)
    · exact consumes_error _

theorem readAfterMember_consumes (members : List (String × Value)) (outer : List Container)
    (bytes : List UInt8) : Consumes bytes (readAfterMember members outer bytes) := by
  unfold readAfterMember
  split
  · exact consumes_error _
  · rename_i byte rest skipped
    split
    · rename_i close
      exact consumes_ok (textBefore_mark skipped close (by decide))
    · rename_i comma
      refine Consumes.after ?_ (textBefore_mark skipped comma (by decide))
      split
      · exact consumes_error _
      · rename_i first more following
        split
        · rename_i quote
          exact (readKey_consumes members outer more).after
            (textBefore_mark following quote (by decide))
        · exact consumes_error _
        · exact consumes_error _
    · exact consumes_error _

/-- Each round of a reading passes over a text, so all of them together do. -/
theorem Reading.run_consumes (arrival : Arrival) (rounds : Nat) (reading : Reading)
    (bytes : List UInt8) : Consumes bytes (reading.run arrival rounds bytes) := by
  induction rounds generalizing reading bytes with
  | zero =>
      cases reading with
      | expecting outer => exact consumes_error _
      | finished outer value =>
          cases outer with
          | nil => exact consumes_ok (.refl bytes)
          | cons container outer => exact consumes_error _
  | succ rounds ih =>
      cases reading with
      | expecting outer =>
          exact (readStart_consumes arrival outer bytes).bind fun reading rest => ih reading rest
      | finished outer value =>
          cases outer with
          | nil => exact consumes_ok (.refl bytes)
          | cons container outer =>
              cases container with
              | array items =>
                  exact (readAfterItem_consumes (value :: items) outer bytes).bind
                    fun reading rest => ih reading rest
              | object members key =>
                  exact (readAfterMember_consumes ((key, value) :: members) outer bytes).bind
                    fun reading rest => ih reading rest

theorem parse_eq_ok {arrival : Arrival} {bytes : List UInt8} {value : Value}
    (parsed : parse arrival bytes = .ok value) :
    ∃ rest, readValue arrival bytes = .ok (value, rest) ∧ readEnd rest = .ok () := by
  unfold parse at parsed
  cases read : readValue arrival bytes with
  | error failure => simp [read, bind, Except.bind, Except.mapError] at parsed
  | ok outcome =>
      obtain ⟨found, rest⟩ := outcome
      cases ends : readEnd rest with
      | error failure => simp [read, ends, bind, Except.bind, Except.mapError] at parsed
      | ok done =>
          simp only [read, ends, bind, Except.bind, Except.mapError, pure, Except.pure,
            Except.ok.injEq] at parsed
          subst parsed
          exact ⟨rest, rfl, ends⟩

/-- Whatever bytes are read as a value are those of a text. -/
theorem exists_text_of_parse {arrival : Arrival} {bytes : List UInt8} {value : Value}
    (parsed : parse arrival bytes = .ok value) : ∃ text : String, text.toUTF8.toList = bytes := by
  obtain ⟨rest, read, ends⟩ := parse_eq_ok parsed
  have passed : TextBefore rest bytes := Reading.run_consumes _ _ _ _ _ _ read
  have blanks : TextBefore [] rest := by
    have before := textBefore_skipBlanks rest
    unfold readEnd at ends
    split at ends
    · rename_i none
      rwa [none] at before
    · cases ends
  obtain ⟨characters, whole⟩ := passed.trans blanks
  refine ⟨String.ofList characters, ?_⟩
  rw [toUTF8_toList, spelling, String.toList_ofList, whole, List.append_nil]

end StoryGrammar.Json
