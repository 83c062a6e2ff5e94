import Mathlib.Tactic.IntervalCases
import StoryGrammar.Json.Reader
import StoryGrammar.Json.Writer

set_option autoImplicit false

/-!
# Lexemes that were written

Strings and natural numbers, as they are written, are read back from their bytes, whatever follows
them as long as it does not continue a number.
-/

namespace StoryGrammar.Json

/-! ## Characters as bytes -/

def encode (characters : List Char) : List UInt8 :=
  characters.flatMap String.utf8EncodeChar

theorem encode_nil : encode [] = [] :=
  rfl

theorem encode_cons (character : Char) (characters : List Char) :
    encode (character :: characters) = String.utf8EncodeChar character ++ encode characters :=
  rfl

theorem encode_append (first second : List Char) :
    encode (first ++ second) = encode first ++ encode second :=
  List.flatMap_append

def spelling (text : String) : List UInt8 :=
  encode text.toList

theorem spelling_append (first second : String) :
    spelling (first ++ second) = spelling first ++ spelling second := by
  rw [spelling, String.toList_append, encode_append]
  rfl

/-- Listing a byte array from an index on adds the rest of it to what is listed already. -/
theorem listing_from (bytes : ByteArray) (index : Nat) (collected : List UInt8) :
    ByteArray.toList.loop bytes index collected =
      collected.reverse ++ bytes.data.toList.drop index := by
  fun_induction ByteArray.toList.loop bytes index collected with
  | case1 index collected inside ih =>
      have byte : bytes.get! index = bytes.data.toList[index] :=
        getElem!_pos bytes.data index inside
      rw [ih, byte, List.reverse_cons, List.append_assoc, List.singleton_append,
        ← List.drop_eq_getElem_cons]
  | case2 index collected beyond =>
      rw [List.drop_eq_nil_of_le (Nat.le_of_not_lt beyond), List.append_nil]

theorem toUTF8_toList (text : String) : text.toUTF8.toList = spelling text := by
  rw [String.toUTF8_eq_toByteArray, ← String.utf8Encode_toList, ByteArray.toList, listing_from]
  exact List.toList_data_toByteArray

theorem fromUTF8?_encode (characters : List Char) :
    String.fromUTF8? ⟨(encode characters).toArray⟩ = some (String.ofList characters) := by
  have same : (⟨(encode characters).toArray⟩ : ByteArray) = characters.utf8Encode :=
    ByteArray.ext (Array.toList_inj.mp List.toList_data_toByteArray.symm)
  rw [same, String.fromUTF8?, dif_pos ByteArray.isValidUTF8_utf8Encode]
  rfl

theorem toNat_ofUInt8 (byte : UInt8) : (Char.ofUInt8 byte).toNat = byte.toNat :=
  rfl

/-- A byte of a character is the character's number, or it is beyond all characters of one byte. -/
theorem toNat_of_mem_utf8EncodeChar {character : Char} {byte : UInt8}
    (member : byte ∈ String.utf8EncodeChar character) :
    byte.toNat = character.toNat ∨ 128 ≤ byte.toNat := by
  have above : ∀ number : Nat, number < 256 → 128 ≤ number → byte = UInt8.ofNat number →
      128 ≤ byte.toNat := by
    intro number small large same
    rw [same, UInt8.toNat_ofNat']
    omega
  unfold String.utf8EncodeChar at member
  simp only at member
  split at member
  · have same := List.mem_singleton.mp member
    left
    rw [same, UInt8.toNat_ofNat', Char.toNat]
    omega
  · right
    split at member
    · simp only [List.mem_cons, List.not_mem_nil, or_false] at member
      rcases member with same | same <;> exact above _ (by omega) (by omega) same
    · split at member
      · simp only [List.mem_cons, List.not_mem_nil, or_false] at member
        rcases member with same | same | same <;> exact above _ (by omega) (by omega) same
      · simp only [List.mem_cons, List.not_mem_nil, or_false] at member
        rcases member with same | same | same | same <;> exact above _ (by omega) (by omega) same

/-! ## Strings -/

def Plain (bytes : List UInt8) : Prop :=
  ∀ byte ∈ bytes, Char.ofUInt8 byte ≠ '"' ∧ Char.ofUInt8 byte ≠ '\\' ∧ ¬byte < 32

theorem collectString_plain {bytes : List UInt8} (plain : Plain bytes) (rounds : Nat)
    (collected rest : List UInt8) :
    collectString (rounds + bytes.length) collected (bytes ++ rest) =
      collectString rounds (bytes.reverse ++ collected) rest := by
  induction bytes generalizing collected with
  | nil => rfl
  | cons byte bytes ih =>
      obtain ⟨notQuote, notBackslash, notControl⟩ := plain byte (.head _)
      have later := ih (fun other member => plain other (.tail _ member)) (byte :: collected)
      rw [List.length_cons, ← Nat.add_assoc, List.cons_append, collectString, if_neg notQuote,
        if_neg notBackslash, if_neg notControl, later, List.reverse_cons, List.append_assoc]
      rfl

theorem plain_utf8EncodeChar {character : Char} (notQuote : character ≠ '"')
    (notBackslash : character ≠ '\\') (notControl : ¬character.toNat < 32) :
    Plain (String.utf8EncodeChar character) := by
  have differs : ∀ {other : Char} {byte : UInt8}, byte ∈ String.utf8EncodeChar character →
      character ≠ other → other.toNat < 128 → Char.ofUInt8 byte ≠ other := by
    intro other byte member different small same
    rcases toNat_of_mem_utf8EncodeChar member with number | beyond
    · exact different (Char.toNat_inj.mp (by rw [← number, ← same, toNat_ofUInt8]))
    · rw [← toNat_ofUInt8, same] at beyond
      omega
  intro byte member
  refine ⟨differs member notQuote (by decide), differs member notBackslash (by decide), ?_⟩
  intro control
  have small : byte.toNat < 32 := UInt8.lt_iff_toNat_lt.mp control
  rcases toNat_of_mem_utf8EncodeChar member with number | beyond <;> omega

/-- A character that was written is collected as its bytes, in no more rounds than it takes
bytes. -/
theorem collectString_writeCharacter (character : Char) :
    ∃ used, used ≤ (encode (writeCharacter character)).length ∧
      ∀ rounds collected rest,
        collectString (rounds + used) collected (encode (writeCharacter character) ++ rest) =
          collectString rounds ((String.utf8EncodeChar character).reverse ++ collected) rest := by
  by_cases control : character.toNat < 32
  · obtain ⟨number, same⟩ : ∃ number, character.toNat = number := ⟨_, rfl⟩
    have written : character = Char.ofNat number := by rw [← same, Char.ofNat_toNat]
    rw [same] at control
    subst written
    clear same
    interval_cases number <;> exact ⟨1, by decide, fun rounds collected rest => rfl⟩
  · by_cases quote : character = '"'
    · subst quote
      exact ⟨1, by decide, fun rounds collected rest => rfl⟩
    · by_cases backslash : character = '\\'
      · subst backslash
        exact ⟨1, by decide, fun rounds collected rest => rfl⟩
      · have itself : writeCharacter character = [character] := by
          unfold writeCharacter
          split <;> simp_all
        have bytes : encode (writeCharacter character) = String.utf8EncodeChar character := by
          rw [itself, encode_cons, encode_nil, List.append_nil]
        rw [bytes]
        exact ⟨_, Nat.le_refl _, fun rounds collected rest =>
          collectString_plain (plain_utf8EncodeChar quote backslash control) rounds collected rest⟩

theorem collectString_written (characters : List Char) :
    ∃ used, used ≤ (encode (characters.flatMap writeCharacter)).length ∧
      ∀ rounds collected rest,
        collectString (rounds + used) collected
            (encode (characters.flatMap writeCharacter) ++ rest) =
          collectString rounds ((encode characters).reverse ++ collected) rest := by
  induction characters with
  | nil => exact ⟨0, Nat.le_refl _, fun rounds collected rest => rfl⟩
  | cons character characters ih =>
      obtain ⟨first, firstBound, readFirst⟩ := collectString_writeCharacter character
      obtain ⟨others, othersBound, readOthers⟩ := ih
      refine ⟨others + first, ?_, ?_⟩
      · rw [List.flatMap_cons, encode_append, List.length_append]
        omega
      · intro rounds collected rest
        rw [List.flatMap_cons, encode_append, List.append_assoc, ← Nat.add_assoc, readFirst,
          readOthers, encode_cons, List.reverse_append, List.append_assoc]

def writtenAfterQuote (text : String) : List UInt8 :=
  encode (text.toList.flatMap writeCharacter) ++ [34]

theorem readString_written (text : String) (rest : List UInt8) :
    readString (writtenAfterQuote text ++ rest) = .ok (text, rest) := by
  obtain ⟨used, bound, read⟩ := collectString_written text.toList
  have enough : ∃ spare, (writtenAfterQuote text ++ rest).length + 1 = spare + 1 + used := by
    refine ⟨(writtenAfterQuote text ++ rest).length - used, ?_⟩
    simp only [writtenAfterQuote, List.length_append]
    omega
  obtain ⟨spare, rounds⟩ := enough
  have collected : collectString ((writtenAfterQuote text ++ rest).length + 1) []
      (writtenAfterQuote text ++ rest) = .ok ((encode text.toList).reverse, rest) := by
    rw [rounds, writtenAfterQuote, List.append_assoc, read, List.append_nil]
    rfl
  unfold readString
  simp only [collected, bind, Except.bind, List.reverse_reverse, fromUTF8?_encode,
    String.ofList_toList]
  rfl

theorem spelling_writeString (text : String) :
    spelling (writeString text) = 34 :: writtenAfterQuote text := by
  rw [spelling, writeString, String.toList_ofList, List.cons_append, encode_cons, encode_append]
  rfl

/-! ## Natural numbers -/

def decimal (number : Nat) : List UInt8 :=
  encode (Nat.toDigits 10 number)

theorem spelling_integer (number : Nat) :
    spelling (Number.text (.integer number)) = decimal number := by
  change encode number.repr.toList = _
  rw [Nat.repr_eq_ofList_toDigits, String.toList_ofList, decimal]

theorem encode_digitChar {digit : Nat} (small : digit < 10) :
    encode [Nat.digitChar digit] = [UInt8.ofNat (48 + digit)] := by
  interval_cases digit <;> rfl

theorem decimal_of_lt {number : Nat} (small : number < 10) :
    decimal number = [UInt8.ofNat (48 + number)] := by
  rw [decimal, Nat.toDigits_of_lt_base small, encode_digitChar small]

/-- The last digit comes behind the digits of a tenth. -/
theorem decimal_of_le {number : Nat} (large : 10 ≤ number) :
    decimal number = decimal (number / 10) ++ [UInt8.ofNat (48 + number % 10)] := by
  rw [decimal, Nat.toDigits_of_base_le (by decide) large, encode_append,
    encode_digitChar (Nat.mod_lt number (by decide))]
  rfl

theorem digit_byte {digit : Nat} (small : digit < 10) :
    isDigitByte (UInt8.ofNat (48 + digit)) = true ∧
      digitValue (UInt8.ofNat (48 + digit)) = digit := by
  interval_cases digit <;> exact ⟨rfl, rfl⟩

theorem isDigitByte_of_mem_decimal (number : Nat) :
    ∀ byte ∈ decimal number, isDigitByte byte = true := by
  induction number using Nat.strongRecOn with
  | ind number ih =>
      intro byte member
      by_cases small : number < 10
      · rw [decimal_of_lt small, List.mem_singleton] at member
        exact member ▸ (digit_byte small).1
      · rw [decimal_of_le (by omega), List.mem_append, List.mem_singleton] at member
        rcases member with earlier | last
        · exact ih (number / 10) (by omega) byte earlier
        · exact last ▸ (digit_byte (Nat.mod_lt number (by decide))).1

theorem exists_cons_of_decimal {number : Nat} (positive : 0 < number) :
    ∃ byte more, decimal number = byte :: more ∧ Char.ofUInt8 byte ≠ '0' := by
  induction number using Nat.strongRecOn with
  | ind number ih =>
      by_cases small : number < 10
      · refine ⟨_, [], decimal_of_lt small, ?_⟩
        interval_cases number <;> decide
      · obtain ⟨byte, more, digits, notZero⟩ := ih (number / 10) (by omega) (by omega)
        exact ⟨byte, _, by rw [decimal_of_le (by omega), digits, List.cons_append], notZero⟩

theorem absorbDigits_append {significand used : Nat} {first second : List UInt8} {absorbed : Nat}
    (all : absorbDigits significand used first = (absorbed, used + first.length)) :
    absorbDigits significand used (first ++ second) =
      absorbDigits absorbed (used + first.length) second := by
  induction first generalizing significand used with
  | nil =>
      cases all
      rfl
  | cons digit first ih =>
      rw [absorbDigits] at all
      rw [List.cons_append, absorbDigits]
      split at all
      · rename_i fits
        rw [List.length_cons, Nat.add_comm first.length, ← Nat.add_assoc] at all ⊢
        simp only [fits, if_true]
        exact ih all
      · simp only [Prod.mk.injEq, List.length_cons] at all
        omega

theorem absorbDigits_decimal {number : Nat} (fits : number < UInt64.size) :
    absorbDigits 0 0 (decimal number) = (number, (decimal number).length) := by
  induction number using Nat.strongRecOn with
  | ind number ih =>
      by_cases small : number < 10
      · rw [decimal_of_lt small, absorbDigits]
        simp only [(digit_byte small).2, Nat.zero_mul, Nat.zero_add, if_pos fits]
        rfl
      · have earlier := ih (number / 10) (by omega) (by omega)
        rw [decimal_of_le (by omega),
          absorbDigits_append (by rw [earlier, Nat.zero_add]), absorbDigits]
        have whole : number / 10 * 10 + number % 10 = number := by omega
        simp only [(digit_byte (Nat.mod_lt number (by decide))).2, whole, if_pos fits,
          List.length_append]
        simp [absorbDigits]

def EndsNumber (bytes : List UInt8) : Prop :=
  ∀ byte ∈ bytes.head?, isDigitByte byte = false ∧
    Char.ofUInt8 byte ≠ '.' ∧ Char.ofUInt8 byte ≠ 'e' ∧ Char.ofUInt8 byte ≠ 'E'

theorem readAfterDigits_decimal {number : Nat} (fits : number < UInt64.size) (arrival : Arrival)
    {rest : List UInt8} (ends : EndsNumber rest) :
    readAfterDigits arrival false (decimal number) rest = .ok (.integer number, rest) := by
  unfold readAfterDigits
  rw [absorbDigits_decimal fits]
  simp only [Nat.sub_self, if_true]
  cases rest with
  | nil => rfl
  | cons byte more =>
      obtain ⟨-, notPoint, notSmall, notLarge⟩ := ends byte rfl
      simp only
      rfl

theorem readNumber_decimal {number : Nat} (fits : number < UInt64.size) (arrival : Arrival)
    {rest : List UInt8} (ends : EndsNumber rest) :
    readNumber arrival false (decimal number ++ rest) = .ok (.integer number, rest) := by
  have digits := isDigitByte_of_mem_decimal number
  rcases Nat.eq_zero_or_pos number with rfl | positive
  · have zero : (rest.head?.any isDigitByte) = false := by
      cases rest with
      | nil => rfl
      | cons byte more => exact (ends byte rfl).1
    have read := readAfterDigits_decimal fits arrival ends
    change readNumber arrival false (48 :: rest) = _
    unfold readNumber
    simp only [zero]
    exact read
  · obtain ⟨byte, more, starts, notZero⟩ := exists_cons_of_decimal positive
    have stops : rest.takeWhile isDigitByte = [] ∧ rest.dropWhile isDigitByte = rest := by
      cases rest with
      | nil => exact ⟨rfl, rfl⟩
      | cons byte more => simp [(ends byte rfl).1]
    have taken : (decimal number ++ rest).takeWhile isDigitByte = decimal number := by
      rw [List.takeWhile_append_of_pos digits, stops.1, List.append_nil]
    have dropped : (decimal number ++ rest).dropWhile isDigitByte = rest := by
      rw [List.dropWhile_append_of_pos digits, stops.2]
    have first : isDigitByte byte = true := digits byte (starts ▸ .head _)
    have whole : decimal number ++ rest = byte :: (more ++ rest) := by
      rw [starts, List.cons_append]
    have read := readAfterDigits_decimal fits arrival ends
    rw [whole] at taken dropped ⊢
    unfold readNumber
    simp only [first, notZero, taken, dropped, Bool.not_true, if_false, Bool.false_eq_true]
    exact read

end StoryGrammar.Json
