import Mathlib.Data.List.DropRight
import StoryGrammar.Proofs.Json.Lexeme

set_option autoImplicit false

/-!
# Values that were written

A text reads as a value when reading it, in whatever is open around it, ends with the value finished
and nothing else of the input taken. Arrays and objects read as such when their parts do, so the
text of a value over several lines reads as the value.
-/

namespace StoryGrammar.Json

/-! ## Blanks -/

def Blank (bytes : List UInt8) : Prop :=
  ∀ byte ∈ bytes, isBlankByte byte = true

theorem skipBlanks_append {blanks : List UInt8} (blank : Blank blanks) (rest : List UInt8) :
    skipBlanks (blanks ++ rest) = skipBlanks rest :=
  List.dropWhile_append_of_pos blank

theorem skipBlanks_cons {byte : UInt8} (solid : isBlankByte byte = false) (rest : List UInt8) :
    skipBlanks (byte :: rest) = byte :: rest := by
  rw [skipBlanks, List.dropWhile_cons_of_neg (by simp [solid])]

theorem skipBlanks_append_cons {blanks : List UInt8} (blank : Blank blanks) {byte : UInt8}
    (solid : isBlankByte byte = false) (rest : List UInt8) :
    skipBlanks (blanks ++ byte :: rest) = byte :: rest := by
  rw [skipBlanks_append blank, skipBlanks_cons solid]

theorem skipBlanks_skipBlanks (bytes : List UInt8) :
    skipBlanks (skipBlanks bytes) = skipBlanks bytes :=
  List.dropWhile_idempotent isBlankByte bytes

theorem endsNumber_of_blank {byte : UInt8} (blank : isBlankByte byte = true)
    (rest : List UInt8) : EndsNumber (byte :: rest) := by
  intro first same
  cases same
  have blank : Char.ofUInt8 byte ∈ [' ', '\n', '\t', '\r'] := List.contains_iff_mem.mp blank
  unfold isDigitByte
  generalize Char.ofUInt8 byte = character at blank
  simp only [List.mem_cons, List.not_mem_nil, or_false] at blank
  rcases blank with rfl | rfl | rfl | rfl <;> decide

theorem EndsNumber.append {blanks rest : List UInt8} (blank : Blank blanks)
    (ends : EndsNumber rest) : EndsNumber (blanks ++ rest) := by
  cases blanks with
  | nil => exact ends
  | cons byte blanks => exact endsNumber_of_blank (blank byte (.head _)) _

/-! ## Steps of a reading -/

/-- Reading leads from one place to another, in at least one round and no more than `limit`. -/
def Leads (arrival : Arrival) (limit : Nat) (reading : Reading) (bytes : List UInt8)
    (reached : Reading) (rest : List UInt8) : Prop :=
  ∃ used, used < limit ∧ ∀ rounds,
    reading.run arrival (rounds + (used + 1)) bytes = reached.run arrival rounds rest

section Leads

variable {arrival : Arrival} {outer : List Container} {bytes rest : List UInt8}

theorem Leads.trans {first second : Nat} {reading middle reached : Reading}
    {between : List UInt8} (before : Leads arrival first reading bytes middle between)
    (after : Leads arrival second middle between reached rest) :
    Leads arrival (first + second) reading bytes reached rest := by
  obtain ⟨used, bound, runs⟩ := before
  obtain ⟨used', bound', runs'⟩ := after
  refine ⟨used' + 1 + used, by omega, fun rounds => ?_⟩
  rw [Nat.add_assoc, ← Nat.add_assoc rounds, runs, runs']

theorem Leads.weaken {first second : Nat} {reading reached : Reading}
    (leads : Leads arrival first reading bytes reached rest) (less : first ≤ second) :
    Leads arrival second reading bytes reached rest := by
  obtain ⟨used, bound, runs⟩ := leads
  exact ⟨used, by omega, runs⟩

theorem leads_of_readStart {reached : Reading}
    (step : readStart arrival outer bytes = .ok (reached, rest)) :
    Leads arrival 1 (.expecting outer) bytes reached rest := by
  refine ⟨0, Nat.one_pos, fun rounds => ?_⟩
  rw [Reading.run, step]
  rfl

theorem leads_of_readAfterItem {items : List Value} {value : Value} {reached : Reading}
    (step : readAfterItem (value :: items) outer bytes = .ok (reached, rest)) :
    Leads arrival 1 (.finished (.array items :: outer) value) bytes reached rest := by
  refine ⟨0, Nat.one_pos, fun rounds => ?_⟩
  rw [Reading.run, step]
  rfl

theorem leads_of_readAfterMember {members : List (String × Value)} {key : String}
    {value : Value} {reached : Reading}
    (step : readAfterMember ((key, value) :: members) outer bytes = .ok (reached, rest)) :
    Leads arrival 1 (.finished (.object members key :: outer) value) bytes reached rest := by
  refine ⟨0, Nat.one_pos, fun rounds => ?_⟩
  rw [Reading.run, step]
  rfl

theorem leads_skipBlanks_iff {limit : Nat} {reached : Reading} :
    Leads arrival limit (.expecting outer) (skipBlanks bytes) reached rest ↔
      Leads arrival limit (.expecting outer) bytes reached rest := by
  have same : ∀ rounds, Reading.run arrival (rounds + 1) (.expecting outer) (skipBlanks bytes) =
      Reading.run arrival (rounds + 1) (.expecting outer) bytes := by
    intro rounds
    rw [Reading.run, Reading.run, readStart, readStart, skipBlanks_skipBlanks]
  unfold Leads
  simp only [← Nat.add_assoc, same]

theorem Leads.afterBlanks {limit : Nat} {blanks : List UInt8} {reached : Reading}
    (leads : Leads arrival limit (.expecting outer) bytes reached rest) (blank : Blank blanks) :
    Leads arrival limit (.expecting outer) (blanks ++ bytes) reached rest := by
  rw [← leads_skipBlanks_iff, skipBlanks_append blank, leads_skipBlanks_iff]
  exact leads

end Leads

/-! ## Texts that read as values -/

/-- Bytes whose first is neither a blank nor a closing bracket. -/
def StartsValue (bytes : List UInt8) : Prop :=
  ∃ first more, bytes = first :: more ∧ isBlankByte first = false ∧ Char.ofUInt8 first ≠ ']'

/-- Bytes that read as a value where `room` more arrays and objects may be opened. -/
structure Reads (room : Nat) (value : Value) (bytes : List UInt8) : Prop where
  starts : StartsValue bytes
  leads : ∀ arrival outer rest, outer.length + room ≤ depthLimit → EndsNumber rest →
    Leads arrival bytes.length (.expecting outer) (bytes ++ rest) (.finished outer value) rest

/-- Bytes that read as the items of an array, from after its opening bracket or a comma to its
closing bracket. -/
structure ReadsItems (room : Nat) (items : List Value) (bytes : List UInt8) : Prop where
  starts : StartsValue (skipBlanks bytes)
  leads : ∀ arrival outer read rest, outer.length + 1 + room ≤ depthLimit →
    Leads arrival bytes.length (.expecting (.array read :: outer)) (bytes ++ rest)
      (.finished outer (.array (read.reverse ++ items))) rest

/-- Bytes that read as the members of an object, from after its opening brace or a comma to its
closing brace. -/
structure ReadsMembers (room : Nat) (members : List (String × Value)) (bytes : List UInt8) :
    Prop where
  leads : ∀ arrival outer read rest, outer.length + 1 + room ≤ depthLimit →
    ∃ more reading following, skipBlanks (bytes ++ rest) = 34 :: more ∧
      readKey read outer more = .ok (reading, following) ∧
      Leads arrival bytes.length reading following
        (.finished outer (.object (read.reverse ++ members))) rest

theorem reads_of_readStart {room : Nat} {value : Value} {first : UInt8} {more : List UInt8}
    (solid : isBlankByte first = false) (notEnd : Char.ofUInt8 first ≠ ']')
    (step : ∀ arrival outer rest, outer.length + room ≤ depthLimit → EndsNumber rest →
      readStart arrival outer (first :: more ++ rest) = .ok (.finished outer value, rest)) :
    Reads room value (first :: more) where
  starts := ⟨first, more, rfl, solid, notEnd⟩
  leads arrival outer rest fits ends :=
    (leads_of_readStart (step arrival outer rest fits ends)).weaken (Nat.succ_pos _)

theorem reads_string (room : Nat) (text : String) :
    Reads room (.string text) (34 :: writtenAfterQuote text) := by
  refine reads_of_readStart rfl (by decide) fun arrival outer rest _ _ => ?_
  change (readString (writtenAfterQuote text ++ rest) >>= fun read =>
    Except.ok (Reading.finished outer (.string read.1), read.2)) = _
  rw [readString_written]
  rfl

theorem exists_digit {byte : UInt8} (digit : isDigitByte byte = true) :
    ∃ number, number < 10 ∧ byte = UInt8.ofNat (48 + number) := by
  have bounds : 48 ≤ byte.toNat ∧ byte.toNat ≤ 57 := Char.isDigit_iff_toNat.mp digit
  refine ⟨byte.toNat - 48, by omega, ?_⟩
  rw [show 48 + (byte.toNat - 48) = byte.toNat by omega, UInt8.ofNat_toNat]

theorem decimal_eq_cons (number : Nat) :
    ∃ digit more, digit < 10 ∧ decimal number = UInt8.ofNat (48 + digit) :: more := by
  obtain ⟨first, more, digits⟩ : ∃ first more, decimal number = first :: more := by
    rcases Nat.eq_zero_or_pos number with rfl | positive
    · exact ⟨48, [], rfl⟩
    · obtain ⟨first, more, digits, -⟩ := exists_cons_of_decimal positive
      exact ⟨first, more, digits⟩
  obtain ⟨digit, small, same⟩ :=
    exists_digit (isDigitByte_of_mem_decimal number first (digits ▸ .head _))
  exact ⟨digit, more, small, same ▸ digits⟩

theorem reads_natural (room : Nat) {number : Nat} (fits : number < UInt64.size) :
    Reads room (.number (.integer number)) (decimal number) := by
  obtain ⟨digit, more, small, digits⟩ := decimal_eq_cons number
  have start : ∀ arrival outer rest, readStart arrival outer (UInt8.ofNat (48 + digit) :: rest) =
      (readNumber arrival false (UInt8.ofNat (48 + digit) :: rest)).map fun read =>
        (.finished outer (.number read.1), read.2) := by
    intro arrival outer rest
    interval_cases digit <;> rfl
  rw [digits]
  refine reads_of_readStart ?_ ?_ fun arrival outer rest _ ends => ?_
  · interval_cases digit <;> rfl
  · interval_cases digit <;> decide
  · rw [List.cons_append, start, ← List.cons_append, ← digits,
      readNumber_decimal fits arrival ends]
    rfl

/-! ## Arrays -/

theorem reads_emptyArray (room : Nat) : Reads (room + 1) (.array []) [91, 93] := by
  refine reads_of_readStart rfl (by decide) fun arrival outer rest fits _ => ?_
  have open' : outer.length ≠ depthLimit := by omega
  change (if outer.length = depthLimit then _ else _) = _
  rw [if_neg open']
  rfl

theorem skipBlanks_append_of_starts {bytes : List UInt8} (starts : StartsValue (skipBlanks bytes))
    (rest : List UInt8) :
    ∃ first more, skipBlanks (bytes ++ rest) = first :: more ∧ Char.ofUInt8 first ≠ ']' := by
  obtain ⟨first, more, same, solid, notEnd⟩ := starts
  refine ⟨first, more ++ rest, ?_, notEnd⟩
  have split : bytes = bytes.takeWhile isBlankByte ++ first :: more := by
    rw [← same, skipBlanks, List.takeWhile_append_dropWhile]
  rw [split, List.append_assoc]
  exact skipBlanks_append_cons (fun _ member => List.mem_takeWhile_imp member) solid (more ++ rest)

theorem readStart_bracket {outer : List Container} {bytes more : List UInt8} {first : UInt8}
    (opened : outer.length ≠ depthLimit) (skipped : skipBlanks bytes = first :: more)
    (notEnd : Char.ofUInt8 first ≠ ']') (arrival : Arrival) :
    readStart arrival outer (91 :: bytes) =
      .ok (.expecting (.array [] :: outer), skipBlanks bytes) := by
  change (if outer.length = depthLimit then _ else _) = _
  rw [if_neg opened, skipped]
  exact if_neg notEnd

theorem Reads.array {room : Nat} {items : List Value} {bytes : List UInt8}
    (reads : ReadsItems room items bytes) : Reads (room + 1) (.array items) (91 :: bytes) where
  starts := ⟨91, bytes, rfl, rfl, by decide⟩
  leads arrival outer rest fits ends := by
    obtain ⟨first, more, skipped, notEnd⟩ := skipBlanks_append_of_starts reads.starts rest
    have opened : outer.length ≠ depthLimit := by omega
    have inside := reads.leads arrival outer [] rest (by omega)
    have leads := (leads_of_readStart (readStart_bracket opened skipped notEnd arrival)).trans
      (leads_skipBlanks_iff.mpr inside)
    exact leads.weaken (by simp [Nat.add_comm])

theorem readAfterItem_bracket {blanks : List UInt8} (blank : Blank blanks) (items : List Value)
    (outer : List Container) (rest : List UInt8) :
    readAfterItem items outer (blanks ++ 93 :: rest) =
      .ok (.finished outer (.array items.reverse), rest) := by
  rw [readAfterItem, skipBlanks_append_cons blank rfl]
  rfl

theorem readAfterItem_comma {blanks bytes more : List UInt8} {first : UInt8}
    (blank : Blank blanks) (skipped : skipBlanks bytes = first :: more)
    (notEnd : Char.ofUInt8 first ≠ ']') (items : List Value) (outer : List Container) :
    readAfterItem items outer (blanks ++ 44 :: bytes) =
      .ok (.expecting (.array items :: outer), skipBlanks bytes) := by
  have comma : Char.ofUInt8 44 = ',' := rfl
  rw [readAfterItem, skipBlanks_append_cons blank rfl]
  simp only [comma, skipped, if_neg notEnd]

theorem endsNumber_of_mark {byte : UInt8} (mark : byte = 93 ∨ byte = 125 ∨ byte = 44)
    (rest : List UInt8) : EndsNumber (byte :: rest) := by
  intro first same
  cases same
  rcases mark with rfl | rfl | rfl <;> decide

theorem StartsValue.afterBlanks {before bytes : List UInt8} (blank : Blank before)
    (starts : StartsValue bytes) (following : List UInt8) :
    StartsValue (skipBlanks (before ++ (bytes ++ following))) := by
  obtain ⟨first, more, rfl, solid, notEnd⟩ := starts
  rw [List.cons_append, skipBlanks_append_cons blank solid]
  exact ⟨first, more ++ following, rfl, solid, notEnd⟩

theorem ReadsItems.last {room : Nat} {value : Value} {before bytes after : List UInt8}
    (blank : Blank before) (reads : Reads room value bytes) (blank' : Blank after) :
    ReadsItems room [value] (before ++ (bytes ++ (after ++ [93]))) where
  starts := reads.starts.afterBlanks blank _
  leads arrival outer read rest fits := by
    have ends : EndsNumber (after ++ 93 :: rest) :=
      .append blank' (endsNumber_of_mark (.inl rfl) rest)
    have first := reads.leads arrival (.array read :: outer) (after ++ 93 :: rest) fits ends
    have finish := readAfterItem_bracket blank' (value :: read) outer rest
    have leads := (first.afterBlanks blank).trans (leads_of_readAfterItem finish)
    rw [List.reverse_cons] at leads
    simp only [List.append_assoc, List.singleton_append]
    refine leads.weaken ?_
    simp only [List.length_append, List.length_singleton]
    omega

theorem ReadsItems.more {room : Nat} {value : Value} {items : List Value}
    {before bytes after following : List UInt8} (blank : Blank before)
    (reads : Reads room value bytes) (blank' : Blank after)
    (others : ReadsItems room items following) :
    ReadsItems room (value :: items) (before ++ (bytes ++ (after ++ 44 :: following))) where
  starts := reads.starts.afterBlanks blank _
  leads arrival outer read rest fits := by
    obtain ⟨next, more, skipped, notEnd⟩ := skipBlanks_append_of_starts others.starts rest
    have ends : EndsNumber (after ++ 44 :: (following ++ rest)) :=
      .append blank' (endsNumber_of_mark (.inr (.inr rfl)) _)
    have first := reads.leads arrival (.array read :: outer) _ fits ends
    have comma := readAfterItem_comma blank' skipped notEnd (value :: read) outer
    have later := others.leads arrival outer (value :: read) rest fits
    have leads := ((first.afterBlanks blank).trans (leads_of_readAfterItem comma)).trans
      (leads_skipBlanks_iff.mpr later)
    rw [List.reverse_cons, List.append_assoc, List.singleton_append] at leads
    simp only [List.append_assoc, List.cons_append]
    refine leads.weaken ?_
    simp only [List.length_append, List.length_cons]
    omega

/-! ## Objects -/

theorem reads_emptyObject (room : Nat) : Reads (room + 1) (.object []) [123, 125] := by
  refine reads_of_readStart rfl (by decide) fun arrival outer rest fits _ => ?_
  have opened : outer.length ≠ depthLimit := by omega
  change (if outer.length = depthLimit then _ else _) = _
  rw [if_neg opened]
  rfl

theorem readKey_written (members : List (String × Value)) (outer : List Container) (key : String)
    (bytes : List UInt8) :
    readKey members outer (writtenAfterQuote key ++ 58 :: bytes) =
      .ok (.expecting (.object members key :: outer), bytes) := by
  unfold readKey
  rw [readString_written]
  rfl

theorem readStart_brace {outer : List Container} {bytes more following : List UInt8}
    {reading : Reading} (opened : outer.length ≠ depthLimit)
    (skipped : skipBlanks bytes = 34 :: more)
    (read : readKey [] outer more = .ok (reading, following)) (arrival : Arrival) :
    readStart arrival outer (123 :: bytes) = .ok (reading, following) := by
  change (if outer.length = depthLimit then _ else _) = _
  rw [if_neg opened, skipped]
  exact read

theorem Reads.object {room : Nat} {members : List (String × Value)} {bytes : List UInt8}
    (reads : ReadsMembers room members bytes) : Reads (room + 1) (.object members) (123 :: bytes) where
  starts := ⟨123, bytes, rfl, rfl, by decide⟩
  leads arrival outer rest fits ends := by
    obtain ⟨more, reading, following, skipped, read, inside⟩ :=
      reads.leads arrival outer [] rest (by omega)
    have opened : outer.length ≠ depthLimit := by omega
    have leads := (leads_of_readStart (readStart_brace opened skipped read arrival)).trans inside
    exact leads.weaken (by simp [Nat.add_comm])

theorem readAfterMember_brace {blanks : List UInt8} (blank : Blank blanks)
    (members : List (String × Value)) (outer : List Container) (rest : List UInt8) :
    readAfterMember members outer (blanks ++ 125 :: rest) =
      .ok (.finished outer (.object members.reverse), rest) := by
  rw [readAfterMember, skipBlanks_append_cons blank rfl]
  rfl

theorem readAfterMember_comma {blanks bytes more following : List UInt8} {reading : Reading}
    {members : List (String × Value)} {outer : List Container} (blank : Blank blanks)
    (skipped : skipBlanks bytes = 34 :: more)
    (read : readKey members outer more = .ok (reading, following)) :
    readAfterMember members outer (blanks ++ 44 :: bytes) = .ok (reading, following) := by
  have comma : Char.ofUInt8 44 = ',' := rfl
  have quote : Char.ofUInt8 34 = '"' := rfl
  rw [readAfterMember, skipBlanks_append_cons blank rfl]
  simp only [comma, skipped, quote]
  exact read

/-- The bytes of a member: its key, a colon and its value, with blanks before the key and before the
value. -/
def memberBytes (before : List UInt8) (key : String) (gap value : List UInt8) : List UInt8 :=
  before ++ 34 :: (writtenAfterQuote key ++ 58 :: (gap ++ value))

theorem skipBlanks_memberBytes {before : List UInt8} (blank : Blank before) (key : String)
    (gap value rest : List UInt8) :
    skipBlanks (memberBytes before key gap value ++ rest) =
      34 :: (writtenAfterQuote key ++ 58 :: (gap ++ (value ++ rest))) := by
  simp only [memberBytes, List.append_assoc, List.cons_append]
  exact skipBlanks_append_cons blank rfl _

theorem ReadsMembers.last {room : Nat} {key : String} {value : Value}
    {before gap bytes after : List UInt8} (blank : Blank before) (gapBlank : Blank gap)
    (reads : Reads room value bytes) (blank' : Blank after) :
    ReadsMembers room [(key, value)] (memberBytes before key gap bytes ++ (after ++ [125])) := by
  constructor
  intro arrival outer read rest fits
  have ends : EndsNumber (after ++ 125 :: rest) :=
    .append blank' (endsNumber_of_mark (.inr (.inl rfl)) rest)
  have first := reads.leads arrival (.object read key :: outer) (after ++ 125 :: rest) fits ends
  have finish := readAfterMember_brace blank' ((key, value) :: read) outer rest
  have leads := (first.afterBlanks gapBlank).trans (leads_of_readAfterMember finish)
  rw [List.reverse_cons] at leads
  refine ⟨_, _, _, ?_, readKey_written read outer key (gap ++ (bytes ++ (after ++ 125 :: rest))),
    leads.weaken ?_⟩
  · rw [List.append_assoc, skipBlanks_memberBytes blank, List.append_assoc, List.singleton_append]
  · simp only [memberBytes, List.length_append, List.length_cons]
    omega

theorem ReadsMembers.more {room : Nat} {key : String} {value : Value}
    {members : List (String × Value)} {before gap bytes after following : List UInt8}
    (blank : Blank before) (gapBlank : Blank gap) (reads : Reads room value bytes)
    (blank' : Blank after) (others : ReadsMembers room members following) :
    ReadsMembers room ((key, value) :: members)
      (memberBytes before key gap bytes ++ (after ++ 44 :: following)) := by
  constructor
  intro arrival outer read rest fits
  obtain ⟨more, reading, left, skipped, readNext, later⟩ :=
    others.leads arrival outer ((key, value) :: read) rest fits
  have ends : EndsNumber (after ++ 44 :: (following ++ rest)) :=
    .append blank' (endsNumber_of_mark (.inr (.inr rfl)) _)
  have first := reads.leads arrival (.object read key :: outer) _ fits ends
  have comma := readAfterMember_comma blank' skipped readNext
  have leads := ((first.afterBlanks gapBlank).trans (leads_of_readAfterMember comma)).trans later
  rw [List.reverse_cons, List.append_assoc, List.singleton_append] at leads
  refine ⟨_, _, _, ?_,
    readKey_written read outer key (gap ++ (bytes ++ (after ++ 44 :: (following ++ rest)))),
    leads.weaken ?_⟩
  · rw [List.append_assoc, skipBlanks_memberBytes blank, List.append_assoc, List.cons_append]
  · simp only [memberBytes, List.length_append, List.length_cons]
    omega

end StoryGrammar.Json
