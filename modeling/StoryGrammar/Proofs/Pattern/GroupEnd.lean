import StoryGrammar.Pattern.Reader

set_option autoImplicit false

/-!
# Reading before the end of a group

What reading the pieces of a pattern comes to on a text, it comes to as well where the end of a group
follows the text. That end is left over, unless a comment at the end of the text swallows it.
-/

namespace StoryGrammar.Pattern

/-- The end of a group and of the text, which follows a text that is read inside the group. -/
def groupEnd : List Char :=
  [')', '$']

/-- What is left of a text and what is left of the text with the end of a group after it, unless a
comment has swallowed that end. -/
inductive Leaves : List Char → List Char → Prop where
  | ahead {rest : List Char} : Leaves rest (rest ++ groupEnd)
  | swallowed : Leaves [] []

theorem Leaves.of_cons {character : Char} {rest longer : List Char}
    (leaves : Leaves (character :: rest) longer) :
    ∃ rest', longer = character :: rest' ∧ Leaves rest rest' := by
  cases leaves with
  | ahead => exact ⟨rest ++ groupEnd, rfl, .ahead⟩

theorem Leaves.eq_nil {text : List Char} (leaves : Leaves text []) : text = [] := by
  cases text with
  | nil => rfl
  | cons character rest =>
      obtain ⟨_, same, -⟩ := leaves.of_cons
      cases same

/-- Both begin with a character that does not end a group, or neither does. -/
theorem Leaves.begins {text longer : List Char} (leaves : Leaves text longer) (character : Char)
    (inner : character ≠ ')') :
    (∃ rest rest', text = character :: rest ∧ longer = character :: rest' ∧ Leaves rest rest') ∨
      (∀ rest, text ≠ character :: rest) ∧ ∀ rest, longer ≠ character :: rest := by
  cases text with
  | nil =>
      refine .inr ⟨fun rest => nofun, fun rest same => ?_⟩
      cases leaves with
      | ahead => exact inner (List.cons.inj same).1.symm
      | swallowed => cases same
  | cons first rest =>
      obtain ⟨rest', rfl, after⟩ := leaves.of_cons
      by_cases found : first = character
      · exact .inl ⟨rest, rest', by rw [found], by rw [found], after⟩
      · exact .inr ⟨fun _ same => found (List.cons.inj same).1,
          fun _ same => found (List.cons.inj same).1⟩

theorem Leaves.begins_two {text longer : List Char} (leaves : Leaves text longer)
    (first second : Char) (inner : first ≠ ')' ∧ second ≠ ')') :
    (∃ rest rest', text = first :: second :: rest ∧ longer = first :: second :: rest' ∧
        Leaves rest rest') ∨
      (∀ rest, text ≠ first :: second :: rest) ∧ ∀ rest, longer ≠ first :: second :: rest := by
  rcases leaves.begins first inner.1 with ⟨_, _, rfl, rfl, next⟩ | ⟨plain, plain'⟩
  · rcases next.begins second inner.2 with ⟨rest, rest', rfl, rfl, after⟩ | ⟨plain, plain'⟩
    · exact .inl ⟨rest, rest', rfl, rfl, after⟩
    · exact .inr ⟨fun left same => plain left (List.cons.inj same).2,
        fun left same => plain' left (List.cons.inj same).2⟩
  · exact .inr ⟨fun left => plain _, fun left => plain' _⟩

theorem Leaves.of_cons_longer {character : Char} {text rest' : List Char}
    (leaves : Leaves text (character :: rest')) (inner : character ≠ ')') :
    ∃ rest, text = character :: rest := by
  rcases leaves.begins character inner with ⟨rest, _, same, -, -⟩ | ⟨-, plain⟩
  · exact ⟨rest, same⟩
  · exact absurd rfl (plain rest')

/-- Whatever succeeds on a text succeeds alike on the text with the end of a group after it. -/
def Lifts {α : Type} (read : List Char → Option (α × List Char)) : Prop :=
  ∀ ⦃text longer : List Char⦄ ⦃value : α⦄ ⦃rest : List Char⦄, Leaves text longer →
    read text = some (value, rest) → ∃ rest', read longer = some (value, rest') ∧ Leaves rest rest'

/-! ## Insignificant characters -/

theorem leaves_dropInsignificant (inComment : Bool) (text : List Char) :
    Leaves (dropInsignificant inComment text) (dropInsignificant inComment (text ++ groupEnd)) := by
  induction text generalizing inComment with
  | nil =>
      cases inComment with
      | false => exact @Leaves.ahead []
      | true => exact .swallowed
  | cons character text ih =>
      simp only [dropInsignificant, List.cons_append]
      split
      · exact ih _
      · split
        · exact ih _
        · split
          · exact ih _
          · exact .ahead

theorem Leaves.skip {text longer : List Char} (leaves : Leaves text longer) (flags : Flags) :
    Leaves (skip flags text) (skip flags longer) := by
  unfold Pattern.skip
  split
  · cases leaves with
    | ahead => exact leaves_dropInsignificant false text
    | swallowed => exact .swallowed
  · exact leaves

/-! ## Escapes -/

theorem readHexadecimal_lifts (flags : Flags) (count value : Nat) :
    Lifts (readHexadecimal flags count value) := by
  induction count generalizing value with
  | zero =>
      intro text longer code rest leaves read
      cases read
      exact ⟨_, rfl, leaves.skip flags⟩
  | succ count ih =>
      intro text longer code rest leaves read
      have skipped := leaves.skip flags
      rw [readHexadecimal] at read ⊢
      cases left : skip flags text with
      | nil => rw [left] at read; cases read
      | cons character more =>
          rw [left] at read skipped
          obtain ⟨more', same, leaves⟩ := skipped.of_cons
          rw [same]
          simp only at read ⊢
          cases known : hexadecimalDigit? character with
          | none => rw [known] at read; cases read
          | some digit =>
              rw [known] at read
              exact ih _ leaves read

theorem readCategory_lifts (flags : Flags) (negated : Bool) :
    Lifts (readCategory flags negated) := by
  intro text longer value rest leaves read
  have skipped := leaves.skip flags
  rw [readCategory] at read ⊢
  cases left : skip flags text with
  | nil => rw [left] at read; cases read
  | cons letter more =>
      rw [left] at read skipped
      obtain ⟨more', same, leaves⟩ := skipped.of_cons
      rw [same]
      obtain ⟨category, known, read⟩ := Option.bind_eq_some_iff.mp read
      simp only [known]
      cases unicode : flags.unicode with
      | false => rw [unicode] at read; cases read
      | true =>
          rw [unicode] at read
          cases read
          exact ⟨_, rfl, leaves.skip flags⟩

theorem readCode_lifts (flags : Flags) (count : Nat) : Lifts (readCode flags count) := by
  intro text longer value rest leaves read
  obtain ⟨⟨code, more⟩, digits, read⟩ := Option.bind_eq_some_iff.mp read
  obtain ⟨more', digits, leaves⟩ := readHexadecimal_lifts flags count 0 leaves digits
  rw [readCode, digits]
  simp only [Option.bind_eq_bind, Option.bind_some] at read ⊢
  split at read
  · cases read
  · rename_i fits
    obtain ⟨character, known, read⟩ := Option.bind_eq_some_iff.mp read
    cases read
    exact ⟨more', by rw [if_neg fits, known]; rfl, leaves⟩

theorem readEscape_plain (flags : Flags) {letter : Char} (rest : List Char)
    (plain : letter ∉ ['x', 'u', 'U', 'p', 'P']) :
    readEscape flags (letter :: rest) =
      if ['d', 's', 'w', 'D', 'S', 'W'].contains letter then
        (escapedSet? flags letter).map fun set => (.set set, rest)
      else (escapedPrimitive? flags letter).map fun primitive => (primitive, rest) := by
  unfold readEscape
  split
  all_goals first | rfl | simp_all

theorem lifts_map {α β : Type} (value? : Option α) (function : α → β) :
    Lifts fun text => value?.map fun value => (function value, text) := by
  intro text longer result rest leaves read
  obtain ⟨value, known, same⟩ := Option.map_eq_some_iff.mp read
  cases same
  exact ⟨longer, by rw [known]; rfl, leaves⟩

theorem readEscape_lifts (flags : Flags) : Lifts (readEscape flags) := by
  intro text longer value rest leaves read
  cases text with
  | nil => cases read
  | cons letter more =>
      obtain ⟨more', rfl, after⟩ := leaves.of_cons
      by_cases plain : letter ∈ ['x', 'u', 'U', 'p', 'P']
      · simp only [List.mem_cons, List.not_mem_nil, or_false] at plain
        rcases plain with rfl | rfl | rfl | rfl | rfl
        · exact readCode_lifts flags 2 after read
        · exact readCode_lifts flags 4 after read
        · exact readCode_lifts flags 8 after read
        · exact readCategory_lifts flags false after read
        · exact readCategory_lifts flags true after read
      · rw [readEscape_plain flags more plain] at read
        rw [readEscape_plain flags more' plain]
        split at read
        · rw [if_pos ‹_›]
          exact lifts_map _ _ after read
        · rw [if_neg ‹_›]
          exact lifts_map _ _ after read

/-! ## Classes -/

theorem readClassStart_plain {flags : Flags} {text : List Char}
    (plain : ∀ rest, skip flags text ≠ '^' :: rest) :
    readClassStart flags text = (⟨false, true, none, []⟩, skip flags text) := by
  unfold readClassStart
  split
  · exact absurd ‹_› (plain _)
  · rfl

theorem leaves_readClassStart {text longer : List Char} (leaves : Leaves text longer)
    (flags : Flags) :
    (readClassStart flags longer).1 = (readClassStart flags text).1 ∧
      Leaves (readClassStart flags text).2 (readClassStart flags longer).2 := by
  rcases (leaves.skip flags).begins '^' (by decide) with
    ⟨rest, rest', left, left', after⟩ | ⟨plain, plain'⟩
  · rw [readClassStart, readClassStart, left, left']
    exact ⟨rfl, after⟩
  · rw [readClassStart_plain plain, readClassStart_plain plain']
    exact ⟨rfl, leaves.skip flags⟩

/-- A character that does not end the group is looked for up to the same place. -/
theorem Leaves.search {text longer : List Char} (leaves : Leaves text longer) (sought : Char)
    (within : sought ∉ groupEnd) :
    (longer.dropWhile (· != sought) = [] ∧ text.dropWhile (· != sought) = []) ∨
      longer.takeWhile (· != sought) = text.takeWhile (· != sought) ∧
        Leaves (text.dropWhile (· != sought)) (longer.dropWhile (· != sought)) := by
  cases leaves with
  | swallowed => exact .inl ⟨rfl, rfl⟩
  | ahead =>
      have missing : groupEnd.dropWhile (· != sought) = [] := by
        simp only [groupEnd, List.mem_cons, List.not_mem_nil, or_false, not_or] at within
        simp [groupEnd, Ne.symm within.1, Ne.symm within.2]
      have split := List.takeWhile_append_dropWhile (p := (· != sought)) (l := text)
      rw [List.dropWhile_append, List.takeWhile_append, missing]
      cases found : text.dropWhile (· != sought) with
      | nil => exact .inl ⟨rfl, rfl⟩
      | cons first rest =>
          rw [found] at split
          refine .inr ⟨if_neg fun whole => ?_, .ahead⟩
          have lengths := congrArg List.length split
          rw [List.length_append, whole] at lengths
          simp at lengths

theorem Leaves.dropBlanks {text longer : List Char} (leaves : Leaves text longer) :
    Leaves (text.dropWhile Unicode.isBlank) (longer.dropWhile Unicode.isBlank) := by
  cases leaves with
  | swallowed => exact .swallowed
  | ahead =>
      rw [List.dropWhile_append]
      split
      · rename_i blank
        rw [List.isEmpty_iff.mp blank]
        exact @Leaves.ahead []
      · exact .ahead

theorem Leaves.head? {text longer : List Char} (leaves : Leaves text longer) :
    longer.head? = text.head? ∨ text.head? = none ∧ longer.head? = some ')' := by
  cases leaves with
  | swallowed => exact .inl rfl
  | ahead =>
      cases text with
      | nil => exact .inr ⟨rfl, rfl⟩
      | cons => exact .inl rfl

theorem Leaves.characterAhead {text longer : List Char} (leaves : Leaves text longer)
    (flags : Flags) :
    characterAhead flags longer = characterAhead flags text ∨
      characterAhead flags text = none ∧ characterAhead flags longer = some ')' := by
  unfold Pattern.characterAhead
  split
  · rcases leaves.dropBlanks.begins '#' (by decide) with
      ⟨rest, rest', left, left', after⟩ | ⟨plain, plain'⟩
    · rw [left, left']
      exact after.dropBlanks.head?
    · split
      · exact absurd ‹_› (plain' _)
      · exact leaves.dropBlanks.head?
  · exact leaves.head?

/-- Whether what follows the colon of a named class is negated, and what follows then. -/
def negation (text : List Char) : Bool × List Char :=
  match text with
  | '^' :: rest => (true, rest)
  | _ => (false, text)

theorem negation_plain {text : List Char} (plain : ∀ rest, text ≠ '^' :: rest) :
    negation text = (false, text) := by
  unfold negation
  split
  · exact absurd rfl (plain _)
  · rfl

theorem leaves_negation {text longer : List Char} (leaves : Leaves text longer) :
    (negation longer).1 = (negation text).1 ∧ Leaves (negation text).2 (negation longer).2 := by
  rcases leaves.begins '^' (by decide) with
    ⟨rest, rest', rfl, rfl, after⟩ | ⟨plain, plain'⟩
  · exact ⟨rfl, after⟩
  · rw [negation_plain plain, negation_plain plain']
    exact ⟨rfl, leaves⟩

/-- What follows the end of a named class, if a text begins with one. -/
def afterClassName? : List Char → Option (List Char)
  | ':' :: ']' :: rest => some rest
  | _ => none

theorem afterClassName?_plain {text : List Char} (plain : ∀ rest, text ≠ ':' :: ']' :: rest) :
    afterClassName? text = none := by
  unfold afterClassName?
  split
  · exact absurd rfl (plain _)
  · rfl

theorem readNamedClass_cons (flags : Flags) (rest : List Char) :
    readNamedClass flags (':' :: rest) =
      (afterClassName? ((negation rest).2.dropWhile (· != ':'))).bind fun left => do
        let ranges ← namedRanges? (String.ofList ((negation rest).2.takeWhile (· != ':')))
        return (if (negation rest).1 then negate? flags (fold flags (.ofRanges ranges))
          else some (fold flags (.ofRanges ranges)), left) := by
  have unfolded : readNamedClass flags (':' :: rest) =
      match (negation rest).2.dropWhile (· != ':') with
      | ':' :: ']' :: left => do
          let ranges ← namedRanges? (String.ofList ((negation rest).2.takeWhile (· != ':')))
          return (if (negation rest).1 then negate? flags (fold flags (.ofRanges ranges))
            else some (fold flags (.ofRanges ranges)), left)
      | _ => none := rfl
  rw [unfolded]
  unfold afterClassName?
  split <;> rfl

theorem readNamedClass_plain (flags : Flags) {text : List Char}
    (plain : ∀ rest, text ≠ ':' :: rest) : readNamedClass flags text = none := by
  unfold readNamedClass
  split
  · exact absurd rfl (plain _)
  · rfl

/-- The outcomes of reading a text with and without the end of a group after it: both fail, or both
give the same. -/
inductive Alike {α : Type} : Option (α × List Char) → Option (α × List Char) → Prop where
  | none : Alike none none
  | some {value : α} {rest rest' : List Char} :
      Leaves rest rest' → Alike (some (value, rest)) (some (value, rest'))

theorem leaves_afterClassName? {text longer : List Char} (leaves : Leaves text longer) :
    afterClassName? text = none ∧ afterClassName? longer = none ∨
      ∃ rest rest', afterClassName? text = some rest ∧ afterClassName? longer = some rest' ∧
        Leaves rest rest' := by
  rcases leaves.begins_two ':' ']' (by decide) with
    ⟨rest, rest', rfl, rfl, after⟩ | ⟨plain, plain'⟩
  · exact .inr ⟨rest, rest', rfl, rfl, after⟩
  · exact .inl ⟨afterClassName?_plain plain, afterClassName?_plain plain'⟩

theorem readNamedClass_alike {text longer : List Char} (leaves : Leaves text longer)
    (flags : Flags) : Alike (readNamedClass flags text) (readNamedClass flags longer) := by
  rcases leaves.begins ':' (by decide) with
    ⟨rest, rest', rfl, rfl, after⟩ | ⟨plain, plain'⟩
  · obtain ⟨negated, after⟩ := leaves_negation after
    rw [readNamedClass_cons, readNamedClass_cons, negated]
    rcases after.search ':' (by decide) with ⟨left', left⟩ | ⟨name, after⟩
    · rw [left, left']
      exact .none
    · rw [name]
      rcases leaves_afterClassName? after with ⟨left, left'⟩ | ⟨_, _, left, left', after⟩
      · rw [left, left']
        exact .none
      · rw [left, left', Option.bind_some, Option.bind_some]
        cases namedRanges? (String.ofList ((negation rest).2.takeWhile (· != ':'))) with
        | none => exact .none
        | some ranges => exact .some after
  · rw [readNamedClass_plain flags plain, readNamedClass_plain flags plain']
    exact .none

theorem readClassPrimitive_plain (flags : Flags) {character : Char} (rest : List Char)
    (plain : character ≠ '\\') :
    readClassPrimitive flags (character :: rest) = some (.literal character, rest) := by
  unfold readClassPrimitive
  split
  · cases ‹character :: rest = []›
  · rename_i same
    exact absurd (List.cons.inj same).1 plain
  · rename_i same
    cases same
    rfl

theorem readClassPrimitive_lifts (flags : Flags) : Lifts (readClassPrimitive flags) := by
  intro text longer value rest leaves read
  cases text with
  | nil => cases read
  | cons character more =>
      obtain ⟨more', rfl, after⟩ := leaves.of_cons
      by_cases escaped : character = '\\'
      · subst escaped
        exact readEscape_lifts flags after read
      · rw [readClassPrimitive_plain flags more escaped] at read
        cases read
        exact ⟨more', readClassPrimitive_plain flags more' escaped, after⟩

/-- A hyphen makes a range with and without the end of a group after the text, or in neither. -/
theorem Leaves.standsAlone_iff {text longer : List Char} (leaves : Leaves text longer)
    (flags : Flags) :
    (Pattern.characterAhead flags longer = some ']' ∨
        Pattern.characterAhead flags longer = some '-') ↔
      (Pattern.characterAhead flags text = some ']' ∨
        Pattern.characterAhead flags text = some '-') := by
  rcases leaves.characterAhead flags with same | ⟨ended, closed⟩
  · rw [same]
  · rw [ended, closed]
    decide

theorem readClassMember_lifts (flags : Flags) : Lifts (readClassMember flags) := by
  intro text longer value rest leaves read
  obtain ⟨⟨primitive, more⟩, first, read⟩ := Option.bind_eq_some_iff.mp read
  obtain ⟨more', first', after⟩ := readClassPrimitive_lifts flags leaves first
  rw [readClassMember, first']
  simp only [Option.bind_eq_bind, Option.bind_some] at read ⊢
  have skipped := after.skip flags
  rcases skipped.begins '-' (by decide) with
    ⟨range, range', left, left', inner⟩ | ⟨plain, plain'⟩
  · rw [left] at read
    rw [left']
    simp only at read ⊢
    split at read
    · rename_i alone
      rw [if_pos ((inner.standsAlone_iff flags).mpr alone)]
      obtain ⟨set, known, same⟩ := Option.bind_eq_some_iff.mp read
      cases same
      rw [left, left'] at skipped
      exact ⟨'-' :: range', by rw [known]; rfl, skipped⟩
    · rename_i ranging
      rw [if_neg (mt (inner.standsAlone_iff flags).mp ranging)]
      obtain ⟨⟨primitive', left⟩, second, read⟩ := Option.bind_eq_some_iff.mp read
      obtain ⟨left', second', after⟩ := readClassPrimitive_lifts flags (inner.skip flags) second
      obtain ⟨lowest, known, read⟩ := Option.bind_eq_some_iff.mp read
      obtain ⟨highest, known', read⟩ := Option.bind_eq_some_iff.mp read
      rw [second', Option.bind_some, known, Option.bind_some, known', Option.bind_some]
      split at read
      · cases read
      · cases read
        exact ⟨left', if_neg ‹_›, after⟩
  · split at read
    · cases read
    · exact absurd ‹_› (plain _)
    · rename_i others unended _
      obtain ⟨set, known, same⟩ := Option.bind_eq_some_iff.mp read
      cases same
      split
      · rename_i ended
        exact absurd (ended ▸ skipped).eq_nil unended
      · exact absurd ‹_› (plain' _)
      · exact ⟨_, by rw [known]; rfl, skipped⟩

/-- A step of reading a class that leaves something else where the end of a group follows. -/
inductive ClassStep.Lifted : ClassStep → ClassStep → Prop where
  | more {opened : OpenClass} {rest rest' : List Char} :
      Leaves rest rest' → Lifted (.more opened rest) (.more opened rest')
  | enter {inner : OpenClass} {rest rest' : List Char} :
      Leaves rest rest' → Lifted (.enter inner rest) (.enter inner rest')
  | finish {part : ClassPart} {rest rest' : List Char} :
      Leaves rest rest' → Lifted (.finish part rest) (.finish part rest')

theorem OpenClass.next?_lifted {flags : Flags} {opened : OpenClass} {text longer : List Char}
    {step : ClassStep} (leaves : Leaves text longer) (next : opened.next? flags text = some step) :
    ∃ step', opened.next? flags longer = some step' ∧ step.Lifted step' := by
  cases text with
  | nil => cases next
  | cons character rest =>
      obtain ⟨rest', rfl, after⟩ := leaves.of_cons
      unfold OpenClass.next? at next ⊢
      simp only at next ⊢
      cases atStart : opened.addAtStart? character with
      | some opened =>
          rw [atStart] at next
          cases next
          exact ⟨_, rfl, .more after⟩
      | none =>
          rw [atStart] at next
          simp only at next ⊢
          split at next
          · have alike := readNamedClass_alike after flags
            generalize readNamedClass flags rest = named at next alike
            generalize readNamedClass flags rest' = named' at alike
            cases alike with
            | none =>
                cases next
                obtain ⟨same, started⟩ := leaves_readClassStart after flags
                exact ⟨_, rfl, same ▸ .enter started⟩
            | some after =>
                obtain ⟨set, known, same⟩ := Option.map_eq_some_iff.mp next
                cases same
                exact ⟨_, by rw [known]; rfl, .more after⟩
          · obtain ⟨part, known, same⟩ := Option.map_eq_some_iff.mp next
            cases same
            exact ⟨_, by rw [known]; rfl, .finish after⟩
          · obtain ⟨_, rfl, inner⟩ := after.of_cons
            cases next
            exact ⟨_, rfl, .more inner⟩
          · obtain ⟨_, rfl, inner⟩ := after.of_cons
            cases next
            exact ⟨_, rfl, .more inner⟩
          · obtain ⟨_, rfl, inner⟩ := after.of_cons
            cases next
            exact ⟨_, rfl, .more inner⟩
          · rename_i ordinary ordinary' both both' both''
            obtain ⟨⟨set, left⟩, member, same⟩ := Option.map_eq_some_iff.mp next
            obtain ⟨left', member', after'⟩ := readClassMember_lifts flags leaves member
            cases same
            split
            · exact absurd rfl ordinary
            · exact absurd rfl ordinary'
            · obtain ⟨rest, same⟩ := after.of_cons_longer (by decide)
              exact absurd same (both rest rfl)
            · obtain ⟨rest, same⟩ := after.of_cons_longer (by decide)
              exact absurd same (both' rest rfl)
            · obtain ⟨rest, same⟩ := after.of_cons_longer (by decide)
              exact absurd same (both'' rest rfl)
            · exact ⟨_, by rw [member']; rfl, .more after'⟩

theorem Leaves.length_le {text longer : List Char} (leaves : Leaves text longer) :
    text.length ≤ longer.length := by
  cases leaves with
  | ahead => simp
  | swallowed => exact Nat.le_refl _

/-- A class is closed in as many rounds where the end of a group follows, so more do no harm. -/
theorem readClass_lifts (flags : Flags) {rounds rounds' : Nat} (enough : rounds ≤ rounds')
    {opened : OpenClass} {outer : List OpenClass} {text longer rest : List Char}
    {part : ClassPart} (leaves : Leaves text longer)
    (read : readClass flags rounds opened outer text = some (part, rest)) :
    ∃ rest', readClass flags rounds' opened outer longer = some (part, rest') ∧
      Leaves rest rest' := by
  induction rounds generalizing rounds' opened outer text longer with
  | zero => cases read
  | succ rounds ih =>
      obtain ⟨rounds', rfl⟩ := Nat.exists_eq_add_of_le' enough
      rw [readClass] at read
      rw [← Nat.add_assoc, readClass]
      have enough : rounds ≤ rounds' + rounds := Nat.le_add_left _ _
      cases next : opened.next? flags (skip flags text) with
      | none => rw [next] at read; cases read
      | some step =>
          obtain ⟨step', next', lifted⟩ := OpenClass.next?_lifted (leaves.skip flags) next
          rw [next] at read
          rw [next']
          cases lifted with
          | more after => exact ih enough after read
          | enter after => exact ih enough after read
          | finish after =>
              cases outer with
              | nil =>
                  cases read
                  exact ⟨_, rfl, after⟩
              | cons parent outer => exact ih enough after read

end StoryGrammar.Pattern
