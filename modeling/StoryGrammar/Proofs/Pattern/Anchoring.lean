import StoryGrammar.Proofs.Pattern.GroupEnd
import StoryGrammar.Template.Basic

set_option autoImplicit false

/-!
# Patterns read inside a group

A text that spells a pattern by itself spells the same one inside a group, if the group is closed at
all. So the pattern of a filter, read between the two ends of a text, is the pattern that it spells
by itself.
-/

namespace StoryGrammar.Pattern

/-! ## Groups -/

theorem readFlags_append {flags flags' : Flags} {seen seen' : List Char} {text rest : List Char}
    {mark : Char} (more : List Char)
    (read : readFlags flags seen text = some (flags', seen', mark, rest)) :
    readFlags flags seen (text ++ more) = some (flags', seen', mark, rest ++ more) := by
  induction text generalizing flags seen with
  | nil => cases read
  | cons character text ih =>
      rw [List.cons_append, readFlags] at *
      split at read
      · rw [if_pos ‹_›]
        split at read
        · cases read
        · cases read
          exact if_neg ‹_›
      · rw [if_neg ‹_›]
        split at read
        · cases read
        · rw [if_neg ‹_›]
          split at read
          · rw [if_pos ‹_›]
            exact ih read
          · rw [if_neg ‹_›]
            cases set : flags.set? character (!seen.contains '-') with
            | none => rw [set] at read; cases read
            | some flags =>
                rw [set] at read
                exact ih read

theorem readFlags_lifts (flags : Flags) (seen : List Char) {flags' : Flags} {seen' : List Char}
    {text longer rest : List Char} {mark : Char} (leaves : Leaves text longer)
    (read : readFlags flags seen text = some (flags', seen', mark, rest)) :
    ∃ rest', readFlags flags seen longer = some (flags', seen', mark, rest') ∧
      Leaves rest rest' := by
  cases leaves with
  | ahead => exact ⟨_, readFlags_append groupEnd read, .ahead⟩
  | swallowed => cases read

theorem readName_lifts : Lifts readName := by
  intro text longer name rest leaves read
  unfold readName at read ⊢
  simp only at read ⊢
  split at read
  · rename_i first others left begun ended
    rcases leaves.search '>' (by decide) with ⟨-, none⟩ | ⟨same, after⟩
    · rw [none] at ended
      cases ended
    · rw [ended] at after
      obtain ⟨left', ended', after⟩ := after.of_cons
      rw [same, begun, ended']
      simp only at read ⊢
      rw [begun] at read
      split at read
      · cases read
        exact ⟨left', if_pos ‹_›, after⟩
      · cases read
  · cases read

theorem readGroupName_lifts (flags : Flags) :
    Lifts fun text => (readName text).map fun (name, rest) =>
      (GroupStart.group flags (some name), rest) := by
  intro text longer value rest leaves read
  obtain ⟨⟨name, left⟩, named, same⟩ := Option.map_eq_some_iff.mp read
  cases same
  obtain ⟨left', named', after⟩ := readName_lifts leaves named
  exact ⟨left', by simp only [named', Option.map_some], after⟩

theorem readGroupStart_unnamed {flags : Flags} {text setting : List Char}
    (left : skip flags text = '?' :: setting) (unnamed : ∀ rest, setting ≠ '<' :: rest)
    (unnamed' : ∀ rest, setting ≠ 'P' :: '<' :: rest) :
    readGroupStart flags text =
      (readFlags flags [] setting).bind fun (inner, seen, mark, rest) =>
        if mark = ':' then some (.group inner none, rest)
        else if seen.isEmpty then none
        else some (.directive inner, rest) := by
  unfold readGroupStart
  rw [left]
  split
  · exact absurd (List.cons.inj ‹_›).2 (unnamed' _)
  · exact absurd (List.cons.inj ‹_›).2 (unnamed _)
  · rename_i same
    cases same
    cases readFlags flags [] setting <;> rfl
  · exact absurd rfl (‹∀ rest, '?' :: setting = '?' :: rest → False› setting)

theorem readGroupStart_plain {flags : Flags} {text : List Char}
    (plain : ∀ rest, skip flags text ≠ '?' :: rest) :
    readGroupStart flags text = some (.group flags none, skip flags text) := by
  unfold readGroupStart
  split
  · exact absurd ‹_› (plain _)
  · exact absurd ‹_› (plain _)
  · exact absurd ‹_› (plain _)
  · rfl

theorem readGroupStart_lifts (flags : Flags) : Lifts (readGroupStart flags) := by
  intro text longer value rest leaves read
  have skipped := leaves.skip flags
  rcases skipped.begins '?' (by decide) with
    ⟨setting, setting', left, left', inner⟩ | ⟨plain, plain'⟩
  · rcases inner.begins '<' (by decide) with
      ⟨named, named', rfl, rfl, after⟩ | ⟨unnamed, unnamed'⟩
    · rw [readGroupStart, left] at read
      rw [readGroupStart, left']
      exact readGroupName_lifts flags after read
    · rcases inner.begins_two 'P' '<' (by decide) with
        ⟨named, named', rfl, rfl, after⟩ | ⟨unnamed₂, unnamed₂'⟩
      · rw [readGroupStart, left] at read
        rw [readGroupStart, left']
        exact readGroupName_lifts flags after read
      · rw [readGroupStart_unnamed left unnamed unnamed₂] at read
        rw [readGroupStart_unnamed left' unnamed' unnamed₂']
        obtain ⟨⟨flags', seen, mark, after⟩, outcome, read⟩ := Option.bind_eq_some_iff.mp read
        obtain ⟨after', outcome', left⟩ := readFlags_lifts flags [] inner outcome
        simp only [outcome', Option.bind_some] at read ⊢
        split at read
        · rw [if_pos ‹_›]
          cases read
          exact ⟨after', rfl, left⟩
        · rw [if_neg ‹_›]
          split at read
          · cases read
          · rw [if_neg ‹_›]
            cases read
            exact ⟨after', rfl, left⟩
  · rw [readGroupStart_plain plain] at read
    cases read
    exact ⟨_, readGroupStart_plain plain', skipped⟩

/-! ## The whole reading -/

/-- The reading within further groups around those that are open. -/
def Reading.within (around : List (Level × Flags)) (reading : Reading) : Reading :=
  { reading with outer := reading.outer ++ around }

theorem Reading.openGroup?_within {reading opened : Reading} {start : GroupStart}
    (around : List (Level × Flags)) (accepted : reading.openGroup? start = some opened) :
    (reading.within around).openGroup? start = some (opened.within around) := by
  cases start with
  | directive flags =>
      cases accepted
      rfl
  | group flags name =>
      cases name with
      | none =>
          cases accepted
          rfl
      | some name =>
          unfold Reading.openGroup? at accepted ⊢
          simp only at accepted ⊢
          split at accepted
          · cases accepted
          · cases accepted
            exact if_neg ‹_›

theorem Reading.closeGroup?_within {reading closed : Reading} (around : List (Level × Flags))
    (accepted : reading.closeGroup? = some closed) :
    (reading.within around).closeGroup? = some (closed.within around) := by
  obtain ⟨flags, names, level, outer⟩ := reading
  cases outer with
  | nil => cases accepted
  | cons parent outer =>
      cases accepted
      rfl

theorem Reading.flags_within (reading : Reading) (around : List (Level × Flags)) :
    (reading.within around).flags = reading.flags :=
  rfl

theorem Reading.next?_class (reading : Reading) (rest : List Char) :
    reading.next? ('[' :: rest) =
      (readClass reading.flags ((readClassStart reading.flags rest).2.length + 1)
        (readClassStart reading.flags rest).1 [] (readClassStart reading.flags rest).2).map
        fun (part, rest) => (reading.add (.oneOf part.set) part.height, rest) := by
  rw [Option.map_eq_bind]
  rfl

/-- What follows a repetition, after the mark that asks for short matches. -/
def afterShortMark (text : List Char) : List Char :=
  match text with
  | '?' :: rest => rest
  | _ => text

theorem leaves_afterShortMark {text longer : List Char} (leaves : Leaves text longer) :
    Leaves (afterShortMark text) (afterShortMark longer) := by
  rcases leaves.begins '?' (by decide) with ⟨rest, rest', rfl, rfl, after⟩ | ⟨plain, plain'⟩
  · exact after
  · unfold afterShortMark
    split
    · exact absurd rfl (plain _)
    · exact leaves

/-- Characters that neither stand for themselves nor repeat what is before them. -/
def structural : List Char :=
  ['(', ')', '|', '[', '{', '.', '^', '$', '\\']

theorem Reading.next?_plain (reading : Reading) {character : Char} (rest : List Char)
    (plain : character ∉ structural) :
    reading.next? (character :: rest) =
      match repeated? character with
      | some repeated => (reading.level.repeatLast? repeated).map fun level =>
          ({ reading with level }, afterShortMark rest)
      | none =>
          some (reading.add (partOfPrimitive reading.flags (.literal character)) 0, rest) := by
  unfold Reading.next?
  split
  case h_1 same => cases same
  case h_11 same =>
    cases same
    cases repeated? character with
    | none => rfl
    | some repeated =>
        simp only
        cases reading.level.repeatLast? repeated <;> rfl
  all_goals
    rename_i same
    exact absurd (by rw [(List.cons.inj same).1]; decide) plain

theorem Reading.next?_within {reading after : Reading} {text longer rest : List Char}
    (around : List (Level × Flags)) (leaves : Leaves text longer)
    (next : reading.next? text = some (after, rest)) :
    ∃ rest', (reading.within around).next? longer = some (after.within around, rest') ∧
      Leaves rest rest' := by
  cases text with
  | nil => cases next
  | cons character more =>
      obtain ⟨more', rfl, inner⟩ := leaves.of_cons
      by_cases plain : character ∈ structural
      · simp only [structural, List.mem_cons, List.not_mem_nil, or_false] at plain
        rcases plain with rfl | rfl | rfl | rfl | rfl | rfl | rfl | rfl | rfl
        · obtain ⟨⟨start, left⟩, started, next⟩ := Option.bind_eq_some_iff.mp next
          obtain ⟨left', started', after'⟩ := readGroupStart_lifts reading.flags inner started
          obtain ⟨opened, accepted, same⟩ := Option.bind_eq_some_iff.mp next
          cases same
          refine ⟨left', ?_, after'⟩
          change (readGroupStart reading.flags more').bind _ = _
          rw [started', Option.bind_some]
          change ((reading.within around).openGroup? start).bind _ = _
          rw [Reading.openGroup?_within around accepted]
          rfl
        · obtain ⟨closed, accepted, same⟩ := Option.map_eq_some_iff.mp next
          cases same
          refine ⟨more', ?_, inner⟩
          change (reading.within around).closeGroup?.map _ = _
          rw [Reading.closeGroup?_within around accepted]
          rfl
        · cases next
          exact ⟨more', rfl, inner⟩
        · rw [Reading.next?_class] at next
          obtain ⟨⟨part, left⟩, found, same⟩ := Option.map_eq_some_iff.mp next
          obtain ⟨begun, started⟩ := leaves_readClassStart inner reading.flags
          obtain ⟨left', found', after'⟩ :=
            readClass_lifts reading.flags (Nat.succ_le_succ started.length_le) started found
          cases same
          refine ⟨left', ?_, after'⟩
          rw [Reading.next?_class, Reading.flags_within, begun, found']
          rfl
        · cases next
        · obtain ⟨set, known, same⟩ := Option.map_eq_some_iff.mp next
          cases same
          refine ⟨more', ?_, inner⟩
          change (dot? reading.flags).map _ = _
          rw [known]
          rfl
        · cases next
          exact ⟨more', rfl, inner⟩
        · cases next
          exact ⟨more', rfl, inner⟩
        · obtain ⟨⟨primitive, left⟩, escaped, same⟩ := Option.bind_eq_some_iff.mp next
          obtain ⟨left', escaped', after'⟩ := readEscape_lifts reading.flags inner escaped
          cases same
          refine ⟨left', ?_, after'⟩
          change (readEscape reading.flags more').bind _ = _
          rw [escaped']
          rfl
      · rw [Reading.next?_plain reading more plain] at next
        rw [Reading.next?_plain _ more' plain]
        cases repetition : repeated? character with
        | none =>
            rw [repetition] at next
            cases next
            exact ⟨more', rfl, inner⟩
        | some repeated =>
            rw [repetition] at next
            obtain ⟨level, accepted, same⟩ := Option.map_eq_some_iff.mp next
            cases same
            refine ⟨afterShortMark more', ?_, leaves_afterShortMark inner⟩
            change (reading.level.repeatLast? repeated).map _ = _
            rw [accepted]
            rfl

theorem Reading.finish?_eq_some {reading : Reading} {part : Part}
    (finished : reading.finish? = some part) :
    reading.outer = [] ∧ part = reading.level.close := by
  unfold Reading.finish? at finished
  split at finished
  · exact ⟨‹_›, (Option.some.inj finished).symm⟩
  · cases finished

/-- A text that is read within a group leaves the end of the group, where the group is closed. -/
theorem Reading.run_within {reading : Reading} {rounds rounds' : Nat} {text longer : List Char}
    {part whole : Part} {parent : Level × Flags} (leaves : Leaves text longer)
    (read : reading.run rounds text = some part)
    (read' : (reading.within [parent]).run rounds' longer = some whole) :
    ∃ remaining names,
      Reading.run ⟨parent.2, names, parent.1.add part.pattern (part.height + 1) true, []⟩ remaining
        ['$'] = some whole := by
  induction rounds generalizing reading rounds' text longer with
  | zero => cases read
  | succ rounds ih =>
      cases rounds' with
      | zero => cases read'
      | succ rounds' =>
          rw [Reading.run] at read read'
          rw [Reading.flags_within] at read'
          have skipped := leaves.skip reading.flags
          cases left : skip reading.flags text with
          | nil =>
              rw [left] at read skipped
              obtain ⟨outermost, rfl⟩ := Reading.finish?_eq_some read
              cases left' : skip reading.flags longer with
              | nil =>
                  rw [left'] at read'
                  have closed := (Reading.finish?_eq_some read').1
                  rw [Reading.within, outermost] at closed
                  cases closed
              | cons character rest =>
                  rw [left'] at read' skipped
                  obtain ⟨flags, names, level, outer⟩ := reading
                  cases outermost
                  cases skipped
                  exact ⟨rounds', names, read'⟩
          | cons character more =>
              rw [left] at read skipped
              obtain ⟨more', left', inner⟩ := skipped.of_cons
              rw [left'] at read'
              simp only at read read'
              cases next : reading.next? (character :: more) with
              | none => rw [next] at read; cases read
              | some found =>
                  obtain ⟨after, rest⟩ := found
                  rw [left'] at skipped
                  obtain ⟨rest', next', inner⟩ := Reading.next?_within [parent] skipped next
                  rw [next] at read
                  rw [next'] at read'
                  exact ih inner read read'

theorem parse?_eq_some {text : String} {pattern : Pattern} (parsed : parse? text = some pattern) :
    ∃ part, Reading.run ⟨.initial, [], ⟨[], []⟩, []⟩ (text.toList.length + 1) text.toList =
      some part ∧ part.pattern = pattern := by
  unfold parse? at parsed
  simp only at parsed
  split at parsed
  · split at parsed
    · exact ⟨_, ‹_›, Option.some.inj parsed⟩
    · cases parsed
  · cases parsed

/-- Where a text spells a pattern both by itself and as an anchored group, the group is that pattern
between the two ends of a text. -/
theorem parse?_anchored {text : String} {pattern whole : Pattern}
    (parsed : parse? text = some pattern) (anchored : parse? (Filter.anchored text) = some whole) :
    whole = .concatenation (.holds .textStart) (.concatenation pattern (.holds .textEnd)) := by
  obtain ⟨part, read, rfl⟩ := parse?_eq_some parsed
  obtain ⟨part', read', rfl⟩ := parse?_eq_some anchored
  have spelled : (Filter.anchored text).toList =
      '^' :: '(' :: '?' :: ':' :: (text.toList ++ groupEnd) := by
    simp [Filter.anchored, groupEnd]
  rw [spelled] at read'
  have opened : (Reading.within [(⟨[], [⟨.holds .textStart, 0, true⟩]⟩, .initial)]
      ⟨.initial, [], ⟨[], []⟩, []⟩).run ((text.toList ++ groupEnd).length + 3)
        (text.toList ++ groupEnd) = some part' := read'
  obtain ⟨remaining, names, ended⟩ := Reading.run_within .ahead read opened
  cases remaining with
  | zero => cases ended
  | succ remaining =>
    cases remaining with
    | zero => cases ended
    | succ remaining =>
      cases ended
      rfl

end StoryGrammar.Pattern
