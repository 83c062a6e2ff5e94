import StoryGrammar.Pattern.Matcher

set_option autoImplicit false

/-!
# What marks stand for

After some characters of a text a set is marked exactly where a match under way has just read the
last of them as a member of the set. So a pattern occurs in a text exactly where a match of it spans
some stretch of the text.
-/

namespace StoryGrammar

namespace Pattern

variable {text : List Char}

/-! ## Spans -/

theorem Spans.le {pattern : Pattern} {start stop : Nat} (spans : Spans text pattern start stop) :
    start ≤ stop := by
  induction spans with
  | empty | holds => exact Nat.le_refl _
  | oneOf => exact Nat.le_succ _
  | concatenation _ _ _ _ _ _ _ firstIH secondIH => exact Nat.le_trans firstIH secondIH
  | alternationLeft _ _ _ _ _ ih | alternationRight _ _ _ _ _ ih | repetitionOnce _ _ _ _ ih =>
      exact ih
  | repetitionMore _ _ _ _ _ _ onceIH moreIH => exact Nat.le_trans onceIH moreIH

theorem spans_oneOf_iff {set : CharacterSet} {start stop : Nat} :
    Spans text (.oneOf set) start stop ↔
      stop = start + 1 ∧ ∃ member, text[start]? = some member ∧ set.contains member = true := by
  constructor
  · intro spans
    cases spans with
    | oneOf _ _ member present contained => exact ⟨rfl, member, present, contained⟩
  · rintro ⟨rfl, member, present, contained⟩
    exact .oneOf set start member present contained

theorem spans_holds_iff {assertion : Assertion} {start stop : Nat} :
    Spans text (.holds assertion) start stop ↔
      stop = start ∧ assertion.holdsBetween (characterBefore text start) text[start]? = true := by
  constructor
  · intro spans
    cases spans with
    | holds _ _ holding => exact ⟨rfl, holding⟩
  · rintro ⟨rfl, holding⟩
    exact .holds assertion _ holding

theorem spans_concatenation_iff {first second : Pattern} {start stop : Nat} :
    Spans text (.concatenation first second) start stop ↔
      ∃ middle, Spans text first start middle ∧ Spans text second middle stop := by
  constructor
  · intro spans
    cases spans with
    | concatenation _ _ _ middle _ firstSpans secondSpans =>
        exact ⟨middle, firstSpans, secondSpans⟩
  · rintro ⟨middle, firstSpans, secondSpans⟩
    exact .concatenation first second start middle stop firstSpans secondSpans

theorem spans_alternation_iff {left right : Pattern} {start stop : Nat} :
    Spans text (.alternation left right) start stop ↔
      Spans text left start stop ∨ Spans text right start stop := by
  constructor
  · intro spans
    cases spans with
    | alternationLeft _ _ _ _ spans => exact .inl spans
    | alternationRight _ _ _ _ spans => exact .inr spans
  · rintro (spans | spans)
    · exact .alternationLeft left right start stop spans
    · exact .alternationRight left right start stop spans

section repetition

variable {body : Pattern}

/-- One more match of the body may also come last. -/
theorem Spans.repetition_snoc {start middle stop : Nat}
    (row : Spans text (.repetition body) start middle) (once : Spans text body middle stop) :
    Spans text (.repetition body) start stop := by
  generalize same : Pattern.repetition body = repeated at row
  induction row with
  | repetitionOnce _ _ _ first =>
      cases same
      exact .repetitionMore body _ _ _ first (.repetitionOnce body _ _ once)
  | repetitionMore _ _ _ _ first _ _ ih =>
      cases same
      exact .repetitionMore body _ _ _ first (ih once rfl)
  | empty | oneOf | holds | concatenation | alternationLeft | alternationRight => cases same

/-- In a row of matches that spans some characters, the last match of the body that does begins
before the end. -/
theorem Spans.repetition_last {start stop : Nat} (row : Spans text (.repetition body) start stop)
    (before : start < stop) :
    ∃ last, last < stop ∧ (last = start ∨ Spans text (.repetition body) start last) ∧
      Spans text body last stop := by
  generalize same : Pattern.repetition body = repeated at row
  induction row with
  | repetitionOnce _ start _ once =>
      cases same
      exact ⟨start, before, .inl rfl, once⟩
  | repetitionMore _ start middle stop once more _ ih =>
      cases same
      rcases Nat.lt_or_eq_of_le more.le with inner | rfl
      · obtain ⟨last, earlier, reached, ended⟩ := ih inner rfl
        refine ⟨last, earlier, .inr ?_, ended⟩
        rcases reached with rfl | row
        · exact .repetitionOnce body _ _ once
        · exact .repetitionMore body _ _ _ once row
      · exact ⟨start, before, .inl rfl, once⟩
  | empty | oneOf | holds | concatenation | alternationLeft | alternationRight => cases same

theorem spans_repetition_at_iff {place : Nat} :
    Spans text (.repetition body) place place ↔ Spans text body place place := by
  constructor
  · intro row
    cases row with
    | repetitionOnce _ _ _ once => exact once
    | repetitionMore _ _ middle _ once more =>
        rwa [Nat.le_antisymm more.le once.le] at once
  · exact .repetitionOnce body place place

end repetition

end Pattern

namespace MarkedPattern

open Pattern

variable {text : List Char} {place : Nat}

/-- The places where matches end that begin at one of the places. -/
def Ends (text : List Char) (pattern : Pattern) (starts : Nat → Prop) (stop : Nat) : Prop :=
  ∃ start, starts start ∧ Spans text pattern start stop

/-- Matches that began before a place and end there, seen at the last part of a row of two. -/
theorem ends_concatenation_iff {first second : Pattern} {starts : Nat → Prop} :
    (∃ start, start < place ∧ starts start ∧
        Spans text (.concatenation first second) start place) ↔
      (∃ middle, middle < place ∧ Ends text first starts middle ∧ Spans text second middle place) ∨
        (∃ start, start < place ∧ starts start ∧ Spans text first start place) ∧
          Spans text second place place := by
  simp only [spans_concatenation_iff]
  constructor
  · rintro ⟨start, before, begins, middle, firstSpans, secondSpans⟩
    rcases Nat.lt_or_eq_of_le secondSpans.le with inner | rfl
    · exact .inl ⟨middle, inner, ⟨start, begins, firstSpans⟩, secondSpans⟩
    · exact .inr ⟨⟨start, before, begins, firstSpans⟩, secondSpans⟩
  · rintro (⟨middle, inner, ⟨start, begins, firstSpans⟩, secondSpans⟩ |
      ⟨⟨start, before, begins, firstSpans⟩, secondSpans⟩)
    · have before : start < place := Nat.lt_of_le_of_lt firstSpans.le inner
      exact ⟨start, before, begins, middle, firstSpans, secondSpans⟩
    · exact ⟨start, before, begins, place, firstSpans, secondSpans⟩

/-- Matches that began before a place and end there, seen at the last match of a repeated body. -/
theorem ends_repetition_iff {body : Pattern} {starts : Nat → Prop} :
    (∃ start, start < place ∧ starts start ∧ Spans text (.repetition body) start place) ↔
      ∃ last, last < place ∧ (starts last ∨ Ends text (.repetition body) starts last) ∧
        Spans text body last place := by
  constructor
  · rintro ⟨start, before, begins, row⟩
    obtain ⟨last, inner, reached, once⟩ := row.repetition_last before
    refine ⟨last, inner, ?_, once⟩
    rcases reached with rfl | row
    · exact .inl begins
    · exact .inr ⟨start, begins, row⟩
  · rintro ⟨last, inner, begins | ⟨start, begins, row⟩, once⟩
    · exact ⟨last, inner, begins, .repetitionOnce body _ _ once⟩
    · exact ⟨start, Nat.lt_of_le_of_lt row.le inner, begins, row.repetition_snoc once⟩

/-- The marks of a pattern after some characters of a text, where its matches begin at one of the
places. A set is marked if such a match has come to it with the last of the characters. -/
inductive Tracks (text : List Char) (place : Nat) :
    (starts : Nat → Prop) → Pattern → MarkedPattern → Prop where
  | empty {starts : Nat → Prop} : Tracks text place starts .empty .empty
  | oneOf {starts : Nat → Prop} {set : CharacterSet} {marked : Bool} :
      (marked = true ↔ ∃ start, start < place ∧ starts start ∧
        Spans text (.oneOf set) start place) →
      Tracks text place starts (.oneOf set) (.oneOf set marked)
  | holds {starts : Nat → Prop} {assertion : Assertion} :
      Tracks text place starts (.holds assertion) (.holds assertion)
  | concatenation {starts : Nat → Prop} {first second : Pattern} {first' second' : MarkedPattern} :
      Tracks text place starts first first' →
      Tracks text place (Ends text first starts) second second' →
      Tracks text place starts (.concatenation first second) (.concatenation first' second')
  | alternation {starts : Nat → Prop} {left right : Pattern} {left' right' : MarkedPattern} :
      Tracks text place starts left left' → Tracks text place starts right right' →
      Tracks text place starts (.alternation left right) (.alternation left' right')
  | repetition {starts : Nat → Prop} {body : Pattern} {body' : MarkedPattern} :
      Tracks text place
        (fun start => starts start ∨ Ends text (.repetition body) starts start) body body' →
      Tracks text place starts (.repetition body) (.repetition body')

theorem tracks_unmarked (text : List Char) (starts : Nat → Prop) (pattern : Pattern) :
    Tracks text 0 starts pattern pattern.unmarked := by
  induction pattern generalizing starts with
  | empty => exact .empty
  | oneOf set => exact .oneOf (by simp)
  | holds assertion => exact .holds
  | concatenation first second firstIH secondIH =>
      exact .concatenation (firstIH starts) (secondIH _)
  | alternation left right leftIH rightIH => exact .alternation (leftIH starts) (rightIH starts)
  | repetition body ih => exact .repetition (ih _)

section Tracks

variable {starts : Nat → Prop} {pattern : Pattern} {marked : MarkedPattern}

theorem Tracks.matchesBetween_iff (tracks : Tracks text place starts pattern marked) :
    marked.matchesBetween (characterBefore text place) text[place]? = true ↔
      Spans text pattern place place := by
  induction tracks with
  | empty => exact iff_of_true rfl (.empty place)
  | oneOf => simp [matchesBetween, spans_oneOf_iff]
  | holds => simp [matchesBetween, spans_holds_iff]
  | concatenation _ _ firstIH secondIH =>
      rw [matchesBetween, Bool.and_eq_true, firstIH, secondIH, spans_concatenation_iff]
      constructor
      · rintro ⟨first, second⟩
        exact ⟨place, first, second⟩
      · rintro ⟨middle, first, second⟩
        obtain rfl : middle = place := Nat.le_antisymm second.le first.le
        exact ⟨first, second⟩
  | alternation _ _ leftIH rightIH =>
      rw [matchesBetween, Bool.or_eq_true, leftIH, rightIH, spans_alternation_iff]
  | repetition _ ih => rw [matchesBetween, ih, spans_repetition_at_iff]

theorem Tracks.endsBetween_iff (tracks : Tracks text place starts pattern marked) :
    marked.endsBetween (characterBefore text place) text[place]? = true ↔
      ∃ start, start < place ∧ starts start ∧ Spans text pattern start place := by
  induction tracks with
  | empty =>
      refine iff_of_false Bool.false_ne_true ?_
      rintro ⟨start, before, -, spans⟩
      cases spans
      exact Nat.lt_irrefl _ before
  | oneOf marked => exact marked
  | holds =>
      refine iff_of_false Bool.false_ne_true ?_
      rintro ⟨start, before, -, spans⟩
      exact Nat.ne_of_gt before (spans_holds_iff.mp spans).1
  | concatenation first second firstIH secondIH =>
      rw [endsBetween, Bool.or_eq_true, Bool.and_eq_true, firstIH, secondIH,
        second.matchesBetween_iff, ends_concatenation_iff]
  | alternation _ _ leftIH rightIH =>
      rw [endsBetween, Bool.or_eq_true, leftIH, rightIH]
      simp only [spans_alternation_iff, and_or_left, exists_or]
  | repetition _ ih => rw [endsBetween, ih, ends_repetition_iff]

/-- What ends at a place is a match under way or one without characters. -/
theorem Tracks.ends_iff (tracks : Tracks text place starts pattern marked) :
    Ends text pattern starts place ↔
      marked.endsBetween (characterBefore text place) text[place]? = true ∨
        starts place ∧
          marked.matchesBetween (characterBefore text place) text[place]? = true := by
  rw [tracks.endsBetween_iff, tracks.matchesBetween_iff]
  constructor
  · rintro ⟨start, begins, spans⟩
    rcases Nat.lt_or_eq_of_le spans.le with before | rfl
    · exact .inl ⟨start, before, begins, spans⟩
    · exact .inr ⟨begins, spans⟩
  · rintro (⟨start, before, begins, spans⟩ | ⟨begins, spans⟩)
    · exact ⟨start, begins, spans⟩
    · exact ⟨place, begins, spans⟩

/-- Reading a character keeps the marks what they stand for. -/
theorem Tracks.read {next : Char} {begins : Bool}
    (tracks : Tracks text place starts pattern marked) (present : text[place]? = some next)
    (begin_iff : begins = true ↔ starts place) :
    Tracks text (place + 1) starts pattern
      (marked.read (characterBefore text place) next begins) := by
  induction tracks generalizing begins with
  | empty => exact .empty
  | @oneOf starts set marked tracked =>
      refine .oneOf ?_
      rw [Bool.and_eq_true, begin_iff]
      simp only [spans_oneOf_iff]
      constructor
      · rintro ⟨begun, contained⟩
        exact ⟨place, Nat.lt_succ_self place, begun, rfl, next, present, contained⟩
      · rintro ⟨start, -, begun, same, member, there, contained⟩
        obtain rfl : start = place := by omega
        rw [present] at there
        cases there
        exact ⟨begun, contained⟩
  | holds => exact .holds
  | concatenation first second firstIH secondIH =>
      refine .concatenation (firstIH begin_iff) (secondIH ?_)
      rw [first.ends_iff, Bool.or_eq_true, Bool.and_eq_true, begin_iff, present]
  | alternation _ _ leftIH rightIH => exact .alternation (leftIH begin_iff) (rightIH begin_iff)
  | repetition body ih =>
      refine .repetition (ih ?_)
      rw [Bool.or_eq_true, begin_iff, ← present, body.endsBetween_iff, ← ends_repetition_iff]
      constructor
      · rintro (begun | ⟨start, -, begun, row⟩)
        · exact .inl begun
        · exact .inr ⟨start, begun, row⟩
      · rintro (begun | ⟨start, begun, row⟩)
        · exact .inl begun
        · rcases Nat.lt_or_eq_of_le row.le with before | rfl
          · exact .inr ⟨start, before, begun, row⟩
          · exact .inl begun

theorem Tracks.ends_here_iff (tracks : Tracks text place (fun _ => True) pattern marked) :
    (marked.matchesBetween (characterBefore text place) text[place]? ||
        marked.endsBetween (characterBefore text place) text[place]?) = true ↔
      Ends text pattern (fun _ => True) place := by
  rw [tracks.ends_iff, true_and, Bool.or_eq_true, or_comm]

/-- The rest of a text is searched for the places, from here on, where some match ends. -/
theorem Tracks.occursIn_iff {rest : List Char}
    (tracks : Tracks text place (fun _ => True) pattern marked) (inside : place ≤ text.length)
    (remaining : text.drop place = rest) :
    marked.occursIn (characterBefore text place) rest = true ↔
      ∃ stop, place ≤ stop ∧ stop ≤ text.length ∧ Ends text pattern (fun _ => True) stop := by
  induction rest generalizing place marked with
  | nil =>
      have here : place = text.length :=
        Nat.le_antisymm inside (List.drop_eq_nil_iff.mp remaining)
      have atEnd : text[place]? = none := List.getElem?_eq_none (Nat.le_of_eq here.symm)
      rw [MarkedPattern.occursIn, ← atEnd, tracks.ends_here_iff]
      constructor
      · exact fun ends => ⟨place, Nat.le_refl _, inside, ends⟩
      · rintro ⟨stop, after, within, ends⟩
        rwa [Nat.le_antisymm after (here ▸ within)]
  | cons next rest ih =>
      have present : text[place]? = some next := by
        rw [← List.head?_drop, remaining, List.head?_cons]
      have further : text.drop (place + 1) = rest := by
        rw [← List.tail_drop, remaining, List.tail_cons]
      have within : place + 1 ≤ text.length := (List.getElem?_eq_some_iff.mp present).1
      have before : some next = characterBefore text (place + 1) := present.symm
      rw [MarkedPattern.occursIn, Bool.or_eq_true, ← present, tracks.ends_here_iff, present, before,
        ih (tracks.read present (iff_of_true rfl trivial)) within further]
      constructor
      · rintro (ends | ⟨stop, after, within, ends⟩)
        · exact ⟨place, Nat.le_refl _, inside, ends⟩
        · exact ⟨stop, Nat.le_of_succ_le after, within, ends⟩
      · rintro ⟨stop, after, within, ends⟩
        rcases Nat.lt_or_eq_of_le after with later | rfl
        · exact .inr ⟨stop, later, within, ends⟩
        · exact .inl ends

end Tracks

end MarkedPattern

/-- A pattern occurs in a text exactly where a match of it spans some stretch of the text. -/
theorem Pattern.occursIn_iff (pattern : Pattern) (text : String) :
    pattern.occursIn text = true ↔
      ∃ start stop, stop ≤ text.toList.length ∧ Spans text.toList pattern start stop := by
  have tracks := MarkedPattern.tracks_unmarked text.toList (fun _ => True) pattern
  refine (tracks.occursIn_iff (Nat.zero_le _) rfl).trans ?_
  constructor
  · rintro ⟨stop, -, within, start, -, spans⟩
    exact ⟨start, stop, within, spans⟩
  · rintro ⟨start, stop, within, spans⟩
    exact ⟨stop, Nat.zero_le _, within, start, trivial, spans⟩

end StoryGrammar
