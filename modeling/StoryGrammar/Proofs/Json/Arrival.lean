import StoryGrammar.Json.Reader

set_option autoImplicit false

/-!
# How bytes arrive

A stream of bytes is read as the same bytes are when they are there from the start. What depends on
how they arrive is the place of one fault only: a number out of range.
-/

namespace StoryGrammar.Json

/-- Outcomes that differ at most in the place of a number out of range. -/
inductive AlikeOutcomes {α : Type} : Except Failure α → Except Failure α → Prop where
  | same (outcome : Except Failure α) : AlikeOutcomes outcome outcome
  | outOfRange (remaining remaining' : Nat) :
      AlikeOutcomes (.error ⟨.numberOutOfRange, remaining⟩)
        (.error ⟨.numberOutOfRange, remaining'⟩)

theorem AlikeOutcomes.bind {α β : Type} {first second : Except Failure α}
    {next next' : α → Except Failure β} (alike : AlikeOutcomes first second)
    (following : ∀ value, AlikeOutcomes (next value) (next' value)) :
    AlikeOutcomes (first >>= next) (second >>= next') := by
  cases alike with
  | same =>
      cases first with
      | error failure => exact .same _
      | ok value => exact following value
  | outOfRange => exact .outOfRange _ _

/-! ## Numbers -/

section numbers

variable (arrival arrival' : Arrival) (negative : Bool)

theorem floatOrFail_alike (significand : Nat) (power : Int) (rest : List UInt8) :
    AlikeOutcomes (floatOrFail arrival negative significand power rest)
      (floatOrFail arrival' negative significand power rest) := by
  unfold floatOrFail
  split
  · exact .same _
  · cases arrival <;> cases arrival' <;> exact .outOfRange _ _

theorem readExponent_alike (significand : Nat) (power : Int) (bytes : List UInt8) :
    AlikeOutcomes (readExponent arrival negative significand power bytes)
      (readExponent arrival' negative significand power bytes) := by
  unfold readExponent
  generalize readExponentSign bytes = signed
  obtain ⟨small, bytes⟩ := signed
  cases bytes with
  | nil => exact .same _
  | cons byte rest =>
      dsimp only
      split
      · split
        · exact floatOrFail_alike arrival arrival' negative _ _ _
        · exact .same _
      · exact .same _

theorem readFraction_alike (significand ignored : Nat) (bytes : List UInt8) :
    AlikeOutcomes (readFraction arrival negative significand ignored bytes)
      (readFraction arrival' negative significand ignored bytes) := by
  unfold readFraction
  dsimp only
  split
  · exact .same _
  · split
    · exact floatOrFail_alike arrival arrival' negative _ _ _
    · split
      · exact readExponent_alike arrival arrival' negative _ _ _
      · exact floatOrFail_alike arrival arrival' negative _ _ _

theorem readAfterDigits_alike (digits rest : List UInt8) :
    AlikeOutcomes (readAfterDigits arrival negative digits rest)
      (readAfterDigits arrival' negative digits rest) := by
  unfold readAfterDigits
  generalize absorbDigits 0 0 digits = absorbed
  obtain ⟨significand, used⟩ := absorbed
  dsimp only
  have whole : AlikeOutcomes
      (if digits.length - used = 0 then .ok (wholeNumber negative significand, rest)
        else floatOrFail arrival negative significand (digits.length - used : Nat) rest)
      (if digits.length - used = 0 then .ok (wholeNumber negative significand, rest)
        else floatOrFail arrival' negative significand (digits.length - used : Nat) rest) := by
    split
    · exact .same _
    · exact floatOrFail_alike arrival arrival' negative _ _ _
  split
  · exact whole
  · split
    · exact readFraction_alike arrival arrival' negative _ _ _
    · exact readExponent_alike arrival arrival' negative _ _ _
    · exact readExponent_alike arrival arrival' negative _ _ _
    · exact whole

theorem readNumber_alike (bytes : List UInt8) :
    AlikeOutcomes (readNumber arrival negative bytes) (readNumber arrival' negative bytes) := by
  unfold readNumber
  split
  · exact .same _
  · split
    · exact .same _
    · split
      · split
        · exact .same _
        · exact readAfterDigits_alike arrival arrival' negative _ _
      · exact readAfterDigits_alike arrival arrival' negative _ _

end numbers

/-! ## Values -/

section values

variable (arrival arrival' : Arrival)

theorem readStart_alike (outer : List Container) (bytes : List UInt8) :
    AlikeOutcomes (readStart arrival outer bytes) (readStart arrival' outer bytes) := by
  unfold readStart
  split
  · exact .same _
  · split
    case h_4 =>
      exact (readNumber_alike arrival arrival' true _).bind fun number => .same _
    case h_8 =>
      split
      · exact (readNumber_alike arrival arrival' false _).bind fun number => .same _
      · exact .same _
    all_goals exact .same _

theorem Reading.run_alike (rounds : Nat) (reading : Reading) (bytes : List UInt8) :
    AlikeOutcomes (reading.run arrival rounds bytes) (reading.run arrival' rounds bytes) := by
  induction rounds generalizing reading bytes with
  | zero =>
      cases reading with
      | expecting outer => exact .same _
      | finished outer value => cases outer <;> exact .same _
  | succ rounds ih =>
      cases reading with
      | expecting outer =>
          exact (readStart_alike arrival arrival' outer bytes).bind fun given =>
            ih given.1 given.2
      | finished outer value =>
          cases outer with
          | nil => exact .same _
          | cons container outer =>
              cases container with
              | array items =>
                  exact (AlikeOutcomes.same _).bind fun given => ih given.1 given.2
              | object members key =>
                  exact (AlikeOutcomes.same _).bind fun given => ih given.1 given.2

theorem parse_eq (bytes : List UInt8) :
    parse arrival bytes =
      (readValue arrival bytes >>= fun read => readEnd read.2 >>= fun _ => pure read.1).mapError
        (·.locate bytes) :=
  rfl

/-- Both ways to arrive come to the same, except for the place where a number is out of range. -/
theorem parse_alike (bytes : List UInt8) :
    parse arrival bytes = parse arrival' bytes ∨
      ∃ position position',
        parse arrival bytes = .error ⟨.numberOutOfRange, position⟩ ∧
          parse arrival' bytes = .error ⟨.numberOutOfRange, position'⟩ := by
  have alike : AlikeOutcomes
      (readValue arrival bytes >>= fun read => readEnd read.2 >>= fun _ => pure read.1)
      (readValue arrival' bytes >>= fun read => readEnd read.2 >>= fun _ => pure read.1) :=
    (Reading.run_alike arrival arrival' _ _ bytes).bind fun read => .same _
  rw [parse_eq, parse_eq]
  generalize (readValue arrival bytes >>= fun read => _) = first at alike ⊢
  generalize (readValue arrival' bytes >>= fun read => _) = second at alike ⊢
  cases alike with
  | same => exact .inl rfl
  | outOfRange => exact .inr ⟨_, _, rfl, rfl⟩

end values

end StoryGrammar.Json
