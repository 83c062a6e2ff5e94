import Mathlib.Algebra.BigOperators.Group.Finset.Basic
import Mathlib.Order.Interval.Finset.Nat
import StoryGrammar.Random.Draw

set_option autoImplicit false

/-!
# Accepted words

A draw passes over words until one is accepted, and that one alone decides its result. Which words
are accepted is settled by the zone: it leaves every choice with the same number of them.
-/

namespace StoryGrammar.Random

/-! ## The first accepted word -/

namespace Generator

variable {α : Type} (next : Generator → Nat × Generator)

/-- The generator that is left after a number of words. -/
def after (generator : Generator) : Nat → Generator
  | 0 => generator
  | count + 1 => (next generator).2.after count

def wordAt (generator : Generator) (place : Nat) : Nat :=
  (next (generator.after next place)).1

/-- All words before a place are passed over, and the one there is accepted with a result. -/
structure AcceptsAt (generator : Generator) (accept : Nat → Option α) (place : Nat)
    (result : α) : Prop where
  before : ∀ earlier < place, accept (generator.wordAt next earlier) = none
  there : accept (generator.wordAt next place) = some result

variable {next} {generator left : Generator} {accept : Nat → Option α} {result : α}

theorem AcceptsAt.succ {place : Nat} (rejected : accept (next generator).1 = none)
    (accepts : (next generator).2.AcceptsAt next accept place result) :
    generator.AcceptsAt next accept (place + 1) result := by
  refine ⟨fun earlier below => ?_, accepts.there⟩
  cases earlier with
  | zero => exact rejected
  | succ earlier => exact accepts.before earlier (Nat.lt_of_succ_lt_succ below)

theorem AcceptsAt.pred {place : Nat}
    (accepts : generator.AcceptsAt next accept (place + 1) result) :
    (next generator).2.AcceptsAt next accept place result :=
  ⟨fun earlier below => accepts.before (earlier + 1) (Nat.succ_lt_succ below), accepts.there⟩

theorem exists_acceptsAt (drawn : generator.firstAccepted next accept = some (result, left)) :
    ∃ place, generator.AcceptsAt next accept place result ∧
      left = generator.after next (place + 1) := by
  have all := firstAccepted.partial_correctness next accept
    (fun generator drawn => ∃ place, generator.AcceptsAt next accept place drawn.1 ∧
      drawn.2 = generator.after next (place + 1))
  refine all ?_ generator (result, left) drawn
  intro others ih generator drawn stepped
  cases first : accept (next generator).1 with
  | some value =>
      simp only [first, Option.some.injEq] at stepped
      subst stepped
      exact ⟨0, ⟨fun _ below => absurd below (Nat.not_lt_zero _), first⟩, rfl⟩
  | none =>
      simp only [first] at stepped
      obtain ⟨place, accepts, same⟩ := ih _ _ stepped
      exact ⟨place + 1, accepts.succ first, same⟩

theorem firstAccepted_of_first (first : accept (next generator).1 = some result) :
    generator.firstAccepted next accept = some (result, (next generator).2) := by
  rw [Generator.firstAccepted, first]

theorem AcceptsAt.firstAccepted {place : Nat}
    (accepts : generator.AcceptsAt next accept place result) :
    generator.firstAccepted next accept = some (result, generator.after next (place + 1)) := by
  induction place generalizing generator with
  | zero => exact firstAccepted_of_first accepts.there
  | succ place ih =>
      have first : accept (next generator).1 = none := accepts.before 0 (Nat.succ_pos place)
      rw [Generator.firstAccepted, first]
      exact ih accepts.pred

/-- A draw ends exactly where some word is accepted; the first such word gives the result, and no
word after it is drawn. -/
theorem firstAccepted_eq_some_iff :
    generator.firstAccepted next accept = some (result, left) ↔
      ∃ place, generator.AcceptsAt next accept place result ∧
        left = generator.after next (place + 1) := by
  constructor
  · exact exists_acceptsAt
  · rintro ⟨place, accepts, rfl⟩
    exact accepts.firstAccepted

/-- What is made of a choice afterwards does not change which word is accepted, if something is made
of every choice. -/
theorem acceptsAt_bind_iff {β : Type} {finish : α → Option β} {place : Nat} {value : β}
    (total : ∀ (generator : Generator) (result : α), accept (next generator).1 = some result →
      ∃ value, finish result = some value) :
    generator.AcceptsAt next (fun word => (accept word).bind finish) place value ↔
      ∃ result, generator.AcceptsAt next accept place result ∧ finish result = some value := by
  constructor
  · rintro ⟨before, there⟩
    obtain ⟨result, accepted, finished⟩ := Option.bind_eq_some_iff.mp there
    refine ⟨result, ⟨fun earlier below => ?_, accepted⟩, finished⟩
    cases passed : accept (generator.wordAt next earlier) with
    | none => rfl
    | some other =>
        obtain ⟨made, finished⟩ := total _ _ passed
        have rejected := before earlier below
        rw [passed, Option.bind_some, finished] at rejected
        cases rejected
  · rintro ⟨result, ⟨before, there⟩, finished⟩
    refine ⟨fun earlier below => ?_, ?_⟩
    · rw [before earlier below, Option.bind_none]
    · rw [there, Option.bind_some, finished]

theorem acceptsAt_map_iff {β : Type} {finish : α → β} {place : Nat} {value : β} :
    generator.AcceptsAt next (fun word => (accept word).map finish) place value ↔
      ∃ result, generator.AcceptsAt next accept place result ∧ finish result = value := by
  simp only [Option.map_eq_bind]
  refine (acceptsAt_bind_iff fun _ _ _ => ⟨_, rfl⟩).trans ?_
  simp only [Option.some.injEq]

/-- Where a word is accepted at all, there is a first one. -/
theorem exists_acceptsAt_of_accepted {place : Nat}
    (accepted : accept (generator.wordAt next place) = some result) :
    ∃ first other, generator.AcceptsAt next accept first other := by
  induction place using Nat.strong_induction_on generalizing result with
  | _ place ih =>
      by_cases rejected : ∀ earlier < place, accept (generator.wordAt next earlier) = none
      · exact ⟨place, result, rejected, accepted⟩
      · push Not at rejected
        obtain ⟨earlier, below, taken⟩ := rejected
        obtain ⟨other, accepted⟩ := Option.ne_none_iff_exists'.mp taken
        exact ih earlier below accepted

end Generator

/-! ## How many words make a choice -/

theorem choice?_eq_some_iff {bits bound zone word place : Nat} :
    choice? bits bound zone word = some place ↔
      word * bound % Nat.pow 2 bits ≤ zone ∧ word * bound / Nat.pow 2 bits = place := by
  unfold choice?
  split <;> simp_all

/-- Where the zone ends after a multiple of the bound, the words that make a choice follow one
another: their multiples of the bound lie in an interval of as many multiples. -/
theorem choice?_eq_some_iff_mem {bits bound zone share word place : Nat} (positive : 0 < bound)
    (zoned : zone + 1 = bound * share) (fits : bound * share ≤ Nat.pow 2 bits) :
    choice? bits bound zone word = some place ↔
      word ∈ Finset.Ico ((place * Nat.pow 2 bits + (bound - 1)) / bound)
        ((place * Nat.pow 2 bits + (bound - 1)) / bound + share) := by
  rw [choice?_eq_some_iff, Finset.mem_Ico]
  generalize Nat.pow 2 bits = size at fits ⊢
  have sizePositive : 0 < size := by omega
  have within : word * bound % size ≤ zone ∧ word * bound / size = place ↔
      place * size ≤ bound * word ∧ bound * word < place * size + bound * share := by
    rw [Nat.mul_comm word bound]
    have split := Nat.div_add_mod (bound * word) size
    have low := Nat.mod_lt (bound * word) sizePositive
    constructor
    · rintro ⟨small, rfl⟩
      rw [Nat.mul_comm (bound * word / size) size]
      omega
    · rintro ⟨above, below⟩
      have quotient : bound * word / size = place := by
        refine Nat.div_eq_of_lt_le above ?_
        rw [Nat.succ_mul]
        omega
      refine ⟨?_, quotient⟩
      rw [quotient, Nat.mul_comm size place] at split
      omega
  have start : ∀ candidate, (place * size + (bound - 1)) / bound ≤ candidate ↔
      place * size ≤ bound * candidate := by
    intro candidate
    rw [Nat.div_le_iff_le_mul_add_pred positive]
    omega
  rw [within, start]
  refine and_congr_right fun above => ?_
  generalize (place * size + (bound - 1)) / bound = first at start
  rcases Nat.lt_or_ge word share with early | late
  · have small : bound * word < bound * share := (Nat.mul_lt_mul_left positive).mpr early
    omega
  · have shifted := start (word - share)
    rw [Nat.mul_sub] at shifted
    have larger : bound * share ≤ bound * word := Nat.mul_le_mul_left bound late
    omega

/-- Each choice is made by the same number of words. -/
theorem card_choice? {bits bound zone share place : Nat} (below : place < bound)
    (zoned : zone + 1 = bound * share) (fits : bound * share ≤ Nat.pow 2 bits) :
    ((Finset.range (Nat.pow 2 bits)).filter
      fun word => choice? bits bound zone word = some place).card = share := by
  have positive : 0 < bound := Nat.zero_lt_of_lt below
  have interval : ((Finset.range (Nat.pow 2 bits)).filter
      fun word => choice? bits bound zone word = some place) =
        Finset.Ico ((place * Nat.pow 2 bits + (bound - 1)) / bound)
          ((place * Nat.pow 2 bits + (bound - 1)) / bound + share) := by
    ext word
    rw [Finset.mem_filter, Finset.mem_range, choice?_eq_some_iff_mem positive zoned fits]
    refine and_iff_right_of_imp fun chosen => ?_
    rw [← choice?_eq_some_iff_mem positive zoned fits, choice?_eq_some_iff] at chosen
    refine Nat.lt_of_not_ge fun large => ?_
    have sizePositive : 0 < Nat.pow 2 bits := Nat.pow_pos (by decide)
    have reached : bound ≤ word * bound / Nat.pow 2 bits := by
      rw [Nat.le_div_iff_mul_le sizePositive, Nat.mul_comm word bound]
      exact Nat.mul_le_mul_left bound large
    omega
  rw [interval, Nat.card_Ico]
  omega

/-- Any choices together are made by as many words as they are, times the words of each. -/
theorem card_choice?_mem {bits bound zone share : Nat} {places : Finset Nat}
    (below : ∀ place ∈ places, place < bound) (zoned : zone + 1 = bound * share)
    (fits : bound * share ≤ Nat.pow 2 bits) :
    ((Finset.range (Nat.pow 2 bits)).filter
      fun word => ∃ place ∈ places, choice? bits bound zone word = some place).card =
        places.card * share := by
  have together : ((Finset.range (Nat.pow 2 bits)).filter
      fun word => ∃ place ∈ places, choice? bits bound zone word = some place) =
        places.biUnion fun place => (Finset.range (Nat.pow 2 bits)).filter
          fun word => choice? bits bound zone word = some place := by
    ext word
    simp only [Finset.mem_filter, Finset.mem_biUnion]
    tauto
  have apart : (places : Set Nat).PairwiseDisjoint fun place =>
      (Finset.range (Nat.pow 2 bits)).filter
        fun word => choice? bits bound zone word = some place := by
    intro place _ other _ different
    refine Finset.disjoint_filter.mpr fun word _ chosen => ?_
    rw [chosen]
    exact fun same => different (Option.some.inj same)
  rw [together, Finset.card_biUnion apart]
  exact Finset.sum_const_nat fun place present => card_choice? (below place present) zoned fits

theorem choice?_lt {bits bound zone word place : Nat} (positive : 0 < bound)
    (small : word < Nat.pow 2 bits) (chosen : choice? bits bound zone word = some place) :
    place < bound := by
  obtain ⟨-, rfl⟩ := choice?_eq_some_iff.mp chosen
  rw [Nat.div_lt_iff_lt_mul (Nat.zero_lt_of_lt small), Nat.mul_comm]
  exact (Nat.mul_lt_mul_left positive).mpr small

theorem below64_lt {bound place : Nat} {generator left : Generator} (positive : 0 < bound)
    (drawn : below64 bound generator = some (place, left)) : place < bound := by
  obtain ⟨count, accepts, -⟩ := Generator.firstAccepted_eq_some_iff.mp drawn
  exact choice?_lt positive (UInt64.toNat_lt _) accepts.there

theorem uniformZone_succ {bits bound : Nat} (positive : 0 < bound) :
    uniformZone bits bound + 1 = bound * 2 ^ (bits - 1 - bound.log2) := by
  have large : 0 < bound * 2 ^ (bits - 1 - bound.log2) :=
    Nat.mul_pos positive (Nat.two_pow_pos _)
  rw [uniformZone, Nat.shiftLeft_eq]
  omega

theorem uniformZone_fits {bits bound : Nat} (fits : bound < 2 ^ bits) :
    bound * 2 ^ (bits - 1 - bound.log2) ≤ Nat.pow 2 bits := by
  rcases Nat.eq_zero_or_pos bound with rfl | positive
  · simp
  · have short : bound.log2 < bits := (Nat.log2_lt (Nat.ne_of_gt positive)).mpr fits
    calc
      bound * 2 ^ (bits - 1 - bound.log2) ≤
          2 ^ (bound.log2 + 1) * 2 ^ (bits - 1 - bound.log2) :=
        Nat.mul_le_mul_right _ (Nat.le_of_lt Nat.lt_log2_self)
      _ = 2 ^ bits := by
        rw [← Nat.pow_add]
        congr 1
        omega

end StoryGrammar.Random
