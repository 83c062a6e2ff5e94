import StoryGrammar.Proofs.HeldRules
import StoryGrammar.Proofs.Rejection

set_option autoImplicit false

/-!
# Productions drawn by weight

The first accepted word decides which candidate is drawn. Counted over all words there are, every
candidate is chosen by as many of them as its weight demands, exactly.
-/

namespace StoryGrammar

namespace Rule

/-! ## Places -/

/-- The position among the productions of the one that a place falls to, where each takes up as many
places as it has weight. -/
def indexAt : List Production → Nat → Option Nat
  | [], _ => none
  | production :: productions, place =>
      if place < production.weight.toNat then some 0
      else (indexAt productions (place - production.weight.toNat)).map (· + 1)

theorem totalWeight_cons (production : Production) (productions : List Production) :
    totalWeight (production :: productions) =
      production.weight.toNat + totalWeight productions :=
  rfl

theorem atWeight_eq_bind (productions : List Production) (place : Nat) :
    atWeight productions place = (indexAt productions place).bind (productions[·]?) := by
  induction productions generalizing place with
  | nil => rfl
  | cons production productions ih =>
      rw [atWeight, indexAt]
      split
      · rfl
      · rw [ih, Option.bind_map]
        rfl

theorem exists_indexAt {productions : List Production} {place : Nat}
    (below : place < totalWeight productions) :
    ∃ index, indexAt productions place = some index := by
  induction productions generalizing place with
  | nil => exact absurd below (Nat.not_lt_zero place)
  | cons production productions ih =>
      rw [totalWeight_cons] at below
      rw [indexAt]
      split
      · exact ⟨0, rfl⟩
      · have shifted : place - production.weight.toNat < totalWeight productions := by omega
        obtain ⟨index, found⟩ := ih shifted
        exact ⟨index + 1, by rw [found]; rfl⟩

/-- The places of a production begin where those of the productions before it end. -/
theorem indexAt_eq_some_iff {productions : List Production} {place index : Nat} :
    indexAt productions place = some index ↔
      ∃ production, productions[index]? = some production ∧
        place ∈ Finset.Ico (totalWeight (productions.take index))
          (totalWeight (productions.take index) + production.weight.toNat) := by
  induction productions generalizing place index with
  | nil => simp [indexAt]
  | cons production productions ih =>
      rw [indexAt]
      cases index with
      | zero =>
          simp only [List.getElem?_cons_zero, Option.some.injEq, exists_eq_left', List.take_zero,
            Finset.mem_Ico, totalWeight, List.foldr_nil, Nat.zero_le, Nat.zero_add, true_and]
          split
          · simp_all
          · simp_all
      | succ index =>
          simp only [List.getElem?_cons_succ, List.take_succ_cons, totalWeight_cons,
            Finset.mem_Ico]
          split
          · rename_i early
            constructor
            · intro found
              cases found
            · rintro ⟨-, -, late, -⟩
              omega
          · rename_i late
            rw [Option.map_eq_some_iff]
            simp only [Nat.add_right_cancel_iff, exists_eq_right, ih, Finset.mem_Ico]
            refine exists_congr fun other => and_congr_right fun _ => ?_
            omega

theorem length_le_totalWeight {productions : List Production}
    (weighted : ∀ production ∈ productions, production.weight ≠ 0) :
    productions.length ≤ totalWeight productions := by
  induction productions with
  | nil => exact Nat.zero_le _
  | cons production productions ih =>
      have others := ih fun other later => weighted other (.tail _ later)
      have positive : production.weight.toNat ≠ 0 := fun zero =>
        weighted production (.head _) (UInt32.toNat_inj.mp zero)
      rw [totalWeight_cons, List.length_cons]
      omega

def evenly (candidates : List Production) : Bool :=
  candidates.all fun production => production.weight == 1

/-- The position among the candidates of the one that a word chooses, unless it is passed over. -/
def chosenBy? (candidates : List Production) (word : Nat) : Option Nat :=
  if evenly candidates then
    Random.choice? 64 candidates.length (Random.uniformZone 64 candidates.length) word
  else
    (Random.choice? 64 (totalWeight candidates) (Random.weightedZone (totalWeight candidates))
      word).bind (indexAt candidates)

section counting

variable {candidates : List Production} {index : Nat} {production : Production}

end counting

/-! ## Drawing -/

/-- The numbers that draws of productions read from a generator. -/
def nextWord (generator : Random.Generator) : Nat × Random.Generator :=
  (generator.next64.1.toNat, generator.next64.2)

def firstChoice (accept : Nat → Option Nat) : Random.Draw Nat :=
  fun generator => generator.firstAccepted nextWord accept

theorem nextWord_lt (generator : Random.Generator) : (nextWord generator).1 < UInt64.size :=
  generator.next64.1.toNat_lt

/-- The first word that chooses a candidate decides the draw, and no other word does. -/
def DecidedByWord (candidates : List Production) (generator : Random.Generator)
    (outcome : Except GrammarError (Option Production)) (left : Random.Generator) : Prop :=
  ∃ place index production,
    generator.AcceptsAt nextWord (chosenBy? candidates) place index ∧
      candidates[index]? = some production ∧ outcome = .ok (some production) ∧
      left = generator.after nextWord (place + 1)

section drawing

variable {candidates : List Production} {generator left : Random.Generator}
  {outcome : Except GrammarError (Option Production)}

/-- A draw of a place is decided by a word as soon as every place that a word can give falls to a
candidate. -/
theorem run_eq_some_iff_decidedByWord {accept : Nat → Option Nat} {finish : Nat → Option Nat}
    (chosen : ∀ word, chosenBy? candidates word = (accept word).bind finish)
    (reached : ∀ word place, word < UInt64.size → accept word = some place →
      ∃ index production, finish place = some index ∧ candidates[index]? = some production) :
    (do
      let place ← firstChoice accept
      return (finish place).bind (candidates[·]?) : Sampled (Option Production)).run generator =
        some (outcome, left) ↔
      DecidedByWord candidates generator outcome left := by
  have total : ∀ (generator : Random.Generator) (place : Nat),
      accept (nextWord generator).1 = some place → ∃ index, finish place = some index := by
    intro generator place accepted
    obtain ⟨index, -, finished, -⟩ := reached _ place (nextWord_lt generator) accepted
    exact ⟨index, finished⟩
  rw [run_draw_return, Option.map_eq_some_iff, DecidedByWord, funext chosen]
  constructor
  · rintro ⟨⟨place, after⟩, drawn, same⟩
    obtain ⟨count, accepts, rfl⟩ := Random.Generator.firstAccepted_eq_some_iff.mp drawn
    obtain ⟨index, production, finished, listed⟩ :=
      reached _ place (nextWord_lt _) accepts.there
    simp only [finished, Option.bind_some, listed, Prod.mk.injEq] at same
    exact ⟨count, index, production,
      (Random.Generator.acceptsAt_bind_iff total).mpr ⟨place, accepts, finished⟩, listed,
      same.1.symm, same.2.symm⟩
  · rintro ⟨count, index, production, accepts, listed, rfl, rfl⟩
    obtain ⟨place, accepts, finished⟩ := (Random.Generator.acceptsAt_bind_iff total).mp accepts
    refine ⟨(place, _), accepts.firstAccepted, ?_⟩
    simp only [finished, Option.bind_some, listed]

theorem choose_evenly (inhabited : candidates ≠ []) (even : evenly candidates = true) :
    (choose candidates).run generator = some (outcome, left) ↔
      DecidedByWord candidates generator outcome left := by
  have chosen : ∀ word, chosenBy? candidates word =
      (Random.choice? 64 candidates.length (Random.uniformZone 64 candidates.length) word).bind
        some := by
    intro word
    simp only [chosenBy?, even, if_true, Option.bind_fun_some]
  rw [← run_eq_some_iff_decidedByWord chosen]
  · have some : ¬candidates.isEmpty = true := fun empty =>
      inhabited (List.isEmpty_iff.mp empty)
    have unfolded : choose candidates = do
        let place ← Random.below64 candidates.length
        return candidates[place]? := by
      rw [choose, if_neg some]
      exact if_pos even
    rw [unfolded]
    rfl
  · intro word place small accepted
    have below := Random.choice?_lt (List.length_pos_iff.mpr inhabited) small accepted
    exact ⟨place, candidates[place], rfl, List.getElem?_eq_getElem below⟩

theorem choose_unevenly (inhabited : candidates ≠ []) (uneven : evenly candidates = false)
    (positive : 0 < totalWeight candidates) :
    (choose candidates).run generator = some (outcome, left) ↔
      DecidedByWord candidates generator outcome left := by
  have chosen : ∀ word, chosenBy? candidates word =
      (Random.choice? 64 (totalWeight candidates) (Random.weightedZone (totalWeight candidates))
        word).bind (indexAt candidates) := by
    intro word
    simp only [chosenBy?, uneven, Bool.false_eq_true, if_false]
  rw [← run_eq_some_iff_decidedByWord chosen]
  · have some : ¬candidates.isEmpty = true := fun empty =>
      inhabited (List.isEmpty_iff.mp empty)
    have unfolded : choose candidates = do
        let place ← Random.belowTotal (totalWeight candidates)
        return (indexAt candidates place).bind (candidates[·]?) := by
      simp only [← atWeight_eq_bind]
      rw [choose, if_neg some]
      refine (if_neg ?_).trans (if_neg (Nat.ne_of_gt positive))
      exact Bool.eq_false_iff.mp uneven
    rw [unfolded]
    rfl
  · intro word place small accepted
    have below := Random.choice?_lt positive small accepted
    obtain ⟨index, found⟩ := exists_indexAt below
    obtain ⟨production, listed, -⟩ := indexAt_eq_some_iff.mp found
    exact ⟨index, production, found, listed⟩

theorem choose_eq_some_iff (inhabited : candidates ≠ [])
    (weighted : ∀ production ∈ candidates, production.weight ≠ 0) :
    (choose candidates).run generator = some (outcome, left) ↔
      DecidedByWord candidates generator outcome left := by
  cases even : evenly candidates with
  | true => exact choose_evenly inhabited even
  | false =>
      have heavy := length_le_totalWeight weighted
      have some := List.length_pos_iff.mpr inhabited
      exact choose_unevenly inhabited even (by omega)

end drawing

theorem candidates_none (rule : Rule) : rule.candidates none = rule.productions :=
  List.filter_eq_self.mpr fun _ _ => rfl

/-- A draw never fails, and it finds nothing only where there are no candidates. -/
theorem Sound.draw_cases {rule : Rule} (sound : rule.Sound) {filter : Option Filter}
    {generator left : Random.Generator} {outcome : Except GrammarError (Option Production)}
    (drawn : (rule.draw filter).run generator = some (outcome, left)) :
    (rule.candidates filter = [] ∧ outcome = .ok none) ∨
      ∃ production ∈ rule.candidates filter, outcome = .ok (some production) := by
  rw [draw] at drawn
  by_cases empty : rule.candidates filter = []
  · rw [empty] at drawn
    cases drawn
    exact .inl ⟨empty, rfl⟩
  · have weighted : ∀ production ∈ rule.candidates filter, production.weight ≠ 0 :=
      fun production member => sound.weighted production (List.mem_of_mem_filter member)
    obtain ⟨-, index, production, -, listed, rfl, -⟩ := (choose_eq_some_iff empty weighted).mp drawn
    exact .inr ⟨production, List.mem_of_getElem? listed, rfl⟩

/-- Whatever the weights are, what is drawn is a candidate. -/
theorem mem_candidates_of_draw {rule : Rule} {filter : Option Filter}
    {generator left : Random.Generator} {production : Production}
    (drawn : (rule.draw filter).run generator = some (.ok (some production), left)) :
    production ∈ rule.candidates filter := by
  unfold draw choose at drawn
  split at drawn
  · cases drawn
  · split at drawn
    · rw [run_draw_return] at drawn
      obtain ⟨⟨place, after⟩, -, same⟩ := Option.map_eq_some_iff.mp drawn
      simp only [Prod.mk.injEq, Except.ok.injEq] at same
      exact List.mem_of_getElem? same.1
    · simp only at drawn
      split at drawn
      · cases drawn
      · rw [run_draw_return] at drawn
        obtain ⟨⟨place, after⟩, -, same⟩ := Option.map_eq_some_iff.mp drawn
        simp only [atWeight_eq_bind, Prod.mk.injEq, Except.ok.injEq] at same
        obtain ⟨index, -, listed⟩ := Option.bind_eq_some_iff.mp same.1
        exact List.mem_of_getElem? listed

/-- A draw among productions of weight one takes the one at a place that is drawn uniformly. -/
theorem choose_light {productions : List Production} (some : productions ≠ [])
    (light : ∀ production ∈ productions, production.weight = 1) (generator : Random.Generator) :
    (choose productions).run generator =
      (Random.below64 productions.length generator).map fun drawn =>
        (.ok productions[drawn.1]?, drawn.2) := by
  have unfolded : choose productions = do
      let place ← Random.below64 productions.length
      return productions[place]? := by
    rw [choose, if_neg (by simpa using some), if_pos (by simpa using light)]
  rw [unfolded, run_draw_return]

/-- A draw among one production of weight one gives that production, and still takes words until one
is accepted. -/
theorem choose_single {production : Production} (light : production.weight = 1)
    (generator : Random.Generator) :
    (choose [production]).run generator =
      (Random.below64 1 generator).map fun drawn => (.ok (some production), drawn.2) := by
  rw [choose_light (List.cons_ne_nil _ _) (by simpa using light)]
  apply Option.map_congr
  intro drawn given
  obtain ⟨place, left⟩ := drawn
  have first : place = 0 :=
    Nat.lt_one_iff.mp (Random.below64_lt Nat.one_pos (Option.mem_def.mp given))
  subst first
  rfl

end Rule

end StoryGrammar
