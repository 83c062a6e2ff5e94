import Mathlib.Data.List.Forall2

set_option autoImplicit false

/-!
# Outcomes

What a function that may fail gives, and how it fails, as two relations. Where every argument is in
one of them, they tell the same as the outcomes. Over a list, the first item that fails decides.
-/

namespace StoryGrammar

section outcomes

variable {α β Error : Type} {function : α → Except Error β} {Gives : α → β → Prop}
  {Fails : α → Error → Prop}

/-! ## Items of lists -/

/-- The fault of the first item that has one. -/
def FirstFault (Fits : α → Prop) (Fault : α → Error → Prop) (items : List α) (error : Error) :
    Prop :=
  ∃ before item after, items = before ++ item :: after ∧ (∀ earlier ∈ before, Fits earlier) ∧
    Fault item error

theorem fit_or_firstFault {Fits : α → Prop} {Fault : α → Error → Prop}
    (decided : ∀ item, Fits item ∨ ∃ error, Fault item error) (items : List α) :
    (∀ item ∈ items, Fits item) ∨ ∃ error, FirstFault Fits Fault items error := by
  induction items with
  | nil => exact .inl fun item member => nomatch member
  | cons item items ih =>
      rcases decided item with fits | ⟨error, fault⟩
      · rcases ih with others | ⟨error, before, faulty, after, rfl, fit, fault⟩
        · exact .inl (List.forall_mem_cons.mpr ⟨fits, others⟩)
        · exact .inr ⟨error, item :: before, faulty, after, rfl,
            List.forall_mem_cons.mpr ⟨fits, fit⟩, fault⟩
      · exact .inr ⟨error, [], item, items, rfl, (fun earlier member => nomatch member), fault⟩

theorem mapM_cons_ok {item : α} {items : List α} {results : List β}
    (mapped : (item :: items).mapM function = .ok results) :
    ∃ first rest, function item = .ok first ∧ items.mapM function = .ok rest ∧
      results = first :: rest := by
  rw [List.mapM_cons] at mapped
  cases first : function item with
  | error error => simp [first, bind, Except.bind] at mapped
  | ok value =>
      cases rest : items.mapM function with
      | error error => simp [first, rest, bind, Except.bind] at mapped
      | ok values =>
          simp only [first, rest, bind, Except.bind, pure, Except.pure, Except.ok.injEq] at mapped
          exact ⟨value, values, rfl, rfl, mapped.symm⟩

theorem exists_of_mem_mapM {items : List α} {results : List β}
    (mapped : items.mapM function = .ok results) {result : β} (member : result ∈ results) :
    ∃ item ∈ items, function item = .ok result := by
  induction items generalizing results with
  | nil =>
      cases mapped
      cases member
  | cons item items ih =>
      obtain ⟨first, rest, atFirst, atRest, rfl⟩ := mapM_cons_ok mapped
      rcases List.mem_cons.mp member with rfl | later
      · exact ⟨item, .head _, atFirst⟩
      · obtain ⟨origin, present, same⟩ := ih atRest later
        exact ⟨origin, .tail _ present, same⟩

/-! ## Specifications -/

/-- What a function gives and how it fails, one or the other for every argument. -/
structure Specified (function : α → Except Error β) (Gives : α → β → Prop)
    (Fails : α → Error → Prop) : Prop where
  gives : ∀ {given result}, Gives given result → function given = .ok result
  fails : ∀ {given error}, Fails given error → function given = .error error
  total : ∀ given, (∃ result, Gives given result) ∨ ∃ error, Fails given error

namespace Specified

theorem eq_ok_iff (specified : Specified function Gives Fails) {given : α} {result : β} :
    function given = .ok result ↔ Gives given result := by
  refine ⟨fun outcome => ?_, specified.gives⟩
  rcases specified.total given with ⟨other, gives⟩ | ⟨error, fails⟩
  · rw [specified.gives gives] at outcome
    cases outcome
    exact gives
  · rw [specified.fails fails] at outcome
    cases outcome

theorem eq_error_iff (specified : Specified function Gives Fails) {given : α} {error : Error} :
    function given = .error error ↔ Fails given error := by
  refine ⟨fun outcome => ?_, specified.fails⟩
  rcases specified.total given with ⟨result, gives⟩ | ⟨other, fails⟩
  · rw [specified.gives gives] at outcome
    cases outcome
  · rw [specified.fails fails] at outcome
    cases outcome
    exact fails

theorem mapM (specified : Specified function Gives Fails) :
    Specified (List.mapM function) (List.Forall₂ Gives)
      (FirstFault (fun item => ∃ result, Gives item result) Fails) where
  gives := by
    intro items results all
    induction all with
    | nil => rfl
    | cons gives _ ih =>
        rw [List.mapM_cons, specified.gives gives, ih]
        rfl
  fails := by
    intro items error first
    obtain ⟨before, item, after, rfl, fit, fails⟩ := first
    induction before with
    | nil =>
        rw [List.nil_append, List.mapM_cons, specified.fails fails]
        rfl
    | cons earlier before ih =>
        obtain ⟨⟨result, gives⟩, fit⟩ := List.forall_mem_cons.mp fit
        rw [List.cons_append, List.mapM_cons, specified.gives gives, ih fit]
        rfl
  total := by
    intro items
    rcases fit_or_firstFault specified.total items with all | failing
    · refine .inl ?_
      induction items with
      | nil => exact ⟨[], .nil⟩
      | cons item items ih =>
          obtain ⟨⟨result, gives⟩, others⟩ := List.forall_mem_cons.mp all
          obtain ⟨results, rest⟩ := ih others
          exact ⟨result :: results, .cons gives rest⟩
    · exact .inr failing

end Specified

end outcomes

end StoryGrammar
