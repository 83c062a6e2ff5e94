import StoryGrammar.Template.Basic

set_option autoImplicit false

/-!
# Equality of templates

Nodes, actions and values contain lists of each other, so equality of all of them is decided
together, one constructor at a time.
-/

namespace StoryGrammar

mutual

def Node.decideEq : (left right : Node) → Decidable (left = right)
  | .literal text, .literal other => decidable_of_iff (text = other) (by simp)
  | .binding actions, .binding others =>
      match Action.decideEqList actions others with
      | .isTrue same => .isTrue (by rw [same])
      | .isFalse different => .isFalse (by simpa using different)
  | .reference actions symbol filter modifiers, .reference others symbol' filter' modifiers' =>
      match Action.decideEqList actions others with
      | .isTrue same =>
          decidable_of_iff (symbol = symbol' ∧ filter = filter' ∧ modifiers = modifiers')
            (by simp [same])
      | .isFalse different => .isFalse (by simp [different])
  | .literal _, .binding _ => .isFalse (by simp)
  | .literal _, .reference _ _ _ _ => .isFalse (by simp)
  | .binding _, .literal _ => .isFalse (by simp)
  | .binding _, .reference _ _ _ _ => .isFalse (by simp)
  | .reference _ _ _ _, .literal _ => .isFalse (by simp)
  | .reference _ _ _ _, .binding _ => .isFalse (by simp)

def Node.decideEqList : (left right : List Node) → Decidable (left = right)
  | [], [] => .isTrue rfl
  | node :: nodes, other :: others =>
      match Node.decideEq node other, Node.decideEqList nodes others with
      | .isTrue head, .isTrue tail => .isTrue (by rw [head, tail])
      | .isFalse different, _ => .isFalse (by simp [different])
      | _, .isFalse different => .isFalse (by simp [different])
  | [], _ :: _ => .isFalse (by simp)
  | _ :: _, [] => .isFalse (by simp)

def Action.decideEqList : (left right : List Action) → Decidable (left = right)
  | [], [] => .isTrue rfl
  | .bind reset key values :: actions, .bind reset' key' values' :: others =>
      match ActionValue.decideEqList values values', Action.decideEqList actions others with
      | .isTrue head, .isTrue tail =>
          decidable_of_iff (reset = reset' ∧ key = key') (by simp [head, tail])
      | .isFalse different, _ => .isFalse (by simp [different])
      | _, .isFalse different => .isFalse (by simp [different])
  | [], _ :: _ => .isFalse (by simp)
  | _ :: _, [] => .isFalse (by simp)

def ActionValue.decideEqList : (left right : List ActionValue) → Decidable (left = right)
  | [], [] => .isTrue rfl
  | .value operator nodes :: values, .value operator' nodes' :: others =>
      match Node.decideEqList nodes nodes', ActionValue.decideEqList values others with
      | .isTrue head, .isTrue tail =>
          decidable_of_iff (operator = operator') (by simp [head, tail])
      | .isFalse different, _ => .isFalse (by simp [different])
      | _, .isFalse different => .isFalse (by simp [different])
  | [], _ :: _ => .isFalse (by simp)
  | _ :: _, [] => .isFalse (by simp)

end

instance : DecidableEq Node :=
  Node.decideEq

end StoryGrammar
