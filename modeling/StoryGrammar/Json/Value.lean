import StoryGrammar.Json.Float
import StoryGrammar.Text.Quoted

set_option autoImplicit false

/-!
# JSON values

Values, and what is reported when a value is not of the expected kind.
-/

namespace StoryGrammar.Json

/-- Numbers. A number written without fraction and exponent that fits 64 bits is an integer, except
negative zero; all others are floating-point. -/
inductive Number where
  | integer (value : Int)
  | float (value : Float64)
  deriving DecidableEq, Repr

/-- Values. The members of an object are in the order they were written in, with repetitions. -/
inductive Value where
  | null
  | boolean (value : Bool)
  | number (value : Number)
  | string (text : String)
  | array (items : List Value)
  | object (members : List (String × Value))
  deriving Repr

inductive Found where
  | null
  | boolean (value : Bool)
  | number (value : Number)
  | string (text : String)
  | sequence
  | map
  deriving DecidableEq, Repr

/-- What a value is, apart from the contents of arrays and objects. -/
def Value.found : Value → Found
  | .null => .null
  | .boolean value => .boolean value
  | .number value => .number value
  | .string text => .string text
  | .array _ => .sequence
  | .object _ => .map

def Found.describe : Found → String
  | .null => "null"
  | .boolean value => "boolean `" ++ (if value then "true" else "false") ++ "`"
  | .number (.integer value) => "integer `" ++ toString value ++ "`"
  | .number (.float value) => "floating point `" ++ value.text ++ "`"
  | .string text => "string " ++ Text.quoted text
  | .sequence => "sequence"
  | .map => "map"

/-- A value of the wrong kind, or of the right kind but out of range. -/
inductive Mismatch where
  | kind (found : Found) (expected : String)
  | range (found : Found) (expected : String)
  deriving DecidableEq, Repr

def Mismatch.message : Mismatch → String
  | .kind found expected => "invalid type: " ++ found.describe ++ ", expected " ++ expected
  | .range found expected => "invalid value: " ++ found.describe ++ ", expected " ++ expected

def Found.text? : Found → Except Mismatch String
  | .string text => .ok text
  | found => .error (.kind found "a string")

/-- The natural number below `2 ^ bits` that a value must be, called by the given name where it is
not. -/
def Found.natural? (found : Found) (bits : Nat) (expected : String) : Except Mismatch Nat :=
  match found with
  | .number (.integer value) =>
      if 0 ≤ value ∧ value.toNat < Nat.pow 2 bits then .ok value.toNat
      else .error (.range found expected)
  | _ => .error (.kind found expected)

end StoryGrammar.Json
