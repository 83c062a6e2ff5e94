set_option autoImplicit false

/-!
# Floating-point numbers

Numbers with a significand of 53 bits, in exact integer arithmetic: rounding a ratio to the nearest
of them, and writing one with the fewest digits that still identify it.
-/

namespace StoryGrammar.Json

/-- The number `significand * 2 ^ exponent`, negated if `negative`. Zero has a sign. -/
structure Float64 where
  negative : Bool
  significand : Nat
  exponent : Int
  deriving DecidableEq, Repr

namespace Float64

def minExponent : Int :=
  -1074

def maxExponent : Int :=
  971

/-- Every significand lies below this number. Only those of the smallest numbers are less than half
of it. -/
def significandLimit : Nat :=
  Nat.pow 2 53

/-- `numerator * 2 ^ exponent / denominator` with the power of two moved to the side where its
exponent is not negative. -/
def shiftedRatio (numerator denominator : Nat) (exponent : Int) : Nat × Nat :=
  (numerator * Nat.pow 2 exponent.toNat, denominator * Nat.pow 2 (-exponent).toNat)

def roundRatio (numerator denominator : Nat) : Nat :=
  let quotient := numerator / denominator
  let twice := 2 * (numerator % denominator)
  if twice < denominator then quotient
  else if denominator < twice then quotient + 1
  else quotient + quotient % 2

/-- The significand and exponent nearest to a ratio, unless it is too large. -/
def ofRatio? (numerator denominator : Nat) : Option (Nat × Int) :=
  if numerator = 0 then some (0, minExponent)
  else
    let estimate : Int := numerator.log2 - denominator.log2 - 53
    let (scaled, unit) := shiftedRatio numerator denominator (-estimate)
    let fitting := if scaled / unit < significandLimit then estimate else estimate + 1
    let exponent := max minExponent fitting
    let (scaled, unit) := shiftedRatio numerator denominator (-exponent)
    let significand := roundRatio scaled unit
    let (significand, exponent) :=
      if significand = significandLimit then (significandLimit / 2, exponent + 1)
      else (significand, exponent)
    if maxExponent < exponent then none else some (significand, exponent)

def largestPower : Nat :=
  308

/-- The nearest number to a number times a power of ten, that power rounded first. -/
def timesPower? (value : Nat × Int) (power : Nat) : Option (Nat × Int) := do
  let (significand, exponent) ← ofRatio? (Nat.pow 10 power) 1
  let (scaled, unit) := shiftedRatio (value.1 * significand) 1 (value.2 + exponent)
  ofRatio? scaled unit

/-- The nearest number to a number divided by a power of ten, that power rounded first. -/
def overPower? (value : Nat × Int) (power : Nat) : Option (Nat × Int) := do
  let (significand, exponent) ← ofRatio? (Nat.pow 10 power) 1
  let (scaled, unit) := shiftedRatio value.1 significand (value.2 - exponent)
  ofRatio? scaled unit

/-- The number that a decimal significand and a power of ten make, unless it is too large. The
significand is rounded first. Large negative powers are applied piece by piece. -/
def scale? (value : Nat × Int) (power : Int) : (pieces : Nat) → Option (Nat × Int)
  | 0 => some value
  | pieces + 1 =>
      if value.1 = 0 then some value
      else if power.natAbs ≤ largestPower then
        if 0 ≤ power then timesPower? value power.toNat else overPower? value (-power).toNat
      else if 0 ≤ power then none
      else
        match overPower? value largestPower with
        | some value => scale? value (power + largestPower) pieces
        | none => none

def ofDecimal? (negative : Bool) (digits : Nat) (power : Int) : Option Float64 := do
  let value ← ofRatio? digits 1
  let (significand, exponent) ← scale? value power (power.natAbs / largestPower + 1)
  return ⟨negative, significand, exponent⟩

/-! ## Shortest decimal text -/

/-- Half the distance to the next smaller number, in quarters of the last place. Below a power of
two the distance is half of what it is above. -/
def gapBelow (value : Float64) : Nat :=
  if value.significand = significandLimit / 2 ∧ minExponent < value.exponent then 1 else 2

/-- Whether `decimal * 10 ^ power` rounds to a number: it lies within half a gap of it, or at
exactly half a gap of a number with an even significand. -/
def identifies (value : Float64) (decimal : Nat) (power : Int) : Bool :=
  let (left, leftUnit) := shiftedRatio (4 * decimal * Nat.pow 10 power.toNat)
    (Nat.pow 10 (-power).toNat) (-value.exponent)
  let low := (4 * value.significand - value.gapBelow) * leftUnit
  let high := (4 * value.significand + 2) * leftUnit
  if value.significand % 2 = 0 then low ≤ left && left ≤ high else low < left && left < high

def overTen (value : Float64) (power : Int) : Nat × Nat :=
  let (numerator, denominator) := shiftedRatio value.significand 1 value.exponent
  (numerator * Nat.pow 10 (-power).toNat, denominator * Nat.pow 10 power.toNat)

/-- Of the multiples of a power of ten on both sides of a number, the nearest that identifies
it. -/
def nearestMultiple? (value : Float64) (power : Int) : Option Nat :=
  let (numerator, denominator) := value.overTen power
  let below := numerator / denominator
  let nearest := roundRatio numerator denominator
  let other := if nearest = below then below + 1 else below
  if value.identifies nearest power then some nearest
  else if value.identifies other power then some other
  else none

/-- The number of decimal digits before the point of a number, negative for leading zeros after
it. -/
def magnitude (value : Float64) : Int :=
  let (numerator, denominator) := value.overTen 0
  if denominator ≤ numerator then (toString (numerator / denominator)).length
  else
    let zeros := (toString (denominator / numerator)).length
    if Nat.pow 10 (zeros - 1) * numerator = denominator then 2 - (zeros : Int)
    else 1 - (zeros : Int)

/-- The fewest digits that identify a number, and the power of ten of the last of them. -/
def shortest (value : Float64) : (fewer : Nat) → (digits : Nat) → Nat × Int
  | 0, digits => ((value.overTen (value.magnitude - digits)).1, value.magnitude - digits)
  | fewer + 1, digits =>
      match value.nearestMultiple? (value.magnitude - digits) with
      | some decimal => (decimal, value.magnitude - digits)
      | none => shortest value fewer (digits + 1)

def withoutTrailingZeros (digits : List Char) : List Char :=
  (digits.reverse.dropWhile (· == '0')).reverse

def exponentText (exponent : Int) : String :=
  (if exponent < 0 then "e-" else "e+") ++ toString exponent.natAbs

/-- The text of the number `d.ddd… * 10 ^ exponent`. From a hundred-thousandth to below 10^16 the
point is put in its place, and a whole number keeps one zero after it. -/
def decimalText (digits : List Char) (exponent : Int) : String :=
  if -5 ≤ exponent ∧ exponent < 0 then
    "0." ++ String.ofList (List.replicate (-exponent - 1).toNat '0' ++ digits)
  else if 0 ≤ exponent ∧ exponent < 16 then
    let whole := exponent.toNat + 1
    let padded := digits ++ List.replicate (whole + 1 - digits.length) '0'
    String.ofList (padded.take whole) ++ "." ++ String.ofList (padded.drop whole)
  else
    match digits with
    | [] => "0.0"
    | [digit] => digit.toString ++ exponentText exponent
    | digit :: more => digit.toString ++ "." ++ String.ofList more ++ exponentText exponent

def text (value : Float64) : String :=
  let sign := if value.negative then "-" else ""
  if value.significand = 0 then sign ++ "0.0"
  else
    let (decimal, power) := value.shortest 17 1
    let written := (toString decimal).toList
    sign ++ decimalText (withoutTrailingZeros written) (power + written.length - 1)

end Float64

end StoryGrammar.Json
