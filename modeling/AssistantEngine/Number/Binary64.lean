import AssistantEngine.Number.Power

/-!
Binary floating-point numbers with 53 significant bits. A finite number is held as its
sign and the product `significand * 2 ^ exponent`, so every operation here is exact
arithmetic on integers followed by one rounding to the nearest number, ties to even.
-/

namespace AssistantEngine

/-- Finite numbers are kept in the form `roundRatio` produces: the significand is below
`2 ^ 53`, and it is at least `2 ^ 52` unless the exponent is the least one, `-1074`. -/
inductive Binary64 where
  | finite (negative : Bool) (significand : Nat) (exponent : Int)
  | infinite (negative : Bool)
  | notANumber
deriving DecidableEq, Repr, Inhabited

namespace Binary64

def leastExponent : Int := -1074

def greatestExponent : Int := 971

def zero (negative : Bool) : Binary64 := .finite negative 0 leastExponent

/-- `numerator / (denominator * 2 ^ exponent)`, as a quotient of naturals. -/
def scaledRatio (numerator denominator : Nat) (exponent : Int) : Nat × Nat :=
  if 0 ≤ exponent then (numerator, denominator * twoTo exponent.toNat)
  else (numerator * twoTo (-exponent).toNat, denominator)

/-- The quotient rounded to the nearest natural; a tie goes to the even one. -/
def roundQuotient (numerator denominator : Nat) : Nat :=
  let quotient := numerator / denominator
  let twice := 2 * (numerator % denominator)
  if twice > denominator || (twice == denominator && quotient % 2 == 1) then quotient + 1
  else quotient

/-- The number nearest to `numerator / denominator`. -/
def roundRatio (negative : Bool) (numerator denominator : Nat) : Binary64 :=
  if numerator = 0 then zero negative
  else
    let estimate : Int := (numerator.log2 : Int) - denominator.log2 - 53
    let (top, bottom) := scaledRatio numerator denominator estimate
    let exponent := max leastExponent (if top / bottom ≥ twoTo 53 then estimate + 1 else estimate)
    let (top, bottom) := scaledRatio numerator denominator exponent
    let rounded := roundQuotient top bottom
    let (significand, exponent) :=
      if rounded = twoTo 53 then (twoTo 52, exponent + 1) else (rounded, exponent)
    if exponent > greatestExponent then .infinite negative
    else .finite negative significand exponent

def ofNat (value : Nat) : Binary64 := roundRatio false value 1

/-- The number nearest to a natural, where that is a natural too. -/
def nearestNat (value : Nat) : Nat :=
  match ofNat value with
  | .finite _ significand exponent => significand * twoTo exponent.toNat
  | _ => value

def ofInt (value : Int) : Binary64 := roundRatio (decide (value < 0)) value.natAbs 1

/-- The number nearest to `digits * 10 ^ exponent`. The magnitude is bounded first, so
that a long exponent does not ask for a power of ten of that size. -/
def ofDecimal (negative : Bool) (digits : Nat) (exponent : Int) : Binary64 :=
  if digits = 0 then zero negative
  else
    let magnitude := exponent + (Nat.toDigits 10 digits).length
    if magnitude > 400 then .infinite negative
    else if magnitude < -400 then zero negative
    else if 0 ≤ exponent then roundRatio negative (digits * tenTo exponent.toNat) 1
    else roundRatio negative digits (tenTo (-exponent).toNat)

def isFinite : Binary64 → Bool
  | .finite .. => true
  | _ => false

def negate : Binary64 → Binary64
  | .finite negative significand exponent => .finite (!negative) significand exponent
  | .infinite negative => .infinite (!negative)
  | .notANumber => .notANumber

/-- The absolute value of a finite number as a quotient of naturals. -/
def magnitudeRatio (significand : Nat) (exponent : Int) : Nat × Nat :=
  if 0 ≤ exponent then (significand * twoTo exponent.toNat, 1)
  else (significand, twoTo (-exponent).toNat)

/-- The product of a finite number with a natural that is itself rounded first. -/
def timesRounded (value : Binary64) (factor : Nat) : Binary64 :=
  match value, ofNat factor with
  | .finite negative significand exponent, .finite _ factorSignificand factorExponent =>
    let (top, bottom) := magnitudeRatio significand exponent
    let (factorTop, factorBottom) := magnitudeRatio factorSignificand factorExponent
    roundRatio negative (top * factorTop) (bottom * factorBottom)
  | .finite negative _ _, _ => .infinite negative
  | other, _ => other

/-- The quotient of a finite number by a natural that is itself rounded first. -/
def overRounded (value : Binary64) (divisor : Nat) : Binary64 :=
  match value, ofNat divisor with
  | .finite negative significand exponent, .finite _ divisorSignificand divisorExponent =>
    let (top, bottom) := magnitudeRatio significand exponent
    let (divisorTop, divisorBottom) := magnitudeRatio divisorSignificand divisorExponent
    roundRatio negative (top * divisorBottom) (bottom * divisorTop)
  | .finite negative _ _, _ => zero negative
  | other, _ => other

end Binary64

end AssistantEngine
