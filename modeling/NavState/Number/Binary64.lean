namespace NavState.Number

/-!
# Binary floating point magnitudes

A magnitude is a significand of at most 53 bits times a power of two, with the
exponent range of the 64-bit format.  Every operation computes the exact ratio
of naturals and rounds it once, to the nearest magnitude and in a tie to the
even significand.
-/

/-- The number `significand * 2 ^ exponent`, never negative and never infinite. -/
structure Binary64 where
  significand : Nat
  exponent : Int
  deriving Repr, DecidableEq

/-- The quotient rounded to the nearest natural, in a tie to the even one. -/
def roundQuotient (numerator denominator : Nat) : Nat :=
  let quotient := numerator / denominator
  let twice := 2 * (numerator % denominator)
  if denominator < twice ∨ (denominator = twice ∧ quotient % 2 = 1) then
    quotient + 1
  else
    quotient

namespace Binary64

/-- Significands stay below two to this power. -/
def precision : Nat := 53

/-- The least exponent, at which significands may be small. -/
def leastExponent : Int := -1074

/-- The greatest exponent. -/
def greatestExponent : Int := 971

/-- The exact value as a ratio of naturals. -/
def toRatio (value : Binary64) : Nat × Nat :=
  if 0 ≤ value.exponent then
    (value.significand <<< value.exponent.toNat, 1)
  else
    (value.significand, 1 <<< (-value.exponent).toNat)

/-- The exponent at which a positive ratio has its significand. -/
def exponentOf (numerator denominator : Nat) : Int :=
  let estimate : Int :=
    (numerator.log2 : Int) - (denominator.log2 : Int) - (precision : Int)
  let bound := estimate + (precision : Int)
  let reached :=
    if 0 ≤ bound then
      denominator <<< bound.toNat ≤ numerator
    else
      denominator ≤ numerator <<< (-bound).toNat
  max leastExponent (if reached then estimate + 1 else estimate)

/-- The nearest magnitude of a ratio, unless it exceeds the greatest one. -/
def ofRatio? (numerator denominator : Nat) : Option Binary64 :=
  if numerator = 0 then
    some ⟨0, leastExponent⟩
  else
    let exponent := exponentOf numerator denominator
    let rounded :=
      if 0 ≤ exponent then
        roundQuotient numerator (denominator <<< exponent.toNat)
      else
        roundQuotient (numerator <<< (-exponent).toNat) denominator
    let value : Binary64 :=
      if rounded = 1 <<< precision then
        ⟨1 <<< (precision - 1), exponent + 1⟩
      else
        ⟨rounded, exponent⟩
    if value.exponent ≤ greatestExponent then
      some value
    else
      none

/-- The rounded product. -/
def mul? (left right : Binary64) : Option Binary64 :=
  let (leftTop, leftBottom) := left.toRatio
  let (rightTop, rightBottom) := right.toRatio
  ofRatio? (leftTop * rightTop) (leftBottom * rightBottom)

/-- The rounded quotient. -/
def div? (left right : Binary64) : Option Binary64 :=
  let (leftTop, leftBottom) := left.toRatio
  let (rightTop, rightBottom) := right.toRatio
  ofRatio? (leftTop * rightBottom) (leftBottom * rightTop)

/-- Whether the value is zero. -/
def isZero (value : Binary64) : Bool :=
  value.significand = 0

end Binary64

end NavState.Number
