import NavState.Number.Binary64

namespace NavState.Number

/-!
# Shortest decimals

The decimal of a binary magnitude has the fewest digits that still read back as
that magnitude, and of those the nearest.  For each number of digits only the
two neighbours of the exact value on that decimal grid can qualify, so trying
the grids from coarse to fine finds it.
-/

/-- The number `digits * 10 ^ exponent`. -/
structure Decimal where
  digits : Nat
  exponent : Int
  deriving Repr, DecidableEq

/-- Number of decimal digits of a natural. -/
def digitCount (value : Nat) : Nat :=
  (Nat.toDigits 10 value).length

/-- The exponent of the leading decimal digit of a positive ratio. -/
def leadingExponent (numerator denominator : Nat) : Int :=
  if denominator ≤ numerator then
    (digitCount (numerator / denominator) : Int) - 1
  else
    let inverse := (denominator + numerator - 1) / numerator
    Int.neg (digitCount (inverse - 1))

/-- The ratios that round to one magnitude, over a common denominator. -/
structure RoundingInterval where
  low : Nat
  value : Nat
  high : Nat
  denominator : Nat
  /-- Whether the ends themselves round to the magnitude. -/
  closed : Bool

namespace RoundingInterval

/-- The interval of a magnitude: half a unit to both sides, less below a power of two. -/
def of (magnitude : Binary64) : RoundingInterval :=
  let quarter := magnitude.exponent - 2
  let below :=
    if magnitude.significand = 1 <<< (Binary64.precision - 1) ∧
        Binary64.leastExponent < magnitude.exponent then
      1
    else
      2
  { low := (4 * magnitude.significand - below) <<< quarter.toNat
    value := (4 * magnitude.significand) <<< quarter.toNat
    high := (4 * magnitude.significand + 2) <<< quarter.toNat
    denominator := 1 <<< (-quarter).toNat
    closed := magnitude.significand % 2 = 0 }

/-- A multiple of a power of ten, over the denominator of the interval. -/
def scale
    (interval : RoundingInterval)
    (exponent : Int)
    (multiple : Nat) :
    Nat × Nat :=
  (multiple * Nat.pow 10 exponent.toNat * interval.denominator,
    Nat.pow 10 (-exponent).toNat)

/-- Whether a multiple of a power of ten lies in the interval. -/
def holds
    (interval : RoundingInterval)
    (exponent : Int)
    (multiple : Nat) :
    Bool :=
  let (point, scaling) := interval.scale exponent multiple
  if interval.closed then
    interval.low * scaling ≤ point ∧ point ≤ interval.high * scaling
  else
    interval.low * scaling < point ∧ point < interval.high * scaling

/-- The multiple of a power of ten in the interval that is nearest to the value. -/
def nearest?
    (interval : RoundingInterval)
    (exponent : Int) :
    Option Nat :=
  let below :=
    interval.value * Nat.pow 10 (-exponent).toNat /
      (interval.denominator * Nat.pow 10 exponent.toNat)
  match interval.holds exponent below, interval.holds exponent (below + 1) with
  | true, true =>
      let (lower, scaling) := interval.scale exponent below
      let (upper, _) := interval.scale exponent (below + 1)
      let centre := interval.value * scaling
      if centre - lower < upper - centre ∨
          (centre - lower = upper - centre ∧ below % 2 = 0) then
        some below
      else
        some (below + 1)
  | true, false => some below
  | false, true => some (below + 1)
  | false, false => none

end RoundingInterval

/-- The most digits that a magnitude ever needs. -/
def mostDigits : Nat := 17

/-- The shortest decimal that reads back as the magnitude. -/
def Decimal.shortest (magnitude : Binary64) : Decimal :=
  if magnitude.isZero then
    ⟨0, 0⟩
  else
    let interval := RoundingInterval.of magnitude
    let leading := leadingExponent interval.value interval.denominator
    let found := (List.range mostDigits).findSome? fun (finer : Nat) =>
      let exponent := leading - (finer : Int)
      (interval.nearest? exponent).map fun digits => Decimal.mk digits exponent
    found.getD ⟨0, 0⟩

namespace Decimal

/-- The digits without trailing zeros; the exponent makes up for them. -/
def significantDigits (decimal : Decimal) : List Char :=
  let digits := Nat.toDigits 10 decimal.digits
  let significant := (digits.reverse.dropWhile (· = '0')).reverse
  if significant.isEmpty then
    ['0']
  else
    significant

/-- The power of ten that the leading digit counts. -/
def leadingPower (decimal : Decimal) : Int :=
  (digitCount decimal.digits : Int) - 1 + decimal.exponent

/-- Positional text; `whole` follows the digits of a whole number. -/
def positional (whole : String) (decimal : Decimal) : String :=
  let digits := decimal.significantDigits
  let before := decimal.leadingPower + 1
  if before ≤ 0 then
    "0." ++ String.ofList (List.replicate (-before).toNat '0' ++ digits)
  else if digits.length ≤ before.toNat then
    String.ofList
      (digits ++ List.replicate (before.toNat - digits.length) '0') ++ whole
  else
    String.ofList (digits.take before.toNat) ++ "." ++
      String.ofList (digits.drop before.toNat)

/-- Scientific text with a signed exponent. -/
def scientific (decimal : Decimal) : String :=
  let digits := decimal.significantDigits
  let fraction := digits.drop 1
  let power := decimal.leadingPower
  String.ofList (digits.take 1) ++
    (if fraction.isEmpty then "" else "." ++ String.ofList fraction) ++
    (if power < 0 then "e-" else "e+") ++
    toString power.natAbs

end Decimal

end NavState.Number
