import NavState.Config.Basic

namespace NavState.Config

/-!
# Numerals in configuration text

A numeral without fraction and exponent is an integer while it fits into 64
bits, with a sign of its own for the negative ones; every other numeral is a
float.  A float keeps as many leading digits as fit into 64 bits and scales them
by a power of ten in floating point, so its last bit may differ from that of the
nearest magnitude.
-/

/-- The parts of a numeral. -/
structure Numeral where
  negative : Bool
  whole : List Char
  /-- The digits behind the point, if there is one. -/
  fraction : Option (List Char)
  /-- The signed exponent, if there is one. -/
  exponent : Option Int
  deriving Repr, DecidableEq

/-- The value of a decimal digit. -/
def digitValue (digit : Char) : Nat :=
  digit.toNat - '0'.toNat

/-- The value of a run of digits. -/
def digitsValue (digits : List Char) : Nat :=
  digits.foldl (fun value digit => value * 10 + digitValue digit) 0

/-- Append digits while the significand fits, giving the digits left over. -/
def appendDigits (significand : Nat) : List Char → Nat × List Char
  | [] => (significand, [])
  | digit :: rest =>
      let longer := significand * 10 + digitValue digit
      if longer < UInt64.size then
        appendDigits longer rest
      else
        (significand, digit :: rest)

/-- Powers of ten beyond this one are no magnitudes. -/
def greatestPower : Nat := 308

/-- A power of ten as a magnitude. -/
def powerOfTen (power : Nat) : Number.Binary64 :=
  (Number.Binary64.ofRatio? (Nat.pow 10 power) 1).getD ⟨0, 0⟩

/-- Divide by a power of ten, in steps that are magnitudes themselves. -/
def scaleDown (power : Nat) (value : Number.Binary64) : Number.Binary64 :=
  if _small : power ≤ greatestPower then
    (value.div? (powerOfTen power)).getD value
  else if value.isZero then
    value
  else
    scaleDown
      (power - greatestPower)
      ((value.div? (powerOfTen greatestPower)).getD value)
termination_by power
decreasing_by
  simp only [greatestPower] at *
  omega

/-- The magnitude of a significand and a power of ten, unless it is too large. -/
def scaled? (significand : Nat) (exponent : Int) : Option Number.Binary64 := do
  let value ← Number.Binary64.ofRatio? significand 1
  if exponent < 0 then
    some (scaleDown exponent.natAbs value)
  else if exponent.toNat ≤ greatestPower then
    value.mul? (powerOfTen exponent.toNat)
  else if value.isZero then
    some value
  else
    none

/-- The magnitude of a numeral read as a float, unless it is too large. -/
def Numeral.magnitude? (numeral : Numeral) : Option Number.Binary64 :=
  let (whole, dropped) := appendDigits 0 numeral.whole
  let digits := numeral.fraction.getD []
  let (significand, ignored) := appendDigits whole digits
  let kept := digits.length - ignored.length
  scaled? significand
    ((dropped.length : Int) - (kept : Int) + numeral.exponent.getD 0)

/-- What a numeral stands for; numerals too large for a float are malformed. -/
def Numeral.found (numeral : Numeral) : Except ReadError Found :=
  let value := digitsValue numeral.whole
  let isWhole := numeral.fraction.isNone && numeral.exponent.isNone
  if isWhole && !numeral.negative && value < UInt64.size then
    .ok (.integer value)
  else if isWhole && numeral.negative && 0 < value && value ≤ UInt64.size / 2 then
    .ok (.integer (-(value : Int)))
  else
    match numeral.magnitude? with
    | some magnitude => .ok (.float numeral.negative magnitude)
    | none => .error .malformed

end NavState.Config
