/-!
The binary floating-point number nearest to a decimal.

A positive fraction is rounded to the 64-bit format in exact arithmetic: the significand is the
quotient by a power of two, rounded half to even, and the power is the least one that keeps the
significand within 53 bits and is not below the spacing of the subnormal numbers.
-/

namespace CrateGraph.Decimal

def roundHalfEven (numerator denominator : Nat) : Nat :=
  let floor := numerator / denominator
  let remainder := numerator % denominator
  if 2 * remainder < denominator then floor
  else if denominator < 2 * remainder then floor + 1
  else if floor % 2 = 0 then floor else floor + 1

def scaleByTwo (numerator denominator : Nat) (exponent : Int) : Nat × Nat :=
  (numerator * Nat.pow 2 (-exponent).toNat, denominator * Nat.pow 2 exponent.toNat)

def nearestBits (numerator denominator : Nat) : Nat :=
  let magnitude : Int := (numerator.log2 : Int) - (denominator.log2 : Int)
  let guess := max (magnitude - 53) (-1074)
  let (top, bottom) := scaleByTwo numerator denominator guess
  let exponent := if top / bottom < Nat.pow 2 53 then guess else guess + 1
  let (top, bottom) := scaleByTwo numerator denominator exponent
  let bits := roundHalfEven top bottom + (exponent + 1074).toNat * Nat.pow 2 52
  min bits (0x7FF * Nat.pow 2 52)

/-- Every double is a multiple of the smallest one, of which this many make up one. -/
def smallestUnits : Nat := Nat.pow 2 1074

def nearestUnits (numerator denominator : Nat) : Nat :=
  if numerator = 0 then 0
  else
    let bits := nearestBits numerator denominator
    let binade := bits / Nat.pow 2 52
    let significand := bits % Nat.pow 2 52
    if binade = 0 then significand else (Nat.pow 2 52 + significand) * Nat.pow 2 (binade - 1)

/-- The double nearest to `significand * 10 ^ exponent`. Exponents so far out that the result is
zero or infinite for every significand of that length are settled without any power of ten. -/
def nearest (significand : Nat) (exponent : Int) : Float :=
  let leading : Int := ((Nat.toDigits 10 significand).length : Int) + exponent
  if significand = 0 || leading < -330 then 0
  else if 330 < leading then Float.ofBits 0x7FF0000000000000
  else
    let numerator := significand * Nat.pow 10 exponent.toNat
    Float.ofBits (nearestBits numerator (Nat.pow 10 (-exponent).toNat)).toUInt64

example : nearestBits 1 10 = 0x3FB999999999999A := by decide +kernel

example : nearestBits (2 ^ 53 + 1) 1 = nearestBits (2 ^ 53) 1 := by decide +kernel

example : nearestBits 1 (2 ^ 1074) = 1 := by decide +kernel

example : nearestUnits 3 2 = 3 * 2 ^ 1073 ∧
    nearestUnits (2 ^ 53 + 1) 1 = 2 ^ 53 * smallestUnits := by
  decide +kernel

end CrateGraph.Decimal
