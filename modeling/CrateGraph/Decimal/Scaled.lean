import CrateGraph.Decimal.Numeral

/-!
Decimal arithmetic with a fixed number of significant digits.

A number keeps its exponent, so `1.0` and `1` are told apart. Sums and products are exact up to the
last digit kept, where they are rounded half to even.
-/

namespace CrateGraph.Decimal

structure Scaled where
  coefficient : Int
  exponent : Int
deriving DecidableEq

namespace Scaled

def precision : Nat := 28

def ofInt (number : Int) : Scaled := ⟨number, 0⟩

def zero : Scaled := ofInt 0

def isZero (number : Scaled) : Bool :=
  number.coefficient = 0

def withSignOf (number : Int) (magnitude : Nat) : Int :=
  if number < 0 then -magnitude else magnitude

def rounded (number : Scaled) : Scaled :=
  let magnitude := number.coefficient.natAbs
  let surplus := (Nat.toDigits 10 magnitude).length - precision
  if surplus = 0 then number
  else
    let kept := roundHalfEven magnitude (Nat.pow 10 surplus)
    if kept = Nat.pow 10 precision then
      ⟨withSignOf number.coefficient (Nat.pow 10 (precision - 1)), number.exponent + surplus + 1⟩
    else ⟨withSignOf number.coefficient kept, number.exponent + surplus⟩

def coefficientAt (exponent : Int) (number : Scaled) : Int :=
  number.coefficient * Nat.pow 10 (number.exponent - exponent).toNat

def add (left right : Scaled) : Scaled :=
  let exponent := min left.exponent right.exponent
  rounded ⟨left.coefficientAt exponent + right.coefficientAt exponent, exponent⟩

def negate (number : Scaled) : Scaled :=
  { number with coefficient := -number.coefficient }

def subtract (left right : Scaled) : Scaled :=
  left.add right.negate

def multiply (left right : Scaled) : Scaled :=
  rounded ⟨left.coefficient * right.coefficient, left.exponent + right.exponent⟩

/-- The next integer below the quotient, after the quotient has been rounded. A quotient between
zero and one is never rounded to either of them, if the dividend has been rounded itself. -/
def floorQuotient (number : Scaled) (divisor : Nat) : Int :=
  let numerator := number.coefficient.natAbs * Nat.pow 10 number.exponent.toNat
  let denominator := divisor * Nat.pow 10 (-number.exponent).toNat
  let whole := numerator / denominator
  if whole = 0 then if number.coefficient < 0 then -1 else 0
  else
    let places : Int := precision - (Nat.toDigits 10 whole).length
    let kept := roundHalfEven (numerator * Nat.pow 10 places.toNat)
      (denominator * Nat.pow 10 (-places).toNat)
    (withSignOf number.coefficient (kept * Nat.pow 10 (-places).toNat)).fdiv
      (Nat.pow 10 places.toNat)

/-- The quotient and the remainder of the magnitude of a number. There is none if the quotient has
more digits than a result keeps. -/
def divide? (number : Scaled) (divisor : Nat) : Option (Nat × Scaled) :=
  let exponent := min number.exponent 0
  let magnitude := (number.coefficientAt exponent).natAbs
  let unit := divisor * Nat.pow 10 (-exponent).toNat
  if magnitude / unit < Nat.pow 10 precision then
    some (magnitude / unit, ⟨((magnitude % unit : Nat) : Int), exponent⟩)
  else none

/-- The number in full, as long as it needs no more than five zeros after the point, and otherwise
with one digit before the point and a power of ten. -/
def toString (number : Scaled) : String :=
  let digits := Nat.toDigits 10 number.coefficient.natAbs
  let leading := number.exponent + digits.length - 1
  let numeral : Numeral := ⟨number.coefficient < 0, number.coefficient.natAbs, number.exponent⟩
  if number.exponent ≤ 0 && -6 ≤ leading then numeral.inFull
  else
    let fraction := if digits.length = 1 then [] else '.' :: digits.tail
    let sign := if leading < 0 then '-' else '+'
    String.ofList (Numeral.signText numeral.negative ++ digits.take 1 ++ fraction ++
      'E' :: sign :: Nat.toDigits 10 leading.natAbs)

example : (add ⟨15, -1⟩ ⟨10, -1⟩).toString = "2.5" ∧
    (multiply ⟨5, -1⟩ (ofInt 12)).toString = "6.0" ∧ toString ⟨15, -9⟩ = "1.5E-8" := by
  decide +kernel

example : rounded (ofInt (10 ^ 29 - 1)) = ⟨10 ^ 27, 2⟩ ∧
    rounded (ofInt (10 ^ 28 + 5)) = ⟨10 ^ 27, 1⟩ := by
  decide +kernel

example : floorQuotient (ofInt (-1)) 12 = -1 ∧ floorQuotient ⟨245, -1⟩ 12 = 2 ∧
    divide? (ofInt (12 * 10 ^ 28)) 12 = none := by
  decide +kernel

end Scaled

end CrateGraph.Decimal
