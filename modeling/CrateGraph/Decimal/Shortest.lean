/-!
The shortest decimal that reads back as a given binary floating-point number.

A positive finite double is `significand * 2 ^ exponent`, and the reals that round to it form an
interval around it. For one digit, two digits and so on, the double's two neighbours on the grid of
decimals with that many digits are tested against the interval; the first grid with a neighbour
inside decides, and of two neighbours inside the nearer one is taken.
-/

namespace CrateGraph.Decimal

structure BinaryFloat where
  significand : Nat
  exponent : Int
  /-- The next smaller double is only half as far away as the next larger one. -/
  closerBelow : Bool

def BinaryFloat.ofBits (bits : Nat) : BinaryFloat :=
  let fraction := bits % Nat.pow 2 52
  let biased : Nat := bits / Nat.pow 2 52 % Nat.pow 2 11
  if biased = 0 then ⟨fraction, -1074, false⟩
  else ⟨fraction + Nat.pow 2 52, (biased : Int) - 1075, fraction = 0 && 1 < biased⟩

/-- A decimal `0.d₁d₂… * 10 ^ point`, its digits given most significant first. -/
structure Digits where
  digits : List Char
  point : Int

namespace BinaryFloat

/-- Whole numbers `value` and `unit` with `number / 10 ^ grid = 4 * significand * value / unit`. -/
def gridScale (number : BinaryFloat) (grid : Int) : Nat × Nat :=
  let shift := number.exponent - 2
  (Nat.pow 2 shift.toNat * Nat.pow 10 (-grid).toNat,
    Nat.pow 10 grid.toNat * Nat.pow 2 (-shift).toNat)

def roundsHere (number : BinaryFloat) (grid : Int) (candidate : Nat) : Bool :=
  let (value, unit) := number.gridScale grid
  let lower := (4 * number.significand - (if number.closerBelow then 1 else 2)) * value
  let upper := (4 * number.significand + 2) * value
  let place := candidate * unit
  if number.significand % 2 = 0 then lower ≤ place && place ≤ upper
  else lower < place && place < upper

def onGrid? (number : BinaryFloat) (grid : Int) : Option Nat :=
  let (value, unit) := number.gridScale grid
  let scaled := 4 * number.significand * value
  let below := scaled / unit
  let above := below + 1
  match number.roundsHere grid below, number.roundsHere grid above with
  | false, false => none
  | true, false => some below
  | false, true => some above
  | true, true =>
      let left := scaled - below * unit
      let right := above * unit - scaled
      if left < right then some below
      else if right < left then some above
      else if below % 2 = 0 then some below else some above

def decimalPoint (number : BinaryFloat) : Int :=
  let guess := ((number.significand.log2 + number.exponent) * 30103).fdiv 100000 + 1
  let (value, unit) := number.gridScale guess
  if 4 * number.significand * value < unit then guess else guess + 1

def shortest (number : BinaryFloat) : Digits :=
  let point := number.decimalPoint
  let found := (List.range' 1 17).findSome? fun (count : Nat) =>
    (number.onGrid? (point - (count : Int))).map fun digits => (digits, point - (count : Int))
  match found with
  | none => ⟨['0'], 1⟩
  | some (digits, grid) =>
      let written := Nat.toDigits 10 digits
      ⟨(written.reverse.dropWhile (· == '0')).reverse, (written.length : Int) + grid⟩

end BinaryFloat

end CrateGraph.Decimal
