import CrateGraph.Decimal.Shortest

/-!
How the digits of a floating-point number are laid out as text.
-/

namespace CrateGraph.Decimal

/-- Numbers whose leading digit stands for `10 ^ e` are written positionally for `e` from
`leastPositional` on and below `leastScientific`, with a point in every case; the others get an
exponent with a sign and at least `exponentWidth` digits. -/
structure Layout where
  leastPositional : Int
  leastScientific : Int
  exponentWidth : Nat

namespace Layout

def zeros (count : Nat) : List Char :=
  List.replicate count '0'

def positional (number : Digits) : List Char :=
  if number.point ≤ 0 then
    '0' :: '.' :: zeros (-number.point).toNat ++ number.digits
  else
    let whole := number.point.toNat
    if number.digits.length ≤ whole then
      number.digits ++ zeros (whole - number.digits.length) ++ ['.', '0']
    else
      number.digits.take whole ++ '.' :: number.digits.drop whole

def scientific (layout : Layout) (number : Digits) : List Char :=
  let exponent := number.point - 1
  let written := Nat.toDigits 10 exponent.natAbs
  let mantissa :=
    match number.digits with
    | [] => []
    | [digit] => [digit]
    | digit :: rest => digit :: '.' :: rest
  mantissa ++ 'e' :: (if exponent < 0 then '-' else '+') ::
    zeros (layout.exponentWidth - written.length) ++ written

def write (layout : Layout) (number : Digits) : List Char :=
  let exponent := number.point - 1
  if layout.leastPositional ≤ exponent ∧ exponent < layout.leastScientific then positional number
  else layout.scientific number

def writeBits (layout : Layout) (bits : Nat) : String :=
  let magnitude := bits % Nat.pow 2 63
  let infinity := 0x7FF * Nat.pow 2 52
  if infinity < magnitude then "nan"
  else
    let sign := if bits < Nat.pow 2 63 then [] else ['-']
    let body :=
      if magnitude = infinity then "inf".toList
      else if magnitude = 0 then "0.0".toList
      else layout.write (BinaryFloat.ofBits magnitude).shortest
    String.ofList (sign ++ body)

def writeFloat (layout : Layout) (value : Float) : String :=
  layout.writeBits value.toBits.toNat

/-- Floating-point numbers are written positionally from 0.0001 up to below 10^16, and otherwise
with an exponent of at least two digits. -/
def standard : Layout := ⟨-4, 16, 2⟩

example : standard.writeBits 0x3F1A36E2EB1C432D = "0.0001" ∧
    standard.writeBits 0x4341C37937E08000 = "1e+16" := by
  decide +kernel

end Layout

end CrateGraph.Decimal
