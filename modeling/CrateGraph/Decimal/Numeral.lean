import CrateGraph.Decimal.Nearest
import CrateGraph.Text.Blank
import CrateGraph.Text.DecimalDigit

/-!
Numbers as they are written.

A number may have blanks around it, its digits may be those of any script, and single underscores
may group them. `Numeral` is a number in decimal notation, which keeps its places and the sign of a
zero.
-/

namespace CrateGraph.Decimal

/-- A whole number that is read has at most this many digits. -/
def longestInteger : Nat := 4300

def digitsToNat (digits : List Char) : Nat :=
  digits.foldl (fun value digit => value * 10 + (digit.toNat - 0x30)) 0

/-! ### The characters of a number -/

/-- The blanks that may stand around a number: all but the four separators of ASCII. -/
def isMargin (character : Char) : Bool :=
  Text.isBlank character && !(0x1C ≤ character.toNat && character.toNat ≤ 0x1F)

/-- Takes out the underscores, each of which has to stand between two digits. -/
def joinGroups? : List Char → Option (List Char)
  | [] => some []
  | '_' :: _ => none
  | left :: '_' :: right :: rest =>
      if left.isDigit && right.isDigit then (joinGroups? (right :: rest)).map (left :: ·)
      else none
  | character :: rest => (joinGroups? rest).map (character :: ·)

def numberCharacters? (text : String) : Option (List Char) :=
  joinGroups? ((Text.trimCharacters isMargin text.toList).map Text.plainDigit)

def splitSign : List Char → Bool × List Char
  | '-' :: rest => (true, rest)
  | '+' :: rest => (false, rest)
  | characters => (false, characters)

def wholeNumber? (text : String) : Option Int := do
  let (negative, digits) := splitSign (← numberCharacters? text)
  guard (!digits.isEmpty && digits.all Char.isDigit && digits.length ≤ longestInteger)
  let magnitude : Int := digitsToNat digits
  pure (if negative then -magnitude else magnitude)

/-! ### Decimal notation -/

structure Numeral where
  negative : Bool
  significand : Nat
  exponent : Int
deriving DecidableEq

namespace Numeral

def exponent? : List Char → Option Int
  | [] => some 0
  | mark :: rest =>
      let (negative, digits) := splitSign rest
      if mark.toLower = 'e' && !digits.isEmpty && digits.all Char.isDigit then
        some (if negative then -digitsToNat digits else digitsToNat digits)
      else none

def ofCharacters? (characters : List Char) : Option Numeral := do
  let (negative, unsigned) := splitSign characters
  let whole := unsigned.takeWhile Char.isDigit
  let (fraction, rest) :=
    match unsigned.dropWhile Char.isDigit with
    | '.' :: rest => (rest.takeWhile Char.isDigit, rest.dropWhile Char.isDigit)
    | rest => ([], rest)
  guard (!whole.isEmpty || !fraction.isEmpty)
  let exponent ← exponent? rest
  pure ⟨negative, digitsToNat (whole ++ fraction), exponent - fraction.length⟩

def toFloat (numeral : Numeral) : Float :=
  let magnitude := nearest numeral.significand numeral.exponent
  if numeral.negative then -magnitude else magnitude

def signText (negative : Bool) : List Char :=
  if negative then ['-'] else []

def inFull (numeral : Numeral) : String :=
  let digits := Nat.toDigits 10 numeral.significand
  let places := (-numeral.exponent).toNat
  let body :=
    if places = 0 then
      if numeral.significand = 0 then digits
      else digits ++ List.replicate numeral.exponent.toNat '0'
    else
      let padded := List.replicate (places + 1 - digits.length) '0' ++ digits
      padded.take (padded.length - places) ++ '.' :: padded.drop (padded.length - places)
  String.ofList (signText numeral.negative ++ body)

end Numeral

/-! ### Numbers with names -/

def infinity : Float := Float.ofBits 0x7FF0000000000000

def notANumber : Float := Float.ofBits 0x7FF8000000000000

def floatingPoint? (text : String) : Option Float := do
  let characters ← numberCharacters? text
  let (negative, unsigned) := splitSign characters
  let name := String.ofList (unsigned.map Char.toLower)
  if name = "inf" || name = "infinity" then
    pure (if negative then -infinity else infinity)
  else if name = "nan" then pure notANumber
  else pure (← Numeral.ofCharacters? characters).toFloat

/-- A decimal of any size: a number, infinity, or a mark for what is not a number, which may be
signalling and carry digits of its own. -/
inductive AnyDecimal where
  | finite (numeral : Numeral)
  | infinite (negative : Bool)
  | undefined (negative signalling : Bool) (payload : List Char)

namespace AnyDecimal

def largestExponent : Int := Nat.pow 10 18

def ofName? (negative : Bool) (name : List Char) : Option AnyDecimal :=
  let letters := String.ofList (name.takeWhile (!·.isDigit))
  let digits := name.dropWhile (!·.isDigit)
  if (letters = "inf" || letters = "infinity") && digits.isEmpty then some (.infinite negative)
  else if (letters = "nan" || letters = "snan") && digits.all Char.isDigit then
    some (.undefined negative (letters = "snan") (digits.dropWhile (· == '0')))
  else none

/-- Reads a decimal. Here blanks of all kinds may stand around it, and underscores anywhere. -/
def ofText? (text : String) : Option AnyDecimal :=
  let characters := ((Text.trimCharacters Text.isBlank text.toList).filter (· != '_')).map
    Text.plainDigit
  match Numeral.ofCharacters? characters with
  | some numeral =>
      let length : Int := (Nat.toDigits 10 numeral.significand).length
      if numeral.exponent + length ≤ largestExponent && -largestExponent < numeral.exponent then
        some (.finite numeral)
      else none
  | none =>
      let (negative, unsigned) := splitSign characters
      ofName? negative (unsigned.map Char.toLower)

def toString : AnyDecimal → String
  | .finite numeral => numeral.inFull
  | .infinite negative => String.ofList (Numeral.signText negative) ++ "Infinity"
  | .undefined negative signalling payload =>
      String.ofList (Numeral.signText negative) ++ (if signalling then "sNaN" else "NaN") ++
        String.ofList payload

end AnyDecimal

example : wholeNumber? " +1_000\n" = some 1000 ∧ wholeNumber? "1__0" = none ∧
    wholeNumber? "٣٤" = some 34 ∧ wholeNumber? "-" = none := by
  decide +kernel

example : (Numeral.ofCharacters? "-01.50e3".toList).map Numeral.inFull = some "-1500" ∧
    (Numeral.ofCharacters? ".5".toList).map Numeral.inFull = some "0.5" ∧
    (Numeral.ofCharacters? "0e-3".toList).map Numeral.inFull = some "0.000" := by
  decide +kernel

end CrateGraph.Decimal
