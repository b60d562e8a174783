import CrateGraph.Calendar.Written
import CrateGraph.Decimal.Scaled

/-!
Stretches of time.

Months have no fixed length, so a duration has years and months beside its microseconds. It is
written with a letter after each number: years, months, weeks and days, and after another letter
hours, minutes and seconds. A duration may also be written like a moment.

All numbers may have places after the point. Years and months are decimals with a fixed number of
digits; the other numbers are doubles, and only their whole multiples of a microsecond are exact.
-/

namespace CrateGraph.Calendar

open Decimal (Scaled)

/-! ### Years and months -/

/-- A number of years and of months, of which months in excess of a year are carried over. -/
structure YearsAndMonths where
  years : Scaled
  months : Scaled

namespace YearsAndMonths

/-- Months below zero are taken from the years as well, so the months left are less than twelve and
not negative, rounding aside. -/
def ofParts (years months : Scaled) : YearsAndMonths :=
  let months := months.subtract Scaled.zero
  let carried := Scaled.ofInt (months.floorQuotient 12)
  ⟨years.add carried, months.subtract (carried.multiply (Scaled.ofInt 12))⟩

def negate (length : YearsAndMonths) : YearsAndMonths :=
  ofParts (Scaled.zero.subtract length.years) (Scaled.zero.subtract length.months)

def total (length : YearsAndMonths) : Scaled :=
  (length.years.multiply (Scaled.ofInt 12)).add length.months

end YearsAndMonths

structure Duration where
  yearsAndMonths : Option YearsAndMonths
  microseconds : Int

/-! ### Reading -/

/-- The number `digits / 10 ^ places`. -/
structure Amount where
  digits : Nat
  places : Nat

namespace Amount

def zero : Amount := ⟨0, 0⟩

def toScaled (amount : Amount) : Scaled :=
  ⟨amount.digits, -amount.places⟩

def take (letter : Char) (characters : List Char) : Amount × List Char :=
  let whole := characters.takeWhile Char.isDigit
  let (fraction, rest) :=
    match characters.dropWhile Char.isDigit with
    | '.' :: rest | ',' :: rest => (rest.takeWhile Char.isDigit, rest.dropWhile Char.isDigit)
    | rest => ([], rest)
  let isMarked := (characters.dropWhile Char.isDigit).head?.any fun mark => mark = '.' || mark = ','
  match rest with
  | [] => (zero, characters)
  | next :: rest =>
      if next = letter && !whole.isEmpty && (isMarked → !fraction.isEmpty) then
        (⟨Decimal.digitsToNat (whole ++ fraction), fraction.length⟩, rest)
      else (zero, characters)

end Amount

/-- Microseconds, and what is left over of one, counted in the smallest doubles. -/
structure Accumulated where
  whole : Nat
  leftover : Nat

namespace Accumulated

open Decimal (nearestUnits smallestUnits)

/-- Adds an amount of units that take so many microseconds each. The whole part of the amount counts
in full. Its fraction is multiplied as a double, and what the product leaves over of a microsecond
is added up as a double. -/
def add (sum : Accumulated) (amount : Amount) (unit : Nat) : Accumulated :=
  let value := nearestUnits amount.digits (Nat.pow 10 amount.places)
  let product := nearestUnits (value % smallestUnits * unit) smallestUnits
  { whole := sum.whole + value / smallestUnits * unit + product / smallestUnits
    leftover := nearestUnits (sum.leftover + product % smallestUnits) smallestUnits }

def microseconds (sum : Accumulated) : Nat :=
  Decimal.roundHalfEven (sum.whole * smallestUnits + sum.leftover) smallestUnits

end Accumulated

namespace Duration

def dayLength : Nat := 86400000000

/-- No duration is longer than this number of days, its years and months aside. -/
def longestDays : Nat := 999999999

/-- A positive duration may have a last day that is not complete. -/
def ofMicroseconds? (negative : Bool) (count : Nat) : Option Int :=
  if negative then if count ≤ longestDays * dayLength then some (-count) else none
  else if count < (longestDays + 1) * dayLength then some count
  else none

def ofComponents? (negative : Bool) (characters : List Char) : Option Duration := do
  let (years, rest) := Amount.take 'Y' characters
  let (months, rest) := Amount.take 'M' rest
  let (weeks, rest) := Amount.take 'W' rest
  let (days, rest) := Amount.take 'D' rest
  let (clock, rest) :=
    match rest with
    | 'T' :: rest =>
        let (hours, rest) := Amount.take 'H' rest
        let (minutes, rest) := Amount.take 'M' rest
        let (seconds, rest) := Amount.take 'S' rest
        ([(seconds, 1000000), (minutes, 60000000), (hours, 3600000000)], rest)
    | rest => ([], rest)
  guard (!characters.isEmpty && rest.isEmpty)
  let sum := (clock ++ [(days, dayLength), (weeks, 7 * dayLength)]).foldl
    (fun (sum : Accumulated) (amount, unit) => sum.add amount unit) ⟨0, 0⟩
  let microseconds ← ofMicroseconds? negative sum.microseconds
  if years.digits = 0 && months.digits = 0 then pure ⟨none, microseconds⟩
  else
    let length := YearsAndMonths.ofParts years.toScaled months.toScaled
    pure ⟨some (if negative then length.negate else length), microseconds⟩

def ofMoment (moment : DateTime) : Duration where
  yearsAndMonths :=
    some (YearsAndMonths.ofParts (Scaled.ofInt moment.date.year) (Scaled.ofInt moment.date.month))
  microseconds := moment.date.day * dayLength + moment.time.reading.microseconds

def ofText? (text : String) : Option Duration :=
  let characters := text.toList
  let (sign, rest) :=
    match characters with
    | '+' :: rest => (some false, rest)
    | '-' :: rest => (some true, rest)
    | rest => (none, rest)
  match rest with
  | 'P' :: rest =>
      let line := if rest.getLast? = some '\n' then rest.dropLast else rest
      match ofComponents? (sign.getD false) line with
      | some duration => some duration
      | none =>
          if sign.isNone then (DateTime.ofText? (String.ofList rest)).map ofMoment else none
  | _ => none

/-! ### Writing -/

/-- What no text says of a duration: more years than a number has digits for, and days with a minus
sign beside years and months, whatever the sign of these. -/
inductive Fault where
  | tooManyYears
  | negativeThroughout
  | negativeDays
deriving DecidableEq

def Fault.message : Fault → String
  | .tooManyYears => "[<class 'decimal.DivisionImpossible'>]"
  | .negativeThroughout => "Duration cannot have negative years and negative days"
  | .negativeDays => "Duration cannot have positive years and months but negative days"

def writeComponent (number : Nat) (letter : Char) : List Char :=
  if number = 0 then [] else Nat.toDigits 10 number ++ [letter]

/-- The months are left out if all of them were carried over to the years when the duration was
made. -/
def writeYearsAndMonths (length : YearsAndMonths) : Except Fault (List Char) :=
  match length.total.divide? 12 with
  | none => .error .tooManyYears
  | some (years, months) =>
      .ok (writeComponent years 'Y' ++
        if length.months.isZero then [] else months.toString.toList ++ ['M'])

def writeSeconds (reading : ClockReading) : List Char :=
  if reading.microsecond = 0 then writeComponent reading.second 'S'
  else
    let fraction := (reading.fraction.reverse.dropWhile (· == '0')).reverse
    Nat.toDigits 10 reading.second ++ fraction ++ ['S']

def writeClock (reading : ClockReading) : List Char :=
  let written := writeComponent reading.hour 'H' ++ writeComponent reading.minute 'M' ++
    writeSeconds reading
  if written.isEmpty then [] else 'T' :: written

def writeDays (microseconds : Nat) : List Char :=
  writeComponent (microseconds / dayLength) 'D' ++
    writeClock (ClockReading.ofMicroseconds (microseconds % dayLength))

def toString (duration : Duration) : Except Fault String := do
  let yearsAndMonths ← (duration.yearsAndMonths.map writeYearsAndMonths).getD (.ok [])
  let isBackward :=
    duration.yearsAndMonths.any fun length => length.total.coefficient < 0
  if duration.microseconds < 0 then
    if isBackward then throw .negativeThroughout
    if duration.yearsAndMonths.isSome then throw .negativeDays
  let written := yearsAndMonths ++ writeDays duration.microseconds.natAbs
  let sign := if isBackward || duration.microseconds < 0 then ['-'] else []
  pure (String.ofList (sign ++ 'P' :: if written.isEmpty then ['0', 'D'] else written))

example : ["-P14M", "P1W\n", "PT", "PT1.50S", "P0,5D", "P86399.9D", "P", "P1H"].map (fun text =>
      (ofText? text).bind (·.toString.toOption)) =
    [some "-P1Y2M", some "P7D", some "P0D", some "PT1.5S", some "PT12H",
      some "P86399DT21H35M59.999999S", none, none] := by
  decide +kernel

example : ["P0.5Y6M", "P1.5Y", "-P0.5Y", "-P1Y1D"].map (fun text =>
      (ofText? text).bind (·.toString.toOption)) =
    [some "P1Y0.0M", some "P1Y", some "-P0D", none] := by
  decide +kernel

end Duration

end CrateGraph.Calendar
