/-!
Days of the calendar from the year 1 to the year 9999, by month or by week.

The first week of a year is the one with its first Thursday, so its Monday may still belong to the
year before.
-/

namespace CrateGraph.Calendar

def isLeapYear (year : Nat) : Bool :=
  year % 4 == 0 && (year % 100 != 0 || year % 400 == 0)

def daysInMonth (year month : Nat) : Nat :=
  match month with
  | 2 => if isLeapYear year then 29 else 28
  | 4 | 6 | 9 | 11 => 30
  | _ => 31

def daysInYear (year : Nat) : Nat :=
  if isLeapYear year then 366 else 365

structure Date where
  year : Nat
  month : Nat
  day : Nat
  valid : 1 ≤ year ∧ year ≤ 9999 ∧ 1 ≤ month ∧ month ≤ 12 ∧ 1 ≤ day ∧ day ≤ daysInMonth year month

def padded (width number : Nat) : List Char :=
  let digits := Nat.toDigits 10 number
  List.replicate (width - digits.length) '0' ++ digits

namespace Date

def ofParts? (year month day : Nat) : Option Date :=
  if valid : 1 ≤ year ∧ year ≤ 9999 ∧ 1 ≤ month ∧ month ≤ 12 ∧ 1 ≤ day ∧
      day ≤ daysInMonth year month then
    some ⟨year, month, day, valid⟩
  else none

/-- The days of the week count from Monday, which is zero. -/
def weekdayOfNewYear (year : Nat) : Nat :=
  let before := year - 1
  (before * 365 + before / 4 - before / 100 + before / 400) % 7

/-- Years with 53 weeks start on a Thursday or, if they are leap years, on a Wednesday. -/
def weeksInYear (year : Nat) : Nat :=
  if weekdayOfNewYear year = 3 || (weekdayOfNewYear year = 2 && isLeapYear year) then 53 else 52

def afterFirst? (year month : Nat) (days : Nat) : Option Date :=
  if days < daysInMonth year month then ofParts? year month (days + 1)
  else if month < 12 then afterFirst? year (month + 1) (days - daysInMonth year month)
  else none
termination_by 12 - month

/-- The date that comes a number of days after New Year; it may be before it or in the next
year. -/
def afterNewYear? (year : Nat) (days : Int) : Option Date :=
  if days < 0 then ofParts? (year - 1) 12 (32 + days).toNat
  else if days < daysInYear year then afterFirst? year 1 days.toNat
  else afterFirst? (year + 1) 1 (days.toNat - daysInYear year)

def ofWeek? (year week day : Nat) : Option Date :=
  if 1 ≤ year && 1 ≤ week && week ≤ weeksInYear year && 1 ≤ day && day ≤ 7 then
    let weekday := weekdayOfNewYear year
    let monday : Int := if weekday ≤ 3 then -weekday else 7 - weekday
    afterNewYear? year (monday + ((week - 1) * 7 + (day - 1) : Nat))
  else none

def toString (date : Date) : String :=
  String.ofList (padded 4 date.year ++ '-' :: padded 2 date.month ++ '-' :: padded 2 date.day)

example : (ofParts? 2020 2 29).isSome ∧ (ofParts? 1900 2 29).isNone ∧ (ofParts? 0 1 1).isNone := by
  decide +kernel

example : (ofWeek? 2020 53 7).map toString = some "2021-01-03" ∧
    (ofWeek? 2019 1 1).map toString = some "2018-12-31" ∧ (ofWeek? 2019 53 1).isNone := by
  decide +kernel

end Date

end CrateGraph.Calendar
