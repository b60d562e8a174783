import CrateGraph.Calendar.Date

/-!
Times of the day, and how far a place is ahead of universal time.
-/

namespace CrateGraph.Calendar

structure ClockReading where
  hour : Nat
  minute : Nat
  second : Nat
  microsecond : Nat

namespace ClockReading

def midnight : ClockReading := ⟨0, 0, 0, 0⟩

def isTimeOfDay (reading : ClockReading) : Bool :=
  reading.hour < 24 && reading.minute < 60 && reading.second < 60

def microseconds (reading : ClockReading) : Nat :=
  ((reading.hour * 60 + reading.minute) * 60 + reading.second) * 1000000 + reading.microsecond

def ofMicroseconds (count : Nat) : ClockReading where
  hour := count / 3600000000
  minute := count / 60000000 % 60
  second := count / 1000000 % 60
  microsecond := count % 1000000

def hourAndMinute (reading : ClockReading) : List Char :=
  padded 2 reading.hour ++ ':' :: padded 2 reading.minute

def fraction (reading : ClockReading) : List Char :=
  if reading.microsecond = 0 then [] else '.' :: padded 6 reading.microsecond

def toString (reading : ClockReading) : String :=
  String.ofList
    (reading.hourAndMinute ++ ':' :: padded 2 reading.second ++ reading.fraction)

end ClockReading

/-- A distance from universal time of less than a day, in microseconds. -/
structure Offset where
  microseconds : Int
  withinADay : microseconds.natAbs < 86400000000

namespace Offset

def ofMicroseconds? (count : Int) : Option Offset :=
  if withinADay : count.natAbs < 86400000000 then some ⟨count, withinADay⟩ else none

def toString (offset : Offset) : String :=
  let reading := ClockReading.ofMicroseconds offset.microseconds.natAbs
  let seconds :=
    if reading.second = 0 && reading.microsecond = 0 then []
    else ':' :: padded 2 reading.second ++ reading.fraction
  String.ofList
    ((if offset.microseconds < 0 then '-' else '+') :: reading.hourAndMinute ++ seconds)

end Offset

structure ZonedTime where
  reading : ClockReading
  offset : Option Offset

namespace ZonedTime

def midnight : ZonedTime := ⟨ClockReading.midnight, none⟩

def toString (time : ZonedTime) : String :=
  time.reading.toString ++ (time.offset.map Offset.toString).getD ""

end ZonedTime

structure DateTime where
  date : Date
  time : ZonedTime

def DateTime.toString (moment : DateTime) : String :=
  moment.date.toString ++ "T" ++ moment.time.toString

example : (ClockReading.mk 1 2 3 45).toString = "01:02:03.000045" := by decide +kernel

example : (Offset.ofMicroseconds? (-19800000000)).map Offset.toString = some "-05:30" ∧
    (Offset.ofMicroseconds? 86400000000).isNone := by
  decide +kernel

end CrateGraph.Calendar
