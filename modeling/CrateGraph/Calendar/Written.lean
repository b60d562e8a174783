import CrateGraph.Calendar.Clock

/-!
Dates and times as they are written, with or without marks between their parts.

The parts of a date have fixed widths, so their places follow from the first few characters. The
parts of a time come in pairs of digits; what stands between the digits of a time and a following
offset is not looked at. Texts are read as bytes, and a zero byte ends a text.
-/

namespace CrateGraph.Calendar

abbrev Bytes := List UInt8

def hyphen : UInt8 := 0x2D

def colon : UInt8 := 0x3A

def isDigitByte (byte : UInt8) : Bool :=
  0x30 ≤ byte && byte ≤ 0x39

def takeDigits? (count : Nat) (bytes : Bytes) : Option (Nat × Bytes) :=
  let digits := bytes.take count
  if digits.length = count && digits.all isDigitByte then
    some (digits.foldl (fun value digit => value * 10 + (digit.toNat - 0x30)) 0, bytes.drop count)
  else none

def expect? (byte : UInt8) : Bytes → Option Bytes
  | first :: rest => if first = byte then some rest else none
  | [] => none

/-! ### Dates -/

def readDate? (width : Nat) (bytes : Bytes) : Option Date := do
  let (year, rest) ← takeDigits? 4 bytes
  let separated := rest.head? = some hyphen
  let mark := fun (rest : Bytes) => if separated then expect? hyphen rest else some rest
  let rest ← mark rest
  match expect? 'W'.toUInt8 rest with
  | some rest =>
      let (week, rest) ← takeDigits? 2 rest
      if bytes.length - rest.length < width then
        let (day, _) ← takeDigits? 1 (← mark rest)
        Date.ofWeek? year week day
      else Date.ofWeek? year week 1
  | none =>
      let (month, rest) ← takeDigits? 2 rest
      let (day, _) ← takeDigits? 2 (← mark rest)
      Date.ofParts? year month day

def Date.ofText? (text : String) : Option Date :=
  let bytes := text.toUTF8.toList
  if bytes.length ∈ [7, 8, 10] then readDate? bytes.length bytes else none

def dateWidth? (bytes : Bytes) : Option Nat :=
  let isAt := fun (index : Nat) (byte : UInt8) => bytes[index]? = some byte
  if bytes.length = 7 then some 7
  else if isAt 4 hyphen then
    if isAt 5 'W'.toUInt8 then
      if bytes.length < 8 then none
      else if isAt 8 hyphen then
        if bytes.length = 9 then none
        else if (bytes[10]?.map isDigitByte).getD false then some 8
        else some 10
      else some 8
    else some 10
  else if isAt 4 'W'.toUInt8 then
    let digitsEnd := 7 + ((bytes.drop 7).takeWhile isDigitByte).length
    if digitsEnd < 9 then some digitsEnd
    else if digitsEnd % 2 = 0 then some 7
    else some 8
  else some 8

/-! ### Times -/

structure ClockParts where
  reading : ClockReading
  unfinished : Bool

namespace ClockParts

/-- Reads parts of a second; digits after the sixth are left out. `next` is the byte after the last
one. -/
def readFraction? (next : UInt8) (reading : ClockReading) (bytes : Bytes) :
    Option ClockParts := do
  let count := min bytes.length 6
  let (value, rest) ← takeDigits? count bytes
  let rest := rest.dropWhile isDigitByte
  pure ⟨{ reading with microsecond := value * Nat.pow 10 (6 - count) }, rest.headD next != 0⟩

def place (reading : ClockReading) : (left : Nat) → Nat → ClockReading
  | 2, value => { reading with hour := value }
  | 1, value => { reading with minute := value }
  | _, value => { reading with second := value }

/-- Reads a pair of digits and then `left` more pairs, as far as there are any. The first mark
decides whether there are marks between all of them. -/
def readPairs? (next : UInt8) (reading : ClockReading) (separated : Option Bool)
    (left : Nat) (bytes : Bytes) : Option ClockParts := do
  let (value, rest) ← takeDigits? 2 bytes
  let reading := place reading left value
  let mark := rest.headD next
  let separated := separated.getD (mark == colon)
  let continueWith := fun (bytes : Bytes) =>
    match left with
    | 0 => readFraction? next reading bytes
    | left + 1 => readPairs? next reading (some separated) left bytes
  if rest.length ≤ 1 then pure ⟨reading, mark != 0⟩
  else if separated && mark == colon then continueWith rest.tail
  else if mark == '.'.toUInt8 || mark == ','.toUInt8 then
    readFraction? next reading rest.tail
  else if separated then none
  else continueWith rest

end ClockParts

def startsOffset (byte : UInt8) : Bool :=
  byte == '+'.toUInt8 || byte == hyphen || byte == 'Z'.toUInt8

/-- Reads an offset from its sign on. An offset of less than a second is none. -/
def readOffset? : Bytes → Option Offset
  | [] => none
  | sign :: rest =>
      if sign == 'Z'.toUInt8 then
        if rest.headD 0 = 0 then Offset.ofMicroseconds? 0 else none
      else do
        let parts ← ClockParts.readPairs? 0 ClockReading.midnight none 2 rest
        guard (!parts.unfinished)
        let distance : Int := parts.reading.microseconds
        if distance < 1000000 then Offset.ofMicroseconds? 0
        else Offset.ofMicroseconds? (if sign == hyphen then -distance else distance)

def readTime? (bytes : Bytes) : Option ZonedTime := do
  let ownBytes := bytes.takeWhile (!startsOffset ·)
  let rest := bytes.dropWhile (!startsOffset ·)
  let parts ← ClockParts.readPairs? (rest.headD 0) ClockReading.midnight none 2 ownBytes
  guard parts.reading.isTimeOfDay
  if rest.isEmpty then
    guard (!parts.unfinished)
    pure ⟨parts.reading, none⟩
  else
    pure ⟨parts.reading, some (← readOffset? rest)⟩

def ZonedTime.ofText? (text : String) : Option ZonedTime :=
  match text.toUTF8.toList with
  | [] => none
  | first :: rest => if first == 'T'.toUInt8 then readTime? rest else readTime? (first :: rest)

/-! ### Moments -/

def characterWidth (first : UInt8) : Nat :=
  if first < 0x80 then 1
  else if first < 0xE0 then 2
  else if first < 0xF0 then 3
  else 4

def DateTime.ofText? (text : String) : Option DateTime := do
  let bytes := text.toUTF8.toList
  let width ← dateWidth? bytes
  let date ← readDate? width bytes
  match bytes.drop width with
  | [] => pure ⟨date, ZonedTime.midnight⟩
  | separator :: rest =>
      pure ⟨date, ← readTime? ((separator :: rest).drop (characterWidth separator))⟩

example : (DateTime.ofText? "20200101T0102Z").map DateTime.toString =
    some "2020-01-01T01:02:00+00:00" := by
  decide +kernel

example : (ZonedTime.ofText? "01:02:03.5-05:30").map ZonedTime.toString =
    some "01:02:03.500000-05:30" := by
  decide +kernel

end CrateGraph.Calendar
