import CrateGraph.Proofs.Calendar.WrittenDates

/-!
Times are read from what they are written as.

Main statements: a time of the day is read back, together with its distance from universal time
unless that is a part of a second, and so is a date with a time; and every time that was read is of
the kind that is read back.
-/

namespace CrateGraph.Calendar

open Text (IsAscii)

/-! ### Pairs of digits -/

namespace ClockParts

variable {next : UInt8} {reading : ClockReading} {separated : Option Bool} {left value : Nat}
  {rest : Bytes}

theorem readPairs?_end (fits : value < 10 ^ 2) :
    readPairs? next reading separated left (asciiBytes (padded 2 value)) =
      some ⟨place reading left value, next != 0⟩ := by
  have read := takeDigits?_padded (by decide) fits []
  rw [List.append_nil] at read
  rw [readPairs?.eq_def, read]
  simp

theorem readPairs?_colon (marked : separated ≠ some false) (fits : value < 10 ^ 2)
    (more : rest ≠ []) :
    readPairs? next reading separated (left + 1) (asciiBytes (padded 2 value) ++ colon :: rest) =
      readPairs? next (place reading (left + 1) value) (some true) left rest := by
  have separates : separated.getD true = true := by
    rcases separated with _ | _ | _
    · rfl
    · exact absurd rfl marked
    · rfl
  rw [readPairs?.eq_def, takeDigits?_padded (by decide) fits]
  simp [more, separates]

theorem readPairs?_point (fits : value < 10 ^ 2) (more : rest ≠ []) :
    readPairs? next reading separated left
        (asciiBytes (padded 2 value) ++ '.'.toUInt8 :: rest) =
      readFraction? next (place reading left value) rest := by
  have noColon : '.'.toUInt8 ≠ colon := by decide
  rw [readPairs?.eq_def, takeDigits?_padded (by decide) fits]
  simp [more, noColon]

theorem readFraction?_padded {microsecond : Nat} (fits : microsecond < 10 ^ 6) :
    readFraction? next reading (asciiBytes (padded 6 microsecond)) =
      some ⟨{ reading with microsecond := microsecond }, next != 0⟩ := by
  have read := takeDigits?_padded (by decide) fits []
  rw [List.append_nil] at read
  rw [readFraction?, length_asciiBytes, length_padded (by decide) fits]
  simp [read]

end ClockParts

/-! ### Clocks -/

namespace ClockReading

/-- The parts have room in the places that they are written in. -/
structure Fits (reading : ClockReading) : Prop where
  hour : reading.hour < 10 ^ 2
  minute : reading.minute < 10 ^ 2
  second : reading.second < 10 ^ 2
  microsecond : reading.microsecond < 10 ^ 6

def characters (reading : ClockReading) : List Char :=
  reading.hourAndMinute ++ ':' :: padded 2 reading.second ++ reading.fraction

variable {reading : ClockReading} (fits : reading.Fits) (next : UInt8)
include fits

theorem readPairs?_hourAndMinute :
    ClockParts.readPairs? next midnight none 2 (asciiBytes reading.hourAndMinute) =
      some ⟨⟨reading.hour, reading.minute, 0, 0⟩, next != 0⟩ := by
  have bytes : asciiBytes reading.hourAndMinute = asciiBytes (padded 2 reading.hour) ++
      colon :: asciiBytes (padded 2 reading.minute) := by
    simp [hourAndMinute, colon]
  rw [bytes, ClockParts.readPairs?_colon (by decide) fits.hour (by simp),
    ClockParts.readPairs?_end fits.minute]
  rfl

theorem readPairs?_characters :
    ClockParts.readPairs? next midnight none 2 (asciiBytes reading.characters) =
      some ⟨reading, next != 0⟩ := by
  have bytes : asciiBytes reading.characters = asciiBytes (padded 2 reading.hour) ++
      colon :: (asciiBytes (padded 2 reading.minute) ++
        colon :: (asciiBytes (padded 2 reading.second) ++ asciiBytes reading.fraction)) := by
    simp [characters, hourAndMinute, colon]
  rw [bytes, ClockParts.readPairs?_colon (by decide) fits.hour (by simp),
    ClockParts.readPairs?_colon (by decide) fits.minute (by simp), fraction]
  split
  · next whole =>
      rcases reading with ⟨hour, minute, second, microsecond⟩
      cases whole
      rw [asciiBytes_nil, List.append_nil]
      exact ClockParts.readPairs?_end fits.second
  · rw [asciiBytes_cons]
    exact (ClockParts.readPairs?_point fits.second (by simp)).trans
      (ClockParts.readFraction?_padded fits.microsecond)

end ClockReading

/-! ### The characters of a clock -/

/-- A clock is written in digits, colons and a full stop. -/
theorem ClockReading.forall_mem_characters (reading : ClockReading) {holds : Char → Prop}
    (digits : ∀ digit : Char, digit.isDigit → holds digit) (colon : holds ':')
    (point : holds '.') : ∀ character ∈ reading.characters, holds character := by
  have ofPadded (width number : Nat) : ∀ digit ∈ padded width number, holds digit :=
    fun digit member => digits digit (isDigit_padded width number digit member)
  have ofFraction : ∀ character ∈ reading.fraction, holds character := by
    rw [fraction]
    split
    · exact List.forall_mem_nil _
    · exact List.forall_mem_cons.mpr ⟨point, ofPadded _ _⟩
  simp only [characters, hourAndMinute, List.forall_mem_append, List.forall_mem_cons]
  exact ⟨⟨⟨ofPadded _ _, colon, ofPadded _ _⟩, colon, ofPadded _ _⟩, ofFraction⟩

theorem startsOffset_of_isDigit {digit : Char} (isDigit : digit.isDigit) :
    startsOffset (UInt8.ofNat digit.toNat) = false := by
  have isDigitByte := isDigitByte_of_isDigit isDigit
  rw [← Bool.not_eq_true]
  intro starts
  simp only [startsOffset, Bool.or_eq_true, beq_iff_eq] at starts
  rcases starts with (plus | minus) | universal
  · exact absurd (plus ▸ isDigitByte) (by decide)
  · exact absurd (minus ▸ isDigitByte) (by decide)
  · exact absurd (universal ▸ isDigitByte) (by decide)

/-! ### Distances from universal time -/

namespace Offset

variable (offset : Offset)

def clock : ClockReading :=
  .ofMicroseconds offset.microseconds.natAbs

def sign : Char :=
  if offset.microseconds < 0 then '-' else '+'

def clockCharacters : List Char :=
  offset.clock.hourAndMinute ++
    if offset.clock.second = 0 && offset.clock.microsecond = 0 then []
    else ':' :: padded 2 offset.clock.second ++ offset.clock.fraction

theorem clockCharacters_subset : offset.clockCharacters ⊆ offset.clock.characters := by
  rw [clockCharacters]
  split
  · rw [List.append_nil, ClockReading.characters, List.append_assoc]
    exact List.subset_append_left _ _
  · rw [← List.append_assoc]
    exact List.Subset.refl _

theorem toString_eq : offset.toString = String.ofList (offset.sign :: offset.clockCharacters) :=
  rfl

/-- The offset is none at all, or at least a second. -/
def IsRead : Prop :=
  offset.microseconds = 0 ∨ 1000000 ≤ offset.microseconds.natAbs

theorem fits_clock : offset.clock.Fits := by
  have within := offset.withinADay
  constructor
  all_goals
    dsimp only [clock, ClockReading.ofMicroseconds]
    omega

theorem microseconds_clock : offset.clock.microseconds = offset.microseconds.natAbs := by
  dsimp only [clock, ClockReading.ofMicroseconds, ClockReading.microseconds]
  omega

theorem readPairs?_clockCharacters :
    ClockParts.readPairs? 0 .midnight none 2 (asciiBytes offset.clockCharacters) =
      some ⟨offset.clock, false⟩ := by
  have fits := offset.fits_clock
  rw [clockCharacters]
  generalize offset.clock = clock at fits
  split
  · next whole =>
      rw [Bool.and_eq_true, decide_eq_true_eq, decide_eq_true_eq] at whole
      rw [List.append_nil, ClockReading.readPairs?_hourAndMinute fits]
      rcases clock with ⟨hour, minute, second, microsecond⟩
      cases whole.1
      cases whole.2
      rfl
  · rw [← List.append_assoc]
    exact ClockReading.readPairs?_characters fits 0

theorem ofMicroseconds?_microseconds : ofMicroseconds? offset.microseconds = some offset :=
  dif_pos offset.withinADay

theorem readOffset?_characters (isRead : offset.IsRead) :
    readOffset? (asciiBytes (offset.sign :: offset.clockCharacters)) = some offset := by
  have unmarked : (UInt8.ofNat offset.sign.toNat == 'Z'.toUInt8) = false := by
    rw [sign]
    split <;> decide
  have signed : (if UInt8.ofNat offset.sign.toNat == hyphen then
      -(offset.microseconds.natAbs : Int) else offset.microseconds.natAbs) =
        offset.microseconds := by
    rw [sign]
    by_cases negative : offset.microseconds < 0
    · rw [if_pos negative, if_pos (by decide)]
      omega
    · rw [if_neg negative, if_neg (by decide)]
      omega
  have passed : guard ((!false) = true) = some () := rfl
  rw [asciiBytes_cons, readOffset?, unmarked, if_neg Bool.false_ne_true, Option.bind_eq_bind,
    readPairs?_clockCharacters, Option.bind_some, Option.bind_eq_bind, passed, Option.bind_some,
    microseconds_clock]
  dsimp only
  rw [signed, ofMicroseconds?_microseconds]
  split
  · next short =>
      have none : offset.microseconds = 0 := by
        rcases isRead with none | long
        · exact none
        · omega
      rw [← none, ofMicroseconds?_microseconds]
  · rfl

end Offset

/-! ### Times of the day -/

namespace ZonedTime

variable (time : ZonedTime)

/-- The time is one of a day, to the microsecond, and its offset is not just a part of a second. -/
structure IsRead : Prop where
  ofDay : time.reading.isTimeOfDay
  microsecond : time.reading.microsecond < 10 ^ 6
  offset : ∀ offset ∈ time.offset, offset.IsRead

def characters : List Char :=
  time.reading.characters ++
    (time.offset.map fun offset => offset.sign :: offset.clockCharacters).getD []

theorem toString_eq : time.toString = String.ofList time.characters := by
  rw [toString, characters, String.ofList_append]
  cases time.offset with
  | none => rfl
  | some offset => rw [Option.map_some, Option.map_some, Option.getD_some, Offset.toString_eq]; rfl

theorem toList_toString : time.toString.toList = time.characters := by
  rw [toString_eq, String.toList_ofList]

variable {time}

theorem fits_reading (isRead : time.IsRead) : time.reading.Fits := by
  have ofDay := isRead.ofDay
  simp only [ClockReading.isTimeOfDay, Bool.and_eq_true, decide_eq_true_eq] at ofDay
  constructor
  · omega
  · omega
  · omega
  · exact isRead.microsecond

theorem readTime?_characters (isRead : time.IsRead) :
    readTime? (asciiBytes time.characters) = some time := by
  have plain : ∀ byte ∈ asciiBytes time.reading.characters, (!startsOffset byte) = true := by
    intro byte member
    rcases List.mem_map.mp member with ⟨character, inClock, rfl⟩
    rw [Bool.not_eq_true']
    exact time.reading.forall_mem_characters (fun _ => startsOffset_of_isDigit) (by decide)
      (by decide) character inClock
  have read := ClockReading.readPairs?_characters (fits_reading isRead)
  rw [readTime?, characters, asciiBytes_append, List.takeWhile_append_of_pos plain,
    List.dropWhile_append_of_pos plain]
  rcases time with ⟨reading, offset⟩
  have ofDay : reading.isTimeOfDay = true := isRead.ofDay
  cases offset with
  | none => simp [read, ofDay, guard]
  | some offset =>
      have starts : startsOffset (UInt8.ofNat offset.sign.toNat) = true := by
        rw [Offset.sign]
        split <;> decide
      have readOffset := offset.readOffset?_characters (isRead.offset offset rfl)
      rw [asciiBytes_cons] at readOffset
      simp [read, ofDay, guard, starts, readOffset]

theorem within_toString (time : ZonedTime) : Text.Within IsAscii time.toString := by
  have ofClock (reading : ClockReading) : ∀ character ∈ reading.characters, IsAscii character :=
    reading.forall_mem_characters (fun _ => Text.isAscii_of_isDigit) (by decide) (by decide)
  rw [toString_eq, Text.within_ofList, characters, List.forall_mem_append]
  refine ⟨ofClock _, ?_⟩
  cases time.offset with
  | none => exact List.forall_mem_nil _
  | some offset =>
      refine List.forall_mem_cons.mpr ⟨?_, fun character member => ?_⟩
      · rw [Offset.sign]
        split <;> decide
      · exact ofClock _ character (offset.clockCharacters_subset member)

theorem exists_asciiBytes_characters (time : ZonedTime) :
    ∃ first rest, asciiBytes time.characters = first :: rest ∧ isDigitByte first = true := by
  rcases exists_asciiBytes_padded 2 time.reading.hour with ⟨first, rest, bytes, isDigit⟩
  simp only [characters, ClockReading.characters, ClockReading.hourAndMinute, List.append_assoc,
    asciiBytes_append, bytes, List.cons_append]
  exact ⟨_, _, rfl, isDigit⟩

/-- A time starts with a digit, which is not taken for the letter for times. -/
theorem ofText?_toString (isRead : time.IsRead) : ofText? time.toString = some time := by
  rcases exists_asciiBytes_characters time with ⟨first, rest, bytes, isDigit⟩
  have noMark : first ≠ 'T'.toUInt8 := by
    rintro rfl
    exact absurd isDigit (by decide)
  have read := readTime?_characters isRead
  rw [bytes] at read
  rw [ofText?, toList_toUTF8_of_within time.within_toString, toList_toString, bytes]
  simp [noMark, read]

end ZonedTime

/-! ### Moments -/

theorem dateWidth?_characters (date : Date) (separator : UInt8) (rest : Bytes) :
    dateWidth? (asciiBytes date.characters ++ separator :: rest) = some 10 := by
  rcases exists_asciiBytes_padded 2 date.month with ⟨first, others, bytes, isDigit⟩
  have noWeek : first ≠ 'W'.toUInt8 := by
    rintro rfl
    exact absurd isDigit (by decide)
  have long : (asciiBytes date.characters ++ separator :: rest).length ≠ 7 := by
    rw [List.length_append, length_asciiBytes, date.length_characters]
    omega
  have year : (asciiBytes (padded 4 date.year)).length = 4 := by
    rw [length_asciiBytes, length_padded (by decide) date.bounds.1]
  rw [asciiBytes_date] at long ⊢
  rw [dateWidth?, if_neg long]
  simp [List.getElem?_append_right, year, bytes, noWeek]

/-- The letter between the date and the time is not looked at. -/
theorem DateTime.ofText?_toString {moment : DateTime} (isRead : moment.time.IsRead) :
    ofText? moment.toString = some moment := by
  have within : Text.Within IsAscii moment.toString := by
    simp only [toString, Text.within_append]
    exact ⟨⟨moment.date.within_toString, by decide⟩, moment.time.within_toString⟩
  have bytes : asciiBytes moment.toString.toList =
      asciiBytes moment.date.characters ++ 'T'.toUInt8 :: asciiBytes moment.time.characters := by
    have letter : asciiBytes "T".toList = ['T'.toUInt8] := by decide
    rw [toString, String.toList_append, String.toList_append, moment.date.toList_toString,
      moment.time.toList_toString, asciiBytes_append, asciiBytes_append, letter, List.append_assoc,
      List.singleton_append]
  have dropped : (asciiBytes moment.date.characters ++
      'T'.toUInt8 :: asciiBytes moment.time.characters).drop 10 =
        'T'.toUInt8 :: asciiBytes moment.time.characters :=
    List.drop_left' (by rw [length_asciiBytes, moment.date.length_characters])
  have width : characterWidth 'T'.toUInt8 = 1 := by decide
  rw [ofText?, toList_toUTF8_of_within within, bytes]
  simp [dateWidth?_characters, readDate?_characters, dropped, width,
    ZonedTime.readTime?_characters isRead]

/-! ### What was read -/

theorem takeDigits?_lt {count value : Nat} {bytes rest : Bytes}
    (read : takeDigits? count bytes = some (value, rest)) : value < 10 ^ count := by
  rw [takeDigits?] at read
  split at read
  · next digits =>
      rw [Bool.and_eq_true, decide_eq_true_eq] at digits
      cases read
      rcases digits with ⟨whole, areDigits⟩
      have small : ∀ digit ∈ bytes.take count, digit.toNat - 0x30 < 10 := by
        intro digit member
        have isDigit := List.all_eq_true.mp areDigits digit member
        rw [isDigitByte, Bool.and_eq_true, decide_eq_true_eq, decide_eq_true_eq,
          UInt8.le_iff_toNat_le, UInt8.le_iff_toNat_le] at isDigit
        have value : digit.toNat ≤ 0x39 := isDigit.2
        omega
      have bound := Decimal.foldl_lt_pow small
      rwa [whole] at bound
  · cases read

namespace ClockParts

variable {next : UInt8} {reading : ClockReading} {separated : Option Bool} {left : Nat}
  {bytes : Bytes} {parts : ClockParts}

theorem microsecond_of_readFraction? (read : readFraction? next reading bytes = some parts) :
    parts.reading.microsecond < 10 ^ 6 := by
  simp only [readFraction?, Option.bind_eq_bind, Option.bind_eq_some_iff] at read
  rcases read with ⟨⟨value, rest⟩, digits, result⟩
  have bound := takeDigits?_lt digits
  cases result
  have most : min bytes.length 6 ≤ 6 := Nat.min_le_right _ _
  calc value * Nat.pow 10 (6 - min bytes.length 6)
      < 10 ^ min bytes.length 6 * Nat.pow 10 (6 - min bytes.length 6) :=
        Nat.mul_lt_mul_of_pos_right bound (Nat.pow_pos (by decide))
    _ = 10 ^ 6 := by
        change 10 ^ min bytes.length 6 * 10 ^ (6 - min bytes.length 6) = 10 ^ 6
        rw [← Nat.pow_add, Nat.add_sub_cancel' most]

theorem microsecond_place (reading : ClockReading) (left value : Nat) :
    (place reading left value).microsecond = reading.microsecond := by
  fun_cases place reading left value <;> rfl

/-- After a pair of digits the clock ends, or a fraction comes, or one of the pairs left to read. -/
theorem exists_of_readPairs?_eq_some
    (read : readPairs? next reading separated left bytes = some parts) :
    ∃ value, parts.reading = place reading left value ∨
      (∃ rest, readFraction? next (place reading left value) rest = some parts) ∨
      ∃ fewer marked rest, left = fewer + 1 ∧
        readPairs? next (place reading left value) marked fewer rest = some parts := by
  rw [readPairs?.eq_def] at read
  simp only [Option.bind_eq_bind, Option.bind_eq_some_iff] at read
  rcases read with ⟨⟨value, rest⟩, _, result⟩
  refine ⟨value, ?_⟩
  split at result
  · cases result
    exact Or.inl rfl
  · split at result
    · cases left with
      | zero => exact Or.inr (Or.inl ⟨_, result⟩)
      | succ fewer => exact Or.inr (Or.inr ⟨fewer, _, _, rfl, result⟩)
    · split at result
      · exact Or.inr (Or.inl ⟨_, result⟩)
      · split at result
        · cases result
        · cases left with
          | zero => exact Or.inr (Or.inl ⟨_, result⟩)
          | succ fewer => exact Or.inr (Or.inr ⟨fewer, _, _, rfl, result⟩)

theorem microsecond_of_readPairs? (small : reading.microsecond < 10 ^ 6)
    (read : readPairs? next reading separated left bytes = some parts) :
    parts.reading.microsecond < 10 ^ 6 := by
  induction left using Nat.strongRecOn generalizing reading separated bytes with
  | ind left induction =>
      have placed (value : Nat) : (place reading left value).microsecond < 10 ^ 6 := by
        rwa [microsecond_place]
      rcases exists_of_readPairs?_eq_some read with
        ⟨value, ended | ⟨_, fraction⟩ | ⟨fewer, _, _, rfl, further⟩⟩
      · rw [ended]
        exact placed value
      · exact microsecond_of_readFraction? fraction
      · exact induction fewer (Nat.lt_succ_self fewer) (placed value) further

end ClockParts

theorem Offset.microseconds_of_ofMicroseconds? {count : Int} {offset : Offset}
    (made : ofMicroseconds? count = some offset) : offset.microseconds = count := by
  rw [ofMicroseconds?] at made
  split at made
  · cases made
    rfl
  · cases made

theorem Offset.isRead_of_readOffset? {bytes : Bytes} {offset : Offset}
    (read : readOffset? bytes = some offset) : offset.IsRead := by
  cases bytes with
  | nil => cases read
  | cons sign rest =>
      rw [readOffset?] at read
      split at read
      · split at read
        · exact Or.inl (microseconds_of_ofMicroseconds? read)
        · cases read
      · simp only [Option.bind_eq_bind, Option.bind_eq_some_iff] at read
        rcases read with ⟨parts, _, _, _, result⟩
        split at result
        · exact Or.inl (microseconds_of_ofMicroseconds? result)
        · have distance := microseconds_of_ofMicroseconds? result
          refine Or.inr ?_
          split at distance <;> omega

/-- Every time that is read is of the kind that is read back. -/
theorem ZonedTime.isRead_of_readTime? {bytes : Bytes} {time : ZonedTime}
    (read : readTime? bytes = some time) : time.IsRead := by
  simp only [readTime?, Option.bind_eq_bind, Option.bind_eq_some_iff] at read
  rcases read with ⟨parts, pairs, _, guarded, result⟩
  have ofDay := (Option.guard_eq_some' _).mp guarded
  have small := ClockParts.microsecond_of_readPairs? (by decide) pairs
  split at result
  · simp only [Option.bind_eq_some_iff] at result
    rcases result with ⟨_, _, made⟩
    cases made
    exact ⟨ofDay, small, fun other none => by cases none⟩
  · simp only [Option.bind_eq_some_iff] at result
    rcases result with ⟨offset, readOffset, made⟩
    cases made
    refine ⟨ofDay, small, fun other same => ?_⟩
    cases same
    exact Offset.isRead_of_readOffset? readOffset

theorem ZonedTime.isRead_of_ofText? {text : String} {time : ZonedTime}
    (read : ofText? text = some time) : time.IsRead := by
  rw [ofText?] at read
  split at read
  · cases read
  · split at read <;> exact isRead_of_readTime? read

theorem ZonedTime.isRead_midnight : midnight.IsRead :=
  ⟨by decide, by decide, fun other none => by cases none⟩

theorem DateTime.isRead_of_ofText? {text : String} {moment : DateTime}
    (read : ofText? text = some moment) : moment.time.IsRead := by
  simp only [ofText?, Option.bind_eq_bind, Option.bind_eq_some_iff] at read
  rcases read with ⟨width, _, date, _, result⟩
  split at result
  · cases result
    exact ZonedTime.isRead_midnight
  · simp only [Option.bind_eq_some_iff] at result
    rcases result with ⟨time, readTime, made⟩
    cases made
    exact ZonedTime.isRead_of_readTime? readTime

end CrateGraph.Calendar
