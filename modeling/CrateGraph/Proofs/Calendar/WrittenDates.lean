import CrateGraph.Calendar.Written
import CrateGraph.Proofs.Decimal.WholeNumbers
import CrateGraph.Proofs.Text.Characters
import CrateGraph.Proofs.Text.Utf8Writing

/-!
Dates are read from what they are written as.

A number in a fixed number of places is read back from its digits, whatever follows them, and the
marks of a date are where its reader looks for them.
-/

namespace CrateGraph.Calendar

open Text (IsAscii)

/-! ### Numbers in fixed places -/

variable {width number : Nat}

theorem isDigit_padded (width number : Nat) : ∀ digit ∈ padded width number, digit.isDigit := by
  intro digit member
  rcases List.mem_append.mp member with zero | ofNumber
  · rw [(List.mem_replicate.mp zero).2]
    rfl
  · exact Nat.isDigit_of_mem_toDigits (by decide) (by decide) ofNumber

@[simp] theorem padded_ne_nil (width number : Nat) : padded width number ≠ [] :=
  List.append_ne_nil_of_right_ne_nil _ Nat.toDigits_ne_nil

theorem length_padded (some : 0 < width) (fits : number < 10 ^ width) :
    (padded width number).length = width := by
  have short := (Nat.length_toDigits_le_iff (by decide) some).mpr fits
  rw [padded, List.length_append, List.length_replicate]
  omega

theorem ofDigitChars_padded (width number : Nat) :
    Nat.ofDigitChars 10 (padded width number) 0 = number := by
  rw [padded, Nat.ofDigitChars_append, Nat.ofDigitChars_replicate_zero, Nat.mul_zero,
    Nat.ofDigitChars_ten_toDigits]

/-! ### Bytes of plain texts -/

/-- The bytes of ASCII characters. -/
def asciiBytes (characters : List Char) : Bytes :=
  characters.map fun character => UInt8.ofNat character.toNat

@[simp] theorem asciiBytes_nil : asciiBytes [] = [] :=
  rfl

@[simp] theorem asciiBytes_cons (character : Char) (rest : List Char) :
    asciiBytes (character :: rest) = UInt8.ofNat character.toNat :: asciiBytes rest :=
  rfl

@[simp] theorem asciiBytes_append (left right : List Char) :
    asciiBytes (left ++ right) = asciiBytes left ++ asciiBytes right :=
  List.map_append

@[simp] theorem asciiBytes_eq_nil_iff (characters : List Char) :
    asciiBytes characters = [] ↔ characters = [] :=
  List.map_eq_nil_iff

@[simp] theorem length_asciiBytes (characters : List Char) :
    (asciiBytes characters).length = characters.length :=
  List.length_map _

theorem toList_toUTF8_of_within {text : String} (ascii : Text.Within IsAscii text) :
    text.toUTF8.toList = asciiBytes text.toList := by
  suffices general : ∀ characters : List Char, (∀ character ∈ characters, IsAscii character) →
      characters.flatMap String.utf8EncodeChar = asciiBytes characters by
    rw [Text.toList_toUTF8, general _ ascii]
  intro characters each
  induction characters with
  | nil => rfl
  | cons character rest induction =>
      rw [List.forall_mem_cons] at each
      have small : character.val.toNat ≤ 0x7F := Nat.le_of_lt_succ each.1
      rw [List.flatMap_cons, induction each.2, String.utf8EncodeChar.eq_def]
      simp only [if_pos small]
      rfl

/-! ### Digits read back -/

theorem toNat_byte_of_isDigit {digit : Char} (isDigit : digit.isDigit) :
    (UInt8.ofNat digit.toNat).toNat = digit.toNat := by
  have bounds := Decimal.toNat_of_isDigit isDigit
  rw [UInt8.toNat_ofNat']
  omega

theorem isDigitByte_of_isDigit {digit : Char} (isDigit : digit.isDigit) :
    isDigitByte (UInt8.ofNat digit.toNat) = true := by
  rw [isDigitByte, Bool.and_eq_true, decide_eq_true_eq, decide_eq_true_eq, UInt8.le_iff_toNat_le,
    UInt8.le_iff_toNat_le, toNat_byte_of_isDigit isDigit]
  exact Decimal.toNat_of_isDigit isDigit

section Digits

variable {digits : List Char} (areDigits : ∀ digit ∈ digits, digit.isDigit)
include areDigits

theorem all_isDigitByte_asciiBytes : (asciiBytes digits).all isDigitByte := by
  rw [asciiBytes, List.all_map, List.all_eq_true]
  exact fun digit member => isDigitByte_of_isDigit (areDigits digit member)

theorem foldl_asciiBytes (start : Nat) :
    (asciiBytes digits).foldl (fun value digit => value * 10 + (digit.toNat - 0x30)) start =
      Nat.ofDigitChars 10 digits start := by
  induction digits generalizing start with
  | nil => rfl
  | cons digit rest induction =>
      rw [List.forall_mem_cons] at areDigits
      rw [asciiBytes_cons, List.foldl_cons, induction areDigits.2, Nat.ofDigitChars_cons,
        toNat_byte_of_isDigit areDigits.1, Nat.mul_comm]
      rfl

theorem takeDigits?_asciiBytes (rest : Bytes) :
    takeDigits? digits.length (asciiBytes digits ++ rest) =
      some (Nat.ofDigitChars 10 digits 0, rest) := by
  rw [takeDigits?, List.take_left' (length_asciiBytes digits),
    List.drop_left' (length_asciiBytes digits), foldl_asciiBytes areDigits]
  simp [all_isDigitByte_asciiBytes areDigits]

end Digits

theorem takeDigits?_padded (some : 0 < width) (fits : number < 10 ^ width) (rest : Bytes) :
    takeDigits? width (asciiBytes (padded width number) ++ rest) = .some (number, rest) := by
  have read := takeDigits?_asciiBytes (isDigit_padded width number) rest
  rwa [length_padded some fits, ofDigitChars_padded] at read

theorem expect?_cons (mark : UInt8) (rest : Bytes) : expect? mark (mark :: rest) = some rest :=
  if_pos rfl

theorem exists_asciiBytes_padded (width number : Nat) :
    ∃ first rest, asciiBytes (padded width number) = first :: rest ∧ isDigitByte first = true := by
  have areDigits := isDigit_padded width number
  cases digits : padded width number with
  | nil => exact absurd digits (padded_ne_nil width number)
  | cons digit rest =>
      rw [digits, List.forall_mem_cons] at areDigits
      exact ⟨_, _, rfl, isDigitByte_of_isDigit areDigits.1⟩

/-- A mark that is no digit does not stand where a number starts. -/
theorem expect?_padded {mark : UInt8} (noDigit : isDigitByte mark = false) (width number : Nat)
    (rest : Bytes) : expect? mark (asciiBytes (padded width number) ++ rest) = none := by
  rcases exists_asciiBytes_padded width number with ⟨first, others, bytes, isDigit⟩
  rw [bytes]
  apply if_neg
  rintro rfl
  rw [noDigit] at isDigit
  cases isDigit

/-! ### Dates -/

namespace Date

def characters (date : Date) : List Char :=
  padded 4 date.year ++ '-' :: padded 2 date.month ++ '-' :: padded 2 date.day

theorem toList_toString (date : Date) : date.toString.toList = date.characters :=
  String.toList_ofList

theorem bounds (date : Date) : date.year < 10 ^ 4 ∧ date.month < 10 ^ 2 ∧ date.day < 10 ^ 2 := by
  have valid := date.valid
  have days : daysInMonth date.year date.month ≤ 31 := by
    unfold daysInMonth
    repeat' split
    all_goals decide
  omega

end Date

theorem asciiBytes_date (date : Date) (rest : Bytes) :
    asciiBytes date.characters ++ rest =
      asciiBytes (padded 4 date.year) ++ hyphen :: (asciiBytes (padded 2 date.month) ++
        hyphen :: (asciiBytes (padded 2 date.day) ++ rest)) := by
  simp [Date.characters, hyphen]

/-- Whatever follows a date, the date is read back. -/
theorem readDate?_characters (width : Nat) (date : Date) (rest : Bytes) :
    readDate? width (asciiBytes date.characters ++ rest) = some date := by
  rcases date.bounds with ⟨year, month, day⟩
  have noWeek : isDigitByte 'W'.toUInt8 = false := by decide
  have ofParts : Date.ofParts? date.year date.month date.day = some date := dif_pos date.valid
  rw [readDate?, asciiBytes_date, takeDigits?_padded (by decide) year]
  simp only [Option.bind_eq_bind, Option.bind_some, List.head?_cons, if_true, expect?_cons,
    expect?_padded noWeek, takeDigits?_padded (by decide : 0 < 2) month,
    takeDigits?_padded (by decide : 0 < 2) day, ofParts]

namespace Date

/-- A date is written in digits and hyphens. -/
theorem forall_mem_characters (date : Date) {holds : Char → Prop}
    (digits : ∀ digit : Char, digit.isDigit → holds digit) (hyphen : holds '-') :
    ∀ character ∈ date.characters, holds character := by
  have ofPadded (width number : Nat) : ∀ digit ∈ padded width number, holds digit :=
    fun digit member => digits digit (isDigit_padded width number digit member)
  simp only [characters, List.forall_mem_append, List.forall_mem_cons]
  exact ⟨⟨ofPadded _ _, hyphen, ofPadded _ _⟩, hyphen, ofPadded _ _⟩

theorem within_toString (date : Date) : Text.Within IsAscii date.toString := by
  rw [toString, Text.within_ofList]
  exact date.forall_mem_characters (fun _ => Text.isAscii_of_isDigit) (by decide)

theorem toList_toUTF8_toString (date : Date) :
    date.toString.toUTF8.toList = asciiBytes date.characters := by
  rw [toList_toUTF8_of_within date.within_toString, toList_toString]

theorem length_characters (date : Date) : date.characters.length = 10 := by
  rcases date.bounds with ⟨year, month, day⟩
  rw [characters, List.length_append, List.length_cons, List.length_append, List.length_cons,
    length_padded (by decide) year, length_padded (by decide) month, length_padded (by decide) day]

theorem ofText?_toString (date : Date) : ofText? date.toString = some date := by
  have read := readDate?_characters 10 date []
  rw [List.append_nil] at read
  rw [ofText?, toList_toUTF8_toString, length_asciiBytes, length_characters, if_pos (by decide)]
  exact read

end Date

end CrateGraph.Calendar
