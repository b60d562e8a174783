import CrateGraph.Decimal.Numeral
import CrateGraph.Proofs.Text.Trimming
import Mathlib.Algebra.Group.Nat.Defs
import Mathlib.Data.Option.Basic

/-!
Whole numbers are read back from their decimal forms.

A decimal form has no blanks around it, no groups and only plain digits, so nothing is taken away
from it before its digits are read. Forms that are longer than what may be read are not read at all,
but no number that was read has such a form.
-/

namespace CrateGraph.Decimal

variable {characters digits : List Char}

theorem digitsToNat_eq_ofDigitChars (digits : List Char) :
    digitsToNat digits = Nat.ofDigitChars 10 digits 0 := by
  simp only [digitsToNat, Nat.ofDigitChars, Nat.mul_comm]
  rfl

/-! ### Digits -/

theorem toNat_of_isDigit {digit : Char} (isDigit : digit.isDigit) :
    0x30 ≤ digit.toNat ∧ digit.toNat ≤ 0x39 := by
  rw [Char.isDigit, Bool.and_eq_true, decide_eq_true_eq, decide_eq_true_eq] at isDigit
  exact isDigit

/-- Of digits no more can be made than of as many nines. -/
theorem foldl_lt_pow {Digit : Type} {value : Digit → Nat} {digits : List Digit}
    (small : ∀ digit ∈ digits, value digit < 10) :
    digits.foldl (fun number digit => number * 10 + value digit) 0 < 10 ^ digits.length := by
  suffices general : ∀ start, digits.foldl (fun number digit => number * 10 + value digit) start <
      (start + 1) * 10 ^ digits.length by
    simpa using general 0
  induction digits with
  | nil => simp
  | cons digit rest induction =>
      intro start
      rw [List.forall_mem_cons] at small
      have first := small.1
      have step : start * 10 + value digit + 1 ≤ (start + 1) * 10 := by omega
      calc (digit :: rest).foldl (fun number digit => number * 10 + value digit) start
          < (start * 10 + value digit + 1) * 10 ^ rest.length := induction small.2 _
        _ ≤ (start + 1) * 10 * 10 ^ rest.length := Nat.mul_le_mul_right _ step
        _ = (start + 1) * 10 ^ (digit :: rest).length := by
            rw [List.length_cons, Nat.pow_succ', Nat.mul_assoc]

theorem digitsToNat_lt (areDigits : ∀ digit ∈ digits, digit.isDigit) :
    digitsToNat digits < 10 ^ digits.length := by
  apply foldl_lt_pow
  intro digit member
  have upper := (toNat_of_isDigit (areDigits digit member)).2
  omega

/-! ### Decimal forms -/

/-- Digits, and a sign if it is a minus. -/
def plainMarks : List Char :=
  '-' :: (List.range 10).map fun value => Char.ofNat (0x30 + value)

theorem mem_plainMarks_of_isDigit {digit : Char} (isDigit : digit.isDigit) :
    digit ∈ plainMarks := by
  rcases toNat_of_isDigit isDigit with ⟨lower, upper⟩
  refine List.mem_cons_of_mem _ (List.mem_map.mpr ⟨digit.toNat - 0x30, ?_, ?_⟩)
  · rw [List.mem_range]
    omega
  · rw [Nat.add_sub_cancel' lower, Char.ofNat_toNat]

theorem eq_true_of_mem_plainMarks {holds : Char → Bool} (each : plainMarks.all holds)
    {character : Char} (plain : character ∈ plainMarks) : holds character = true :=
  List.all_eq_true.mp each character plain

section Plain

variable (plain : characters ⊆ plainMarks)
include plain

theorem joinGroups?_of_plain : joinGroups? characters = some characters := by
  have noMark : '_' ∉ characters := fun member => by
    have different : plainMarks.all (· != '_') := by decide
    simpa using eq_true_of_mem_plainMarks different (plain member)
  fun_induction joinGroups? characters with
  | case1 => rfl
  | case2 => exact absurd List.mem_cons_self noMark
  | case3 | case4 => simp at noMark
  | case5 character rest _ _ induction =>
      rw [induction (fun other member => plain (List.mem_cons_of_mem character member))
        fun member => noMark (List.mem_cons_of_mem character member)]
      rfl

theorem numberCharacters?_of_plain :
    numberCharacters? (String.ofList characters) = some characters := by
  have noMargin : plainMarks.all (!isMargin ·) := by decide
  have unchanged : plainMarks.all fun mark => Text.plainDigit mark == mark := by decide
  have trimmed : Text.Trimmed isMargin characters := .of_forall fun character member => by
    simpa using eq_true_of_mem_plainMarks noMargin (plain member)
  have mapped : characters.map Text.plainDigit = characters :=
    (List.map_congr_left fun character member => eq_of_beq
      (eq_true_of_mem_plainMarks unchanged (plain member))).trans (List.map_id' _)
  rw [numberCharacters?, String.toList_ofList, Text.trimCharacters_of_trimmed trimmed, mapped,
    joinGroups?_of_plain plain]

end Plain

/-! ### Numbers read back -/

theorem splitSign_of_isDigit (areDigits : ∀ digit ∈ digits, digit.isDigit) :
    splitSign digits = (false, digits) := by
  fun_cases splitSign digits with
  | case1 rest => exact absurd (areDigits '-' List.mem_cons_self) (by decide)
  | case2 rest => exact absurd (areDigits '+' List.mem_cons_self) (by decide)
  | case3 => rfl

theorem splitSign_signText (negative : Bool) (areDigits : ∀ digit ∈ digits, digit.isDigit) :
    splitSign (Numeral.signText negative ++ digits) = (negative, digits) := by
  cases negative with
  | false => exact splitSign_of_isDigit areDigits
  | true => rfl

theorem wholeNumber?_signText (negative : Bool) (areDigits : ∀ digit ∈ digits, digit.isDigit)
    (some : digits ≠ []) :
    wholeNumber? (String.ofList (Numeral.signText negative ++ digits)) =
      if digits.length ≤ longestInteger then
        .some (if negative then -(digitsToNat digits : Int) else digitsToNat digits)
      else none := by
  have plain : Numeral.signText negative ++ digits ⊆ plainMarks := by
    refine List.append_subset.mpr ⟨?_, fun digit member => ?_⟩
    · cases negative <;> decide
    · exact mem_plainMarks_of_isDigit (areDigits digit member)
  rw [wholeNumber?, numberCharacters?_of_plain plain, Option.bind_eq_bind, Option.bind_some,
    splitSign_signText negative areDigits]
  simp only [guard, List.isEmpty_eq_false_iff.mpr some, List.all_eq_true.mpr areDigits,
    Bool.not_false, Bool.true_and, decide_eq_true_eq]
  split <;> rfl

theorem toString_eq_signText (value : Int) :
    toString value =
      String.ofList (Numeral.signText (value < 0) ++ Nat.toDigits 10 value.natAbs) := by
  change value.repr = _
  cases value with
  | ofNat number => exact Nat.repr_eq_ofList_toDigits
  | negSucc number =>
      rw [Int.repr, Nat.repr_eq_ofList_toDigits, decide_eq_true (Int.negSucc_lt_zero number),
        String.ofList_append]
      rfl

/-- A number is read back from its decimal form unless that is too long. -/
theorem wholeNumber?_toString (value : Int) :
    wholeNumber? (toString value) =
      if (Nat.toDigits 10 value.natAbs).length ≤ longestInteger then some value else none := by
  have areDigits : ∀ digit ∈ Nat.toDigits 10 value.natAbs, digit.isDigit :=
    fun _ => Nat.isDigit_of_mem_toDigits (by decide) (by decide)
  have signed : (if value < 0 then -(value.natAbs : Int) else value.natAbs) = value := by
    split <;> omega
  rw [toString_eq_signText, wholeNumber?_signText _ areDigits Nat.toDigits_ne_nil,
    digitsToNat_eq_ofDigitChars, Nat.ofDigitChars_ten_toDigits]
  simp only [decide_eq_true_eq, signed]

theorem length_toDigits_of_wholeNumber? {text : String} {value : Int}
    (read : wholeNumber? text = some value) :
    (Nat.toDigits 10 value.natAbs).length ≤ longestInteger := by
  simp only [wholeNumber?, Option.bind_eq_bind, Option.bind_eq_some_iff] at read
  rcases read with ⟨characters, _, _, guarded, result⟩
  generalize splitSign characters = parts at guarded result
  rcases parts with ⟨negative, digits⟩
  simp only [Option.guard_eq_some', Bool.and_eq_true, decide_eq_true_eq] at guarded
  rcases guarded with ⟨⟨_, areDigits⟩, short⟩
  have magnitude : value.natAbs = digitsToNat digits := by
    rw [← Option.some.inj result]
    cases negative <;> simp
  have small := digitsToNat_lt (List.all_eq_true.mp areDigits)
  have widened : 10 ^ digits.length ≤ 10 ^ longestInteger := Nat.pow_le_pow_right (by omega) short
  rw [magnitude, Nat.length_toDigits_le_iff (by decide) (by decide)]
  exact small.trans_le widened

end CrateGraph.Decimal
