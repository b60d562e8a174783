import CrateGraph.Text.Hexadecimal
import Mathlib.Algebra.Group.Nat.Defs

/-!
Hexadecimal digits read back as the number that they were written for, up to the places that it had.
-/

namespace CrateGraph.Text

/-- The number that a list of digits stands for, most significant first. -/
def hexNumber? (digits : List Char) : Option Nat :=
  digits.foldlM (fun value digit => (hexValue? digit).map (value * 16 + ·)) 0

theorem hexValue?_hexDigit (letters : HexCase) {value : Nat} (small : value < 16) :
    hexValue? (hexDigit letters value) = some value := by
  have everyDigit : ∀ digit : Fin 16,
      hexValue? (hexDigit letters digit.val) = some digit.val := by
    cases letters <;> decide
  exact everyDigit ⟨value, small⟩

theorem hexNumber?_hexDigits (letters : HexCase) (places value : Nat) :
    hexNumber? (hexDigits letters places value) = some (value % 16 ^ places) := by
  induction places generalizing value with
  | zero => simp [hexDigits, hexNumber?, Nat.mod_one]
  | succ places induction =>
      have earlier := induction (value / 16)
      have last := hexValue?_hexDigit letters (Nat.mod_lt value (by decide : 16 > 0))
      have parts : value % 16 ^ (places + 1) = value / 16 % 16 ^ places * 16 + value % 16 := by
        rw [Nat.pow_succ, Nat.mul_comm (16 ^ places) 16, Nat.mod_mul, Nat.add_comm,
          Nat.mul_comm 16]
      rw [hexNumber?] at earlier
      rw [hexNumber?, hexDigits, List.foldlM_append, earlier, parts]
      simp [last]

theorem isSome_hexValue?_of_mem_hexDigits (letters : HexCase) (places value : Nat) {digit : Char}
    (member : digit ∈ hexDigits letters places value) : (hexValue? digit).isSome := by
  induction places generalizing value with
  | zero => cases member
  | succ places induction =>
      rcases List.mem_append.mp member with earlier | last
      · exact induction (value / 16) earlier
      · rw [List.mem_singleton.mp last,
          hexValue?_hexDigit letters (Nat.mod_lt value (by decide : 16 > 0))]
        rfl

end CrateGraph.Text
