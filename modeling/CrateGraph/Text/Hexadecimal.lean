/-!
Hexadecimal digits in a fixed number of places.
-/

namespace CrateGraph.Text

inductive HexCase where
  | lower
  | upper

def hexDigit (letters : HexCase) (value : Nat) : Char :=
  if value < 10 then Char.ofNat (0x30 + value)
  else
    match letters with
    | .lower => Char.ofNat (0x61 + (value - 10))
    | .upper => Char.ofNat (0x41 + (value - 10))

def hexDigits (letters : HexCase) : (places : Nat) → Nat → List Char
  | 0, _ => []
  | places + 1, value => hexDigits letters places (value / 16) ++ [hexDigit letters (value % 16)]

def hexValue? (digit : Char) : Option Nat :=
  let code := digit.toNat
  if 0x30 ≤ code && code ≤ 0x39 then some (code - 0x30)
  else if 0x41 ≤ code && code ≤ 0x46 then some (code - 0x41 + 10)
  else if 0x61 ≤ code && code ≤ 0x66 then some (code - 0x61 + 10)
  else none

@[simp] theorem hexDigits_length (letters : HexCase) (places value : Nat) :
    (hexDigits letters places value).length = places := by
  induction places generalizing value with
  | zero => rfl
  | succ places induction => simp [hexDigits, induction]

example : hexDigits .upper 4 0x1f = "001F".toList := by decide +kernel

end CrateGraph.Text
