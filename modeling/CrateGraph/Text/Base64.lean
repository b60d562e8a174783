/-!
Bytes written in groups of four characters of an alphabet of sixty-four.

Reading is lenient: characters outside the alphabet are passed over, and after the padding that
completes a group nothing more is looked at. A group that is left incomplete is a fault.
-/

namespace CrateGraph.Text.Base64

def alphabet : List Char :=
  "ABCDEFGHIJKLMNOPQRSTUVWXYZabcdefghijklmnopqrstuvwxyz0123456789+/".toList

def digit (value : Nat) : Char :=
  alphabet.getD value '='

def value? (character : Char) : Option Nat :=
  alphabet.findIdx? (· == character)

/-! ### Writing -/

def encode : List UInt8 → List Char
  | [] => []
  | [first] =>
      let bits := first.toNat * 16
      [digit (bits / 64), digit (bits % 64), '=', '=']
  | [first, second] =>
      let bits := (first.toNat * 256 + second.toNat) * 4
      [digit (bits / 4096), digit (bits / 64 % 64), digit (bits % 64), '=']
  | first :: second :: third :: rest =>
      let bits := (first.toNat * 256 + second.toNat) * 256 + third.toNat
      digit (bits / 262144) :: digit (bits / 4096 % 64) :: digit (bits / 64 % 64) ::
        digit (bits % 64) :: encode rest

/-! ### Reading -/

def groupBytes : List Nat → List UInt8
  | [first, second] => [(first * 4 + second / 16).toUInt8]
  | [first, second, third] =>
      [(first * 4 + second / 16).toUInt8, (second * 16 + third / 4).toUInt8]
  | [first, second, third, fourth] =>
      [(first * 4 + second / 16).toUInt8, (second * 16 + third / 4).toUInt8,
        (third * 64 + fourth).toUInt8]
  | _ => []

/-- Reads characters. `group` holds the values of the group that is not complete yet, and `pads`
counts the padding in it. -/
def decodeFrom (group : List Nat) (pads : Nat) : List Char → Option (List UInt8)
  | [] => if group.isEmpty then some [] else none
  | character :: rest =>
      if character = '=' then
        if group.length < 2 then decodeFrom group pads rest
        else if group.length + pads + 1 < 4 then decodeFrom group (pads + 1) rest
        else some (groupBytes group)
      else
        match value? character with
        | none => decodeFrom group pads rest
        | some value =>
            if group.length = 3 then
              (decodeFrom [] 0 rest).map (groupBytes (group ++ [value]) ++ ·)
            else decodeFrom (group ++ [value]) 0 rest

def decode? (text : String) : Option (List UInt8) :=
  if text.toList.all (·.toNat < 0x80) then decodeFrom [] 0 text.toList else none

example : alphabet.length = 64 ∧ alphabet.Nodup := by decide +kernel

example : decode? "TWF\nu-T\u0000Q==Zg" = some [0x4D, 0x61, 0x6E, 0x4D] ∧ decode? "TWF" = none := by
  decide +kernel

example : String.ofList (encode [0x4D, 0x61, 0x6E, 0x4D]) = "TWFuTQ==" := by decide +kernel

end CrateGraph.Text.Base64
