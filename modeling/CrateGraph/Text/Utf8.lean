import CrateGraph.Text.Hexadecimal

/-!
Strict decoding of UTF-8, with the place and the cause of the first fault.

A sequence is faulty from its first byte on. A byte that starts no sequence is a fault alone; a
byte that cannot continue the sequence makes a fault of the bytes before it; a text that ends inside
a sequence makes a fault of all that is left.
-/

namespace CrateGraph.Text

inductive Utf8Cause where
  | invalidStart
  | invalidContinuation
  | unexpectedEnd
deriving DecidableEq

structure Utf8Fault where
  position : Nat
  first : UInt8
  count : Nat
  cause : Utf8Cause
deriving DecidableEq

/-- What the first byte of a sequence promises: how many bytes follow it, the bits that it
contributes, and the range of the byte after it. -/
structure Utf8Lead where
  following : Nat
  bits : Nat
  least : Nat
  greatest : Nat

def utf8Lead? (byte : UInt8) : Option Utf8Lead :=
  let value := byte.toNat
  if value < 0x80 then some ⟨0, value, 0x80, 0xBF⟩
  else if value < 0xC2 then none
  else if value < 0xE0 then some ⟨1, value - 0xC0, 0x80, 0xBF⟩
  else if value < 0xF0 then
    some ⟨2, value - 0xE0, if value = 0xE0 then 0xA0 else 0x80, if value = 0xED then 0x9F else 0xBF⟩
  else if value < 0xF5 then
    some ⟨3, value - 0xF0, if value = 0xF0 then 0x90 else 0x80, if value = 0xF4 then 0x8F else 0xBF⟩
  else none

/-- The sequence being read: its first byte, how many of its bytes are read, how many are still to
come, the bits so far and the range of the next byte. -/
structure Utf8Sequence where
  first : UInt8
  read : Nat
  missing : Nat
  bits : Nat
  least : Nat
  greatest : Nat

/-- Decodes from a byte offset on; `decoded` holds in reverse what is already read, and
`pending` the sequence that the offset stands in. -/
def decodeUtf8From (position : Nat) (decoded : List Char) (pending : Option Utf8Sequence) :
    List UInt8 → Except Utf8Fault (List Char)
  | [] =>
      match pending with
      | none => .ok decoded.reverse
      | some sequence =>
          .error ⟨position - sequence.read, sequence.first, sequence.read, .unexpectedEnd⟩
  | byte :: rest =>
      match pending with
      | none =>
          match utf8Lead? byte with
          | none => .error ⟨position, byte, 1, .invalidStart⟩
          | some lead =>
              if lead.following = 0 then
                decodeUtf8From (position + 1) (Char.ofNat lead.bits :: decoded) none rest
              else
                decodeUtf8From (position + 1) decoded
                  (some ⟨byte, 1, lead.following, lead.bits, lead.least, lead.greatest⟩) rest
      | some sequence =>
          if sequence.least ≤ byte.toNat ∧ byte.toNat ≤ sequence.greatest then
            let bits := sequence.bits * 64 + (byte.toNat - 0x80)
            if sequence.missing = 1 then
              decodeUtf8From (position + 1) (Char.ofNat bits :: decoded) none rest
            else
              decodeUtf8From (position + 1) decoded
                (some ⟨sequence.first, sequence.read + 1, sequence.missing - 1, bits, 0x80, 0xBF⟩)
                rest
          else
            .error ⟨position - sequence.read, sequence.first, sequence.read, .invalidContinuation⟩

def Utf8Cause.message : Utf8Cause → String
  | .invalidStart => "invalid start byte"
  | .invalidContinuation => "invalid continuation byte"
  | .unexpectedEnd => "unexpected end of data"

def Utf8Fault.message (fault : Utf8Fault) : String :=
  let place :=
    if fault.count = 1 then
      "byte 0x" ++ String.ofList (hexDigits .lower 2 fault.first.toNat) ++
        " in position " ++ toString fault.position
    else
      "bytes in position " ++ toString fault.position ++ "-" ++
        toString (fault.position + fault.count - 1)
  "'utf-8' codec can't decode " ++ place ++ ": " ++ fault.cause.message

def decodeUtf8 (bytes : List UInt8) : Except Utf8Fault String :=
  (decodeUtf8From 0 [] none bytes).map String.ofList

example : decodeUtf8 [0x61, 0xE1, 0x80, 0x41] = .error ⟨1, 0xE1, 2, .invalidContinuation⟩ := rfl

example : (decodeUtf8 [0x61, 0xC3, 0xA9, 0xF0, 0x9F, 0x98, 0x80]).toOption = some "aé😀" := by
  decide +kernel

end CrateGraph.Text
