import CrateGraph.Text.Hexadecimal

/-!
Escaping of free text for one segment of an IRI.

The text is taken as UTF-8. ASCII letters and digits, the marks `-._~` and the backslash stand for
themselves; every other byte is written as a percent sign and two upper-case hexadecimal digits.
-/

namespace CrateGraph.Iri

def isKept (byte : UInt8) : Bool :=
  let code := byte.toNat
  (0x41 ≤ code && code ≤ 0x5A) || (0x61 ≤ code && code ≤ 0x7A) || (0x30 ≤ code && code ≤ 0x39) ||
    code == 0x2D || code == 0x2E || code == 0x5F || code == 0x7E || code == 0x5C

def escapeByte (byte : UInt8) : List Char :=
  if isKept byte then [Char.ofNat byte.toNat]
  else '%' :: Text.hexDigits .upper 2 byte.toNat

def escapeCharacter (character : Char) : List Char :=
  (String.utf8EncodeChar character).flatMap escapeByte

def escape (text : String) : String :=
  String.ofList (text.toList.flatMap escapeCharacter)

theorem escape_append (left right : String) :
    escape (left ++ right) = escape left ++ escape right := by
  simp [escape, String.toList_append, String.ofList_append]

example : escape "a::b é\\~" = "a%3A%3Ab%20%C3%A9\\~" := by decide +kernel

end CrateGraph.Iri
