import CrateGraph.Proofs.Iri.PercentDecoding
import CrateGraph.Proofs.Text.Utf8Writing

/-!
What escaped text looks like, and that nothing is lost in it.

Main statement: an escaped text consists of characters that stand for themselves and of bytes that
are written as a percent sign and two upper-case digits. It is decoded to the bytes of the text that
it was made from, texts are escaped piece by piece, and no two texts look the same.
-/

namespace CrateGraph.Iri

/-- The characters that stand for themselves: those that no address reserves, and the backslash. -/
def isKeptCharacter (character : Char) : Bool :=
  character.isAlphanum || ['-', '.', '_', '~', '\\'].contains character

def isUpperHexDigit (digit : Char) : Bool :=
  digit.isDigit || ('A' ≤ digit && digit ≤ 'F')

/-- Characters that stand for themselves, and bytes as a percent sign and two digits. -/
inductive IsEscaped : List Char → Prop
  | nil : IsEscaped []
  | kept {character : Char} {rest : List Char} (plain : isKeptCharacter character)
      (further : IsEscaped rest) : IsEscaped (character :: rest)
  | byte {high low : Char} {rest : List Char} (first : isUpperHexDigit high)
      (second : isUpperHexDigit low) (further : IsEscaped rest) :
      IsEscaped ('%' :: high :: low :: rest)

theorem isUpperHexDigit_hexDigit {value : Nat} (small : value < 16) :
    isUpperHexDigit (Text.hexDigit .upper value) = true := by
  have everyDigit : ∀ digit : Fin 16, isUpperHexDigit (Text.hexDigit .upper digit.val) = true := by
    decide
  exact everyDigit ⟨value, small⟩

theorem isKeptCharacter_of_kept {byte : UInt8} (kept : isKept byte = true) :
    isKeptCharacter (Char.ofNat byte.toNat) = true := by
  have everyByte : ∀ code : Fin 128, isKept (UInt8.ofNat code.val) = true →
      isKeptCharacter (Char.ofNat code.val) = true := by
    decide +kernel
  have ofByte := everyByte ⟨byte.toNat, kept_below kept⟩
  rw [UInt8.ofNat_toNat] at ofByte
  exact ofByte kept

theorem IsEscaped.escapeByte_append {rest : List Char} (further : IsEscaped rest) (byte : UInt8) :
    IsEscaped (escapeByte byte ++ rest) := by
  rw [escapeByte]
  split
  next kept => exact .kept (isKeptCharacter_of_kept kept) further
  next =>
    have oneByte : byte.toNat < 256 := byte.toNat_lt
    have high : isUpperHexDigit (Text.hexDigit .upper (byte.toNat / 16 % 16)) :=
      isUpperHexDigit_hexDigit (by omega)
    have low : isUpperHexDigit (Text.hexDigit .upper (byte.toNat % 16)) :=
      isUpperHexDigit_hexDigit (by omega)
    exact .byte high low further

theorem isEscaped_flatMap_escapeByte (bytes : List UInt8) :
    IsEscaped (bytes.flatMap escapeByte) := by
  induction bytes with
  | nil => exact .nil
  | cons byte rest induction =>
      rw [List.flatMap_cons]
      exact induction.escapeByte_append byte

theorem isEscaped_escape (text : String) : IsEscaped (escape text).toList := by
  rw [toList_escape]
  exact isEscaped_flatMap_escapeByte _

/-- Escaped text is made of plain characters and written bytes, is decoded to the bytes of the text,
and is put together like the text. So no two texts look the same, and the marks that an address
gives a meaning to do not occur. -/
theorem escaping_is_reversible :
    (∀ text, percentDecode? (escape text).toList = some text.toUTF8.toList) ∧
    (∀ text, IsEscaped (escape text).toList) ∧
    (∀ left right, escape (left ++ right) = escape left ++ escape right) ∧
    (∀ left right, escape left = escape right ↔ left = right) ∧
    ∀ text, '/' ∉ (escape text).toList ∧ '(' ∉ (escape text).toList ∧
      ')' ∉ (escape text).toList ∧ ':' ∉ (escape text).toList ∧
      '"' ∉ (escape text).toList ∧ '\'' ∉ (escape text).toList := by
  refine ⟨fun text => ?_, isEscaped_escape, escape_append, fun left right => ?_, fun text => ?_⟩
  · rw [Text.toList_toUTF8]
    exact percentDecode?_escape text
  · exact escape_injective.eq_iff
  · have absent : ∀ mark, isSegmentCharacter mark = false → mark ∉ (escape text).toList :=
      fun mark reserved => not_mem_escape reserved text
    exact ⟨absent '/' (by decide), absent '(' (by decide), absent ')' (by decide),
      absent ':' (by decide), absent '"' (by decide), absent '\'' (by decide)⟩

-- What looks like an escape already is escaped once more.
example : escape "%2F/" = "%252F%2F" := by decide +kernel

end CrateGraph.Iri
