import CrateGraph.Iri.Escape
import CrateGraph.Proofs.Text.HexadecimalReading

/-!
Escaped text is decoded to the text that it was made from.

A segment is decoded in two steps: percent signs and their digits to bytes, and the bytes as UTF-8.
What is escaped holds none of the marks that an address gives a meaning to, so segments can be told
apart before they are decoded.
-/

namespace CrateGraph.Iri

/-! ### Decoding -/

/-- The bytes that an escaped text stands for. A percent sign needs its two digits. -/
def percentDecode? : List Char → Option (List UInt8)
  | [] => some []
  | '%' :: high :: low :: rest =>
      (Text.hexNumber? [high, low]).bind fun byte =>
        (percentDecode? rest).map (UInt8.ofNat byte :: ·)
  | '%' :: _ => none
  | character :: rest => (percentDecode? rest).map (String.utf8EncodeChar character ++ ·)

def unescape? (segment : List Char) : Option String :=
  (percentDecode? segment).bind fun bytes => String.fromUTF8? bytes.toByteArray

theorem percentDecode?_cons {character : Char} (plain : character ≠ '%') (rest : List Char) :
    percentDecode? (character :: rest) =
      (percentDecode? rest).map (String.utf8EncodeChar character ++ ·) := by
  rw [percentDecode?]
  · intro _ _ _ percent
    exact absurd percent plain
  · exact plain

/-! ### A kept byte is an ASCII character -/

theorem kept_below {byte : UInt8} (kept : isKept byte = true) : byte.toNat < 0x80 := by
  simp only [isKept, Bool.or_eq_true, Bool.and_eq_true, decide_eq_true_eq, beq_iff_eq] at kept
  omega

theorem toNat_ofNat_of_kept {byte : UInt8} (kept : isKept byte = true) :
    (Char.ofNat byte.toNat).toNat = byte.toNat := by
  have valid : byte.toNat.isValidChar := Or.inl (Nat.lt_trans (kept_below kept) (by decide))
  rw [Char.ofNat, dif_pos valid]
  rfl

theorem ofNat_ne_percent_of_kept {byte : UInt8} (kept : isKept byte = true) :
    Char.ofNat byte.toNat ≠ '%' := by
  intro percent
  have number := toNat_ofNat_of_kept kept
  have isPercent : byte = 0x25 := by
    rw [← UInt8.toNat_inj, ← number, percent]
    rfl
  rw [isPercent] at kept
  exact absurd kept (by decide)

theorem utf8EncodeChar_of_kept {byte : UInt8} (kept : isKept byte = true) :
    String.utf8EncodeChar (Char.ofNat byte.toNat) = [byte] := by
  have below := kept_below kept
  have number := toNat_ofNat_of_kept kept
  have single : (Char.ofNat byte.toNat).utf8Size = 1 := by
    rw [Char.utf8Size_eq_one_iff, UInt32.le_iff_toNat_le, ← Char.toNat, number]
    exact Nat.le_of_lt_succ below
  have same : (Char.ofNat byte.toNat).val.toUInt8 = byte := by
    rw [← UInt8.toNat_inj, UInt32.toNat_toUInt8, ← Char.toNat, number]
    exact Nat.mod_eq_of_lt (by omega)
  rw [String.utf8EncodeChar_eq_singleton single, same]

/-! ### Escaped text is decoded -/

theorem percentDecode?_escapeByte_append (byte : UInt8) (rest : List Char) :
    percentDecode? (escapeByte byte ++ rest) = (percentDecode? rest).map (byte :: ·) := by
  rw [escapeByte]
  split
  next kept =>
    rw [List.singleton_append, percentDecode?_cons (ofNat_ne_percent_of_kept kept),
      utf8EncodeChar_of_kept kept]
    rfl
  next written =>
    have number := Text.hexNumber?_hexDigits .upper 2 byte.toNat
    have oneByte : byte.toNat < 16 ^ 2 := byte.toNat_lt
    rw [Nat.mod_eq_of_lt oneByte] at number
    -- The two digits have to stand apart for the decoder to see them.
    rw [show Text.hexDigits .upper 2 byte.toNat = [_, _] from rfl] at number ⊢
    rw [List.cons_append, List.cons_append, List.cons_append, List.nil_append, percentDecode?,
      number, Option.bind_some, UInt8.ofNat_toNat]

theorem percentDecode?_flatMap_escapeByte (bytes : List UInt8) :
    percentDecode? (bytes.flatMap escapeByte) = some bytes := by
  induction bytes with
  | nil => rfl
  | cons byte rest induction =>
      rw [List.flatMap_cons, percentDecode?_escapeByte_append, induction]
      rfl

theorem toList_escape (text : String) :
    (escape text).toList = (text.toList.flatMap String.utf8EncodeChar).flatMap escapeByte := by
  rw [escape, String.toList_ofList, List.flatMap_assoc]
  rfl

/-- The bytes of an escaped text are the text's own. -/
theorem percentDecode?_escape (text : String) :
    percentDecode? (escape text).toList = some (text.toList.flatMap String.utf8EncodeChar) := by
  rw [toList_escape, percentDecode?_flatMap_escapeByte]

theorem unescape?_escape (text : String) : unescape? (escape text).toList = some text := by
  have bytes : (text.toList.flatMap String.utf8EncodeChar).toByteArray = text.toByteArray :=
    String.utf8Encode_toList
  rw [unescape?, percentDecode?_escape, Option.bind_some, bytes, String.fromUTF8?,
    dif_pos text.isValidUTF8]
  rfl

theorem escape_injective : Function.Injective escape := by
  intro left right same
  apply Option.some.inj
  rw [← unescape?_escape left, ← unescape?_escape right, same]

/-! ### What escaped text is made of -/

def isSegmentCharacter (character : Char) : Bool :=
  character.isAlphanum || ['-', '.', '_', '~', '\\', '%'].contains character

theorem isSegmentCharacter_of_mem_escapeByte {byte : UInt8} {character : Char}
    (member : character ∈ escapeByte byte) : isSegmentCharacter character = true := by
  have everyByte : ∀ code : Fin 256,
      (escapeByte (UInt8.ofNat code.val)).all isSegmentCharacter = true := by
    decide +kernel
  have ofByte := everyByte ⟨byte.toNat, byte.toNat_lt⟩
  rw [UInt8.ofNat_toNat] at ofByte
  exact List.all_eq_true.mp ofByte character member

theorem isSegmentCharacter_of_mem_escape {text : String} {character : Char}
    (member : character ∈ (escape text).toList) : isSegmentCharacter character = true := by
  rw [toList_escape] at member
  rcases List.mem_flatMap.mp member with ⟨byte, _, written⟩
  exact isSegmentCharacter_of_mem_escapeByte written

theorem not_mem_escape {mark : Char} (reserved : isSegmentCharacter mark = false) (text : String) :
    mark ∉ (escape text).toList := by
  intro member
  rw [isSegmentCharacter_of_mem_escape member] at reserved
  exact absurd reserved (by decide)

end CrateGraph.Iri
