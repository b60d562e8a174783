import CrateGraph.Text.Utf8

/-!
Texts are encoded as UTF-8 without loss.

The bytes of a text are those of its characters one after the other, and strict decoding finds each
character again: the first byte of a character promises the bytes that follow it, and the bits of
all of them make up its number.
-/

namespace CrateGraph.Text

/-! ### The bytes of a text -/

theorem toList_loop_byteArray (bytes : ByteArray) (index : Nat) (read : List UInt8) :
    ByteArray.toList.loop bytes index read = read.reverse ++ bytes.data.toList.drop index := by
  induction remaining : bytes.size - index generalizing index read with
  | zero =>
      have atEnd : ¬index < bytes.size := by omega
      rw [ByteArray.toList.loop, if_neg atEnd, List.drop_eq_nil_of_le, List.append_nil]
      simpa using Nat.le_of_not_lt atEnd
  | succ remaining induction =>
      have inside : index < bytes.size := by omega
      have listed : index < bytes.data.toList.length := by simpa using inside
      have first : bytes.get! index = bytes.data.toList[index] := by
        rw [Array.getElem_toList]
        exact getElem!_pos bytes.data index inside
      rw [ByteArray.toList.loop, if_pos inside, induction _ _ (by omega),
        List.drop_eq_getElem_cons listed, first]
      simp

theorem toList_data_toUTF8 (text : String) :
    text.toUTF8.data.toList = text.toList.flatMap String.utf8EncodeChar := by
  have encoded : text.toUTF8 = (text.toList.flatMap String.utf8EncodeChar).toByteArray := by
    conv => lhs; rw [← String.ofList_toList (s := text)]
    rfl
  rw [encoded, List.toList_data_toByteArray]

theorem toList_toUTF8 (text : String) :
    text.toUTF8.toList = text.toList.flatMap String.utf8EncodeChar := by
  rw [ByteArray.toList, toList_loop_byteArray, toList_data_toUTF8]
  rfl

/-! ### First bytes -/

section Lead

variable {code : Nat}

theorem utf8Lead?_single (single : code ≤ 0x7F) :
    utf8Lead? (UInt8.ofNat code) = some ⟨0, code, 0x80, 0xBF⟩ := by
  have value : (UInt8.ofNat code).toNat = code := by
    rw [UInt8.toNat_ofNat']
    omega
  simp only [utf8Lead?, value]
  rw [if_pos (by omega)]

theorem utf8Lead?_pair (above : 0x7F < code) (pair : code ≤ 0x7FF) :
    utf8Lead? (UInt8.ofNat (code / 64 % 32 + 192)) = some ⟨1, code / 64, 0x80, 0xBF⟩ := by
  have value : (UInt8.ofNat (code / 64 % 32 + 192)).toNat = code / 64 + 0xC0 := by
    rw [UInt8.toNat_ofNat']
    omega
  simp only [utf8Lead?, value]
  rw [if_neg (by omega), if_neg (by omega), if_pos (by omega)]
  simp

theorem utf8Lead?_triple (above : 0x7FF < code) (triple : code ≤ 0xFFFF) :
    utf8Lead? (UInt8.ofNat (code / 4096 % 16 + 224)) =
      some ⟨2, code / 4096, if code / 4096 = 0 then 0xA0 else 0x80,
        if code / 4096 = 0xD then 0x9F else 0xBF⟩ := by
  have value : (UInt8.ofNat (code / 4096 % 16 + 224)).toNat = code / 4096 + 0xE0 := by
    rw [UInt8.toNat_ofNat']
    omega
  simp only [utf8Lead?, value]
  rw [if_neg (by omega), if_neg (by omega), if_neg (by omega), if_pos (by omega)]
  simp

theorem utf8Lead?_quadruple (above : 0xFFFF < code) (quadruple : code < 0x110000) :
    utf8Lead? (UInt8.ofNat (code / 262144 % 8 + 240)) =
      some ⟨3, code / 262144, if code / 262144 = 0 then 0x90 else 0x80,
        if code / 262144 = 4 then 0x8F else 0xBF⟩ := by
  have value : (UInt8.ofNat (code / 262144 % 8 + 240)).toNat = code / 262144 + 0xF0 := by
    rw [UInt8.toNat_ofNat']
    omega
  simp only [utf8Lead?, value]
  rw [if_neg (by omega), if_neg (by omega), if_neg (by omega), if_neg (by omega),
    if_pos (by omega)]
  simp

end Lead

/-! ### The bytes that follow -/

section Following

variable {position : Nat} {decoded : List Char} {rest : List UInt8} {first : UInt8}
  {read following bits next least greatest : Nat}

theorem decodeUtf8From_lead
    (leads : utf8Lead? first = some ⟨following + 1, bits, least, greatest⟩) :
    decodeUtf8From position decoded none (first :: rest) =
      decodeUtf8From (position + 1) decoded
        (some ⟨first, 1, following + 1, bits, least, greatest⟩) rest := by
  simp only [decodeUtf8From, leads]
  rw [if_neg (by omega)]

theorem toNat_continuation (small : next < 64) :
    (UInt8.ofNat (next + 128)).toNat = next + 0x80 := by
  rw [UInt8.toNat_ofNat']
  omega

variable (small : next < 64) (fromLeast : least ≤ next + 0x80)
  (toGreatest : next + 0x80 ≤ greatest)
include small fromLeast toGreatest

/-- A byte in the middle of a sequence adds six bits. -/
theorem decodeUtf8From_continue :
    decodeUtf8From position decoded (some ⟨first, read, following + 2, bits, least, greatest⟩)
        (UInt8.ofNat (next + 128) :: rest) =
      decodeUtf8From (position + 1) decoded
        (some ⟨first, read + 1, following + 1, bits * 64 + next, 0x80, 0xBF⟩) rest := by
  simp only [decodeUtf8From, toNat_continuation small]
  rw [if_pos ⟨fromLeast, toGreatest⟩, if_neg (by omega), Nat.add_sub_cancel]
  rfl

/-- The last byte of a sequence completes a character. -/
theorem decodeUtf8From_finish :
    decodeUtf8From position decoded (some ⟨first, read, 1, bits, least, greatest⟩)
        (UInt8.ofNat (next + 128) :: rest) =
      decodeUtf8From (position + 1) (Char.ofNat (bits * 64 + next) :: decoded) none rest := by
  simp only [decodeUtf8From, toNat_continuation small]
  rw [if_pos ⟨fromLeast, toGreatest⟩, if_pos trivial, Nat.add_sub_cancel]

end Following

/-! ### Characters and texts -/

/-- The bytes of a character are decoded to the character. -/
theorem decodeUtf8From_utf8EncodeChar (position : Nat) (decoded : List Char) (character : Char)
    (rest : List UInt8) :
    decodeUtf8From position decoded none (String.utf8EncodeChar character ++ rest) =
      decodeUtf8From (position + (String.utf8EncodeChar character).length)
        (character :: decoded) none rest := by
  have itself : Char.ofNat character.toNat = character := Char.ofNat_toNat character
  have valid : character.toNat < 0xD800 ∨ 0xDFFF < character.toNat ∧ character.toNat < 0x110000 :=
    character.valid
  generalize number : character.toNat = code at itself valid
  have encoded : character.val.toNat = code := number
  simp only [String.utf8EncodeChar, encoded]
  -- One case for each number of bytes: the bits of all of them make up the number again, and it is
  -- the gap of the surrogates that keeps the second byte within the range that the first allows.
  split
  · next single =>
      simp only [List.singleton_append, decodeUtf8From, utf8Lead?_single single, itself]
      rfl
  · split
    · next above pair =>
        have whole : code / 64 * 64 + code % 64 = code := by omega
        simp only [List.cons_append, List.nil_append]
        rw [decodeUtf8From_lead (utf8Lead?_pair (by omega) pair),
          decodeUtf8From_finish (by omega) (by omega) (by omega), whole, itself]
        rfl
    · split
      · next above _ triple =>
          have whole : (code / 4096 * 64 + code / 64 % 64) * 64 + code % 64 = code := by omega
          simp only [List.cons_append, List.nil_append]
          rw [decodeUtf8From_lead (utf8Lead?_triple (by omega) triple),
            decodeUtf8From_continue (by omega) (by split <;> omega) (by split <;> omega),
            decodeUtf8From_finish (by omega) (by omega) (by omega), whole, itself]
          rfl
      · next above =>
          have whole : ((code / 262144 * 64 + code / 4096 % 64) * 64 + code / 64 % 64) * 64 +
              code % 64 = code := by omega
          simp only [List.cons_append, List.nil_append]
          rw [decodeUtf8From_lead (utf8Lead?_quadruple (by omega) (by omega)),
            decodeUtf8From_continue (by omega) (by split <;> omega) (by split <;> omega),
            decodeUtf8From_continue (by omega) (by omega) (by omega),
            decodeUtf8From_finish (by omega) (by omega) (by omega), whole, itself]
          rfl

theorem decodeUtf8From_flatMap (characters : List Char) (position : Nat) (decoded : List Char) :
    decodeUtf8From position decoded none (characters.flatMap String.utf8EncodeChar) =
      .ok (decoded.reverse ++ characters) := by
  induction characters generalizing position decoded with
  | nil => simp [decodeUtf8From]
  | cons character rest induction =>
      rw [List.flatMap_cons, decodeUtf8From_utf8EncodeChar, induction]
      simp

/-- Strict decoding accepts the bytes of every text and gives the text back. -/
theorem decodeUtf8_toUTF8 (text : String) : decodeUtf8 text.toUTF8.toList = .ok text := by
  rw [decodeUtf8, toList_toUTF8, decodeUtf8From_flatMap]
  simp [Except.map]

end CrateGraph.Text
