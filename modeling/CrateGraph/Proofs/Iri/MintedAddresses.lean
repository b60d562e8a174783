import CrateGraph.Iri.Minter
import CrateGraph.Proofs.Iri.PercentDecoding
import CrateGraph.Proofs.Rdf.Call
import CrateGraph.Proofs.Text.Characters

/-!
The characters that addresses are made of.

An address consists of a base, of words of its own and of texts that are escaped. Of the characters
that an IRI reference excludes, escaping leaves the backslash and no other. Under a legal base an
address is therefore legal unless one of its texts holds a backslash.
-/

namespace CrateGraph.Iri

open Rdf (IsIri isIriCharacter)

/-! ### Escaped text -/

theorem isIriCharacter_of_isAlphanum {character : Char} (isAlphanum : character.isAlphanum) :
    isIriCharacter character := by
  have above : 0x20 < character.toNat :=
    Nat.lt_of_lt_of_le (by decide) (Text.between_of_isAlphanum isAlphanum).1
  have unmarked : character ∉ "<>\"\x7b\x7d|^`\\".toList := by
    intro mark
    have notAlphanum : character.isAlphanum = false := by
      simp at mark
      rcases mark with rfl | rfl | rfl | rfl | rfl | rfl | rfl | rfl | rfl
      all_goals decide
    rw [notAlphanum] at isAlphanum
    cases isAlphanum
  rw [isIriCharacter, Bool.and_eq_true]
  exact ⟨decide_eq_true above, by simpa using unmarked⟩

theorem isIriCharacter_or_backslash {character : Char}
    (inSegment : isSegmentCharacter character) :
    isIriCharacter character ∨ character = '\\' := by
  rw [isSegmentCharacter, Bool.or_eq_true] at inSegment
  rcases inSegment with isAlphanum | mark
  · exact Or.inl (isIriCharacter_of_isAlphanum isAlphanum)
  · simp at mark
    rcases mark with rfl | rfl | rfl | rfl | rfl | rfl
    all_goals decide

/-- A byte of an encoded character is the character itself or no ASCII character at all. -/
theorem toNat_of_mem_utf8EncodeChar {character : Char} {byte : UInt8}
    (member : byte ∈ String.utf8EncodeChar character) :
    byte.toNat = character.toNat ∨ 0x80 ≤ byte.toNat := by
  have high : ∀ code, 0x80 ≤ code % 256 → byte = UInt8.ofNat code → 0x80 ≤ byte.toNat := by
    intro code atLeast same
    rw [same, UInt8.toNat_ofNat']
    exact atLeast
  simp only [String.utf8EncodeChar] at member
  split at member
  · left
    rw [List.mem_singleton.mp member, UInt8.toNat_ofNat']
    exact Nat.mod_eq_of_lt (by omega)
  · right
    split at member
    · simp only [List.mem_cons, List.not_mem_nil, or_false] at member
      rcases member with first | second
      · exact high _ (by omega) first
      · exact high _ (by omega) second
    · split at member
      · simp only [List.mem_cons, List.not_mem_nil, or_false] at member
        rcases member with first | second | third
        · exact high _ (by omega) first
        · exact high _ (by omega) second
        · exact high _ (by omega) third
      · simp only [List.mem_cons, List.not_mem_nil, or_false] at member
        rcases member with first | second | third | fourth
        · exact high _ (by omega) first
        · exact high _ (by omega) second
        · exact high _ (by omega) third
        · exact high _ (by omega) fourth

theorem backslash_mem_of_mem_escape {text : String} (member : '\\' ∈ (escape text).toList) :
    '\\' ∈ text.toList := by
  have everyByte : ∀ code : Fin 256,
      '\\' ∈ escapeByte (UInt8.ofNat code.val) → code.val = 0x5C := by
    decide +kernel
  rw [toList_escape] at member
  rcases List.mem_flatMap.mp member with ⟨byte, inText, written⟩
  have ofByte := everyByte ⟨byte.toNat, byte.toNat_lt⟩
  rw [UInt8.ofNat_toNat] at ofByte
  have isBackslash : byte = 0x5C := UInt8.toNat_inj.mp (ofByte written)
  rcases List.mem_flatMap.mp inText with ⟨character, inside, encoded⟩
  rw [isBackslash] at encoded
  rcases toNat_of_mem_utf8EncodeChar encoded with same | above
  · have equal : character = '\\' := Char.ext (UInt32.toNat_inj.mp same.symm)
    rwa [equal] at inside
  · exact absurd above (by decide)

theorem isAlphanum_of_mem_toString {number : Nat} {character : Char}
    (member : character ∈ (toString (number : Int)).toList) : character.isAlphanum := by
  change character ∈ number.repr.toList at member
  rw [Nat.toList_repr] at member
  have isDigit := Nat.isDigit_of_mem_toDigits (by decide) (by decide) member
  rw [Char.isAlphanum, isDigit, Bool.or_true]

theorem isIri_toString (number : Nat) : IsIri (toString (number : Int)) :=
  fun _ member => isIriCharacter_of_isAlphanum (isAlphanum_of_mem_toString member)

/-! ### Addresses and their texts -/

/-- Each character may stand in an IRI, or is a backslash that one of the texts holds too. -/
def WrittenFrom (texts : List String) (iri : String) : Prop :=
  ∀ character ∈ iri.toList, isIriCharacter character ∨
    (character = '\\' ∧ ∃ text ∈ texts, '\\' ∈ text.toList)

namespace WrittenFrom

variable {texts : List String}

theorem of_isIri {iri : String} (legal : IsIri iri) : WrittenFrom texts iri :=
  fun character member => Or.inl (legal character member)

theorem append {left right : String} (first : WrittenFrom texts left)
    (second : WrittenFrom texts right) : WrittenFrom texts (left ++ right) := by
  intro character member
  rw [String.toList_append, List.mem_append] at member
  exact member.elim (first character) (second character)

theorem mono {more : List String} {iri : String} (written : WrittenFrom texts iri)
    (subset : texts ⊆ more) : WrittenFrom more iri := by
  intro character member
  apply (written character member).imp_right
  rintro ⟨isBackslash, text, inTexts, held⟩
  exact ⟨isBackslash, text, subset inTexts, held⟩

theorem escape {text : String} (inTexts : text ∈ texts) : WrittenFrom texts (escape text) := by
  intro character member
  rcases isIriCharacter_or_backslash (isSegmentCharacter_of_mem_escape member) with legal | rfl
  · exact Or.inl legal
  · exact Or.inr ⟨rfl, text, inTexts, backslash_mem_of_mem_escape member⟩

/-- One more component of an address, after the word that announces it. -/
theorem segment {left word text : String} (first : WrittenFrom texts left) (legal : IsIri word)
    (inTexts : text ∈ texts) : WrittenFrom texts (left ++ word ++ Iri.escape text) :=
  (first.append (of_isIri legal)).append (escape inTexts)

theorem numbered {left word : String} (first : WrittenFrom texts left) (legal : IsIri word)
    (number : Nat) : WrittenFrom texts (left ++ word ++ toString (number : Int)) :=
  (first.append (of_isIri legal)).append (of_isIri (isIri_toString number))

end WrittenFrom

/-- The addresses that there are, with the texts that are escaped in each. -/
inductive Minted (minter : Minter) : List String → String → Prop
  | crate (name version : String) : Minted minter [name, version] (minter.crate name version)
  | module (crateName version path : String) :
      Minted minter [crateName, version, path] (minter.module crateName version path)
  | type (crateName version path : String) :
      Minted minter [crateName, version, path] (minter.type crateName version path)
  | implementation (crateName version id : String) :
      Minted minter [crateName, version, id] (minter.implementation crateName version id)
  | primitiveType (name : String) : Minted minter [name] (minter.primitiveType name)
  | tupleType (arity : Nat) : Minted minter [] (minter.tupleType arity)
  | sliceType (element : String) : Minted minter [element] (minter.sliceType element)
  | arrayType (element length : String) :
      Minted minter [element, length] (minter.arrayType element length)
  | referenceType (target : String) (isMutable : Bool) :
      Minted minter [target] (minter.referenceType target isMutable)
  | pointerType (target : String) (isMutable : Bool) :
      Minted minter [target] (minter.pointerType target isMutable)
  | member {texts : List String} {owner : String} (minted : Minted minter texts owner)
      (name signature : String) :
      Minted minter (name :: signature :: texts) (Iri.member owner name signature)
  | parameter {texts : List String} {owner : String} (minted : Minted minter texts owner)
      (ordinal : Nat) : Minted minter texts (Iri.parameter owner ordinal)
  | typeParameter {texts : List String} {owner : String} (minted : Minted minter texts owner)
      (ordinal : Nat) : Minted minter texts (Iri.typeParameter owner ordinal)
  | lifetime {texts : List String} {owner : String} (minted : Minted minter texts owner)
      (name : String) : Minted minter (bareLifetime name :: texts) (Iri.lifetime owner name)
  | variant {texts : List String} {owner : String} (minted : Minted minter texts owner)
      (name : String) : Minted minter (name :: texts) (Iri.variant owner name)

/-! ### The characters of an address -/

/-- What an address consists of besides its base: characters of escaped texts, and the marks that
tell its parts from each other. -/
def isAddressCharacter (character : Char) : Bool :=
  isSegmentCharacter character || "/()".toList.contains character

/-- An address adds nothing but such characters to its base. -/
theorem Minted.within_base_or_address {minter : Minter} {texts : List String} {iri : String}
    (minted : Minted minter texts iri) :
    Text.Within (fun character => character ∈ minter.base.toList ∨ isAddressCharacter character)
      iri := by
  let allowed := fun character => character ∈ minter.base.toList ∨ isAddressCharacter character
  change Text.Within allowed iri
  have base : Text.Within allowed minter.base := fun _ => Or.inl
  have word : ∀ {text : String}, text.toList.all isAddressCharacter → Text.Within allowed text :=
    fun plain character member => Or.inr (List.all_eq_true.mp plain character member)
  have escaped : ∀ text, Text.Within allowed (escape text) := by
    intro text character member
    refine Or.inr ?_
    rw [isAddressCharacter, isSegmentCharacter_of_mem_escape member, Bool.true_or]
  have digits : ∀ number : Nat, Text.Within allowed (number : Int).repr := by
    intro number character member
    refine Or.inr ?_
    rw [isAddressCharacter, isSegmentCharacter, isAlphanum_of_mem_toString member, Bool.true_or,
      Bool.true_or]
  induction minted with
  | crate | module | type | implementation | primitiveType | tupleType | sliceType | arrayType =>
      simp (disch := decide) [Minter.crate, Minter.module, Minter.type, Minter.implementation,
        Minter.primitiveType, Minter.tupleType, Minter.sliceType, Minter.arrayType, word, base,
        escaped, digits]
  | referenceType target isMutable =>
      cases isMutable <;> simp (disch := decide) [Minter.referenceType, word, base, escaped]
  | pointerType target isMutable =>
      cases isMutable <;> simp (disch := decide) [Minter.pointerType, word, base, escaped]
  | member _ name signature induction =>
      unfold Iri.member
      split <;> simp (disch := decide) [word, escaped, induction]
  | parameter _ ordinal induction | typeParameter _ ordinal induction =>
      simp (disch := decide) [Iri.parameter, Iri.typeParameter, word, digits, induction]
  | lifetime _ name induction | variant _ name induction =>
      simp (disch := decide) [Iri.lifetime, Iri.variant, word, escaped, induction]

theorem Minted.not_mem {minter : Minter} {texts : List String} {iri : String}
    (minted : Minted minter texts iri) {character : Char} (absent : character ∉ minter.base.toList)
    (excluded : isAddressCharacter character = false) : character ∉ iri.toList := by
  intro member
  rcases minted.within_base_or_address character member with inBase | ofAddress
  · exact absent inBase
  · rw [ofAddress] at excluded
    cases excluded

/-! ### Addresses under a legal base -/

theorem isIri_ofBase {base : String} (legal : IsIri base) : IsIri (Minter.ofBase base).base := by
  intro character member
  rw [Minter.ofBase, String.toList_ofList, List.mem_reverse] at member
  have inBase := (List.dropWhile_sublist _).subset member
  exact legal character (List.mem_reverse.mp inBase)

theorem Minted.writtenFrom {minter : Minter} (legal : IsIri minter.base) {texts : List String}
    {iri : String} (minted : Minted minter texts iri) : WrittenFrom texts iri := by
  have base : ∀ texts, WrittenFrom texts minter.base := fun _ => .of_isIri legal
  have slash : IsIri "/" := by decide
  induction minted with
  | crate name version =>
      exact ((base _).segment (by decide) (by simp)).segment slash (by simp)
  | module | type | implementation =>
      exact (((base _).segment (by decide) (by simp)).segment slash (by simp)).segment slash
        (by simp)
  | primitiveType | sliceType => exact (base _).segment (by decide) (by simp)
  | tupleType arity => exact (base _).numbered (by decide) arity
  | arrayType element length =>
      exact ((base _).segment (by decide) (by simp)).segment slash (by simp)
  | referenceType target isMutable =>
      have kind : IsIri (if isMutable then "_mut_" else "_ref_") := by
        cases isMutable <;> decide
      exact (((base _).append (.of_isIri (by decide))).append (.of_isIri kind)).segment slash
        (by simp)
  | pointerType target isMutable =>
      have kind : IsIri (if isMutable then "_ptr_mut_" else "_ptr_const_") := by
        cases isMutable <;> decide
      exact (((base _).append (.of_isIri (by decide))).append (.of_isIri kind)).segment slash
        (by simp)
  | @member texts owner _ name signature induction =>
      have within : WrittenFrom (name :: signature :: texts) owner :=
        induction.mono fun _ inTexts => List.mem_cons_of_mem _ (List.mem_cons_of_mem _ inTexts)
      have word : IsIri "/member/" := by decide
      have named := within.segment word List.mem_cons_self
      rw [Iri.member]
      split
      · exact named
      · exact (named.segment (by decide) (by simp)).append (.of_isIri (by decide))
  | parameter _ ordinal induction | typeParameter _ ordinal induction =>
      exact induction.numbered (by decide) ordinal
  | lifetime _ name induction | variant _ name induction =>
      exact (induction.mono (by simp)).segment (by decide) (by simp)

end CrateGraph.Iri
