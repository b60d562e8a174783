import CrateGraph.Decimal.Layout
import CrateGraph.Proofs.Text.HexadecimalReading
import CrateGraph.Text.Quoted

/-!
The characters that texts are made of.

Numbers, truth values and escapes are written in ASCII. Where ASCII is allowed, quoting a text
therefore brings in no character that is not.
-/

namespace CrateGraph

namespace Text

/-- Every character of the text is allowed. -/
def Within (allowed : Char → Prop) (text : String) : Prop :=
  ∀ character ∈ text.toList, allowed character

def IsAscii (character : Char) : Prop :=
  character.toNat < 0x80

instance (character : Char) : Decidable (IsAscii character) :=
  Nat.decLt _ _

def AllowsAscii (allowed : Char → Prop) : Prop :=
  ∀ character, IsAscii character → allowed character

instance (allowed : Char → Prop) [DecidablePred allowed] (text : String) :
    Decidable (Within allowed text) :=
  -- Decided over the characters of the text, never over all the characters that there are.
  List.decidableBAll allowed text.toList

variable {allowed : Char → Prop}

theorem Within.mono {others : Char → Prop} {text : String} (within : Within allowed text)
    (more : ∀ character, allowed character → others character) : Within others text :=
  fun character member => more character (within character member)

theorem AllowsAscii.within (ascii : AllowsAscii allowed) {text : String}
    (plain : Within IsAscii text) : Within allowed text :=
  plain.mono ascii

@[simp] theorem within_true (text : String) : Within (fun _ => True) text :=
  fun _ _ => trivial

@[simp] theorem within_empty : Within allowed "" := by
  simp [Within]

@[simp] theorem within_append (left right : String) :
    Within allowed (left ++ right) ↔ Within allowed left ∧ Within allowed right := by
  simp [Within, or_imp, forall_and]

@[simp] theorem within_ofList (characters : List Char) :
    Within allowed (String.ofList characters) ↔ ∀ character ∈ characters, allowed character := by
  simp [Within]

theorem within_intercalate {separator : String} {texts : List String}
    (between : Within allowed separator) (each : ∀ text ∈ texts, Within allowed text) :
    Within allowed (separator.intercalate texts) := by
  induction texts with
  | nil => simp
  | cons first rest induction =>
      have others := induction fun text member => each text (List.mem_cons_of_mem _ member)
      cases rest with
      | nil => simpa using each first List.mem_cons_self
      | cons second rest =>
          rw [String.intercalate_cons_cons]
          simp [between, each first List.mem_cons_self, others]

theorem within_join {texts : List String} (each : ∀ text ∈ texts, Within allowed text) :
    Within allowed (String.join texts) := by
  intro character member
  rw [String.toList_join] at member
  rcases List.mem_flatMap.mp member with ⟨text, listed, inText⟩
  exact each text listed character inText

/-! ### Where allowed characters end -/

/-- Allowed characters end where one follows that is not allowed, whatever that is. -/
theorem takeWhile_append_of_stops {allowed : Char → Bool} {characters rest : List Char}
    (each : ∀ character ∈ characters, allowed character)
    (stops : ∀ next ∈ rest.head?, allowed next = false) :
    (characters ++ rest).takeWhile allowed = characters := by
  have nothing : rest.takeWhile allowed = [] := by
    cases rest with
    | nil => rfl
    | cons next others => exact List.takeWhile_cons_of_neg (by simp [stops next rfl])
  rw [List.takeWhile_append_of_pos each, nothing, List.append_nil]

theorem append_inj_of_stops {allowed : Char → Bool} {left right leftRest rightRest : List Char}
    (eachLeft : ∀ character ∈ left, allowed character)
    (eachRight : ∀ character ∈ right, allowed character)
    (stopsLeft : ∀ next ∈ leftRest.head?, allowed next = false)
    (stopsRight : ∀ next ∈ rightRest.head?, allowed next = false)
    (same : left ++ leftRest = right ++ rightRest) : left = right ∧ leftRest = rightRest := by
  have characters : left = right := by
    rw [← takeWhile_append_of_stops eachLeft stopsLeft, same,
      takeWhile_append_of_stops eachRight stopsRight]
  subst characters
  exact ⟨rfl, List.append_cancel_left same⟩

/-! ### Digits -/

theorem isAscii_of_isDigit {character : Char} (isDigit : character.isDigit) :
    IsAscii character := by
  simp only [Char.isDigit, Bool.and_eq_true, decide_eq_true_eq] at isDigit
  exact Nat.lt_of_le_of_lt isDigit.2 (by decide)

theorem between_of_isAlphanum {character : Char} (isAlphanum : character.isAlphanum) :
    '0'.toNat ≤ character.toNat ∧ character.toNat ≤ 'z'.toNat := by
  rcases Bool.or_eq_true_iff.mp isAlphanum with letter | digit
  · rcases Bool.or_eq_true_iff.mp letter with upper | lower
    · have bounds := of_decide_eq_true upper
      exact ⟨Nat.le_trans (by decide) bounds.1, Nat.le_trans bounds.2 (by decide)⟩
    · have bounds := Bool.and_eq_true_iff.mp lower
      exact ⟨Nat.le_trans (by decide) (of_decide_eq_true bounds.1), of_decide_eq_true bounds.2⟩
  · have bounds := Bool.and_eq_true_iff.mp digit
    exact ⟨of_decide_eq_true bounds.1, Nat.le_trans (of_decide_eq_true bounds.2) (by decide)⟩

theorem isAscii_of_isAlphanum {character : Char} (isAlphanum : character.isAlphanum) :
    IsAscii character :=
  Nat.lt_of_le_of_lt (between_of_isAlphanum isAlphanum).2 (by decide)

theorem isAscii_of_mem_toDigits {number : Nat} {digit : Char}
    (member : digit ∈ Nat.toDigits 10 number) : IsAscii digit :=
  isAscii_of_isDigit (Nat.isDigit_of_mem_toDigits (by decide) (by decide) member)

theorem within_toString (number : Int) : Within IsAscii (toString number) := by
  have ofNat : ∀ value : Nat, Within IsAscii value.repr := by
    intro value digit member
    rw [Nat.toList_repr] at member
    exact isAscii_of_mem_toDigits member
  change Within IsAscii number.repr
  rw [Int.repr_eq_if]
  split
  · exact ofNat _
  · rw [within_append]
    exact ⟨by decide, ofNat _⟩

theorem isAscii_of_mem_hexDigits {letters : HexCase} {places value : Nat} {digit : Char}
    (member : digit ∈ hexDigits letters places value) : IsAscii digit := by
  have read := isSome_hexValue?_of_mem_hexDigits letters places value member
  simp only [hexValue?, Bool.and_eq_true, decide_eq_true_eq] at read
  unfold IsAscii
  split at read
  · omega
  · split at read
    · omega
    · split at read
      · omega
      · cases read

/-! ### Quoting -/

theorem isAscii_of_mem_numberEscape {code : Nat} {character : Char}
    (member : character ∈ numberEscape code) : IsAscii character := by
  have escaped : ∀ mark places, IsAscii mark →
      character ∈ '\\' :: mark :: hexDigits .lower places code → IsAscii character := by
    intro mark places plain listed
    simp only [List.mem_cons] at listed
    rcases listed with rfl | rfl | digit
    · decide
    · exact plain
    · exact isAscii_of_mem_hexDigits digit
  unfold numberEscape at member
  split at member
  · exact escaped 'x' 2 (by decide) member
  · split at member
    · exact escaped 'u' 4 (by decide) member
    · exact escaped 'U' 8 (by decide) member

/-- A character of a quoted text is one of the text or one of the marks and escapes. -/
theorem mem_or_isAscii_of_mem_quotedPoint {quote character : Char} {point : Char}
    (member : character ∈ quotedPoint quote (.scalar point)) :
    character = point ∨ IsAscii character := by
  have marked : ∀ mark, IsAscii mark → character ∈ ['\\', mark] → IsAscii character := by
    intro mark plain listed
    simp only [List.mem_cons, List.not_mem_nil, or_false] at listed
    rcases listed with rfl | rfl
    · decide
    · exact plain
  unfold quotedPoint at member
  split at member
  · exact Or.inr (isAscii_of_mem_numberEscape member)
  · next same =>
      cases same
      split at member
      · simp only [List.mem_cons, List.not_mem_nil, or_false] at member
        rcases member with rfl | rfl
        · exact Or.inr (by decide)
        · exact Or.inl rfl
      · split at member
        · exact Or.inr (marked 'n' (by decide) member)
        · split at member
          · exact Or.inr (marked 'r' (by decide) member)
          · split at member
            · exact Or.inr (marked 't' (by decide) member)
            · split at member
              · exact Or.inl (List.mem_singleton.mp member)
              · exact Or.inr (isAscii_of_mem_numberEscape member)

theorem within_quoted (ascii : AllowsAscii allowed) {text : String}
    (within : Within allowed text) : Within allowed (quoted text) := by
  have quote : IsAscii (quoteFor (WideText.ofString text)) := by
    unfold quoteFor
    split <;> decide
  rw [quoted, quotedWide, within_ofList]
  intro character member
  simp only [List.mem_cons, List.mem_append, List.not_mem_nil, or_false] at member
  rcases member with (rfl | inside) | rfl
  · exact ascii _ quote
  · rcases List.mem_flatMap.mp inside with ⟨point, listed, written⟩
    rcases List.mem_map.mp listed with ⟨own, inText, rfl⟩
    rcases mem_or_isAscii_of_mem_quotedPoint written with rfl | plain
    · exact within _ inText
    · exact ascii _ plain
  · exact ascii _ quote

end Text

/-! ### Floating-point numbers -/

namespace Decimal

open Text (IsAscii)

theorem isAscii_of_mem_shortest {number : BinaryFloat} {digit : Char}
    (member : digit ∈ number.shortest.digits) : IsAscii digit := by
  unfold BinaryFloat.shortest at member
  dsimp only at member
  split at member
  · rw [List.mem_singleton.mp member]
    decide
  · have kept := (List.dropWhile_sublist _).subset (List.mem_reverse.mp member)
    exact Text.isAscii_of_mem_toDigits (List.mem_reverse.mp kept)

namespace Layout

theorem isAscii_of_mem_zeros {count : Nat} {digit : Char} (member : digit ∈ zeros count) :
    IsAscii digit := by
  rw [(List.mem_replicate.mp member).2]
  decide

section Digits

variable {number : Digits} (plain : ∀ digit ∈ number.digits, IsAscii digit)
include plain

theorem isAscii_of_mem_positional {character : Char} (member : character ∈ positional number) :
    IsAscii character := by
  have point : IsAscii '.' := by decide
  have zero : IsAscii '0' := by decide
  unfold positional at member
  split at member
  · simp only [List.cons_append, List.mem_cons, List.mem_append] at member
    rcases member with rfl | rfl | padding | digit
    · exact zero
    · exact point
    · exact isAscii_of_mem_zeros padding
    · exact plain _ digit
  · dsimp only at member
    split at member
    · simp only [List.mem_append, List.mem_cons, List.not_mem_nil, or_false] at member
      rcases member with (digit | padding) | rfl | rfl
      · exact plain _ digit
      · exact isAscii_of_mem_zeros padding
      · exact point
      · exact zero
    · simp only [List.mem_append, List.mem_cons] at member
      rcases member with whole | rfl | fraction
      · exact plain _ (List.mem_of_mem_take whole)
      · exact point
      · exact plain _ (List.mem_of_mem_drop fraction)

theorem isAscii_of_mem_scientific {layout : Layout} {character : Char}
    (member : character ∈ layout.scientific number) : IsAscii character := by
  unfold scientific at member
  simp only [List.cons_append, List.append_assoc, List.mem_append, List.mem_cons] at member
  rcases member with mantissa | rfl | rfl | padding | exponent
  · split at mantissa
    · cases mantissa
    · next digits => exact plain _ (digits ▸ mantissa)
    · next digit rest _ digits =>
        simp only [List.mem_cons] at mantissa
        rcases mantissa with rfl | rfl | later
        · exact plain _ (digits ▸ List.mem_cons_self)
        · decide
        · exact plain _ (digits ▸ List.mem_cons_of_mem _ later)
  · decide
  · split <;> decide
  · exact isAscii_of_mem_zeros padding
  · exact Text.isAscii_of_mem_toDigits exponent

end Digits

theorem within_writeFloat (layout : Layout) (value : Float) :
    Text.Within IsAscii (layout.writeFloat value) := by
  unfold writeFloat writeBits
  dsimp only
  split
  · decide
  · rw [Text.within_ofList]
    intro character member
    rcases List.mem_append.mp member with sign | body
    · split at sign
      · cases sign
      · rw [List.mem_singleton.mp sign]
        decide
    · split at body
      · exact (by decide : Text.Within IsAscii "inf") _ body
      · split at body
        · exact (by decide : Text.Within IsAscii "0.0") _ body
        · unfold write at body
          dsimp only at body
          split at body
          · exact isAscii_of_mem_positional (fun _ => isAscii_of_mem_shortest) body
          · exact isAscii_of_mem_scientific (fun _ => isAscii_of_mem_shortest) body

end Layout

end Decimal

end CrateGraph
