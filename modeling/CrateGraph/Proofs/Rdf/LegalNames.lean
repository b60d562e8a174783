import CrateGraph.Proofs.Rdf.DeclaredNames
import CrateGraph.Proofs.Rdf.LongestNamespace

/-!
Which shortened IRIs are Turtle.

The grammar of Turtle says by ranges of code points what a name is made of. An IRI is shortened
whenever letters, digits and low lines follow a namespace, and what counts as a letter or digit
there is almost, but not quite, what the grammar admits. Main statement: the local name of a
shortened IRI is one of the grammar exactly if it holds none of a few letters, fractions,
superscripts and enclosed numbers that stand outside of those ranges.
-/

namespace CrateGraph.Rdf.Turtle

/-! ### Ranges of code points -/

/-- Inclusive ranges. -/
abbrev CodeRanges := List (Nat × Nat)

namespace CodeRanges

def contain (ranges : CodeRanges) (character : Char) : Bool :=
  ranges.any fun (first, last) => first ≤ character.toNat && character.toNat ≤ last

theorem contain_iff {ranges : CodeRanges} {character : Char} :
    ranges.contain character = true ↔
      ∃ range ∈ ranges, range.1 ≤ character.toNat ∧ character.toNat ≤ range.2 := by
  simp [contain]

/-- Each range lies inside of one of the others. -/
def within (ranges others : CodeRanges) : Bool :=
  ranges.all fun range => others.any fun other => other.1 ≤ range.1 && range.2 ≤ other.2

/-- Each range lies outside of all the others. -/
def outside (ranges others : CodeRanges) : Bool :=
  ranges.all fun range => others.all fun other => range.2 < other.1 || other.2 < range.1

theorem contain_of_within {ranges others : CodeRanges} (lie : ranges.within others = true)
    {character : Char} (held : ranges.contain character = true) :
    others.contain character = true := by
  rw [contain_iff] at held ⊢
  rcases held with ⟨range, listed, lower, upper⟩
  have covered := List.all_eq_true.mp lie range listed
  rcases List.any_eq_true.mp covered with ⟨other, otherListed, covers⟩
  rw [Bool.and_eq_true, decide_eq_true_eq, decide_eq_true_eq] at covers
  exact ⟨other, otherListed, by omega, by omega⟩

theorem not_contain_of_outside {ranges others : CodeRanges} (lie : ranges.outside others = true)
    {character : Char} (held : ranges.contain character = true) :
    others.contain character = false := by
  rw [← Bool.not_eq_true, contain_iff]
  rw [contain_iff] at held
  rcases held with ⟨range, listed, lower, upper⟩
  rintro ⟨other, otherListed, otherLower, otherUpper⟩
  have apart := List.all_eq_true.mp (List.all_eq_true.mp lie range listed) other otherListed
  rw [Bool.or_eq_true, decide_eq_true_eq, decide_eq_true_eq] at apart
  omega

end CodeRanges

/-! ### Classes of characters -/

/-- `PN_CHARS_BASE` -/
def baseRanges : CodeRanges :=
  [(0x41, 0x5A), (0x61, 0x7A), (0xC0, 0xD6), (0xD8, 0xF6), (0xF8, 0x2FF), (0x370, 0x37D),
   (0x37F, 0x1FFF), (0x200C, 0x200D), (0x2070, 0x218F), (0x2C00, 0x2FEF), (0x3001, 0xD7FF),
   (0xF900, 0xFDCF), (0xFDF0, 0xFFFD), (0x10000, 0xEFFFF)]

/-- `PN_CHARS_U`: the characters of the base and the low line. -/
def wordRanges : CodeRanges :=
  (0x5F, 0x5F) :: baseRanges

/-- `PN_CHARS_U | [0-9]` -/
def firstRanges : CodeRanges :=
  (0x30, 0x39) :: wordRanges

/-- `PN_CHARS`: the hyphen, the middle dot and marks that combine or join may not stand first. -/
def nameRanges : CodeRanges :=
  (0x2D, 0x2D) :: (0xB7, 0xB7) :: (0x300, 0x36F) :: (0x203F, 0x2040) :: firstRanges

/-- The characters that count as letters or digits and are none of the grammar: `ª`, `²`, `³`, `µ`,
`¹`, `º`, the fractions from `¼` to `¾`, and numbers in circles, in parentheses and with full
stops. -/
def unlistedRanges : CodeRanges :=
  [(0xAA, 0xAA), (0xB2, 0xB3), (0xB5, 0xB5), (0xB9, 0xBA), (0xBC, 0xBE), (0x2460, 0x249B),
   (0x24EA, 0x24FF), (0x2776, 0x2793)]

/-! ### The grammar of names -/

/-- `PN_PREFIX?`: a character of the base, then those of names and full stops, with no full stop at
the end; or nothing. -/
def IsPrefixName (name : String) : Prop :=
  name = "" ∨ ∃ first rest, name.toList = first :: rest ∧ baseRanges.contain first = true ∧
    (∀ character ∈ rest, nameRanges.contain character = true ∨ character = '.') ∧
    rest.getLast? ≠ some '.'

/-- The marks that a backslash may stand in front of. -/
def escapableMarks : List Char :=
  "_~.-!$&'()*+,;=/?#@%".toList

/-- `PLX`: a percent sign and two hexadecimal digits, or a backslash and a mark. -/
inductive IsEscape : List Char → Prop
  | percent {high low : Char} (highDigit : (Text.hexValue? high).isSome)
      (lowDigit : (Text.hexValue? low).isSome) : IsEscape ['%', high, low]
  | backslash {mark : Char} (escapable : mark ∈ escapableMarks) : IsEscape ['\\', mark]

/-- What may take one place of a local name: an escape, or a character of the class or one of the
marks. -/
inductive TakesPlace (ranges : CodeRanges) (marks : List Char) : List Char → Prop
  | character {character : Char} (admitted : ranges.contain character = true ∨ character ∈ marks) :
      TakesPlace ranges marks [character]
  | escape {text : List Char} (isEscape : IsEscape text) : TakesPlace ranges marks text

/-- `PN_LOCAL`: a full stop stands neither first nor last. -/
inductive IsLegalLocal : List Char → Prop
  | single {first : List Char} (starts : TakesPlace firstRanges [':'] first) : IsLegalLocal first
  | several {first last : List Char} {places : List (List Char)}
      (starts : TakesPlace firstRanges [':'] first)
      (between : ∀ place ∈ places, TakesPlace nameRanges ['.', ':'] place)
      (ends : TakesPlace nameRanges [':'] last) : IsLegalLocal (first ++ places.flatten ++ last)

/-! ### Names without escapes -/

theorem IsEscape.exists_mark {text : List Char} (isEscape : IsEscape text) :
    ∃ character ∈ text, character ∈ ['%', '\\'] := by
  cases isEscape with
  | percent => exact ⟨'%', by simp, by simp⟩
  | backslash => exact ⟨'\\', by simp, by simp⟩

theorem TakesPlace.contain_or_mem {ranges : CodeRanges} {marks text : List Char}
    (takes : TakesPlace ranges marks text)
    (unescaped : ∀ character ∈ text, character ∉ ['%', '\\']) :
    ∀ character ∈ text, ranges.contain character = true ∨ character ∈ marks := by
  cases takes with
  | character admitted => exact List.forall_mem_singleton.mpr admitted
  | escape isEscape =>
      rcases isEscape.exists_mark with ⟨character, member, mark⟩
      exact absurd mark (unescaped character member)

theorem nameRanges_of_firstRanges {character : Char}
    (first : firstRanges.contain character = true) : nameRanges.contain character = true :=
  CodeRanges.contain_of_within (by decide) first

/-- Where a local name has no escapes, each of its characters is one of names or a mark. -/
theorem IsLegalLocal.contain_or_mem {text : List Char} (legal : IsLegalLocal text)
    (unescaped : ∀ character ∈ text, character ∉ ['%', '\\']) :
    ∀ character ∈ text, nameRanges.contain character = true ∨ character ∈ ['.', ':'] := by
  have colon : ∀ {character : Char}, character ∈ [':'] → character ∈ ['.', ':'] :=
    fun member => List.mem_cons_of_mem _ member
  cases legal with
  | single starts =>
      intro character member
      exact (starts.contain_or_mem unescaped character member).imp nameRanges_of_firstRanges colon
  | several starts between ends =>
      simp only [List.forall_mem_append] at unescaped ⊢
      refine ⟨⟨?_, ?_⟩, ?_⟩
      · intro character member
        exact (starts.contain_or_mem unescaped.1.1 character member).imp nameRanges_of_firstRanges
          colon
      · intro character member
        rcases List.mem_flatten.mp member with ⟨place, listed, inPlace⟩
        exact (between place listed).contain_or_mem
          (fun other inside => unescaped.1.2 other (List.mem_flatten.mpr ⟨place, listed, inside⟩))
          character inPlace
      · intro character member
        exact (ends.contain_or_mem unescaped.2 character member).imp_right colon

/-- Characters that may all stand first make a local name. -/
theorem isLegalLocal_of_first {text : List Char} (nonempty : text ≠ [])
    (first : ∀ character ∈ text, firstRanges.contain character = true) : IsLegalLocal text := by
  have single : ∀ {ranges marks} {character : Char}, CodeRanges.contain ranges character = true →
      TakesPlace ranges marks [character] := fun held => .character (Or.inl held)
  cases text with
  | nil => exact absurd rfl nonempty
  | cons head rest =>
      rcases List.forall_mem_cons.mp first with ⟨starts, others⟩
      rcases List.eq_nil_or_concat' rest with rfl | ⟨between, last, rfl⟩
      · exact .single (single starts)
      · rw [List.forall_mem_append, List.forall_mem_singleton] at others
        have places : ∀ place ∈ between.map fun character => [character],
            TakesPlace nameRanges ['.', ':'] place := by
          intro place member
          rcases List.mem_map.mp member with ⟨character, inside, rfl⟩
          exact single (nameRanges_of_firstRanges (others.1 character inside))
        have whole : [head] ++ (between.map fun character => [character]).flatten ++ [last] =
            head :: (between ++ [last]) := by
          simp [← List.flatMap_def]
        rw [← whole]
        exact .several (single starts) places (single (nameRanges_of_firstRanges others.2))

/-! ### Letters and digits -/

theorem alphanumeric_cases {character : Char}
    (alphanumeric : Text.isAlphanumeric character = true) :
    firstRanges.contain character = true ∨ unlistedRanges.contain character = true := by
  have covered :
      CodeRanges.within Text.alphanumericRanges (firstRanges ++ unlistedRanges) = true := by
    decide +kernel
  have listed := CodeRanges.contain_of_within covered alphanumeric
  rw [CodeRanges.contain, List.any_append, Bool.or_eq_true] at listed
  exact listed

theorem not_nameRanges_of_unlisted {character : Char}
    (unlisted : unlistedRanges.contain character = true) :
    nameRanges.contain character = false :=
  CodeRanges.not_contain_of_outside (by decide) unlisted

theorem IsPlainName.contain_firstRanges {localName : String} (isPlain : IsPlainName localName)
    (listed : localName.toList.any unlistedRanges.contain = false) :
    ∀ character ∈ localName.toList, firstRanges.contain character = true := by
  intro character member
  rcases isPlain.plain character member with alphanumeric | rfl
  · rcases alphanumeric_cases alphanumeric with first | unlisted
    · exact first
    · exact absurd unlisted (List.any_eq_false.mp listed character member)
  · decide

/-- A plain name is a local name of the grammar exactly if the grammar has all of its letters and
digits. -/
theorem IsPlainName.isLegalLocal_iff {localName : String} (isPlain : IsPlainName localName) :
    IsLegalLocal localName.toList ↔ localName.toList.any unlistedRanges.contain = false := by
  constructor
  · intro legal
    have unescaped : ∀ other ∈ localName.toList, other ∉ ['%', '\\'] := by
      intro other inName mark
      rcases List.mem_pair.mp mark with rfl | rfl
      · exact isPlain.not_mem (by decide +kernel) (by decide) inName
      · exact isPlain.not_mem (by decide +kernel) (by decide) inName
    rw [List.any_eq_false]
    intro character member unlisted
    rcases legal.contain_or_mem unescaped character member with inNames | mark
    · rw [not_nameRanges_of_unlisted unlisted] at inNames
      cases inNames
    · rcases List.mem_pair.mp mark with rfl | rfl
      · exact absurd unlisted (by decide)
      · exact absurd unlisted (by decide)
  · intro listed
    exact isLegalLocal_of_first (mt String.toList_eq_nil_iff.mp isPlain.nonempty)
      (isPlain.contain_firstRanges listed)

/-! ### Shortened IRIs -/

theorem isLabelCharacter_of_nameRanges {character : Char}
    (inNames : nameRanges.contain character = true) : isLabelCharacter character = true := by
  have notBlank : CodeRanges.contain [(0x0, 0x20)] character = false :=
    CodeRanges.not_contain_of_outside (by decide) inNames
  have visible : 0x20 < character.toNat := by simpa [CodeRanges.contain] using notBlank
  have noMarks : ":<@".toList.any nameRanges.contain = false := by decide
  have unmarked : character ∉ ":<@".toList :=
    fun mark => List.any_eq_false.mp noMarks character mark inNames
  simpa [isLabelCharacter, visible] using unmarked

theorem IsPrefixName.isLabel {name : String} (isPrefixName : IsPrefixName name) : IsLabel name := by
  rcases isPrefixName with rfl | ⟨first, rest, split, base, inner, _⟩
  · exact List.forall_mem_nil _
  · rw [IsLabel, split, List.forall_mem_cons]
    constructor
    · exact isLabelCharacter_of_nameRanges (CodeRanges.contain_of_within (by decide) base)
    · intro character member
      rcases inner character member with inNames | rfl
      · exact isLabelCharacter_of_nameRanges inNames
      · decide

theorem Shortens.of_label {namespaces : Namespaces} {iri name localName : String}
    (labels : ∀ entry ∈ namespaces, IsLabel entry.1) (isLabel : IsLabel name)
    (written : compactIri namespaces iri = name ++ ":" ++ localName) :
    Shortens namespaces iri name localName := by
  by_cases shortened : ∃ otherName otherLocal, Shortens namespaces iri otherName otherLocal
  · rcases shortened with ⟨otherName, otherLocal, shortens⟩
    have forms := shortens.compactIri_eq.symm.trans written
    rcases shortens with ⟨namespaceIri, prevails, split, isPlain⟩
    have lists : otherName.toList ++ ':' :: otherLocal.toList =
        name.toList ++ ':' :: localName.toList := by
      simpa using congrArg String.toList forms
    rcases (labels _ prevails.mem).split_unique isLabel lists with ⟨rfl, locals⟩
    obtain rfl := String.toList_inj.mp locals
    exact ⟨namespaceIri, prevails, split, isPlain⟩
  · rw [compactIri_eq_brackets shortened] at written
    exact absurd written (isLabel.brackets_ne iri localName)

/-- Where the grammar has the names of all namespaces, it has the local name of a shortened IRI too,
unless a letter or digit is one of those that it leaves out. -/
theorem shortened_local_name_legal_iff {namespaces : Namespaces}
    (legal : ∀ entry ∈ namespaces, IsPrefixName entry.1) {iri name localName : String}
    (isPrefixName : IsPrefixName name)
    (written : compactIri namespaces iri = name ++ ":" ++ localName) :
    IsLegalLocal localName.toList ↔ localName.toList.any unlistedRanges.contain = false := by
  have shortens := Shortens.of_label (fun entry member => (legal entry member).isLabel)
    isPrefixName.isLabel written
  exact shortens.isPlain.isLegalLocal_iff

theorem isPrefixName_e : IsPrefixName "e" :=
  Or.inr ⟨'e', [], rfl, by decide, List.forall_mem_nil _, by decide⟩

theorem accented_local_name_legal :
    (∀ entry ∈ [("e", "http://e/")], IsPrefixName entry.1) ∧ IsPrefixName "e" ∧
      compactIri [("e", "http://e/")] "http://e/été" = "e" ++ ":" ++ "été" ∧
      IsLegalLocal "été".toList := by
  have legal : ∀ entry ∈ [("e", "http://e/")], IsPrefixName entry.1 := by simp [isPrefixName_e]
  have written : compactIri [("e", "http://e/")] "http://e/été" = "e" ++ ":" ++ "été" := by
    decide +kernel
  refine ⟨legal, isPrefixName_e, written, ?_⟩
  exact (shortened_local_name_legal_iff legal isPrefixName_e written).mpr (by decide +kernel)

/-- A fraction counts as a digit, and no local name may hold it. -/
theorem fraction_shortened_illegally :
    (∀ entry ∈ [("e", "http://e/")], IsPrefixName entry.1) ∧ IsIri "http://e/x½" ∧
      compactIri [("e", "http://e/")] "http://e/x½" = "e" ++ ":" ++ "x½" ∧
      ¬IsLegalLocal "x½".toList := by
  have isPlain : IsPlainName "x½" := by decide +kernel
  refine ⟨by simp [isPrefixName_e], by decide, by decide +kernel, ?_⟩
  rw [isPlain.isLegalLocal_iff]
  decide +kernel

end CrateGraph.Rdf.Turtle
