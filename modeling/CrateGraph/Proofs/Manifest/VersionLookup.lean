import CrateGraph.Manifest
import CrateGraph.Proofs.Text.Characters
import CrateGraph.Proofs.Text.Trimming
import Mathlib.Data.List.Forall2
import Mathlib.Data.List.Infix

/-!
Which version a manifest is read to have.

A manifest of plain lines is taken apart into headers of tables and assignments, each under the
table that it stands in. Main statement: the version that is found is the value of the first
assignment of the package table whose key starts like `version`. So it is the value of `version`
itself exactly if no other such key, as `version.workspace` or `version-file`, stands before it with
another value.
-/

namespace CrateGraph.Manifest

/-! ### Lines -/

/-- What a line says. Tables have their names as written, keys have parts. -/
inductive Line where
  | blank
  | comment
  | table (name : String)
  | tableArray (name : String)
  | assignment (key : List String) (value : String)

def AreBlank (characters : List Char) : Prop :=
  ∀ character ∈ characters, Text.isBlank character

instance (characters : List Char) : Decidable (AreBlank characters) :=
  decidable_of_iff (characters.all Text.isBlank) List.all_eq_true

def isKeyCharacter (character : Char) : Bool :=
  character.isAlphanum || character == '_' || character == '-'

/-- A bare key, or a part of a dotted one. -/
structure IsKeyPart (part : String) : Prop where
  nonempty : part ≠ ""
  plain : part.toList.all isKeyCharacter

/-- A bare key, or parts with dots between them, which blanks may surround. -/
inductive IsKey : List String → List Char → Prop
  | bare {part : String} (isPart : IsKeyPart part) : IsKey [part] part.toList
  | dotted {part : String} {parts : List String} {before after further : List Char}
      (isPart : IsKeyPart part) (blankBefore : AreBlank before) (blankAfter : AreBlank after)
      (isKey : IsKey parts further) :
      IsKey (part :: parts) (part.toList ++ (before ++ '.' :: (after ++ further)))

/-- A truth value, or a text between quotes of either kind that holds no quotes itself. -/
inductive IsValue : String → List Char → Prop
  | truth (value : Bool) : IsValue (toString value) (toString value).toList
  | quoted {quote : Char} {text : String} (isQuote : quote = '"' ∨ quote = '\'')
      (noDouble : '"' ∉ text.toList) (noSingle : '\'' ∉ text.toList) :
      IsValue text (quote :: (text.toList ++ [quote]))

namespace Line

/-- How the line is written, apart from blanks around it. -/
inductive IsWritten : Line → List Char → Prop
  | blank : IsWritten .blank []
  | comment (text : List Char) : IsWritten .comment ('#' :: text)
  | table {name : String} (plain : '[' ∉ name.toList) :
      IsWritten (.table name) ('[' :: (name.toList ++ [']']))
  | tableArray (name : String) :
      IsWritten (.tableArray name) ('[' :: '[' :: (name.toList ++ [']', ']']))
  | assignment {key : List String} {value : String} {left before after right : List Char}
      (isKey : IsKey key left) (blankBefore : AreBlank before) (blankAfter : AreBlank after)
      (isValue : IsValue value right) :
      IsWritten (.assignment key value) (left ++ (before ++ '=' :: (after ++ right)))

/-- The text reads as the line, however it is indented. -/
def Reads (line : Line) (text : String) : Prop :=
  ∃ before middle after, AreBlank before ∧ AreBlank after ∧
    text.toList = before ++ middle ++ after ∧ line.IsWritten middle

end Line

/-- Each line of the text reads as the line in its place. -/
def Says (text : String) (content : List Line) : Prop :=
  List.Forall₂ Line.Reads content (Text.splitLines text)

/-- The assignments under headers of the package table, in order. -/
def packageAssignments (inPackage : Bool) : List Line → List (List String × String)
  | [] => []
  | .table name :: rest => packageAssignments (name == "package") rest
  | .tableArray _ :: rest => packageAssignments false rest
  | .assignment key value :: rest =>
      (if inPackage then [(key, value)] else []) ++ packageAssignments inPackage rest
  | .blank :: rest => packageAssignments inPackage rest
  | .comment :: rest => packageAssignments inPackage rest

/-- The first assignment of the package table with a key that is wanted. -/
def firstAssignment? (wanted : List String → Bool) (content : List Line) :
    Option (List String × String) :=
  (packageAssignments false content).find? (wanted ·.1)

/-- The value that the package table gives the key. -/
def packageValue? (key : List String) (content : List Line) : Option String :=
  (firstAssignment? (· == key) content).map Prod.snd

/-- Does the key, as it is written, start with the text? -/
def startsLike (text : String) (key : List String) : Bool :=
  key.head?.any fun part => text.toList.isPrefixOf part.toList

/-! ### Keys -/

theorem isKeyCharacter_eq_false_of_isBlank {character : Char}
    (blank : Text.isBlank character = true) : isKeyCharacter character = false := by
  rw [Bool.eq_false_iff]
  intro ofKey
  have code : character.toNat ≤ 0x20 ∨ 0x7F < character.toNat := by
    simp only [Text.isBlank, Bool.or_eq_true, Bool.and_eq_true, decide_eq_true_eq,
      beq_iff_eq] at blank
    omega
  have between : 0x20 < character.toNat ∧ character.toNat ≤ 0x7F := by
    simp only [isKeyCharacter, Bool.or_eq_true, beq_iff_eq] at ofKey
    rcases ofKey with (isAlphanum | rfl) | rfl
    · have bounds := Text.between_of_isAlphanum isAlphanum
      exact ⟨Nat.lt_of_lt_of_le (by decide) bounds.1, Nat.le_trans bounds.2 (by decide)⟩
    · decide
    · decide
  omega

/-- What stands behind a part of a key does not go on with it. -/
def Ends (rest : List Char) : Prop :=
  ∀ next ∈ rest.head?, isKeyCharacter next = false

theorem ends_of_blanks {blanks : List Char} (blank : AreBlank blanks) {mark : Char}
    (isMark : isKeyCharacter mark = false) (rest : List Char) :
    Ends (blanks ++ mark :: rest) := by
  intro following member
  cases blanks with
  | nil => rwa [← Option.some.inj member]
  | cons first others =>
      rw [← Option.some.inj member]
      exact isKeyCharacter_eq_false_of_isBlank (blank first List.mem_cons_self)

/-- A key starts with its first part, and nothing behind that goes on with it. -/
theorem IsKey.exists_first {key : List String} {left : List Char} (isKey : IsKey key left)
    {rest : List Char} (ends : Ends rest) :
    ∃ part behind, key.head? = some part ∧ left ++ rest = part.toList ++ behind ∧ Ends behind := by
  cases isKey with
  | @bare part isPart => exact ⟨part, rest, rfl, rfl, ends⟩
  | @dotted part _ before after further isPart blankBefore _ _ =>
      refine ⟨part, before ++ '.' :: (after ++ further ++ rest), rfl, ?_, ?_⟩
      · simp only [List.append_assoc, List.cons_append]
      · exact ends_of_blanks blankBefore (by decide) _

theorem IsKey.exists_cons {key : List String} {left : List Char} (isKey : IsKey key left) :
    ∃ first rest, left = first :: rest ∧ isKeyCharacter first := by
  have ofPart : ∀ {part : String}, IsKeyPart part →
      ∃ first rest, part.toList = first :: rest ∧ isKeyCharacter first := by
    intro part isPart
    have ofKey := List.all_eq_true.mp isPart.plain
    cases split : part.toList with
    | nil => exact absurd (String.toList_eq_nil_iff.mp split) isPart.nonempty
    | cons first rest => exact ⟨first, rest, rfl, ofKey first (split ▸ List.mem_cons_self)⟩
  cases isKey with
  | bare isPart => exact ofPart isPart
  | dotted isPart _ _ _ =>
      rcases ofPart isPart with ⟨first, rest, split, plain⟩
      exact ⟨first, _, by rw [split]; rfl, plain⟩

theorem IsKey.equals_not_mem {key : List String} {left : List Char} (isKey : IsKey key left) :
    '=' ∉ left := by
  have notInPart : ∀ {part : String}, IsKeyPart part → '=' ∉ part.toList :=
    fun isPart member => absurd (List.all_eq_true.mp isPart.plain _ member) (by decide)
  have notBlank : ∀ {blanks : List Char}, AreBlank blanks → '=' ∉ blanks :=
    fun blank member => absurd (blank _ member) (by decide)
  induction isKey with
  | bare isPart => exact notInPart isPart
  | dotted isPart blankBefore blankAfter _ induction =>
      simp [notInPart isPart, notBlank blankBefore, notBlank blankAfter, induction]

/-- A text of key characters is at the start of a line exactly if the key starts like it. -/
theorem isPrefixOf_key {text : String} (plain : text.toList.all isKeyCharacter) {part : String}
    {behind : List Char} (ends : Ends behind) :
    text.toList.isPrefixOf (part.toList ++ behind) = text.toList.isPrefixOf part.toList := by
  rw [Bool.eq_iff_iff, List.isPrefixOf_iff_prefix, List.isPrefixOf_iff_prefix]
  constructor
  · intro starts
    rcases List.prefix_or_prefix_of_prefix starts (List.prefix_append part.toList behind) with
      within | ⟨longer, same⟩
    · exact within
    · rw [← same, List.prefix_append_right_inj] at starts
      cases longer with
      | nil => simp [← same]
      | cons next rest =>
          rcases starts with ⟨_, begins⟩
          have ofKey := List.all_eq_true.mp plain next (same ▸ by simp)
          rw [ends next (by rw [← begins]; rfl)] at ofKey
          cases ofKey
  · exact fun within => List.IsPrefix.trans within (List.prefix_append _ _)

/-! ### Values -/

theorem IsValue.exists_concat {value : String} {right : List Char} (isValue : IsValue value right) :
    ∃ others last, right = others ++ [last] ∧ Text.isBlank last = false := by
  cases isValue with
  | truth value =>
      cases value
      · exact ⟨['f', 'a', 'l', 's'], 'e', by decide, by decide⟩
      · exact ⟨['t', 'r', 'u'], 'e', by decide, by decide⟩
  | @quoted quote _ isQuote =>
      refine ⟨quote :: value.toList, quote, rfl, ?_⟩
      rcases isQuote with rfl | rfl <;> decide

theorem IsValue.trimmed {value : String} {right : List Char} (isValue : IsValue value right) :
    Text.Trimmed Text.isBlank right := by
  cases isValue with
  | truth value =>
      have kept : (toString value).toList.all (!Text.isBlank ·) := by cases value <;> decide
      refine .of_forall fun character member => ?_
      simpa using List.all_eq_true.mp kept character member
  | @quoted quote _ isQuote =>
      have notBlank : Text.isBlank quote = false := by
        rcases isQuote with rfl | rfl <;> decide
      exact .of_ends value.toList notBlank notBlank

theorem trimmed_of_not_mem {quote : Char} {text : String} (absent : quote ∉ text.toList) :
    Text.Trimmed (· == quote) text.toList := by
  refine .of_forall fun character member => ?_
  rw [beq_eq_false_iff_ne]
  exact fun same => absent (same ▸ member)

/-- The quotes of one kind are taken away, and nothing else. -/
theorem stripCharacter_quoted {quote : Char} {text : String} (absent : quote ∉ text.toList) :
    Text.stripCharacter quote (String.ofList (quote :: (text.toList ++ [quote]))) = text := by
  have ofQuotes : ∀ character ∈ [quote], (character == quote) = true := by simp
  have whole := Text.trimCharacters_surrounded ofQuotes ofQuotes (trimmed_of_not_mem absent)
  rw [List.cons_append, List.nil_append, List.cons_append] at whole
  rw [Text.stripCharacter, String.toList_ofList, whole, String.ofList_toList]

theorem stripCharacter_eq_self {quote : Char} {text : String}
    (trimmed : Text.Trimmed (· == quote) text.toList) : Text.stripCharacter quote text = text := by
  rw [Text.stripCharacter, Text.trimCharacters_of_trimmed trimmed, String.ofList_toList]

theorem IsValue.unquoted {value : String} {right : List Char} (isValue : IsValue value right) :
    Text.stripCharacter '\'' (Text.stripCharacter '"' (String.ofList right)) = value := by
  cases isValue with
  | truth value => cases value <;> decide +kernel
  | @quoted quote _ isQuote noDouble noSingle =>
      rcases isQuote with rfl | rfl
      · rw [stripCharacter_quoted noDouble, stripCharacter_eq_self (trimmed_of_not_mem noSingle)]
      · have single : Text.Trimmed (· == '"')
            (String.ofList ('\'' :: (value.toList ++ ['\'']))).toList := by
          rw [String.toList_ofList]
          exact .of_ends _ (by decide) (by decide)
        rw [stripCharacter_eq_self single, stripCharacter_quoted noSingle]

section Assignment

variable {key : List String} {value : String} {left before after right : List Char}
  (isKey : IsKey key left) (blankBefore : AreBlank before) (blankAfter : AreBlank after)
  (isValue : IsValue value right)
include isKey blankBefore

theorem lineValue?_assignment (isValue : IsValue value right) (blankAfter : AreBlank after) :
    lineValue? (String.ofList (left ++ (before ++ '=' :: (after ++ right)))) = some value := by
  have upToSign : ∀ character ∈ left ++ before, (character != '=') = true := by
    intro character member
    rcases List.mem_append.mp member with inKey | inBlanks
    · simpa using fun same : character = '=' => isKey.equals_not_mem (same ▸ inKey)
    · simpa using fun same : character = '=' =>
        absurd (blankBefore character inBlanks) (by rw [same]; decide)
  have rest : (left ++ (before ++ '=' :: (after ++ right))).dropWhile (· != '=') =
      '=' :: (after ++ right) := by
    rw [← List.append_assoc, List.dropWhile_append_of_pos upToSign]
    rfl
  have stripped : Text.strip (String.ofList (after ++ right)) = String.ofList right := by
    have nothing : AreBlank [] := by decide
    have kept := Text.trimCharacters_surrounded blankAfter nothing isValue.trimmed
    rw [List.append_nil] at kept
    rw [Text.strip, String.toList_ofList, kept]
  rw [lineValue?, String.toList_ofList, rest]
  dsimp only
  rw [stripped, isValue.unquoted]

/-- An assignment is taken for one to a name that its key starts like. -/
theorem valueFor?_assignment (isValue : IsValue value right) (blankAfter : AreBlank after)
    {name : String} (plain : name.toList.all isKeyCharacter) :
    valueFor? name (String.ofList (left ++ (before ++ '=' :: (after ++ right)))) =
      if startsLike name key then some value else none := by
  have ends : Ends (before ++ '=' :: (after ++ right)) := ends_of_blanks blankBefore (by decide) _
  rcases isKey.exists_first ends with ⟨part, behind, first, split, endsPart⟩
  have starts : name.toList.isPrefixOf (left ++ (before ++ '=' :: (after ++ right))) =
      startsLike name key := by
    rw [split, isPrefixOf_key plain endsPart, startsLike, first]
    rfl
  rw [valueFor?, String.toList_ofList, starts,
    lineValue?_assignment isKey blankBefore isValue blankAfter]

end Assignment

/-! ### Whole manifests -/

/-- Indentation makes no difference. -/
theorem Line.Reads.isWritten_strip {line : Line} {text : String} (reads : line.Reads text) :
    line.IsWritten (Text.strip text).toList := by
  rcases reads with ⟨before, middle, after, blankBefore, blankAfter, split, written⟩
  have stripped : Text.Trimmed Text.isBlank middle → (Text.strip text).toList = middle := by
    intro trimmed
    rw [Text.strip, String.toList_ofList, split]
    exact Text.trimCharacters_surrounded blankBefore blankAfter trimmed
  cases written with
  | blank =>
      rw [stripped ⟨by simp, by simp⟩]
      exact .blank
  | comment text =>
      -- A comment may end with blanks, which stripping takes away with those behind it.
      rcases Text.exists_trimCharacters_eq_cons (text ++ after) blankBefore
        (by decide : Text.isBlank '#' = false) with ⟨tail, kept⟩
      rw [Text.strip, String.toList_ofList, split, List.append_assoc, List.cons_append, kept]
      exact .comment tail
  | @table name plain =>
      have trimmed : Text.Trimmed Text.isBlank ('[' :: (name.toList ++ [']'])) :=
        .of_ends _ (by decide) (by decide)
      rw [stripped trimmed]
      exact .table plain
  | tableArray name =>
      have bracket : Text.isBlank '[' = false ∧ Text.isBlank ']' = false := by decide
      have trimmed : Text.Trimmed Text.isBlank ('[' :: '[' :: (name.toList ++ [']', ']'])) := by
        simpa using Text.Trimmed.of_ends ('[' :: (name.toList ++ [']'])) bracket.1 bracket.2
      rw [stripped trimmed]
      exact .tableArray name
  | @assignment key value left before after right isKey blankBefore blankAfter isValue =>
      rcases isKey.exists_cons with ⟨first, rest, isLeft, ofKey⟩
      rcases isValue.exists_concat with ⟨others, last, isRight, notBlank⟩
      have start : Text.isBlank first = false := by
        rw [Bool.eq_false_iff]
        intro blank
        rw [isKeyCharacter_eq_false_of_isBlank blank] at ofKey
        cases ofKey
      rw [stripped]
      · exact .assignment isKey blankBefore blankAfter isValue
      · have trimmed := Text.Trimmed.of_ends (rest ++ (before ++ '=' :: (after ++ others))) start
          notBlank
        simpa [isLeft, isRight] using trimmed

/-- Only what starts with a bracket switches the table. -/
theorem versionFrom?_cons (inPackage : Bool) {text : String} (rest : List String)
    (plain : text.toList.head? ≠ some '[') :
    versionFrom? inPackage (text :: rest) =
      (if inPackage then valueFor? "version" text else none).or (versionFrom? inPackage rest) := by
  have notHeader : text ≠ "[package]" := by
    rintro rfl
    exact plain rfl
  have noBracket : ¬ "[".toList.isPrefixOf text.toList = true := by
    intro starts
    rcases List.isPrefixOf_iff_prefix.mp starts with ⟨others, split⟩
    exact plain (by rw [← split]; rfl)
  rw [versionFrom?, if_neg notHeader, if_neg noBracket]
  cases (if inPackage then valueFor? "version" text else none) <;> rfl

theorem versionFrom?_bracket (inPackage : Bool) {text : String} (rest : List String)
    (bracket : text.toList.head? = some '[') :
    versionFrom? inPackage (text :: rest) = versionFrom? (text == "[package]") rest := by
  have starts : "[".toList.isPrefixOf text.toList = true := by
    rcases List.head?_eq_some_iff.mp bracket with ⟨others, split⟩
    rw [split]
    rfl
  by_cases header : text = "[package]"
  · rw [versionFrom?, if_pos header, header]
    rfl
  · rw [versionFrom?, if_neg header, if_pos starts, beq_eq_false_iff_ne.mpr header]

theorem versionFrom?_table (inPackage : Bool) {name text : String} (rest : List String)
    (written : text.toList = '[' :: (name.toList ++ [']'])) :
    versionFrom? inPackage (text :: rest) = versionFrom? (name == "package") rest := by
  have sameTable : (text == "[package]") = (name == "package") := by
    rw [Bool.eq_iff_iff, beq_iff_eq, beq_iff_eq, ← String.toList_inj, written,
      (by decide : "[package]".toList = '[' :: ("package".toList ++ [']'])), List.cons_inj_right,
      List.append_left_inj, String.toList_inj]
  rw [versionFrom?_bracket inPackage rest (by rw [written]; rfl), sameTable]

theorem versionFrom?_tableArray (inPackage : Bool) {name text : String} (rest : List String)
    (written : text.toList = '[' :: '[' :: (name.toList ++ [']', ']'])) :
    versionFrom? inPackage (text :: rest) = versionFrom? false rest := by
  have otherTable : (text == "[package]") = false := by
    rw [beq_eq_false_iff_ne]
    rintro rfl
    exact absurd (List.cons.inj (List.cons.inj written).2).1 (by decide)
  rw [versionFrom?_bracket inPackage rest (by rw [written]; rfl), otherTable]

/-- Lines whose start is not that of a key do not contribute. -/
theorem versionFrom?_skip (inPackage : Bool) {text : String} (rest : List String)
    (noBracket : text.toList.head? ≠ some '[') (noKey : text.toList.head? ≠ some 'v') :
    versionFrom? inPackage (text :: rest) = versionFrom? inPackage rest := by
  have notVersion : valueFor? "version" text = none := by
    rw [valueFor?, if_neg]
    intro starts
    rcases List.isPrefixOf_iff_prefix.mp starts with ⟨others, split⟩
    exact noKey (by rw [← split]; rfl)
  rw [versionFrom?_cons inPackage rest noBracket, notVersion, ite_self, Option.none_or]

theorem versionFrom?_assignment (inPackage : Bool) {key : List String} {value text : String}
    {left before after right : List Char} (rest : List String) (isKey : IsKey key left)
    (blankBefore : AreBlank before) (blankAfter : AreBlank after) (isValue : IsValue value right)
    (written : text.toList = left ++ (before ++ '=' :: (after ++ right))) :
    versionFrom? inPackage (text :: rest) =
      (if inPackage && startsLike "version" key then some value else none).or
        (versionFrom? inPackage rest) := by
  have noBracket : text.toList.head? ≠ some '[' := by
    rcases isKey.exists_cons with ⟨first, others, isLeft, ofKey⟩
    rw [written, isLeft]
    intro bracket
    rw [Option.some.inj bracket] at ofKey
    cases ofKey
  have found : valueFor? "version" text =
      if startsLike "version" key then some value else none := by
    rw [← String.ofList_toList (s := text), written]
    exact valueFor?_assignment isKey blankBefore isValue blankAfter (by decide)
  rw [versionFrom?_cons inPackage rest noBracket, found]
  cases inPackage <;> rfl

/-- Whichever table the lines start in, the version is that of the first assignment to a key that
starts like `version`, of those that the package table makes from there on. -/
theorem versionFrom?_eq_find? (inPackage : Bool) {content : List Line} {texts : List String}
    (written : List.Forall₂ (fun line text => line.IsWritten text.toList) content texts) :
    versionFrom? inPackage texts =
      ((packageAssignments inPackage content).find? (startsLike "version" ·.1)).map Prod.snd := by
  induction written generalizing inPackage with
  | nil => rfl
  | @cons line text content texts isLine _ induction =>
      generalize split : text.toList = characters at isLine
      cases isLine with
      | blank =>
          rw [versionFrom?_skip inPackage texts (by simp [split]) (by simp [split]), induction]
          rfl
      | comment =>
          rw [versionFrom?_skip inPackage texts (by simp [split]) (by simp [split]), induction]
          rfl
      | table =>
          rw [versionFrom?_table inPackage texts split, induction]
          rfl
      | tableArray =>
          rw [versionFrom?_tableArray inPackage texts split, induction]
          rfl
      | @assignment key value left before after right isKey blankBefore blankAfter isValue =>
          rw [versionFrom?_assignment inPackage texts isKey blankBefore blankAfter isValue split,
            induction, packageAssignments]
          cases inPackage with
          | false => rfl
          | true => cases wanted : startsLike "version" key <;> simp [wanted]

theorem Says.written {text : String} {content : List Line} (reading : Says text content) :
    List.Forall₂ (fun line text => line.IsWritten text.toList) content (lines text) := by
  rw [lines, List.forall₂_map_right_iff]
  exact List.Forall₂.imp (fun _ _ reads => reads.isWritten_strip) reading

theorem version?_eq_firstAssignment? {text : String} {content : List Line}
    (reading : Says text content) :
    version? text = (firstAssignment? (startsLike "version") content).map Prod.snd :=
  versionFrom?_eq_find? false reading.written

/-- No other assignment comes first where the first key that starts like `version` is `version`. -/
theorem firstAssignment?_version {content : List Line} {value : String}
    (first : firstAssignment? (startsLike "version") content = some (["version"], value)) :
    firstAssignment? (· == ["version"]) content = some (["version"], value) := by
  rw [firstAssignment?, List.find?_eq_some_iff_append] at first ⊢
  rcases first with ⟨_, earlier, later, split, others⟩
  refine ⟨beq_self_eq_true _, earlier, later, split, fun assignment member => ?_⟩
  have notLike := others assignment member
  rw [Bool.not_eq_true', beq_eq_false_iff_ne]
  intro same
  rw [same] at notLike
  exact absurd notLike (by decide)

theorem packageValue?_version_of_none {content : List Line}
    (absent : firstAssignment? (startsLike "version") content = none) :
    packageValue? ["version"] content = none := by
  rw [firstAssignment?, List.find?_eq_none] at absent
  rw [packageValue?, Option.map_eq_none_iff, firstAssignment?, List.find?_eq_none]
  intro assignment member
  rw [beq_iff_eq]
  intro same
  exact absent assignment member (by rw [same]; decide)

theorem version_is_first_that_starts_like {text : String} {content : List Line}
    (reading : Says text content) :
    version? text = (firstAssignment? (startsLike "version") content).map Prod.snd ∧
    (version? text = packageValue? ["version"] content ↔
      ∀ key value, firstAssignment? (startsLike "version") content = some (key, value) →
        key = ["version"] ∨ packageValue? ["version"] content = some value) := by
  have found := version?_eq_firstAssignment? reading
  refine ⟨found, ?_⟩
  rw [found]
  cases first : firstAssignment? (startsLike "version") content with
  | none => simp [packageValue?_version_of_none first]
  | some assignment =>
      rcases assignment with ⟨key, value⟩
      constructor
      · rintro same _ _ ⟨⟩
        exact .inr same.symm
      · intro right
        rcases right key value rfl with rfl | same
        · rw [packageValue?, firstAssignment?_version first]
        · exact same.symm

theorem Line.IsWritten.reads {line : Line} {text : String} (written : line.IsWritten text.toList) :
    line.Reads text :=
  ⟨[], text.toList, [], by simp [AreBlank], by simp [AreBlank], by simp, written⟩

def releasedManifest : String :=
  "[package]\n# released\nname = 'demo'\nversion=\"0.3.0\"\n[[bin]]\nversion-file='v'"

def releasedContent : List Line :=
  [.table "package", .comment, .assignment ["name"] "demo", .assignment ["version"] "0.3.0",
    .tableArray "bin", .assignment ["version-file"] "v"]

theorem version_is_first_that_starts_like_released :
    Says releasedManifest releasedContent ∧ version? releasedManifest = some "0.3.0" := by
  have reading : Says releasedManifest releasedContent := by
    have split : Text.splitLines releasedManifest = ["[package]", "# released", "name = 'demo'",
        "version=\"0.3.0\"", "[[bin]]", "version-file='v'"] := by decide +kernel
    have name : IsKey ["name"] "name".toList := .bare ⟨by decide, by decide⟩
    have version : IsKey ["version"] "version".toList := .bare ⟨by decide, by decide⟩
    have versionFile : IsKey ["version-file"] "version-file".toList := .bare ⟨by decide, by decide⟩
    have space : AreBlank [' '] := by decide
    have nothing : AreBlank [] := by decide
    rw [Says, split, releasedContent]
    refine .cons (Line.IsWritten.table (by decide)).reads (.cons (Line.IsWritten.comment _).reads
      (.cons (Line.IsWritten.assignment name space space (.quoted (.inr rfl) (by decide)
        (by decide))).reads
      (.cons (Line.IsWritten.assignment version nothing nothing (.quoted (.inl rfl) (by decide)
        (by decide))).reads
      (.cons (Line.IsWritten.tableArray _).reads
      (.cons (Line.IsWritten.assignment versionFile nothing nothing (.quoted (.inr rfl) (by decide)
        (by decide))).reads .nil)))))
  exact ⟨reading, (version_is_first_that_starts_like reading).1.trans (by decide +kernel)⟩

theorem inherited_version_is_taken :
    Says "[package]\nversion.workspace = true\n"
      [.table "package", .assignment ["version", "workspace"] "true"] ∧
    packageValue? ["version"] [.table "package", .assignment ["version", "workspace"] "true"] =
      none ∧
    version? "[package]\nversion.workspace = true\n" = some "true" := by
  refine ⟨?_, by decide +kernel, by decide +kernel⟩
  have split : Text.splitLines "[package]\nversion.workspace = true\n" =
      ["[package]", "version.workspace = true"] := by decide +kernel
  have space : AreBlank [' '] := by decide
  have nothing : AreBlank [] := by decide
  have version : IsKeyPart "version" := ⟨by decide, by decide⟩
  have workspace : IsKeyPart "workspace" := ⟨by decide, by decide⟩
  have inherited : IsKey ["version", "workspace"] "version.workspace".toList :=
    .dotted version nothing nothing (.bare workspace)
  rw [Says, split]
  exact .cons (Line.IsWritten.table (by decide)).reads
    (.cons (Line.IsWritten.assignment inherited space space (.truth true)).reads .nil)

end CrateGraph.Manifest
