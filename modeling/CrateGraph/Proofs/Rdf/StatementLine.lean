import CrateGraph.Proofs.Rdf.Call
import CrateGraph.Proofs.Text.HexadecimalReading

/-!
Reading a triple from the line that states it.

The text formats agree on how a line looks: subject, predicate and object with spaces between them
and a full stop at the end, literals in double quotes. They differ in how an IRI is written and in
what of a literal is escaped. Reading is therefore defined for any way of reading IRIs, and a line
is read back whatever the way of writing IRIs and escaping characters, as long as these are read
back themselves.
-/

namespace CrateGraph.Rdf

/-- What can be read at the start of a text, with the rest of the text. -/
abbrev IriReader := List Char → Option (String × List Char)

def isSpace (character : Char) : Bool :=
  character == ' ' || character == '\t'

def skipSpaces (text : List Char) : List Char :=
  text.dropWhile isSpace

/-! ### IRIs in angle brackets -/

def readReference? : IriReader
  | '<' :: text =>
      match text.dropWhile isIriCharacter with
      | '>' :: rest => some (String.ofList (text.takeWhile isIriCharacter), rest)
      | _ => none
  | _ => none

/-! ### Literals -/

/-- The character that a backslash and a letter or mark stand for. -/
def namedCharacter? : Char → Option Char
  | 't' => some '\t'
  | 'b' => some '\x08'
  | 'n' => some '\n'
  | 'r' => some '\r'
  | 'f' => some '\x0c'
  | '"' => some '"'
  | '\'' => some '\''
  | '\\' => some '\\'
  | _ => none

/-- The character that some hexadecimal digits are the number of. -/
def numberedCharacter? (digits : List Char) : Option Char :=
  (Text.hexNumber? digits).bind fun code =>
    if code.isValidChar then some (Char.ofNat code) else none

def precede (character : Char) (read : List Char × List Char) : List Char × List Char :=
  (character :: read.1, read.2)

/-- The text of a literal up to the quote that ends it, with what follows the quote. -/
def readQuoted? : List Char → Option (List Char × List Char)
  | [] => none
  | '"' :: rest => some ([], rest)
  | '\\' :: 'u' :: first :: second :: third :: fourth :: rest =>
      match numberedCharacter? [first, second, third, fourth] with
      | none => none
      | some character => (readQuoted? rest).map (precede character)
  | '\\' :: letter :: rest =>
      match namedCharacter? letter with
      | none => none
      | some character => (readQuoted? rest).map (precede character)
  | character :: rest =>
      if character = '\\' ∨ character = '\n' ∨ character = '\r' then none
      else (readQuoted? rest).map (precede character)

/-! ### Terms and triples -/

def readTerm? (readIri : IriReader) : List Char → Option (Term × List Char)
  | '"' :: text =>
      match readQuoted? text with
      | none => none
      | some (value, '^' :: '^' :: rest) =>
          (readIri rest).map fun (datatype, rest) =>
            (.typed (String.ofList value) datatype, rest)
      | some (value, rest) => some (.literal (String.ofList value), rest)
  | text => (readIri text).map fun (iri, rest) => (.iri iri, rest)

/-- Is there nothing on the line but the full stop that ends a statement? -/
def isFullStop (text : List Char) : Bool :=
  match skipSpaces text with
  | '.' :: rest => (skipSpaces rest).isEmpty
  | _ => false

/-- The triple that a line states, if it states one and nothing else. -/
def readTriple? (readIri : IriReader) (line : List Char) : Option Triple := do
  let (subject, rest) ← readIri (skipSpaces line)
  let (predicate, rest) ← readIri (skipSpaces rest)
  let (object, rest) ← readTerm? readIri (skipSpaces rest)
  if isFullStop rest then some ⟨subject, predicate, object⟩ else none

/-! ### Writing a line in any style -/

/-- How the IRIs of a line are written, and how the characters of its literals. -/
structure LineStyle where
  writeIri : String → List Char
  escape : Char → List Char

namespace LineStyle

def quoted (style : LineStyle) (text : String) : List Char :=
  '"' :: (text.toList.flatMap style.escape ++ ['"'])

def term (style : LineStyle) : Term → List Char
  | .iri value => style.writeIri value
  | .literal value => style.quoted value
  | .typed value datatype => style.quoted value ++ ['^', '^'] ++ style.writeIri datatype

/-- The line of a triple, without the line feed that ends it. -/
def line (style : LineStyle) (triple : Triple) : List Char :=
  style.writeIri triple.subject ++ [' '] ++ style.writeIri triple.predicate ++ [' '] ++
    style.term triple.object ++ [' ', '.']

end LineStyle

/-! ### What is read back -/

/-- An escaped character is read back wherever in a literal it stands. -/
def ReadsEscapes (escape : Char → List Char) : Prop :=
  ∀ character rest,
    readQuoted? (escape character ++ rest) = (readQuoted? rest).map (precede character)

/-- A written IRI is read back where a space follows, and it is not mistaken for a space or a
literal. -/
structure IriReader.Reads (readIri : IriReader) (written : List Char) (iri : String) : Prop where
  read : ∀ rest, readIri (written ++ ' ' :: rest) = some (iri, ' ' :: rest)
  start : ∃ first further, written = first :: further ∧ isSpace first = false ∧ first ≠ '"'

theorem IsIri.visible {iri : String} (legal : IsIri iri) {character : Char}
    (member : character ∈ iri.toList) : isSpace character = false := by
  rw [isSpace, Bool.or_eq_false_iff, beq_eq_false_iff_ne, beq_eq_false_iff_ne]
  constructor
  · intro equal
    subst equal
    exact legal.not_mem (by decide) member
  · intro equal
    subst equal
    exact legal.not_mem (by decide) member

theorem readReference?_brackets {iri : String} (legal : IsIri iri) (rest : List Char) :
    readReference? ('<' :: (iri.toList ++ '>' :: rest)) = some (iri, rest) := by
  have excluded : isIriCharacter '>' = false := by decide
  have taken : (iri.toList ++ '>' :: rest).takeWhile isIriCharacter = iri.toList := by
    rw [List.takeWhile_append_of_pos legal, List.takeWhile_cons_of_neg (by simp [excluded]),
      List.append_nil]
  have dropped : (iri.toList ++ '>' :: rest).dropWhile isIriCharacter = '>' :: rest := by
    rw [List.dropWhile_append_of_pos legal, List.dropWhile_cons_of_neg (by simp [excluded])]
  rw [readReference?, taken, dropped]
  simp

theorem readQuoted?_flatMap {escape : Char → List Char} (escapes : ReadsEscapes escape)
    (text rest : List Char) :
    readQuoted? (text.flatMap escape ++ '"' :: rest) = some (text, rest) := by
  induction text with
  | nil => rfl
  | cons character text induction =>
      rw [List.flatMap_cons, List.append_assoc, escapes, induction]
      rfl

/-- Characters without an escape of their own stand for themselves. -/
theorem readQuoted?_plain {character : Char} (plain : literalEscape? character = none)
    (rest : List Char) :
    readQuoted? (character :: rest) = (readQuoted? rest).map (precede character) := by
  have different : ∀ special escaped, literalEscape? special = some escaped →
      character ≠ special := by
    intro special escaped found equal
    rw [← equal, plain] at found
    cases found
  have notQuote := different '"' _ rfl
  have notBackslash := different '\\' _ rfl
  have notFeed := different '\n' _ rfl
  have notReturn := different '\r' _ rfl
  simp [readQuoted?, notBackslash, notFeed, notReturn]

theorem readQuoted?_escaped {character : Char} {escaped : List Char}
    (found : literalEscape? character = some escaped) (rest : List Char) :
    readQuoted? (escaped ++ rest) = (readQuoted? rest).map (precede character) := by
  unfold literalEscape? at found
  split at found
  all_goals cases found
  all_goals simp [readQuoted?, namedCharacter?]

theorem lineFeed_not_mem_escaped {character : Char} {escaped : List Char}
    (found : literalEscape? character = some escaped) : '\n' ∉ escaped := by
  unfold literalEscape? at found
  split at found
  all_goals cases found
  all_goals decide

theorem ne_lineFeed_of_plain {character : Char} (plain : literalEscape? character = none) :
    character ≠ '\n' := by
  intro equal
  subst equal
  cases plain

theorem readQuoted?_numbered (letters : Text.HexCase) {character : Char}
    (small : character.toNat < 16 ^ 4) (rest : List Char) :
    readQuoted? ('\\' :: 'u' :: (Text.hexDigits letters 4 character.toNat ++ rest)) =
      (readQuoted? rest).map (precede character) := by
  have number := Text.hexNumber?_hexDigits letters 4 character.toNat
  rw [Nat.mod_eq_of_lt small] at number
  have valid : character.toNat.isValidChar := character.valid
  have found : numberedCharacter? (Text.hexDigits letters 4 character.toNat) = some character := by
    rw [numberedCharacter?, number, Option.bind_some, if_pos valid, Char.ofNat_toNat]
  match digits : Text.hexDigits letters 4 character.toNat, Text.hexDigits_length letters 4 _ with
  | [first, second, third, fourth], _ =>
      rw [digits] at found
      simp [readQuoted?, found]

/-! ### Lines are read back -/

theorem skipSpaces_cons {first : Char} (visible : isSpace first = false) (rest : List Char) :
    skipSpaces (first :: rest) = first :: rest :=
  List.dropWhile_cons_of_neg (by simp [visible])

theorem skipSpaces_space (rest : List Char) : skipSpaces (' ' :: rest) = skipSpaces rest :=
  List.dropWhile_cons_of_pos (by decide)

/-- Where a text starts visibly, spaces in front of it do not matter. -/
theorem IriReader.Reads.read_skipSpaces {readIri : IriReader} {written : List Char} {iri : String}
    (reads : readIri.Reads written iri) (rest : List Char) :
    readIri (skipSpaces (written ++ ' ' :: rest)) = some (iri, ' ' :: rest) := by
  rcases reads.start with ⟨first, further, rfl, visible, _⟩
  rw [List.cons_append, skipSpaces_cons visible]
  exact reads.read rest

namespace LineStyle

variable {style : LineStyle} {readIri : IriReader}

theorem readTerm?_term (escapes : ReadsEscapes style.escape) {term : Term}
    (iris : ∀ iri ∈ term.iris, readIri.Reads (style.writeIri iri) iri) (rest : List Char) :
    readTerm? readIri (skipSpaces (style.term term ++ ' ' :: rest)) = some (term, ' ' :: rest) := by
  cases term with
  | iri value =>
      have reads := iris value List.mem_cons_self
      rcases reads.start with ⟨first, further, start, visible, notQuote⟩
      have read := reads.read rest
      rw [LineStyle.term, start, List.cons_append, skipSpaces_cons visible]
      rw [start, List.cons_append] at read
      simp [readTerm?, notQuote, read]
  | literal value =>
      rw [LineStyle.term, quoted, List.cons_append, List.append_assoc]
      rw [skipSpaces_cons (by decide)]
      simp only [readTerm?, List.cons_append, List.nil_append, readQuoted?_flatMap escapes]
      simp
  | typed value datatype =>
      have reads := iris datatype List.mem_cons_self
      simp only [LineStyle.term, quoted, List.cons_append, List.append_assoc, List.nil_append]
      rw [skipSpaces_cons (by decide)]
      simp only [readTerm?, readQuoted?_flatMap escapes, reads.read rest]
      simp

/-- A line is read back as the triple that it was written for. -/
theorem readTriple?_line (escapes : ReadsEscapes style.escape) {triple : Triple}
    (iris : ∀ iri ∈ triple.iris, readIri.Reads (style.writeIri iri) iri) :
    readTriple? readIri (style.line triple) = some triple := by
  have subject := (iris triple.subject (by simp [Triple.iris])).read_skipSpaces
  have predicate := (iris triple.predicate (by simp [Triple.iris])).read_skipSpaces
  have object : ∀ rest, readTerm? readIri (skipSpaces (style.term triple.object ++ ' ' :: rest)) =
      some (triple.object, ' ' :: rest) :=
    readTerm?_term escapes fun iri member =>
      iris iri (List.mem_cons_of_mem _ (List.mem_cons_of_mem _ member))
  simp only [line, readTriple?, List.append_assoc, List.cons_append, List.nil_append, subject,
    Option.bind_eq_bind, Option.bind_some, skipSpaces_space, predicate, object]
  rfl

/-- A line is one line if its IRIs and the escapes hold no line feed. -/
theorem lineFeed_not_mem_line (escapes : ∀ character, '\n' ∉ style.escape character)
    {triple : Triple} (iris : ∀ iri ∈ triple.iris, '\n' ∉ style.writeIri iri) :
    '\n' ∉ style.line triple := by
  have literal : ∀ text, '\n' ∉ style.quoted text := by
    intro text
    simp [quoted, List.mem_flatMap, escapes]
  have object : '\n' ∉ style.term triple.object := by
    cases isObject : triple.object with
    | iri value => exact iris value (by simp [Triple.iris, Term.iris, isObject])
    | literal value => exact literal value
    | typed value datatype =>
        have named := iris datatype (by simp [Triple.iris, Term.iris, isObject])
        simp [term, literal, named]
  have subject := iris triple.subject (by simp [Triple.iris])
  have predicate := iris triple.predicate (by simp [Triple.iris])
  simp [line, subject, predicate, object]

end LineStyle

/-! ### The lines of a text -/

def endLine (line : List Char) : List Char :=
  line ++ ['\n']

/-- A text of ended lines splits into them and an empty rest. -/
theorem splitOn_endLine {lines : List (List Char)} (single : ∀ line ∈ lines, '\n' ∉ line) :
    (lines.flatMap endLine).splitOn '\n' = lines ++ [[]] := by
  induction lines with
  | nil => rfl
  | cons line rest induction =>
      have first := single line List.mem_cons_self
      have further := induction fun other member => single other (List.mem_cons_of_mem _ member)
      rw [List.flatMap_cons, endLine, List.append_assoc, List.singleton_append,
        List.splitOn_append_cons_self_of_not_mem first, further]
      rfl

end CrateGraph.Rdf
