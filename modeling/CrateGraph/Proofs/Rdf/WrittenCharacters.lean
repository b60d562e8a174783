import CrateGraph.Proofs.Rdf.Compaction
import CrateGraph.Proofs.Rdf.NTriplesReading
import CrateGraph.Proofs.Rdf.TurtleLines
import CrateGraph.Proofs.Text.Characters

/-!
The characters of written statements.

Both formats write the texts that they are handed, between marks and with escapes that are ASCII.
Turtle also writes the namespaces that it was told of, and those are statements, too. Where ASCII is
allowed, a text in either format therefore holds no character that its statements do not hold.
-/

namespace CrateGraph.Rdf

open Text (AllowsAscii IsAscii)

/-! ### The texts of statements -/

def Term.lexical? : Term → Option String
  | .iri _ => none
  | .literal value => some value
  | .typed value _ => some value

section Within

variable (allowed : Char → Prop)

structure Triple.Within (triple : Triple) : Prop where
  iris : ∀ iri ∈ triple.iris, Text.Within allowed iri
  lexical : ∀ text ∈ triple.object.lexical?, Text.Within allowed text

def Statement.Within : Statement → Prop
  | .namespaceName name iri => Text.Within allowed name ∧ Text.Within allowed iri
  | .triple stated => stated.Within allowed

end Within

variable {allowed : Char → Prop}

theorem Triple.Within.subject {triple : Triple} (within : triple.Within allowed) :
    Text.Within allowed triple.subject :=
  within.iris _ List.mem_cons_self

theorem Triple.Within.predicate {triple : Triple} (within : triple.Within allowed) :
    Text.Within allowed triple.predicate :=
  within.iris _ (List.mem_cons_of_mem _ List.mem_cons_self)

theorem Triple.Within.object {triple : Triple} (within : triple.Within allowed) :
    ∀ iri ∈ triple.object.iris, Text.Within allowed iri :=
  fun iri member => within.iris iri (List.mem_cons_of_mem _ (List.mem_cons_of_mem _ member))

variable (ascii : AllowsAscii allowed)

/-! ### Escapes -/

theorem isAscii_of_literalEscape? {character written : Char} {escaped : List Char}
    (escapes : literalEscape? character = some escaped) (member : written ∈ escaped) :
    IsAscii written := by
  have marked : ∀ mark, IsAscii mark → written ∈ ['\\', mark] → IsAscii written := by
    intro mark plain listed
    simp only [List.mem_cons, List.not_mem_nil, or_false] at listed
    rcases listed with rfl | rfl
    · decide
    · exact plain
  unfold literalEscape? at escapes
  split at escapes
  all_goals cases escapes
  all_goals exact marked _ (by decide) member

theorem NTriples.mem_or_isAscii_of_mem_escapeCharacter {character written : Char}
    (member : written ∈ NTriples.escapeCharacter character) :
    written = character ∨ IsAscii written := by
  unfold NTriples.escapeCharacter at member
  split at member
  · next escapes => exact Or.inr (isAscii_of_literalEscape? escapes member)
  · split at member
    · simp only [List.mem_cons] at member
      rcases member with rfl | rfl | digit
      · exact Or.inr (by decide)
      · exact Or.inr (by decide)
      · exact Or.inr (Text.isAscii_of_mem_hexDigits digit)
    · exact Or.inl (List.mem_singleton.mp member)

theorem Turtle.mem_or_isAscii_of_mem_escapeCharacter {character written : Char}
    (member : written ∈ Turtle.escapeCharacter character) :
    written = character ∨ IsAscii written := by
  unfold Turtle.escapeCharacter at member
  cases escapes : literalEscape? character with
  | none =>
      rw [escapes] at member
      exact Or.inl (List.mem_singleton.mp member)
  | some escaped =>
      rw [escapes] at member
      exact Or.inr (isAscii_of_literalEscape? escapes member)

/-! ### Lines -/

include ascii in
theorem allowed_of_mem_marks {marks : List Char} (plain : marks.all fun mark => IsAscii mark)
    {written : Char} (member : written ∈ marks) : allowed written :=
  ascii written (of_decide_eq_true (List.all_eq_true.mp plain written member))

namespace LineStyle

variable {style : LineStyle}
  (iris : ∀ {iri}, Text.Within allowed iri → ∀ written ∈ style.writeIri iri, allowed written)
  (escapes : ∀ {character written}, written ∈ style.escape character →
    written = character ∨ IsAscii written)
include ascii escapes

theorem allowed_of_mem_quoted {text : String} (within : Text.Within allowed text) :
    ∀ written ∈ style.quoted text, allowed written := by
  intro written member
  simp only [quoted, List.mem_cons, List.mem_append] at member
  rcases member with rfl | inText | quote
  · exact ascii _ (by decide)
  · rcases List.mem_flatMap.mp inText with ⟨character, held, escaped⟩
    rcases escapes escaped with rfl | plain
    · exact within _ held
    · exact ascii _ plain
  · exact allowed_of_mem_marks ascii (by decide) (List.mem_cons.mpr quote)

include iris

theorem allowed_of_mem_term {term : Term} (ofIris : ∀ iri ∈ term.iris, Text.Within allowed iri)
    (ofText : ∀ text ∈ term.lexical?, Text.Within allowed text) :
    ∀ written ∈ style.term term, allowed written := by
  cases term with
  | iri value => exact iris (ofIris value List.mem_cons_self)
  | literal value => exact allowed_of_mem_quoted ascii escapes (ofText value rfl)
  | typed value datatype =>
      intro written member
      rw [term, List.mem_append, List.mem_append] at member
      rcases member with (inText | marks) | inDatatype
      · exact allowed_of_mem_quoted ascii escapes (ofText value rfl) written inText
      · exact allowed_of_mem_marks ascii (by decide) marks
      · exact iris (ofIris datatype List.mem_cons_self) written inDatatype

/-- A line holds the characters that its triple and the forms of its IRIs hold, and ASCII. -/
theorem allowed_of_mem_line {triple : Triple} (within : triple.Within allowed) :
    ∀ written ∈ endLine (style.line triple), allowed written := by
  intro written member
  simp only [endLine, line, List.mem_append] at member
  rcases member with (((((subject | space) | predicate) | space) | object) | ending) | feed
  · exact iris within.subject written subject
  · exact allowed_of_mem_marks ascii (by decide) space
  · exact iris within.predicate written predicate
  · exact allowed_of_mem_marks ascii (by decide) space
  · exact allowed_of_mem_term ascii iris escapes within.object within.lexical written object
  · exact allowed_of_mem_marks ascii (by decide) ending
  · exact allowed_of_mem_marks ascii (by decide) feed

end LineStyle

section Ascii

include ascii

/-! ### N-Triples -/

theorem NTriples.within_writeIri {iri : String} (within : Text.Within allowed iri) :
    Text.Within allowed (NTriples.writeIri iri) := by
  simp (disch := decide) [NTriples.writeIri, within, ascii.within]

theorem NTriples.within_writeStatement {statement : Statement}
    (within : statement.Within allowed) :
    Text.Within allowed (NTriples.writeStatement statement) := by
  cases statement with
  | namespaceName name iri =>
      simp (disch := decide) [NTriples.writeStatement, ascii.within, within.1,
        NTriples.within_writeIri ascii within.2]
  | triple triple =>
      rw [Text.Within, NTriples.toList_writeStatement]
      apply LineStyle.allowed_of_mem_line ascii ?_
        NTriples.mem_or_isAscii_of_mem_escapeCharacter within
      intro iri ofIri
      rw [← NTriples.toList_writeIri]
      exact NTriples.within_writeIri ascii ofIri

end Ascii

/-! ### Turtle -/

/-- The names and the addresses of the namespaces are made of allowed characters. -/
def Turtle.Namespaces.Within (allowed : Char → Prop) (namespaces : Turtle.Namespaces) : Prop :=
  ∀ entry ∈ namespaces, Text.Within allowed entry.1 ∧ Text.Within allowed entry.2

namespace Turtle

section Ascii

variable {namespaces : Namespaces} (known : Namespaces.Within allowed namespaces)
include ascii known

theorem within_compactIri {iri : String} (within : Text.Within allowed iri) :
    Text.Within allowed (compactIri namespaces iri) := by
  rcases compactIri_cases namespaces iri with full | ⟨name, _, localName, listed, split, _, short⟩
  · rw [full]
    exact NTriples.within_writeIri ascii within
  · have rest : Text.Within allowed (String.ofList localName) := by
      rw [Text.within_ofList]
      intro character member
      exact within character (split ▸ List.mem_append_right _ member)
    rw [short]
    simp (disch := decide) [(known _ listed).1, ascii.within, rest]

theorem within_writeTriple {triple : Triple} (within : triple.Within allowed) :
    Text.Within allowed (writeTriple namespaces triple) := by
  rw [Text.Within, toList_writeTriple]
  apply LineStyle.allowed_of_mem_line ascii ?_ mem_or_isAscii_of_mem_escapeCharacter within
  exact fun ofIri => within_compactIri ascii known ofIri

theorem within_writeHeader : Text.Within allowed (writeHeader namespaces) := by
  rw [writeHeader_eq, Text.within_append]
  constructor
  · apply Text.within_join
    intro text member
    rcases List.mem_map.mp member with ⟨entry, listed, rfl⟩
    have inTable := known entry (List.mem_mergeSort.mp listed)
    simp (disch := decide) [writeDeclaration, ascii.within, inTable]
  · split
    · exact Text.within_empty
    · exact ascii.within (by decide)

end Ascii

namespace Document

variable {document : Document} {statement : Statement}
  (known : Namespaces.Within allowed document.namespaces) (within : statement.Within allowed)
include known within

theorem within_namespaces_add :
    Namespaces.Within allowed (document.add statement).1.namespaces := by
  cases statement with
  | namespaceName name iri =>
      intro entry member
      rcases Entries.eq_or_mem_of_mem_insert member with rfl | before
      · exact within
      · exact known entry before
  | triple => exact known

include ascii in
theorem within_add : Text.Within allowed (document.add statement).2 := by
  cases statement with
  | namespaceName => exact Text.within_empty
  | triple triple =>
      rw [add, Text.within_append]
      refine ⟨?_, within_writeTriple ascii known within⟩
      split
      · exact Text.within_empty
      · exact within_writeHeader ascii known

end Document

end Turtle

/-! ### Writers -/

/-- What a draft remembers is made of allowed characters. -/
def Draft.Within (allowed : Char → Prop) : Draft → Prop
  | .ntriples => True
  | .turtle document => Turtle.Namespaces.Within allowed document.namespaces

theorem Draft.within_ofFormat (format : Format) :
    (Writer.ofFormat format).draft.Within allowed := by
  cases format with
  | ntriples => exact trivial
  | turtle => exact List.forall_mem_nil _

namespace Writer

theorem within_draft_add {writer : Writer} {statement : Statement}
    (known : writer.draft.Within allowed) (within : statement.Within allowed) :
    (writer.add statement).1.draft.Within allowed := by
  rcases writer with ⟨draft, count⟩
  cases draft with
  | ntriples => exact trivial
  | turtle document => exact Turtle.Document.within_namespaces_add known within

include ascii

theorem within_add {writer : Writer} {statement : Statement}
    (known : writer.draft.Within allowed) (within : statement.Within allowed) :
    Text.Within allowed (writer.add statement).2 := by
  rcases writer with ⟨draft, count⟩
  cases draft with
  | ntriples => exact NTriples.within_writeStatement ascii within
  | turtle document => exact Turtle.Document.within_add ascii known within

/-- Statements of allowed characters are written in allowed characters. -/
theorem within_addAll {writer : Writer} {statements : List Statement}
    (known : writer.draft.Within allowed)
    (each : ∀ statement ∈ statements, statement.Within allowed) :
    ∀ text ∈ (writer.addAll statements).2, Text.Within allowed text := by
  induction statements generalizing writer with
  | nil => exact List.forall_mem_nil _
  | cons statement rest induction =>
      have within := each statement List.mem_cons_self
      have later := induction (within_draft_add known within)
        fun other member => each other (List.mem_cons_of_mem _ member)
      exact List.forall_mem_cons.mpr ⟨within_add ascii known within, later⟩

end Writer

end CrateGraph.Rdf
