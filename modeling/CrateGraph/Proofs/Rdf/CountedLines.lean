import CrateGraph.Proofs.Rdf.NTriplesReading
import CrateGraph.Proofs.Rdf.TurtleReading

/-!
How many lines of a text state a triple.

Both formats give each triple a line of its own, between lines that are empty, comments or
declarations. Main statement: the lines that state a triple are as many as the writer has counted,
in whatever order names and triples are handed over. An IRI need not be legal for that, as long as
it does not break its line.
-/

namespace CrateGraph.Rdf

/-- A line that is neither empty nor a comment nor a declaration. -/
def isStatementLine : List Char → Bool
  | [] => false
  | first :: _ => first != '#' && first != '@'

def statementLines (text : String) : List (List Char) :=
  (text.toList.splitOn '\n').filter isStatementLine

/-! ### Texts of whole lines -/

/-- The text consists of ended lines, and the given number of them state a triple. -/
def Lined (text : String) (count : Nat) : Prop :=
  ∃ lines : List (List Char), text.toList = lines.flatMap endLine ∧
    (∀ line ∈ lines, '\n' ∉ line) ∧ lines.countP isStatementLine = count

namespace Lined

variable {left right : String} {first second : Nat}

theorem empty : Lined "" 0 :=
  ⟨[], rfl, List.forall_mem_nil _, rfl⟩

theorem append (ofLeft : Lined left first) (ofRight : Lined right second) :
    Lined (left ++ right) (first + second) := by
  rcases ofLeft with ⟨lines, written, single, rfl⟩
  rcases ofRight with ⟨others, otherWritten, otherSingle, rfl⟩
  refine ⟨lines ++ others, ?_, ?_, List.countP_append⟩
  · rw [String.toList_append, written, otherWritten, List.flatMap_append]
  · exact List.forall_mem_append.mpr ⟨single, otherSingle⟩

theorem line {text : String} {line : List Char} (written : text.toList = endLine line)
    (single : '\n' ∉ line) : Lined text (if isStatementLine line then 1 else 0) := by
  refine ⟨[line], ?_, List.forall_mem_singleton.mpr single, List.countP_singleton⟩
  rw [written, List.flatMap_singleton]

/-- The last line feed leaves an empty rest, which states nothing. -/
theorem length_statementLines {text : String} {count : Nat} (lined : Lined text count) :
    (statementLines text).length = count := by
  rcases lined with ⟨lines, written, single, rfl⟩
  rw [statementLines, written, splitOn_endLine single, ← List.countP_eq_length_filter,
    List.countP_append]
  exact Nat.add_zero _

end Lined

/-- A statement that does not break its line. -/
def Unbroken : Statement → Prop
  | .namespaceName name iri => Turtle.IsName name ∧ '\n' ∉ iri.toList
  | .triple triple => ∀ iri ∈ triple.iris, '\n' ∉ iri.toList

def Statement.weight (statement : Statement) : Nat :=
  if statement.triple?.isSome then 1 else 0

/-! ### N-Triples -/

namespace NTriples

theorem lineFeed_not_mem_of_unbroken {statement : Statement} (unbroken : Unbroken statement) :
    '\n' ∉ statementLine statement := by
  cases statement with
  | namespaceName name iri =>
      simp [statementLine, writeIri, unbroken.1.lineFeed_not_mem, unbroken.2]
  | triple triple =>
      refine LineStyle.lineFeed_not_mem_line lineFeed_not_mem_escapeCharacter fun iri member => ?_
      simp [lineStyle, unbroken iri member]

/-- Comments start with a number sign, triples with an angle bracket. -/
theorem lined_writeStatement {statement : Statement} (unbroken : Unbroken statement) :
    Lined (writeStatement statement) statement.weight := by
  have stated : isStatementLine (statementLine statement) = statement.triple?.isSome := by
    cases statement <;> rfl
  have lined := Lined.line (toList_writeStatement statement) (lineFeed_not_mem_of_unbroken unbroken)
  rwa [stated] at lined

end NTriples

/-! ### Turtle -/

namespace Turtle

/-- The entries of a table that do not break the lines they stand in. -/
def UnbrokenTable (namespaces : Namespaces) : Prop :=
  ∀ entry ∈ namespaces, IsName entry.1 ∧ '\n' ∉ entry.2.toList

namespace UnbrokenTable

variable {namespaces : Namespaces} (unbroken : UnbrokenTable namespaces)
include unbroken

theorem insert {name iri : String} (ofEntry : Unbroken (.namespaceName name iri)) :
    UnbrokenTable (Entries.insert name iri namespaces) := by
  intro entry member
  rcases Entries.eq_or_mem_of_mem_insert member with rfl | present
  · exact ofEntry
  · exact unbroken entry present

theorem lineFeed_not_mem_compactIri {iri : String} (absent : '\n' ∉ iri.toList) :
    '\n' ∉ (compactIri namespaces iri).toList :=
  not_mem_compactIri (by decide) (fun entry member => (unbroken entry member).1.lineFeed_not_mem)
    absent

theorem isStatementLine_line (triple : Triple) :
    isStatementLine ((lineStyle namespaces).line triple) = true := by
  rcases start_compactIri (fun entry member => (unbroken entry member).1) triple.subject with
    ⟨first, rest, start, _, different⟩
  simp only [List.mem_cons, List.not_mem_nil, or_false, not_or] at different
  simp [LineStyle.line, lineStyle, start, isStatementLine, different]

theorem lined_writeTriple {triple : Triple} (ofTriple : Unbroken (.triple triple)) :
    Lined (writeTriple namespaces triple) 1 := by
  have single : '\n' ∉ (lineStyle namespaces).line triple :=
    LineStyle.lineFeed_not_mem_line lineFeed_not_mem_escapeCharacter fun iri member =>
      unbroken.lineFeed_not_mem_compactIri (ofTriple iri member)
  have lined := Lined.line (toList_writeTriple namespaces triple) single
  rwa [unbroken.isStatementLine_line, if_pos rfl] at lined

/-- Declarations and the empty line after them state nothing. -/
theorem lined_writeHeader : Lined (writeHeader namespaces) 0 := by
  refine ⟨headerLines namespaces, toList_writeHeader namespaces, ?_, ?_⟩
  · exact lineFeed_not_mem_headerLines_of_unbroken fun entry member =>
      ⟨(unbroken entry member).1.lineFeed_not_mem, (unbroken entry member).2⟩
  · rw [List.countP_eq_zero]
    intro line member
    rcases List.mem_append.mp member with declaration | blank
    · rcases List.mem_map.mp declaration with ⟨entry, _, rfl⟩
      exact Bool.false_ne_true
    · split at blank
      · cases blank
      · rw [List.mem_singleton.mp blank]
        exact Bool.false_ne_true

end UnbrokenTable

theorem Document.lined_add {document : Document} (unbroken : UnbrokenTable document.namespaces)
    {statement : Statement} (ofStatement : Unbroken statement) :
    UnbrokenTable (document.add statement).1.namespaces ∧
      Lined (document.add statement).2 statement.weight := by
  cases statement with
  | namespaceName name iri => exact ⟨unbroken.insert ofStatement, .empty⟩
  | triple triple =>
      have lined := unbroken.lined_writeTriple ofStatement
      refine ⟨unbroken, ?_⟩
      rw [add]
      dsimp only
      split
      · rwa [String.empty_append]
      · exact unbroken.lined_writeHeader.append lined

end Turtle

/-! ### Both formats -/

/-- A draft whose namespaces, if it has any, do not break their lines. -/
def Draft.UnbrokenNames : Draft → Prop
  | .ntriples => True
  | .turtle document => Turtle.UnbrokenTable document.namespaces

theorem Draft.unbrokenNames_ofFormat (format : Format) :
    (Writer.ofFormat format).draft.UnbrokenNames := by
  cases format with
  | ntriples => trivial
  | turtle => exact List.forall_mem_nil _

namespace Writer

theorem lined_add {writer : Writer} (unbroken : writer.draft.UnbrokenNames) {statement : Statement}
    (ofStatement : Unbroken statement) :
    (writer.add statement).1.draft.UnbrokenNames ∧
      Lined (writer.add statement).2 statement.weight := by
  rcases writer with ⟨draft, count⟩
  cases draft with
  | ntriples => exact ⟨trivial, NTriples.lined_writeStatement ofStatement⟩
  | turtle document => exact Turtle.Document.lined_add unbroken ofStatement

theorem lined_addAll {writer : Writer} (unbroken : writer.draft.UnbrokenNames)
    {statements : List Statement} (each : ∀ statement ∈ statements, Unbroken statement) :
    Lined (String.join (writer.addAll statements).2)
      (statements.filterMap Statement.triple?).length := by
  induction statements generalizing writer with
  | nil => exact .empty
  | cons statement rest induction =>
      rcases List.forall_mem_cons.mp each with ⟨ofStatement, others⟩
      have first := writer.lined_add unbroken ofStatement
      have further := induction first.1 others
      have texts : (writer.addAll (statement :: rest)).2 =
          (writer.add statement).2 :: ((writer.add statement).1.addAll rest).2 := rfl
      have count : ((statement :: rest).filterMap Statement.triple?).length =
          statement.weight + (rest.filterMap Statement.triple?).length := by
        rw [Statement.weight]
        cases emitted : statement.triple? with
        | none => simp [emitted]
        | some triple => simp [emitted, Nat.add_comm]
      rw [texts, count, String.join_cons]
      exact first.2.append further

/-- A fresh writer has counted the lines of its text that state a triple. -/
theorem length_statementLines_write (format : Format) {statements : List Statement}
    (each : ∀ statement ∈ statements, Unbroken statement) :
    (statementLines (format.write statements)).length =
      ((ofFormat format).addAll statements).1.count := by
  have fresh : (ofFormat format).count = 0 := by
    cases format <;> rfl
  rw [count_addAll, fresh, Nat.zero_add]
  exact (lined_addAll (Draft.unbrokenNames_ofFormat format) each).length_statementLines

end Writer

end CrateGraph.Rdf
