import CrateGraph.Proofs.Rdf.StatementLine

/-!
N-Triples text is read back.

Main statement: whatever calls are made on a writer of N-Triples, as long as IRIs are IRIs and
names of namespaces do not break their line, reading the text gives the emitted triples in the order
of the calls. Literals may be any texts.
-/

namespace CrateGraph.Rdf.NTriples

/-! ### The reader -/

/-- The triples that some lines state. Empty lines and comments state none. -/
def readLines? : List (List Char) → Option (List Triple)
  | [] => some []
  | line :: rest =>
      match skipSpaces line with
      | [] => readLines? rest
      | '#' :: _ => readLines? rest
      | _ =>
          match readTriple? readReference? line with
          | none => none
          | some triple => (readLines? rest).map (triple :: ·)

def read? (text : String) : Option (List Triple) :=
  readLines? (text.toList.splitOn '\n')

/-! ### The lines that are written -/

def lineStyle : LineStyle where
  writeIri iri := '<' :: (iri.toList ++ ['>'])
  escape := escapeCharacter

def statementLine : Statement → List Char
  | .namespaceName name iri =>
      '#' :: (" @prefix " ++ name ++ ": " ++ writeIri iri ++ " .").toList
  | .triple triple => lineStyle.line triple

theorem toList_escapeLiteral (text : String) :
    (escapeLiteral text).toList = text.toList.flatMap lineStyle.escape := by
  rw [escapeLiteral, String.toList_ofList]
  rfl

theorem toList_writeIri (iri : String) : (writeIri iri).toList = lineStyle.writeIri iri := by
  simp [writeIri, lineStyle]

theorem toList_writeTerm (term : Term) : (writeTerm term).toList = lineStyle.term term := by
  cases term with
  | iri value => exact toList_writeIri value
  | literal value =>
      simp [writeTerm, LineStyle.term, LineStyle.quoted, toList_escapeLiteral]
  | typed value datatype =>
      simp [writeTerm, LineStyle.term, LineStyle.quoted, toList_escapeLiteral, toList_writeIri]

theorem toList_writeStatement (statement : Statement) :
    (writeStatement statement).toList = endLine (statementLine statement) := by
  cases statement with
  | namespaceName name iri => simp [writeStatement, endLine, statementLine]
  | triple triple =>
      simp [writeStatement, writeTriple, endLine, statementLine, LineStyle.line, toList_writeIri,
        toList_writeTerm]

theorem addAll_ntriples (count : Nat) (statements : List Statement) :
    (Writer.addAll ⟨.ntriples, count⟩ statements).2 = statements.map writeStatement := by
  induction statements generalizing count with
  | nil => rfl
  | cons statement rest induction =>
      rw [List.map_cons, ← induction]
      rfl

theorem toList_write (statements : List Statement) :
    (Format.ntriples.write statements).toList = (statements.map statementLine).flatMap endLine := by
  rw [Format.write, Writer.ofFormat, addAll_ntriples, String.toList_join, List.flatMap_map,
    List.flatMap_map]
  simp only [toList_writeStatement]

/-! ### The lines are read back -/

theorem readsEscapes : ReadsEscapes lineStyle.escape := by
  intro character rest
  change readQuoted? (escapeCharacter character ++ rest) = _
  unfold escapeCharacter
  cases found : literalEscape? character with
  | some escaped => exact readQuoted?_escaped found rest
  | none =>
      by_cases control : character.toNat < 0x20
      · simp only [if_pos control, List.cons_append]
        exact readQuoted?_numbered .upper (by omega) rest
      · simp only [if_neg control]
        exact readQuoted?_plain found rest

theorem reads_writeIri {iri : String} (legal : IsIri iri) :
    IriReader.Reads readReference? (lineStyle.writeIri iri) iri where
  read rest := by
    simp only [lineStyle, List.cons_append, List.append_assoc, List.nil_append]
    exact readReference?_brackets legal (' ' :: rest)
  start := ⟨'<', iri.toList ++ ['>'], rfl, by decide, by decide⟩

theorem readTriple?_statementLine {triple : Triple} (legal : triple.HasIris) :
    readTriple? readReference? (lineStyle.line triple) = some triple :=
  LineStyle.readTriple?_line readsEscapes fun iri member => reads_writeIri (legal iri member)

/-- A statement that stays on its line: IRIs are IRIs, and names of namespaces hold no line feed. -/
def StaysOnLine : Statement → Prop
  | .namespaceName name iri => '\n' ∉ name.toList ∧ '\n' ∉ iri.toList
  | .triple triple => triple.HasIris

theorem lineFeed_not_mem_escapeCharacter (character : Char) :
    '\n' ∉ lineStyle.escape character := by
  change '\n' ∉ escapeCharacter character
  unfold escapeCharacter
  cases found : literalEscape? character with
  | some escaped => exact lineFeed_not_mem_escaped found
  | none =>
      by_cases control : character.toNat < 0x20
      · simp only [if_pos control, List.mem_cons, not_or]
        refine ⟨by decide, by decide, ?_⟩
        intro member
        have digit := Text.isSome_hexValue?_of_mem_hexDigits _ _ _ member
        revert digit
        decide
      · simp only [if_neg control, List.mem_singleton]
        exact (ne_lineFeed_of_plain found).symm

theorem lineFeed_not_mem_statementLine {statement : Statement} (stays : StaysOnLine statement) :
    '\n' ∉ statementLine statement := by
  cases statement with
  | namespaceName name iri => simp [statementLine, writeIri, stays.1, stays.2]
  | triple triple =>
      refine LineStyle.lineFeed_not_mem_line lineFeed_not_mem_escapeCharacter fun iri member => ?_
      have absent := (stays iri member).not_mem (by decide : isIriCharacter '\n' = false)
      simp [lineStyle, absent]

theorem readLines?_comment (text : List Char) (rest : List (List Char)) :
    readLines? (('#' :: text) :: rest) = readLines? rest := by
  rw [readLines?, skipSpaces_cons (by decide)]
  rfl

theorem readLines?_triple {line : List Char} {triple : Triple} (start : line.head? = some '<')
    (read : readTriple? readReference? line = some triple) (rest : List (List Char)) :
    readLines? (line :: rest) = (readLines? rest).map (triple :: ·) := by
  cases line with
  | nil => cases start
  | cons first further =>
      obtain rfl : first = '<' := Option.some.inj start
      rw [readLines?, skipSpaces_cons (by decide), read]
      rfl

theorem readLines?_statementLines {statements : List Statement}
    (stay : ∀ statement ∈ statements, StaysOnLine statement) :
    readLines? (statements.map statementLine ++ [[]]) =
      some (statements.filterMap Statement.triple?) := by
  induction statements with
  | nil => rfl
  | cons statement rest induction =>
      have stays := stay statement List.mem_cons_self
      have further := induction fun other member => stay other (List.mem_cons_of_mem _ member)
      rw [List.map_cons, List.cons_append]
      cases statement with
      | namespaceName name iri =>
          rw [statementLine, readLines?_comment, further]
          rfl
      | triple triple =>
          rw [statementLine, readLines?_triple rfl (readTriple?_statementLine stays), further]
          rfl

/-- Any statements that stay on their lines are read back from the text of all of them. -/
theorem read?_write {statements : List Statement}
    (stay : ∀ statement ∈ statements, StaysOnLine statement) :
    read? (Format.ntriples.write statements) = some (statements.filterMap Statement.triple?) := by
  have single : ∀ line ∈ statements.map statementLine, '\n' ∉ line := by
    intro line member
    rcases List.mem_map.mp member with ⟨statement, present, rfl⟩
    exact lineFeed_not_mem_statementLine (stay statement present)
  rw [read?, toList_write, splitOn_endLine single]
  exact readLines?_statementLines stay

/-! ### Calls -/

/-- The names and namespaces of a call, if it is one that names a namespace, are on one line. -/
def NamesOnOneLine : Call → Prop
  | .namespaceName name iri => '\n' ∉ name.toList ∧ '\n' ∉ iri.toList
  | _ => True

theorem staysOnLine_statement {call : Call} (legal : ∀ iri ∈ call.iris, IsIri iri)
    (oneLine : NamesOnOneLine call) : StaysOnLine call.statement := by
  cases emitted : call.statement with
  | triple triple => exact Call.hasIris_of_triple? legal emitted
  | namespaceName name iri =>
      cases call <;> cases emitted
      exact oneLine

/-- The text of any calls is read back as the triples that they emit, in order, and the writer has
counted these. -/
theorem calls_read_back (calls : List Call) (legal : ∀ call ∈ calls, ∀ iri ∈ call.iris, IsIri iri)
    (oneLine : ∀ call ∈ calls, NamesOnOneLine call) :
    read? (Format.ntriples.write (calls.map Call.statement)) =
        some (calls.filterMap Call.triple?) ∧
      ((Writer.ofFormat .ntriples).addAll (calls.map Call.statement)).1.count =
        (calls.filterMap Call.triple?).length := by
  refine ⟨?_, Writer.count_calls .ntriples calls⟩
  rw [read?_write, Call.filterMap_triple?_statement]
  intro statement member
  rcases List.mem_map.mp member with ⟨call, present, rfl⟩
  exact staysOnLine_statement (legal call present) (oneLine call present)

/-- Texts that look like escapes, hold the marks of a line or end it. -/
def awkwardCalls : List Call :=
  [.namespaceName "e" "http://e/",
    .literal "http://e/a" "http://e/p" "\\u0041\" .\n# \x01\\",
    .int "http://e/a" "http://e/q" (-3)]

theorem awkwardCalls_read_back :
    (∀ call ∈ awkwardCalls, ∀ iri ∈ call.iris, IsIri iri) ∧
      (∀ call ∈ awkwardCalls, NamesOnOneLine call) ∧
      read? (Format.ntriples.write (awkwardCalls.map Call.statement)) =
        some [⟨"http://e/a", "http://e/p", .literal "\\u0041\" .\n# \x01\\"⟩,
          ⟨"http://e/a", "http://e/q", .typed "-3" xsdInteger⟩] := by
  have legal : ∀ call ∈ awkwardCalls, ∀ iri ∈ call.iris, IsIri iri := by decide +kernel
  have oneLine : ∀ call ∈ awkwardCalls, NamesOnOneLine call := by
    simp [awkwardCalls, NamesOnOneLine]
  exact ⟨legal, oneLine, (calls_read_back awkwardCalls legal oneLine).1⟩

end CrateGraph.Rdf.NTriples
