import CrateGraph.Proofs.Rdf.Compaction
import CrateGraph.Proofs.Rdf.NTriplesReading
import CrateGraph.Proofs.Rdf.TurtleLines

/-!
Turtle text is read back, and says the same as N-Triples text.

Main statement: if all namespaces are named before the first triple is emitted, reading the Turtle
text of some calls gives the emitted triples in the order of the calls, and so does reading their
N-Triples text. A namespace may be given a new name, and a name a new namespace, before that.
-/

namespace CrateGraph.Rdf.Turtle

/-! ### The reader -/

/-- The names of namespaces that were declared so far, the latest first. -/
abbrev Declared := List (String × String)

/-- The characters of a name other than its first: ASCII letters and digits, hyphens, low lines. -/
def isNameCharacter (character : Char) : Bool :=
  character.isAlphanum || character == '-' || character == '_'

/-- A name and a colon, and what of an IRI follows the namespace with that name. -/
def readShortened? (declared : Declared) : IriReader := fun text =>
  match text.dropWhile isNameCharacter with
  | ':' :: rest =>
      (declared.lookup (String.ofList (text.takeWhile isNameCharacter))).map fun namespaceIri =>
        (namespaceIri ++ String.ofList (rest.takeWhile fun character => !isSpace character),
          rest.dropWhile fun character => !isSpace character)
  | _ => none

def readIri? (declared : Declared) : IriReader
  | '<' :: text => readReference? ('<' :: text)
  | text => readShortened? declared text

/-- What follows the keyword of a declaration: a name, a colon, and a namespace in full. -/
def readDeclaration? (text : List Char) : Option (String × String) :=
  match (skipSpaces text).dropWhile isNameCharacter with
  | ':' :: rest =>
      match readReference? (skipSpaces rest) with
      | some (namespaceIri, rest) =>
          if isFullStop rest then
            some (String.ofList ((skipSpaces text).takeWhile isNameCharacter), namespaceIri)
          else none
      | none => none
  | _ => none

/-- The triples that some lines state. A declaration holds from its line on. -/
def readLines? (declared : Declared) : List (List Char) → Option (List Triple)
  | [] => some []
  | line :: rest =>
      match skipSpaces line with
      | [] => readLines? declared rest
      | '#' :: _ => readLines? declared rest
      | '@' :: 'p' :: 'r' :: 'e' :: 'f' :: 'i' :: 'x' :: text =>
          match readDeclaration? text with
          | none => none
          | some declaration => readLines? (declaration :: declared) rest
      | _ =>
          match readTriple? (readIri? declared) line with
          | none => none
          | some triple => (readLines? declared rest).map (triple :: ·)

def read? (text : String) : Option (List Triple) :=
  readLines? [] (text.toList.splitOn '\n')

/-! ### Names -/

/-- An ASCII letter, and then characters of a name. -/
def IsName (name : String) : Prop :=
  ∃ first rest, name.toList = first :: rest ∧ first.isAlpha ∧
    ∀ character ∈ rest, isNameCharacter character = true

instance (name : String) : Decidable (IsName name) :=
  decidable_of_iff
    (name.toList.head?.any Char.isAlpha = true ∧ name.toList.tail.all isNameCharacter = true) (by
      unfold IsName
      cases name.toList <;> simp)

theorem IsName.isNameCharacter {name : String} (isName : IsName name) :
    ∀ character ∈ name.toList, isNameCharacter character = true := by
  rcases isName with ⟨first, rest, equal, letter, further⟩
  rw [equal]
  intro character member
  rcases List.mem_cons.mp member with rfl | later
  · simp [Turtle.isNameCharacter, Char.isAlphanum, letter]
  · exact further character later

theorem takeWhile_name {name : String} (isName : IsName name) (rest : List Char) :
    (name.toList ++ ':' :: rest).takeWhile isNameCharacter = name.toList := by
  rw [List.takeWhile_append_of_pos isName.isNameCharacter,
    List.takeWhile_cons_of_neg (by decide), List.append_nil]

theorem dropWhile_name {name : String} (isName : IsName name) (rest : List Char) :
    (name.toList ++ ':' :: rest).dropWhile isNameCharacter = ':' :: rest := by
  rw [List.dropWhile_append_of_pos isName.isNameCharacter, List.dropWhile_cons_of_neg (by decide)]

/-- A name starts neither a literal nor an IRI in full nor another kind of line. -/
theorem IsName.start {name : String} (isName : IsName name) :
    ∃ first rest, name.toList = first :: rest ∧ isSpace first = false ∧
      first ∉ ['"', '<', '#', '@'] := by
  rcases isName with ⟨first, rest, equal, letter, _⟩
  refine ⟨first, rest, equal, ?_, ?_⟩
  · rw [isSpace, Bool.or_eq_false_iff, beq_eq_false_iff_ne, beq_eq_false_iff_ne]
    constructor
    · intro equal
      subst equal
      revert letter
      decide
    · intro equal
      subst equal
      revert letter
      decide
  · intro member
    simp only [List.mem_cons, List.not_mem_nil, or_false] at member
    rcases member with rfl | rfl | rfl | rfl
    all_goals
      revert letter
      decide

/-! ### The lines are read back -/

theorem readsEscapes (namespaces : Namespaces) : ReadsEscapes (lineStyle namespaces).escape := by
  intro character rest
  change readQuoted? ((literalEscape? character).getD [character] ++ rest) = _
  cases found : literalEscape? character with
  | some escaped => exact readQuoted?_escaped found rest
  | none => exact readQuoted?_plain found rest

/-- A name with a colon leads back to the IRI that starts with its namespace. -/
theorem readShortened?_written {declared : Declared} {name namespaceIri : String}
    (isName : IsName name) (declares : declared.lookup name = some namespaceIri)
    {localName : List Char} (visible : ∀ character ∈ localName, isSpace character = false)
    (rest : List Char) :
    readShortened? declared (name.toList ++ ':' :: (localName ++ ' ' :: rest)) =
      some (namespaceIri ++ String.ofList localName, ' ' :: rest) := by
  have inside : ∀ character ∈ localName, (!isSpace character) = true := by
    intro character member
    rw [visible character member]
    rfl
  rw [readShortened?, takeWhile_name isName, dropWhile_name isName, String.ofList_toList]
  simp only [declares, Option.map_some]
  rw [List.takeWhile_append_of_pos inside, List.dropWhile_append_of_pos inside,
    List.takeWhile_cons_of_neg (by decide), List.dropWhile_cons_of_neg (by decide),
    List.append_nil]

/-- A shortened IRI starts with the name of its namespace, any other with an angle bracket. -/
theorem start_compactIri {namespaces : Namespaces}
    (areNames : ∀ entry ∈ namespaces, IsName entry.1) (iri : String) :
    ∃ first rest, (compactIri namespaces iri).toList = first :: rest ∧ isSpace first = false ∧
      first ∉ ['"', '#', '@'] := by
  rcases compactIri_cases namespaces iri with inFull | shortened
  · refine ⟨'<', iri.toList ++ ['>'], ?_, by decide, by decide⟩
    rw [inFull]
    simp
  · rcases shortened with ⟨name, namespaceIri, localName, member, _, _, written⟩
    rcases (areNames _ member).start with ⟨first, rest, equal, visible, different⟩
    refine ⟨first, rest ++ ':' :: localName, ?_, visible, ?_⟩
    · rw [written]
      simp [equal]
    · simp only [List.mem_cons, List.not_mem_nil, or_false, not_or] at different ⊢
      exact ⟨different.1, different.2.2⟩

/-- Whether shortened or not, an IRI is read back under the declarations of its namespaces. -/
theorem reads_compactIri {namespaces : Namespaces} {declared : Declared}
    (areNames : ∀ entry ∈ namespaces, IsName entry.1)
    (declares : ∀ name iri, (name, iri) ∈ namespaces → declared.lookup name = some iri)
    {iri : String} (legal : IsIri iri) :
    (readIri? declared).Reads ((lineStyle namespaces).writeIri iri) iri where
  read rest := by
    change readIri? declared ((compactIri namespaces iri).toList ++ ' ' :: rest) = _
    rcases compactIri_cases namespaces iri with inFull | shortened
    · rw [inFull]
      simp only [String.toList_append, String.reduceToList, List.cons_append, List.nil_append,
        List.append_assoc, readIri?]
      exact readReference?_brackets legal (' ' :: rest)
    · rcases shortened with ⟨name, namespaceIri, localName, member, split, _, written⟩
      have isName := areNames _ member
      have visible : ∀ character ∈ localName, isSpace character = false := by
        intro character present
        apply legal.visible
        rw [split]
        exact List.mem_append_right _ present
      have whole : namespaceIri ++ String.ofList localName = iri := by
        rw [← String.toList_inj, String.toList_append, String.toList_ofList, split]
      have read := readShortened?_written isName (declares _ _ member) visible rest
      rw [whole] at read
      rw [written, String.toList_append, String.toList_append, String.toList_ofList]
      rcases isName.start with ⟨first, further, equal, _, different⟩
      have notBracket : first ≠ '<' := by
        intro equal
        subst equal
        exact different (by decide)
      rw [equal] at read ⊢
      simp only [List.cons_append, List.append_assoc] at read ⊢
      simp [readIri?, notBracket, read]
  start := by
    rcases start_compactIri areNames iri with ⟨first, rest, equal, visible, different⟩
    refine ⟨first, rest, equal, visible, ?_⟩
    intro equal
    subst equal
    exact different (by decide)

theorem readDeclaration?_written {name iri : String} (isName : IsName name) (legal : IsIri iri) :
    readDeclaration?
        (' ' :: (name.toList ++ ':' :: ' ' :: '<' :: (iri.toList ++ ['>', ' ', '.']))) =
      some (name, iri) := by
  have start : ∀ rest, skipSpaces (' ' :: (name.toList ++ rest)) = name.toList ++ rest := by
    intro rest
    rcases isName.start with ⟨first, further, equal, visible, _⟩
    rw [skipSpaces_space, equal, List.cons_append, skipSpaces_cons visible]
  rw [readDeclaration?, start, takeWhile_name isName, dropWhile_name isName]
  simp only [skipSpaces_space]
  rw [skipSpaces_cons (by decide), readReference?_brackets legal]
  simp [isFullStop, skipSpaces, isSpace]

theorem readLines?_declaration (declared : Declared) {declaration : String × String}
    (isName : IsName declaration.1) (legal : IsIri declaration.2) (rest : List (List Char)) :
    readLines? declared (declarationLine declaration :: rest) =
      readLines? (declaration :: declared) rest := by
  have read := readDeclaration?_written isName legal
  simp only [declarationLine, String.reduceToList, List.cons_append, List.nil_append,
    List.append_assoc] at read ⊢
  rw [readLines?, skipSpaces_cons (by decide)]
  simp only [read]

theorem readLines?_declarations (declared : Declared) {declarations : List (String × String)}
    (areNames : ∀ entry ∈ declarations, IsName entry.1)
    (legal : ∀ entry ∈ declarations, IsIri entry.2) (rest : List (List Char)) :
    readLines? declared (declarations.map declarationLine ++ rest) =
      readLines? (declarations.reverse ++ declared) rest := by
  induction declarations generalizing declared with
  | nil => rfl
  | cons first later induction =>
      rw [List.map_cons, List.cons_append,
        readLines?_declaration declared (areNames first List.mem_cons_self)
          (legal first List.mem_cons_self),
        induction _ (fun entry member => areNames entry (List.mem_cons_of_mem _ member))
          (fun entry member => legal entry (List.mem_cons_of_mem _ member)),
        List.reverse_cons, List.append_assoc, List.singleton_append]

theorem readLines?_triple {declared : Declared} {line : List Char} {triple : Triple}
    (start : ∃ first rest, line = first :: rest ∧ isSpace first = false ∧ first ∉ ['"', '#', '@'])
    (read : readTriple? (readIri? declared) line = some triple) (rest : List (List Char)) :
    readLines? declared (line :: rest) = (readLines? declared rest).map (triple :: ·) := by
  rcases start with ⟨first, further, rfl, visible, different⟩
  simp only [List.mem_cons, List.not_mem_nil, or_false, not_or] at different
  rw [readLines?, skipSpaces_cons visible]
  simp [different, read]

/-! ### No line is broken -/

theorem lineFeed_not_mem_escapeCharacter (character : Char) : '\n' ∉ escapeCharacter character := by
  unfold escapeCharacter
  cases found : literalEscape? character with
  | some escaped => exact lineFeed_not_mem_escaped found
  | none =>
      rw [Option.getD_none, List.mem_singleton]
      exact (ne_lineFeed_of_plain found).symm

theorem IsName.lineFeed_not_mem {name : String} (isName : IsName name) : '\n' ∉ name.toList := by
  intro member
  have impossible := isName.isNameCharacter _ member
  revert impossible
  decide

theorem lineFeed_not_mem_compactIri {namespaces : Namespaces}
    (areNames : ∀ entry ∈ namespaces, IsName entry.1) {iri : String} (legal : IsIri iri) :
    '\n' ∉ (compactIri namespaces iri).toList := by
  exact not_mem_compactIri (by decide)
    (fun entry member => (areNames entry member).lineFeed_not_mem) (legal.not_mem (by decide))

theorem lineFeed_not_mem_documentLines {namespaces : Namespaces} {triples : List Triple}
    (areNames : ∀ entry ∈ namespaces, IsName entry.1)
    (areIris : ∀ entry ∈ namespaces, IsIri entry.2) (legal : ∀ triple ∈ triples, triple.HasIris) :
    ∀ line ∈ documentLines namespaces triples, '\n' ∉ line := by
  have header : ∀ line ∈ headerLines namespaces, '\n' ∉ line :=
    lineFeed_not_mem_headerLines_of_unbroken fun entry member =>
      ⟨(areNames entry member).lineFeed_not_mem, (areIris entry member).not_mem (by decide)⟩
  cases triples with
  | nil =>
      intro line member
      cases member
  | cons first rest =>
      intro line member
      rcases List.mem_append.mp member with inHeader | stated
      · exact header line inHeader
      · rcases List.mem_map.mp stated with ⟨triple, present, rfl⟩
        exact LineStyle.lineFeed_not_mem_line lineFeed_not_mem_escapeCharacter
          fun iri used => lineFeed_not_mem_compactIri areNames (legal triple present iri used)

/-! ### Whole texts -/

theorem readLines?_tripleLines {namespaces : Namespaces} {declared : Declared}
    (areNames : ∀ entry ∈ namespaces, IsName entry.1)
    (declares : ∀ name iri, (name, iri) ∈ namespaces → declared.lookup name = some iri)
    {triples : List Triple} (legal : ∀ triple ∈ triples, triple.HasIris) :
    readLines? declared (triples.map (lineStyle namespaces).line ++ [[]]) = some triples := by
  induction triples with
  | nil => rfl
  | cons triple rest induction =>
      have further := induction fun other member => legal other (List.mem_cons_of_mem _ member)
      have iris := legal triple List.mem_cons_self
      have read : readTriple? (readIri? declared) ((lineStyle namespaces).line triple) =
          some triple :=
        LineStyle.readTriple?_line (readsEscapes namespaces)
          fun iri member => reads_compactIri areNames declares (iris iri member)
      have start : ∃ first rest, (lineStyle namespaces).line triple = first :: rest ∧
          isSpace first = false ∧ first ∉ ['"', '#', '@'] := by
        rcases start_compactIri areNames triple.subject with ⟨first, more, equal, facts⟩
        refine ⟨first, ((lineStyle namespaces).line triple).tail, ?_, facts⟩
        simp only [LineStyle.line, lineStyle, equal, List.cons_append, List.tail_cons]
      rw [List.map_cons, List.cons_append, readLines?_triple start read, further]
      rfl

/-- The header declares the namespaces of the table for the lines after it. -/
theorem readLines?_headerLines {namespaces : Namespaces}
    (areNames : ∀ entry ∈ namespaces, IsName entry.1)
    (areIris : ∀ entry ∈ namespaces, IsIri entry.2) (rest : List (List Char)) :
    readLines? [] (headerLines namespaces ++ rest) =
      readLines? (sortedNamespaces namespaces).reverse rest := by
  have sorted : ∀ entry ∈ sortedNamespaces namespaces, entry ∈ namespaces := by
    intro entry member
    exact (List.mergeSort_perm _ _).mem_iff.mp member
  rw [headerLines, List.append_assoc,
    readLines?_declarations [] (fun entry member => areNames entry (sorted entry member))
      (fun entry member => areIris entry (sorted entry member)), List.append_nil]
  split
  · rfl
  · rw [List.singleton_append, readLines?]
    rfl

/-- Namespaces named first and triples after them are read back from their text. -/
theorem read?_write {names : List (String × String)} {triples : List Triple}
    (areNames : ∀ entry ∈ names, IsName entry.1) (areIris : ∀ entry ∈ names, IsIri entry.2)
    (legal : ∀ triple ∈ triples, triple.HasIris) :
    read? (Format.turtle.write (names.map nameStatement ++ triples.map Statement.triple)) =
      some triples := by
  have inTable : ∀ entry ∈ namedNamespaces [] names, entry ∈ names := by
    intro entry member
    rcases mem_of_mem_namedNamespaces member with named | impossible
    · exact named
    · cases impossible
  have tableNames : ∀ entry ∈ namedNamespaces [] names, IsName entry.1 :=
    fun entry member => areNames entry (inTable entry member)
  have tableIris : ∀ entry ∈ namedNamespaces [] names, IsIri entry.2 :=
    fun entry member => areIris entry (inTable entry member)
  have nodup : ((namedNamespaces [] names).map Prod.fst).Nodup :=
    nodup_keys_namedNamespaces names List.nodup_nil
  rw [read?, toList_write, splitOn_endLine
    (lineFeed_not_mem_documentLines tableNames tableIris legal)]
  cases triples with
  | nil => rfl
  | cons triple rest =>
      rw [documentLines, List.append_assoc, readLines?_headerLines tableNames tableIris]
      · exact readLines?_tripleLines tableNames
          (fun name iri member => lookup_sortedNamespaces nodup member) legal
      · simp

/-! ### Calls -/

/-- A call that names a namespace does so by a name, and the namespace is an IRI. -/
def NamesProperly : Call → Prop
  | .namespaceName name iri => IsName name ∧ IsIri iri
  | _ => True

theorem namesProperly_statement {call : Call} (proper : NamesProperly call)
    {entry : String × String} (named : call.statement = nameStatement entry) :
    IsName entry.1 ∧ IsIri entry.2 := by
  cases call <;> cases named
  exact proper

theorem namesOnOneLine_of_namesProperly {call : Call} (proper : NamesProperly call) :
    NTriples.NamesOnOneLine call := by
  cases call with
  | namespaceName name iri =>
      exact ⟨proper.1.lineFeed_not_mem, proper.2.not_mem (by decide)⟩
  | _ => trivial

/-- After the first triple nothing but triples is handed over. -/
def NamesFirst (statements : List Statement) : Prop :=
  statements.Pairwise fun earlier later => earlier.triple?.isSome → later.triple?.isSome

theorem NamesFirst.exists_parts {statements : List Statement}
    (namesFirst : NamesFirst statements) :
    ∃ (names : List (String × String)) (triples : List Triple),
      statements = names.map nameStatement ++ triples.map Statement.triple := by
  induction statements with
  | nil => exact ⟨[], [], rfl⟩
  | cons first rest induction =>
      rcases List.pairwise_cons.mp namesFirst with ⟨after, restFirst⟩
      rcases induction restFirst with ⟨names, triples, rfl⟩
      cases first with
      | namespaceName name iri => exact ⟨(name, iri) :: names, triples, rfl⟩
      | triple triple =>
          -- A name among the rest would come after this triple.
          cases names with
          | nil => exact ⟨[], triple :: triples, rfl⟩
          | cons entry others =>
              have impossible := after (nameStatement entry) (by simp) rfl
              cases impossible

theorem filterMap_triple?_parts (names : List (String × String)) (triples : List Triple) :
    (names.map nameStatement ++ triples.map Statement.triple).filterMap Statement.triple? =
      triples := by
  have none : (names.map nameStatement).filterMap Statement.triple? = [] := by
    rw [List.filterMap_map]
    exact List.filterMap_eq_nil_iff.mpr fun entry _ => rfl
  have all : (triples.map Statement.triple).filterMap Statement.triple? = triples := by
    rw [List.filterMap_map]
    exact List.filterMap_some
  rw [List.filterMap_append, none, all, List.nil_append]

/-- Both texts of calls that name namespaces first are read back as the triples that the calls emit,
in order, and both writers have counted these. -/
theorem turtle_and_ntriples_read_back (calls : List Call)
    (namesFirst : NamesFirst (calls.map Call.statement))
    (legal : ∀ call ∈ calls, ∀ iri ∈ call.iris, IsIri iri)
    (proper : ∀ call ∈ calls, NamesProperly call) :
    read? (Format.turtle.write (calls.map Call.statement)) =
        some (calls.filterMap Call.triple?) ∧
      NTriples.read? (Format.ntriples.write (calls.map Call.statement)) =
        some (calls.filterMap Call.triple?) ∧
      ((Writer.ofFormat .turtle).addAll (calls.map Call.statement)).1.count =
        (calls.filterMap Call.triple?).length ∧
      ((Writer.ofFormat .ntriples).addAll (calls.map Call.statement)).1.count =
        (calls.filterMap Call.triple?).length := by
  refine ⟨?_, ?_, Writer.count_calls .turtle calls, Writer.count_calls .ntriples calls⟩
  · rw [← Call.filterMap_triple?_statement]
    rcases namesFirst.exists_parts with ⟨names, triples, parts⟩
    have named : ∀ entry ∈ names, IsName entry.1 ∧ IsIri entry.2 := by
      intro entry member
      have stated : nameStatement entry ∈ calls.map Call.statement := by
        rw [parts]
        exact List.mem_append_left _ (List.mem_map_of_mem member)
      rcases List.mem_map.mp stated with ⟨call, present, equal⟩
      exact namesProperly_statement (proper call present) equal
    have emitted : ∀ triple ∈ triples, triple.HasIris := by
      intro triple member
      have stated : Statement.triple triple ∈ calls.map Call.statement := by
        rw [parts]
        exact List.mem_append_right _ (List.mem_map_of_mem member)
      rcases List.mem_map.mp stated with ⟨call, present, equal⟩
      exact Call.hasIris_of_triple? (legal call present) equal
    rw [parts, filterMap_triple?_parts]
    exact read?_write (fun entry member => (named entry member).1)
      (fun entry member => (named entry member).2) emitted
  · rw [NTriples.read?_write, Call.filterMap_triple?_statement]
    intro statement member
    rcases List.mem_map.mp member with ⟨call, present, rfl⟩
    exact NTriples.staysOnLine_statement (legal call present)
      (namesOnOneLine_of_namesProperly (proper call present))

/-- A name that is given anew, a namespace inside of another, and a control character. -/
def nestedNamespaceCalls : List Call :=
  [.namespaceName "e" "http://d/",
    .namespaceName "b-2" "http://e/x/",
    .namespaceName "e" "http://e/",
    .bool "http://e/x/y" "http://e/p" true,
    .literal "http://e/x" "http://e/x/p/q" "\x08\"^^<\\u0041> .\n@"]

theorem nestedNamespaceCalls_read_back :
    NamesFirst (nestedNamespaceCalls.map Call.statement) ∧
      (∀ call ∈ nestedNamespaceCalls, ∀ iri ∈ call.iris, IsIri iri) ∧
      (∀ call ∈ nestedNamespaceCalls, NamesProperly call) ∧
      read? (Format.turtle.write (nestedNamespaceCalls.map Call.statement)) =
        some [⟨"http://e/x/y", "http://e/p", .typed "true" xsdBoolean⟩,
          ⟨"http://e/x", "http://e/x/p/q", .literal "\x08\"^^<\\u0041> .\n@"⟩] := by
  have namesFirst : NamesFirst (nestedNamespaceCalls.map Call.statement) := by
    unfold NamesFirst
    decide
  have legal : ∀ call ∈ nestedNamespaceCalls, ∀ iri ∈ call.iris, IsIri iri := by decide +kernel
  have proper : ∀ call ∈ nestedNamespaceCalls, NamesProperly call := by
    have first : IsName "e" := ⟨'e', [], rfl, by decide, List.all_eq_true.mp rfl⟩
    have second : IsName "b-2" := ⟨'b', ['-', '2'], rfl, by decide, List.all_eq_true.mp rfl⟩
    have iris : IsIri "http://d/" ∧ IsIri "http://e/x/" ∧ IsIri "http://e/" := by decide +kernel
    simp [nestedNamespaceCalls, NamesProperly, first, second, iris]
  exact ⟨namesFirst, legal, proper,
    (turtle_and_ntriples_read_back nestedNamespaceCalls namesFirst legal proper).1⟩

end CrateGraph.Rdf.Turtle
