import CrateGraph.Proofs.Rdf.StatementLine
import Mathlib.Data.List.Nodup

/-!
The lines of a Turtle text, for namespaces that are named before the first triple is handed over.

The table of namespaces is then complete when the header is written. The lines are the
declarations, a blank line if there are any, and one line for each triple in the style of the table.
-/

namespace CrateGraph.Rdf.Turtle

/-! ### The lines that are written -/

def lineStyle (namespaces : Namespaces) : LineStyle where
  writeIri iri := (compactIri namespaces iri).toList
  escape := escapeCharacter

def declarationLine (declaration : String × String) : List Char :=
  '@' :: "prefix ".toList ++ declaration.1.toList ++ [':', ' ', '<'] ++ declaration.2.toList ++
    ['>', ' ', '.']

def sortedNamespaces (namespaces : Namespaces) : Namespaces :=
  namespaces.mergeSort fun left right => decide (left.1 ≤ right.1)

def headerLines (namespaces : Namespaces) : List (List Char) :=
  (sortedNamespaces namespaces).map declarationLine ++ (if namespaces.isEmpty then [] else [[]])

def writeDeclaration (declaration : String × String) : String :=
  "@prefix " ++ declaration.1 ++ ": <" ++ declaration.2 ++ "> .\n"

theorem writeHeader_eq (namespaces : Namespaces) :
    writeHeader namespaces =
      String.join ((sortedNamespaces namespaces).map writeDeclaration) ++
        (if namespaces.isEmpty then "" else "\n") :=
  rfl

theorem toList_writeDeclaration (declaration : String × String) :
    (writeDeclaration declaration).toList = endLine (declarationLine declaration) := by
  simp [writeDeclaration, declarationLine, endLine]

theorem toList_writeHeader (namespaces : Namespaces) :
    (writeHeader namespaces).toList = (headerLines namespaces).flatMap endLine := by
  rw [writeHeader_eq, headerLines, String.toList_append, String.toList_join, List.flatMap_append,
    List.flatMap_map, List.flatMap_map]
  simp only [toList_writeDeclaration]
  cases namespaces with
  | nil => rfl
  | cons entry rest => simp [endLine]

/-- Names and namespaces that do not break a line do not break that of their declaration. -/
theorem lineFeed_not_mem_headerLines_of_unbroken {namespaces : Namespaces}
    (unbroken : ∀ entry ∈ namespaces, '\n' ∉ entry.1.toList ∧ '\n' ∉ entry.2.toList) :
    ∀ line ∈ headerLines namespaces, '\n' ∉ line := by
  intro line member
  rcases List.mem_append.mp member with declaration | blank
  · rcases List.mem_map.mp declaration with ⟨entry, present, rfl⟩
    have single := unbroken entry ((List.mergeSort_perm _ _).mem_iff.mp present)
    simp [declarationLine, single]
  · split at blank
    · cases blank
    · rw [List.mem_singleton.mp blank]
      exact List.not_mem_nil

theorem toList_writeTerm (namespaces : Namespaces) (term : Term) :
    (writeTerm namespaces term).toList = (lineStyle namespaces).term term := by
  cases term with
  | iri value => rfl
  | literal value =>
      simp [writeTerm, LineStyle.term, LineStyle.quoted, escapeLiteral, lineStyle]
  | typed value datatype =>
      simp [writeTerm, LineStyle.term, LineStyle.quoted, escapeLiteral, lineStyle]

theorem toList_writeTriple (namespaces : Namespaces) (triple : Triple) :
    (writeTriple namespaces triple).toList = endLine ((lineStyle namespaces).line triple) := by
  simp [writeTriple, endLine, LineStyle.line, toList_writeTerm, lineStyle]

/-- The table that results from naming namespaces one after the other. -/
def namedNamespaces (namespaces : Namespaces) (names : List (String × String)) : Namespaces :=
  names.foldl (fun table (name, iri) => Entries.insert name iri table) namespaces

def nameStatement (entry : String × String) : Statement :=
  .namespaceName entry.1 entry.2

/-- Naming a namespace ahead of the first triple writes nothing. -/
theorem addAll_names (namespaces : Namespaces) (count : Nat) (names : List (String × String))
    (later : List Statement) :
    (Writer.addAll ⟨.turtle ⟨namespaces, false⟩, count⟩ (names.map nameStatement ++ later)).2 =
      names.map (fun _ => "") ++
        (Writer.addAll ⟨.turtle ⟨namedNamespaces namespaces names, false⟩, count⟩ later).2 := by
  induction names generalizing namespaces with
  | nil => rfl
  | cons entry rest induction =>
      exact congrArg ("" :: ·) (induction (Entries.insert entry.1 entry.2 namespaces))

/-- After the header each triple is one line. -/
theorem addAll_triples (namespaces : Namespaces) (count : Nat) (triples : List Triple) :
    (Writer.addAll ⟨.turtle ⟨namespaces, true⟩, count⟩ (triples.map Statement.triple)).2 =
      triples.map (writeTriple namespaces) := by
  induction triples generalizing count with
  | nil => rfl
  | cons triple rest induction =>
      have first : (Writer.add ⟨.turtle ⟨namespaces, true⟩, count⟩ (.triple triple)).2 =
          writeTriple namespaces triple := by
        simp [Writer.add, Document.add]
      exact congrArg₂ List.cons first (induction (count + 1))

/-- The first triple brings the header with it. -/
theorem addAll_first_triple (namespaces : Namespaces) (count : Nat) (triple : Triple)
    (rest : List Triple) :
    (Writer.addAll ⟨.turtle ⟨namespaces, false⟩, count⟩
        ((triple :: rest).map Statement.triple)).2 =
      (writeHeader namespaces ++ writeTriple namespaces triple) ::
        rest.map (writeTriple namespaces) :=
  congrArg _ (addAll_triples namespaces (count + 1) rest)

/-- The lines of a text in which namespaces are named first and triples follow. -/
def documentLines (namespaces : Namespaces) : List Triple → List (List Char)
  | [] => []
  | triples => headerLines namespaces ++ triples.map (lineStyle namespaces).line

theorem toList_write (names : List (String × String)) (triples : List Triple) :
    (Format.turtle.write (names.map nameStatement ++ triples.map Statement.triple)).toList =
      (documentLines (namedNamespaces [] names) triples).flatMap endLine := by
  have silent : (names.map fun _ => "").flatMap String.toList = [] := by
    simp
  have lines : ∀ namespaces : Namespaces, ∀ triples : List Triple,
      (triples.map (writeTriple namespaces)).flatMap String.toList =
        (triples.map (lineStyle namespaces).line).flatMap endLine := by
    intro namespaces triples
    simp only [List.flatMap_map, toList_writeTriple]
  rw [Format.write, Writer.ofFormat, Document.empty, addAll_names, String.toList_join,
    List.flatMap_append, silent, List.nil_append]
  cases triples with
  | nil => rfl
  | cons triple rest =>
      rw [addAll_first_triple, List.flatMap_cons, String.toList_append, toList_writeHeader,
        toList_writeTriple, lines, documentLines, List.flatMap_append, List.map_cons,
        List.flatMap_cons, List.append_assoc]
      simp

/-! ### The table of namespaces -/

theorem mem_of_mem_namedNamespaces {namespaces : Namespaces} {names : List (String × String)}
    {entry : String × String} (member : entry ∈ namedNamespaces namespaces names) :
    entry ∈ names ∨ entry ∈ namespaces := by
  induction names generalizing namespaces with
  | nil => exact Or.inr member
  | cons first rest induction =>
      rcases induction member with later | inserted
      · exact Or.inl (List.mem_cons_of_mem _ later)
      · rcases Entries.eq_or_mem_of_mem_insert inserted with equal | earlier
        · exact Or.inl (equal ▸ List.mem_cons_self)
        · exact Or.inr earlier

theorem namedNamespaces_of_nodup {names : List (String × String)}
    (distinct : (names.map Prod.fst).Nodup) : namedNamespaces [] names = names :=
  Entries.foldl_insert_of_nodup distinct

theorem nodup_keys_insert {name iri : String} {namespaces : Namespaces}
    (nodup : (namespaces.map Prod.fst).Nodup) :
    ((Entries.insert name iri namespaces).map Prod.fst).Nodup :=
  (Table.insert ⟨namespaces, nodup⟩ name iri).nodup

theorem nodup_keys_namedNamespaces {namespaces : Namespaces} (names : List (String × String))
    (nodup : (namespaces.map Prod.fst).Nodup) :
    ((namedNamespaces namespaces names).map Prod.fst).Nodup := by
  induction names generalizing namespaces with
  | nil => exact nodup
  | cons first rest induction => exact induction (nodup_keys_insert nodup)

theorem lookup_of_mem {declared : List (String × String)} (nodup : (declared.map Prod.fst).Nodup)
    {name iri : String} (member : (name, iri) ∈ declared) : declared.lookup name = some iri := by
  induction declared with
  | nil => cases member
  | cons first rest induction =>
      obtain ⟨present, value⟩ := first
      rw [List.map_cons, List.nodup_cons] at nodup
      rcases List.mem_cons.mp member with equal | later
      · cases equal
        exact List.lookup_cons_self
      · have different : name ≠ present := by
          intro equal
          subst equal
          exact nodup.1 (List.mem_map.mpr ⟨(name, iri), later, rfl⟩)
        rw [List.lookup_cons, beq_eq_false_iff_ne.mpr different]
        exact induction nodup.2 later

/-- The order of the declarations does not matter for what a name stands for. -/
theorem lookup_sortedNamespaces {namespaces : Namespaces}
    (nodup : (namespaces.map Prod.fst).Nodup) {name iri : String}
    (member : (name, iri) ∈ namespaces) :
    (sortedNamespaces namespaces).reverse.lookup name = some iri := by
  have same : (sortedNamespaces namespaces).reverse.Perm namespaces :=
    (List.reverse_perm _).trans (List.mergeSort_perm _ _)
  exact lookup_of_mem ((same.map Prod.fst).nodup_iff.mpr nodup) (same.mem_iff.mpr member)

end CrateGraph.Rdf.Turtle
