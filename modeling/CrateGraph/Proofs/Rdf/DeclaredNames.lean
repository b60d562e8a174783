import CrateGraph.Proofs.Rdf.TurtleReading
import CrateGraph.Proofs.Text.Characters

/-!
Which names of a Turtle text are declared in front of the IRIs that they shorten.

The declarations are written once, with the first triple, while names may be given and given anew
all along and shorten IRIs from then on.

Main statement: a shortened IRI has the declaration that it needs in front of it exactly if the name
stood for the namespace already when the first triple was handed over. So all of them have it if all
names are given first, and a name that is given later is never declared.
-/

namespace CrateGraph.Rdf.Turtle

/-! ### Names that can be written in front of a colon -/

/-- Letters of any script may stand in a name, but no blanks and none of the marks that tell a name
from what follows it, from an IRI in full and from a declaration. -/
def isLabelCharacter (character : Char) : Bool :=
  decide (0x20 < character.toNat) && !":<@".toList.contains character

/-- A name may be empty. -/
def IsLabel (name : String) : Prop :=
  ∀ character ∈ name.toList, isLabelCharacter character = true

instance (name : String) : Decidable (IsLabel name) :=
  decidable_of_iff (name.toList.all isLabelCharacter = true) List.all_eq_true

theorem IsLabel.not_mem {name : String} (isLabel : IsLabel name) {character : Char}
    (excluded : isLabelCharacter character = false) : character ∉ name.toList := by
  intro member
  rw [isLabel character member] at excluded
  cases excluded

/-- The first colon ends the name. -/
theorem IsLabel.split_unique {left right : String} (isLabelLeft : IsLabel left)
    (isLabelRight : IsLabel right) {leftRest rightRest : List Char}
    (same : left.toList ++ ':' :: leftRest = right.toList ++ ':' :: rightRest) :
    left = right ∧ leftRest = rightRest := by
  have stops : ∀ rest : List Char, ∀ next ∈ (':' :: rest).head?, isLabelCharacter next = false := by
    rintro rest next ⟨⟩
    decide
  rcases Text.append_inj_of_stops isLabelLeft isLabelRight (stops leftRest) (stops rightRest) same
    with ⟨names, rests⟩
  exact ⟨String.toList_inj.mp names, (List.cons.inj rests).2⟩

/-- A name and what follows it are not taken for an IRI in full. -/
theorem IsLabel.brackets_ne {name : String} (isLabel : IsLabel name) (iri localName : String) :
    "<" ++ iri ++ ">" ≠ name ++ ":" ++ localName := by
  intro same
  have noBracket : '<' ∉ name.toList := isLabel.not_mem (by decide)
  rw [← String.toList_inj, String.toList_append, String.toList_append, String.toList_append,
    String.toList_append] at same
  cases start : name.toList with
  | nil => simp [start] at same
  | cons first further =>
      rw [start, List.mem_cons, not_or] at noBracket
      rw [start] at same
      exact noBracket.1 (List.cons.inj same).1

/-- The entries of a table that can be declared. -/
def Declarable (namespaces : Namespaces) : Prop :=
  ∀ entry ∈ namespaces, IsLabel entry.1 ∧ IsIri entry.2

theorem Declarable.insert {namespaces : Namespaces} (declarable : Declarable namespaces)
    {name iri : String} (isLabel : IsLabel name) (isIri : IsIri iri) :
    Declarable (Entries.insert name iri namespaces) := by
  intro entry member
  rcases Entries.eq_or_mem_of_mem_insert member with rfl | present
  · exact ⟨isLabel, isIri⟩
  · exact declarable entry present

/-! ### IRIs and the places where they are written -/

/-- An IRI that is written under a table of namespaces, with all the text in front of it. -/
structure Use where
  before : String
  namespaces : Namespaces
  iri : String

namespace Use

def written (use : Use) : String :=
  compactIri use.namespaces use.iri

/-- The name and the namespace that shorten the IRI. -/
def shortening? (use : Use) : Option (String × String) :=
  (longestMatch? use.iri use.namespaces).filter fun entry =>
    isLocalName (use.iri.toList.drop entry.2.length)

/-- If the IRI is written as a name and a local name, a line in front of it declares the name for a
namespace that leads, with the local name after it, to the IRI. -/
def IsDeclared (use : Use) : Prop :=
  ∀ name localName, IsLabel name → use.written = name ++ ":" ++ localName →
    ∃ namespaceIri, declarationLine (name, namespaceIri) ∈ use.before.toList.splitOn '\n' ∧
      namespaceIri ++ localName = use.iri

end Use

def termUses (namespaces : Namespaces) (before : String) : Term → List Use
  | .iri value => [⟨before, namespaces, value⟩]
  | .literal _ => []
  | .typed value datatype =>
      [⟨before ++ ("\"" ++ escapeLiteral value ++ "\"^^"), namespaces, datatype⟩]

/-- The IRIs of a triple, which is written after some text. -/
def tripleUses (namespaces : Namespaces) (before : String) (triple : Triple) : List Use :=
  let subject := compactIri namespaces triple.subject ++ " "
  let predicate := compactIri namespaces triple.predicate ++ " "
  ⟨before, namespaces, triple.subject⟩ ::
    ⟨before ++ subject, namespaces, triple.predicate⟩ ::
      termUses namespaces (before ++ (subject ++ predicate)) triple.object

namespace Document

/-- The declarations that a triple brings with it. -/
def due (document : Document) : String :=
  if document.headerWritten then "" else writeHeader document.namespaces

theorem add_triple (document : Document) (triple : Triple) :
    (document.add (.triple triple)).2 =
      document.due ++ writeTriple document.namespaces triple :=
  rfl

/-- The IRIs of some statements, which are written after some text. -/
def uses (document : Document) (before : String) : List Statement → List Use
  | [] => []
  | .namespaceName name iri :: rest => (document.add (.namespaceName name iri)).1.uses before rest
  | .triple triple :: rest =>
      tripleUses document.namespaces (before ++ document.due) triple ++
        (document.add (.triple triple)).1.uses (before ++ (document.add (.triple triple)).2) rest

end Document

/-- The table of namespaces when the first triple is handed over. -/
def namedInTime (namespaces : Namespaces) : List Statement → Namespaces
  | .namespaceName name iri :: rest => namedInTime (Entries.insert name iri namespaces) rest
  | _ => namespaces

theorem iri_tripleUses (namespaces : Namespaces) (before : String) (triple : Triple) :
    (tripleUses namespaces before triple).map Use.iri = triple.iris := by
  rcases triple with ⟨subject, predicate, object⟩
  cases object <;> rfl

/-- No IRI is left out, and they stand in the order in which they were handed over. -/
theorem iri_uses (document : Document) (before : String) (statements : List Statement) :
    (document.uses before statements).map Use.iri =
      (statements.filterMap Statement.triple?).flatMap Triple.iris := by
  induction statements generalizing document before with
  | nil => rfl
  | cons statement rest induction =>
      cases statement with
      | namespaceName name iri => exact induction _ _
      | triple triple =>
          rw [Document.uses, List.map_append, iri_tripleUses, induction]
          rfl

theorem written_tripleUses {namespaces : Namespaces} {before : String} {triple : Triple} {use : Use}
    (member : use ∈ tripleUses namespaces before triple) :
    ∃ after, before ++ writeTriple namespaces triple = use.before ++ use.written ++ after := by
  rcases triple with ⟨subject, predicate, object⟩
  simp only [tripleUses, List.mem_cons] at member
  rcases member with rfl | rfl | inObject
  · exact ⟨" " ++ (compactIri namespaces predicate ++ " " ++ writeTerm namespaces object ++ " .\n"),
      by simp only [writeTriple, Use.written, String.append_assoc]⟩
  · exact ⟨" " ++ writeTerm namespaces object ++ " .\n",
      by simp only [writeTriple, Use.written, String.append_assoc]⟩
  · refine ⟨" .\n", ?_⟩
    cases object with
    | literal => cases inObject
    | iri value | typed value datatype =>
        rw [List.mem_singleton.mp inObject]
        simp only [writeTriple, writeTerm, Use.written, String.append_assoc]

/-- Every IRI stands in the text where its use says. -/
theorem written_uses {document : Document} {before : String} {statements : List Statement}
    {use : Use} (member : use ∈ document.uses before statements) (count : Nat) :
    ∃ after, before ++ String.join (Writer.addAll ⟨.turtle document, count⟩ statements).2 =
      use.before ++ use.written ++ after := by
  induction statements generalizing document before count with
  | nil => cases member
  | cons statement rest induction =>
      have texts : String.join (Writer.addAll ⟨.turtle document, count⟩ (statement :: rest)).2 =
          (document.add statement).2 ++ String.join (Writer.addAll
            ⟨.turtle (document.add statement).1,
              count + if statement.triple?.isSome then 1 else 0⟩ rest).2 :=
        String.join_cons
      rw [texts, ← String.append_assoc]
      cases statement with
      | namespaceName name iri =>
          rw [show (document.add (.namespaceName name iri)).2 = "" from rfl, String.append_empty]
          exact induction member _
      | triple triple =>
          rcases List.mem_append.mp member with here | later
          · rcases written_tripleUses here with ⟨after, equal⟩
            rw [Document.add_triple, ← String.append_assoc, equal, String.append_assoc]
            exact ⟨_, rfl⟩
          · exact induction later _

/-! ### Lines -/

/-- A line, or the start of one, that is no declaration. -/
def IsPlain (line : List Char) : Prop :=
  '\n' ∉ line ∧ line.head? ≠ some '@'

theorem isPlain_nil : IsPlain [] :=
  ⟨List.not_mem_nil, by simp⟩

/-- No written IRI starts a declaration. -/
theorem isPlain_compactIri_append {namespaces : Namespaces} (declarable : Declarable namespaces)
    {iri : String} (legal : IsIri iri) {rest : List Char} (single : '\n' ∉ rest) :
    IsPlain ((compactIri namespaces iri).toList ++ rest) := by
  have absent : '\n' ∉ iri.toList := legal.not_mem (by decide)
  rcases compactIri_cases namespaces iri with inFull | shortened
  · rw [inFull]
    simp [IsPlain, absent, single]
  · rcases shortened with ⟨name, namespaceIri, localName, member, split, _, written⟩
    have isLabel := (declarable _ member).1
    have noFeed : '\n' ∉ name.toList := isLabel.not_mem (by decide)
    have noAt : '@' ∉ name.toList := isLabel.not_mem (by decide)
    rw [split, List.mem_append, not_or] at absent
    constructor
    · simp [written, noFeed, absent.2, single]
    · rw [written]
      cases start : name.toList with
      | nil => simp [start]
      | cons first further =>
          rw [start, List.mem_cons, not_or] at noAt
          simp [start, Ne.symm noAt.1]

theorem lineFeed_not_mem_compactIri_of_declarable {namespaces : Namespaces}
    (declarable : Declarable namespaces) {iri : String} (legal : IsIri iri) :
    '\n' ∉ (compactIri namespaces iri).toList := by
  have plain := (isPlain_compactIri_append declarable legal List.not_mem_nil).1
  rwa [List.append_nil] at plain

theorem isPlain_line {namespaces : Namespaces} (declarable : Declarable namespaces)
    {triple : Triple} (legal : triple.HasIris) : IsPlain ((lineStyle namespaces).line triple) := by
  have single : '\n' ∉ (lineStyle namespaces).line triple :=
    LineStyle.lineFeed_not_mem_line lineFeed_not_mem_escapeCharacter
      fun iri used => lineFeed_not_mem_compactIri_of_declarable declarable (legal iri used)
  rw [LineStyle.line, List.append_assoc, List.append_assoc, List.append_assoc, List.append_assoc]
    at single ⊢
  exact isPlain_compactIri_append declarable (legal _ (by simp [Triple.iris]))
    (not_or.mp (mt List.mem_append.mpr single)).2

/-- A text of ended lines and the start of another. -/
theorem splitOn_endLine_append {lines : List (List Char)} (single : ∀ line ∈ lines, '\n' ∉ line)
    {last : List Char} (unended : '\n' ∉ last) :
    (lines.flatMap endLine ++ last).splitOn '\n' = lines ++ [last] := by
  induction lines with
  | nil => exact List.splitOn_eq_singleton unended
  | cons line rest induction =>
      have first := single line List.mem_cons_self
      have further := induction fun other member => single other (List.mem_cons_of_mem _ member)
      rw [List.flatMap_cons, endLine, List.append_assoc, List.append_assoc, List.singleton_append,
        List.splitOn_append_cons_self_of_not_mem first, further]
      rfl

theorem declarationLine_inj {left right : String × String} (isLabelLeft : IsLabel left.1)
    (isLabelRight : IsLabel right.1) (same : declarationLine left = declarationLine right) :
    left = right := by
  have parts : left.1.toList ++ ':' :: ([' ', '<'] ++ left.2.toList ++ ['>', ' ', '.']) =
      right.1.toList ++ ':' :: ([' ', '<'] ++ right.2.toList ++ ['>', ' ', '.']) := by
    simpa [declarationLine] using same
  rcases isLabelLeft.split_unique isLabelRight parts with ⟨names, rest⟩
  exact Prod.ext names
    (String.toList_inj.mp (List.append_cancel_left (List.append_cancel_right rest)))

theorem lineFeed_not_mem_headerLines {namespaces : Namespaces}
    (declarable : Declarable namespaces) : ∀ line ∈ headerLines namespaces, '\n' ∉ line :=
  lineFeed_not_mem_headerLines_of_unbroken fun entry member =>
    ⟨(declarable entry member).1.not_mem (by decide),
      (declarable entry member).2.not_mem (by decide)⟩

theorem declarationLine_mem_headerLines_iff {namespaces : Namespaces}
    (declarable : Declarable namespaces) {entry : String × String} (isLabel : IsLabel entry.1) :
    declarationLine entry ∈ headerLines namespaces ↔ entry ∈ namespaces := by
  have sorted : ∀ other, other ∈ sortedNamespaces namespaces ↔ other ∈ namespaces :=
    fun other => (List.mergeSort_perm _ _).mem_iff
  constructor
  · intro member
    rcases List.mem_append.mp member with declaration | blank
    · rcases List.mem_map.mp declaration with ⟨other, present, same⟩
      rw [sorted] at present
      rwa [← declarationLine_inj (declarable other present).1 isLabel same]
    · split at blank
      · cases blank
      · cases List.mem_singleton.mp blank
  · intro member
    exact List.mem_append_left _ (List.mem_map_of_mem ((sorted entry).mpr member))

/-! ### Texts that a header starts -/

/-- What a statement hands over can be written. -/
def Writable : Statement → Prop
  | .namespaceName name iri => IsLabel name ∧ IsIri iri
  | .triple triple => triple.HasIris

/-- The header of a table, and lines that are no declarations. -/
def StartsWithHeader (declared : Namespaces) (text : List Char) : Prop :=
  ∃ lines, (∀ line ∈ lines, IsPlain line) ∧ text = (headerLines declared ++ lines).flatMap endLine

theorem startsWithHeader_writeHeader (declared : Namespaces) :
    StartsWithHeader declared (writeHeader declared).toList :=
  ⟨[], by simp, by rw [toList_writeHeader, List.append_nil]⟩

theorem StartsWithHeader.writeTriple {declared : Namespaces} {text : String}
    (starts : StartsWithHeader declared text.toList) {namespaces : Namespaces}
    (declarable : Declarable namespaces) {triple : Triple} (legal : triple.HasIris) :
    StartsWithHeader declared (text ++ writeTriple namespaces triple).toList := by
  rcases starts with ⟨lines, arePlain, equal⟩
  refine ⟨lines ++ [(lineStyle namespaces).line triple], ?_, ?_⟩
  · simpa [or_imp, forall_and, isPlain_line declarable legal] using arePlain
  · rw [String.toList_append, equal, toList_writeTriple]
    simp

/-- The declarations in such a text are those of the header. -/
theorem StartsWithHeader.declarationLine_mem_iff {declared : Namespaces} {text : List Char}
    (starts : StartsWithHeader declared text) (declarable : Declarable declared)
    {last : List Char} (isPlain : IsPlain last) {entry : String × String}
    (isLabel : IsLabel entry.1) :
    declarationLine entry ∈ (text ++ last).splitOn '\n' ↔ entry ∈ declared := by
  rcases starts with ⟨lines, arePlain, rfl⟩
  have single : ∀ line ∈ headerLines declared ++ lines, '\n' ∉ line := by
    intro line member
    rcases List.mem_append.mp member with inHeader | later
    · exact lineFeed_not_mem_headerLines declarable line inHeader
    · exact (arePlain line later).1
  have undeclaring : ∀ line, IsPlain line → declarationLine entry ≠ line := by
    rintro line plain rfl
    exact plain.2 rfl
  rw [splitOn_endLine_append single isPlain.1, List.mem_append, List.mem_append,
    declarationLine_mem_headerLines_iff declarable isLabel]
  constructor
  · rintro ((member | later) | isLast)
    · exact member
    · exact absurd rfl (undeclaring _ (arePlain _ later))
    · exact absurd (List.mem_singleton.mp isLast) (undeclaring last isPlain)
  · exact fun member => Or.inl (Or.inl member)

/-- The use stands in a text that the header of a table starts, under a table of its own. -/
structure Use.Follows (declared : Namespaces) (use : Use) : Prop where
  declarable : Declarable use.namespaces
  before : ∃ text last, use.before.toList = text ++ last ∧ StartsWithHeader declared text ∧
    IsPlain last

theorem follows_tripleUses {declared namespaces : Namespaces} {before : String}
    (starts : StartsWithHeader declared before.toList) (declarable : Declarable namespaces)
    {triple : Triple} (legal : triple.HasIris) {use : Use}
    (member : use ∈ tripleUses namespaces before triple) : use.Follows declared := by
  have subject : IsIri triple.subject := legal _ (by simp [Triple.iris])
  have predicate : IsIri triple.predicate := legal _ (by simp [Triple.iris])
  -- What is written of the line in front of an IRI is nothing or starts with the subject.
  have onward : ∀ (rest : String) (iri : String), '\n' ∉ rest.toList →
      Use.Follows declared
        ⟨before ++ (compactIri namespaces triple.subject ++ rest), namespaces, iri⟩ := by
    intro rest iri single
    refine ⟨declarable, _, _, String.toList_append, starts, ?_⟩
    rw [String.toList_append]
    exact isPlain_compactIri_append declarable subject single
  have inPredicate := lineFeed_not_mem_compactIri_of_declarable declarable predicate
  simp only [tripleUses, List.mem_cons] at member
  rcases member with rfl | rfl | inObject
  · exact ⟨declarable, _, [], (List.append_nil _).symm, starts, isPlain_nil⟩
  · exact onward " " triple.predicate (by simp)
  · cases object : triple.object with
    | literal =>
        rw [object] at inObject
        cases inObject
    | iri value | typed value datatype =>
        rw [object] at inObject
        rw [List.mem_singleton.mp inObject]
        simp only [String.append_assoc]
        exact onward _ _ (by simp [inPredicate, escapeLiteral, lineFeed_not_mem_escapeCharacter])

/-- After the header every statement leaves a text that starts with it. -/
theorem follows_uses {declared : Namespaces} {document : Document} {before : String}
    (written : document.headerWritten = true) (starts : StartsWithHeader declared before.toList)
    (declarable : Declarable document.namespaces) {statements : List Statement}
    (legal : ∀ statement ∈ statements, Writable statement) {use : Use}
    (member : use ∈ document.uses before statements) : use.Follows declared := by
  induction statements generalizing document before with
  | nil => cases member
  | cons statement rest induction =>
      have here := legal statement List.mem_cons_self
      have later := fun other member => legal other (List.mem_cons_of_mem statement member)
      cases statement with
      | namespaceName name iri =>
          have done : (document.add (.namespaceName name iri)).1.headerWritten = true := written
          exact induction done starts (declarable.insert here.1 here.2) later member
      | triple triple =>
          have nothing : document.due = "" := if_pos written
          rw [Document.uses, Document.add_triple, nothing, String.append_empty,
            String.empty_append] at member
          rcases List.mem_append.mp member with inTriple | after
          · exact follows_tripleUses starts declarable here inTriple
          · have done : (document.add (.triple triple)).1.headerWritten = true := rfl
            exact induction done (starts.writeTriple declarable here) declarable later after

/-- The first triple brings the header of the table that it is handed over under. -/
theorem follows_uses_from_start {namespaces : Namespaces} (declarable : Declarable namespaces)
    {statements : List Statement} (legal : ∀ statement ∈ statements, Writable statement)
    {use : Use} (member : use ∈ Document.uses ⟨namespaces, false⟩ "" statements) :
    use.Follows (namedInTime namespaces statements) := by
  induction statements generalizing namespaces with
  | nil => cases member
  | cons statement rest induction =>
      have here := legal statement List.mem_cons_self
      have later := fun other member => legal other (List.mem_cons_of_mem statement member)
      cases statement with
      | namespaceName name iri =>
          exact induction (declarable.insert here.1 here.2) later member
      | triple triple =>
          have header := startsWithHeader_writeHeader namespaces
          have due : Document.due ⟨namespaces, false⟩ = writeHeader namespaces := rfl
          rw [Document.uses, Document.add_triple, due, String.empty_append,
            String.empty_append] at member
          rcases List.mem_append.mp member with inTriple | after
          · exact follows_tripleUses header declarable here inTriple
          · exact follows_uses rfl (header.writeTriple declarable here) declarable later after

theorem declarable_namedInTime {namespaces : Namespaces} (declarable : Declarable namespaces)
    {statements : List Statement} (legal : ∀ statement ∈ statements, Writable statement) :
    Declarable (namedInTime namespaces statements) := by
  induction statements generalizing namespaces with
  | nil => exact declarable
  | cons statement rest induction =>
      have here := legal statement List.mem_cons_self
      have later := fun other member => legal other (List.mem_cons_of_mem statement member)
      cases statement with
      | namespaceName name iri => exact induction (declarable.insert here.1 here.2) later
      | triple triple => exact declarable

/-! ### Shortened IRIs -/

namespace Use

/-- An IRI is written in full, or shortened by an entry of its table. -/
theorem written_cases (use : Use) :
    (use.shortening? = none ∧ use.written = "<" ++ use.iri ++ ">") ∨
      ∃ name namespaceIri localName, use.shortening? = some (name, namespaceIri) ∧
        (name, namespaceIri) ∈ use.namespaces ∧ namespaceIri ++ localName = use.iri ∧
        use.written = name ++ ":" ++ localName := by
  rw [shortening?, written, compactIri]
  cases found : longestMatch? use.iri use.namespaces with
  | none => exact Or.inl ⟨rfl, rfl⟩
  | some entry =>
      rcases entry with ⟨name, namespaceIri⟩
      rcases longestMatch?_sound found with ⟨member, localName, split⟩
      have dropped : use.iri.toList.drop namespaceIri.length = localName := by
        rw [← split, ← String.length_toList, List.drop_left]
      simp only [Option.filter_some, dropped]
      split
      · refine Or.inr ⟨name, namespaceIri, String.ofList localName, rfl, member, ?_, rfl⟩
        rw [← String.toList_inj, String.toList_append, String.toList_ofList, split]
      · exact Or.inl ⟨rfl, rfl⟩

theorem mem_namespaces_of_shortening? {use : Use} {entry : String × String}
    (shortened : use.shortening? = some entry) : entry ∈ use.namespaces := by
  rcases use.written_cases with ⟨inFull, _⟩ | ⟨name, namespaceIri, _, found, member, _⟩
  · rw [inFull] at shortened
    cases shortened
  · rw [found] at shortened
    cases shortened
    exact member

theorem Follows.isDeclared_iff {declared : Namespaces} {use : Use} (follows : use.Follows declared)
    (declarable : Declarable declared) :
    use.IsDeclared ↔ ∀ entry, use.shortening? = some entry → entry ∈ declared := by
  rcases follows with ⟨table, text, last, parts, starts, isPlain⟩
  have declares : ∀ entry : String × String, IsLabel entry.1 →
      (declarationLine entry ∈ use.before.toList.splitOn '\n' ↔ entry ∈ declared) := by
    intro entry isLabel
    rw [parts]
    exact starts.declarationLine_mem_iff declarable isPlain isLabel
  rcases use.written_cases with ⟨inFull, written⟩ |
    ⟨name, iri, localName, shortened, member, whole, written⟩
  · rw [inFull]
    constructor
    · intro _ entry impossible
      cases impossible
    · intro _ name localName isLabel short
      exact absurd (written.symm.trans short) (isLabel.brackets_ne use.iri localName)
  · have isLabel := (table _ member).1
    rw [shortened]
    constructor
    · intro isDeclared entry found
      rcases isDeclared name localName isLabel written with ⟨other, line, leads⟩
      have same : other = iri := by
        simpa [← String.toList_inj] using leads.trans whole.symm
      subst same
      cases found
      exact (declares _ isLabel).mp line
    · intro inTime other otherLocal otherLabel otherWritten
      have same : name.toList ++ ':' :: localName.toList =
          other.toList ++ ':' :: otherLocal.toList := by
        simpa [← String.toList_inj] using written.symm.trans otherWritten
      rcases isLabel.split_unique otherLabel same with ⟨rfl, locals⟩
      rw [String.toList_inj] at locals
      exact ⟨iri, (declares _ isLabel).mpr (inTime _ rfl), locals ▸ whole⟩

end Use

/-- Triples on their own leave the table as it is. -/
theorem namespaces_of_mem_uses {document : Document} {before : String} {triples : List Triple}
    {use : Use} (member : use ∈ document.uses before (triples.map Statement.triple)) :
    use.namespaces = document.namespaces := by
  induction triples generalizing document before with
  | nil => cases member
  | cons triple rest induction =>
      rcases List.mem_append.mp member with here | later
      · rcases triple with ⟨subject, predicate, object⟩
        simp only [tripleUses, List.mem_cons] at here
        rcases here with rfl | rfl | inObject
        · rfl
        · rfl
        · cases object with
          | literal => cases inObject
          | iri | typed =>
              rw [List.mem_singleton.mp inObject]
      · have unchanged : (document.add (.triple triple)).1.namespaces = document.namespaces := rfl
        rw [← unchanged]
        exact induction later

/-- If all names are given first, every IRI is written under the table of the first triple. -/
theorem namespaces_of_mem_uses_after_names {namespaces : Namespaces}
    {names : List (String × String)} {triples : List Triple} {use : Use}
    (member : use ∈ Document.uses ⟨namespaces, false⟩ ""
      (names.map nameStatement ++ triples.map Statement.triple)) :
    use.namespaces =
      namedInTime namespaces (names.map nameStatement ++ triples.map Statement.triple) := by
  induction names generalizing namespaces with
  | nil =>
      rw [namespaces_of_mem_uses member]
      cases triples <;> rfl
  | cons entry rest induction => exact induction member

/-! ### Calls -/

/-- A call that gives a name gives one that can be declared. -/
def NamesLegally : Call → Prop
  | .namespaceName name iri => IsLabel name ∧ IsIri iri
  | _ => True

instance : DecidablePred NamesLegally
  | .namespaceName name iri => inferInstanceAs (Decidable (IsLabel name ∧ IsIri iri))
  | .iri _ _ _ | .literal _ _ _ | .typed _ _ _ _ | .bool _ _ _ | .int _ _ _ => .isTrue trivial

theorem writable_statement {call : Call} (legal : ∀ iri ∈ call.iris, IsIri iri)
    (proper : NamesLegally call) : Writable call.statement := by
  cases call with
  | namespaceName => exact proper
  | iri | literal | typed | bool | int => exact Call.hasIris_of_triple? legal rfl

/-- The IRIs in the text of some calls. -/
def callUses (calls : List Call) : List Use :=
  Document.empty.uses "" (calls.map Call.statement)

theorem isDeclared_iff_of_mem_callUses {calls : List Call}
    (legal : ∀ call ∈ calls, ∀ iri ∈ call.iris, IsIri iri)
    (proper : ∀ call ∈ calls, NamesLegally call) {use : Use}
    (member : use ∈ callUses calls) :
    use.IsDeclared ↔ ∀ entry, use.shortening? = some entry →
      entry ∈ namedInTime [] (calls.map Call.statement) := by
  have writable : ∀ statement ∈ calls.map Call.statement, Writable statement := by
    intro statement stated
    rcases List.mem_map.mp stated with ⟨call, present, rfl⟩
    exact writable_statement (legal call present) (proper call present)
  have empty : Declarable [] := fun _ impossible => nomatch impossible
  exact (follows_uses_from_start empty writable member).isDeclared_iff
    (declarable_namedInTime empty writable)

/-- In the text of any calls, each IRI that was handed over stands at its place, and where it is
shortened by a name, the declaration that leads back to it stands in front of it exactly if the name
was given to that namespace before the first triple. Nothing is missing if all names are given
first. -/
theorem declared_iff_named_in_time (calls : List Call)
    (legal : ∀ call ∈ calls, ∀ iri ∈ call.iris, IsIri iri)
    (proper : ∀ call ∈ calls, NamesLegally call) :
    (callUses calls).map Use.iri =
        (calls.filterMap Call.triple?).flatMap Triple.iris ∧
      (∀ use ∈ callUses calls,
        (∃ after, Format.turtle.write (calls.map Call.statement) =
            use.before ++ use.written ++ after) ∧
          (use.IsDeclared ↔ ∀ entry, use.shortening? = some entry →
            entry ∈ namedInTime [] (calls.map Call.statement))) ∧
      (NamesFirst (calls.map Call.statement) →
        ∀ use ∈ callUses calls, use.IsDeclared) := by
  refine ⟨?_, fun use member => ⟨?_, isDeclared_iff_of_mem_callUses legal proper member⟩, ?_⟩
  · rw [callUses, iri_uses, Call.filterMap_triple?_statement]
  · have placed := written_uses member 0
    rwa [String.empty_append] at placed
  · intro namesFirst use member
    rw [isDeclared_iff_of_mem_callUses legal proper member]
    rcases namesFirst.exists_parts with ⟨names, triples, parts⟩
    rw [callUses, parts] at member
    rw [parts, ← namespaces_of_mem_uses_after_names member]
    exact fun entry => Use.mem_namespaces_of_shortening?

/-- A name that is given to another namespace after the first triple, and one that is new then. -/
def lateNameCalls : List Call :=
  [.namespaceName "e" "http://e/",
    .iri "http://e/a" "http://e/p" "http://e/b",
    .namespaceName "e" "http://f/",
    .namespaceName "l" "http://l/",
    .iri "http://f/a" "http://l/p" "http://g/b"]

theorem lateNameCalls_legal :
    (∀ call ∈ lateNameCalls, ∀ iri ∈ call.iris, IsIri iri) ∧
      ∀ call ∈ lateNameCalls, NamesLegally call := by
  decide

theorem lateNameCalls_declared_iff :
    (∀ call ∈ lateNameCalls, ∀ iri ∈ call.iris, IsIri iri) ∧
      (∀ call ∈ lateNameCalls, NamesLegally call) ∧
      ∀ use ∈ callUses lateNameCalls, (use.IsDeclared ↔
        ∀ entry, use.shortening? = some entry → entry ∈ [("e", "http://e/")]) := by
  rcases lateNameCalls_legal with ⟨legal, proper⟩
  refine ⟨legal, proper, fun use member => ?_⟩
  exact ((declared_iff_named_in_time lateNameCalls legal proper).2.1 use member).2

/-- The second triple is written `e:a l:p <http://g/b> .`, where `e` is declared for `http://e/` and
`l` is not declared at all. -/
theorem late_names_are_not_declared :
    (∀ call ∈ lateNameCalls, ∀ iri ∈ call.iris, IsIri iri) ∧
      (∀ call ∈ lateNameCalls, NamesLegally call) ∧
      (∃ use ∈ callUses lateNameCalls,
        use.iri = "http://f/a" ∧ use.written = "e:a" ∧ ¬use.IsDeclared) ∧
      ∃ use ∈ callUses lateNameCalls,
        use.iri = "http://l/p" ∧ use.written = "l:p" ∧ ¬use.IsDeclared := by
  rcases lateNameCalls_legal with ⟨legal, proper⟩
  have late : ∀ {use : Use} {entry : String × String},
      use ∈ callUses lateNameCalls →
      use.shortening? = some entry → entry ∉ namedInTime [] (lateNameCalls.map Call.statement) →
      ¬use.IsDeclared := by
    intro use entry member shortened late
    rw [isDeclared_iff_of_mem_callUses legal proper member]
    exact fun inTime => late (inTime entry shortened)
  have given : ∃ use ∈ callUses lateNameCalls,
      use.iri = "http://f/a" ∧ use.written = "e:a" ∧ use.shortening? = some ("e", "http://f/") := by
    decide +kernel
  have new : ∃ use ∈ callUses lateNameCalls,
      use.iri = "http://l/p" ∧ use.written = "l:p" ∧ use.shortening? = some ("l", "http://l/") := by
    decide +kernel
  refine ⟨legal, proper, ?_, ?_⟩
  · rcases given with ⟨use, member, iri, written, shortened⟩
    exact ⟨use, member, iri, written, late member shortened (by decide +kernel)⟩
  · rcases new with ⟨use, member, iri, written, shortened⟩
    exact ⟨use, member, iri, written, late member shortened (by decide +kernel)⟩

end CrateGraph.Rdf.Turtle
