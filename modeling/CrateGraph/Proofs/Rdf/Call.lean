import CrateGraph.Rdf.Format

/-!
The calls that a sink of triples answers, and the IRIs that are handed over with them.

A triple is emitted with an IRI, a text, a text with a datatype, a truth value or a whole number as
its object. The last two are texts with a datatype, too; only their datatype is not an argument.
What triple a call stands for is said here by its arguments alone, apart from how a sink is told.
-/

namespace CrateGraph.Rdf

/-! ### IRIs that can be written between angle brackets -/

/-- Neither a control character nor a blank nor one of the marks that an IRI reference excludes. -/
def isIriCharacter (character : Char) : Bool :=
  decide (0x20 < character.toNat) && !"<>\"\x7b\x7d|^`\\".toList.contains character

def IsIri (iri : String) : Prop :=
  ∀ character ∈ iri.toList, isIriCharacter character = true

instance (iri : String) : Decidable (IsIri iri) :=
  decidable_of_iff (iri.toList.all isIriCharacter = true) List.all_eq_true

theorem IsIri.not_mem {iri : String} (legal : IsIri iri) {character : Char}
    (excluded : isIriCharacter character = false) : character ∉ iri.toList := by
  intro member
  rw [legal character member] at excluded
  cases excluded

/-- The IRIs in an object: itself, or the datatype of a literal. -/
def Term.iris : Term → List String
  | .iri value => [value]
  | .literal _ => []
  | .typed _ datatype => [datatype]

def Triple.iris (triple : Triple) : List String :=
  triple.subject :: triple.predicate :: triple.object.iris

def Triple.HasIris (triple : Triple) : Prop :=
  ∀ iri ∈ triple.iris, IsIri iri

/-! ### Calls -/

inductive Call where
  | iri (subject predicate object : String)
  | literal (subject predicate value : String)
  | typed (subject predicate value datatype : String)
  | bool (subject predicate : String) (value : Bool)
  | int (subject predicate : String) (value : Int)
  | namespaceName (name namespaceIri : String)

namespace Call

/-- What a sink is told by a call. -/
def statement : Call → Statement
  | .iri subject predicate object => .triple ⟨subject, predicate, .iri object⟩
  | .literal subject predicate value => .triple ⟨subject, predicate, .literal value⟩
  | .typed subject predicate value datatype =>
      .triple ⟨subject, predicate, .typed value datatype⟩
  | .bool subject predicate value => .triple ⟨subject, predicate, .bool value⟩
  | .int subject predicate value => .triple ⟨subject, predicate, .int value⟩
  | .namespaceName name namespaceIri => .namespaceName name namespaceIri

/-- The triple that a call emits, by its arguments. -/
def triple? : Call → Option Triple
  | .iri subject predicate object => some ⟨subject, predicate, .iri object⟩
  | .literal subject predicate value => some ⟨subject, predicate, .literal value⟩
  | .typed subject predicate value datatype => some ⟨subject, predicate, .typed value datatype⟩
  | .bool subject predicate value =>
      some ⟨subject, predicate,
        .typed (if value then "true" else "false") "http://www.w3.org/2001/XMLSchema#boolean"⟩
  | .int subject predicate value =>
      some ⟨subject, predicate,
        .typed (toString value) "http://www.w3.org/2001/XMLSchema#integer"⟩
  | .namespaceName _ _ => none

/-- What a sink is told states just this triple. -/
theorem triple?_statement (call : Call) : call.statement.triple? = call.triple? := by
  cases call <;> rfl

/-- The IRIs among the arguments of an emission. -/
def iris : Call → List String
  | .iri subject predicate object => [subject, predicate, object]
  | .literal subject predicate _ => [subject, predicate]
  | .typed subject predicate _ datatype => [subject, predicate, datatype]
  | .bool subject predicate _ => [subject, predicate]
  | .int subject predicate _ => [subject, predicate]
  | .namespaceName _ _ => []

end Call

theorem isIri_xsdBoolean : IsIri xsdBoolean := by
  decide +kernel

theorem isIri_xsdInteger : IsIri xsdInteger := by
  decide +kernel

/-- The datatypes that are not arguments are IRIs of their own. -/
theorem Call.hasIris_of_triple? {call : Call} (legal : ∀ iri ∈ call.iris, IsIri iri)
    {triple : Triple} (emitted : call.statement = .triple triple) : triple.HasIris := by
  intro iri member
  cases call with
  | iri subject predicate object =>
      cases emitted
      exact legal iri member
  | literal subject predicate value =>
      cases emitted
      exact legal iri member
  | typed subject predicate value datatype =>
      cases emitted
      exact legal iri member
  | bool subject predicate value =>
      cases emitted
      simp only [Triple.iris, Term.bool, Term.iris, List.mem_cons, List.not_mem_nil,
        or_false] at member
      rcases member with rfl | rfl | rfl
      · exact legal _ (by simp [iris])
      · exact legal _ (by simp [iris])
      · exact isIri_xsdBoolean
  | int subject predicate value =>
      cases emitted
      simp only [Triple.iris, Term.int, Term.iris, List.mem_cons, List.not_mem_nil,
        or_false] at member
      rcases member with rfl | rfl | rfl
      · exact legal _ (by simp [iris])
      · exact legal _ (by simp [iris])
      · exact isIri_xsdInteger
  | namespaceName name iri => cases emitted

/-! ### Counting -/

/-- In either format a writer counts the triples that it is handed. -/
theorem Writer.count_addAll (writer : Writer) (statements : List Statement) :
    (writer.addAll statements).1.count =
      writer.count + (statements.filterMap Statement.triple?).length := by
  induction statements generalizing writer with
  | nil => rfl
  | cons statement rest induction =>
      have first : (writer.add statement).1.count =
          writer.count + (if statement.triple?.isSome then 1 else 0) := by
        rcases writer with ⟨draft, count⟩
        cases draft with
        | ntriples => rfl
        | turtle document => rfl
      have further := induction (writer.add statement).1
      rw [first] at further
      simp only [addAll]
      rw [further]
      cases emitted : statement.triple? with
      | none => simp [emitted]
      | some triple =>
          simp [emitted]
          omega

theorem Call.filterMap_triple?_statement (calls : List Call) :
    (calls.map Call.statement).filterMap Statement.triple? = calls.filterMap Call.triple? := by
  have same : Statement.triple? ∘ Call.statement = Call.triple? := funext triple?_statement
  rw [List.filterMap_map, same]

/-- A fresh writer ends up with the number of emitting calls. -/
theorem Writer.count_calls (format : Format) (calls : List Call) :
    ((Writer.ofFormat format).addAll (calls.map Call.statement)).1.count =
      (calls.filterMap Call.triple?).length := by
  have fresh : (Writer.ofFormat format).count = 0 := by
    cases format <;> rfl
  rw [count_addAll, fresh, Nat.zero_add, Call.filterMap_triple?_statement]

end CrateGraph.Rdf
