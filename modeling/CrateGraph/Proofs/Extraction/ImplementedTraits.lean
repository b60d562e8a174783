import CrateGraph.Proofs.Extraction.Instances

/-!
Which types are said to implement which traits.

Main statement: a type is said to implement a trait exactly if the index holds an implementation of
the trait for it that is neither synthetic nor blanket, and the walk has declared the type. Whether
the implementation is negative makes no difference, so the types that are said to implement a trait
are those that do only if no negative implementation stands alone.
-/

namespace CrateGraph

open Ontology

namespace Extraction

/-- The implementation is described as one of the trait for the type. -/
structure Provides (extraction : Extraction) (id : ItemId) (body : ImplementationBody)
    (type trait : String) : Prop where
  processes : extraction.Processes id body type
  names : ∃ reference, body.trait = some reference ∧ extraction.referenceIri reference = trait

theorem provides_of_mark (extraction : Extraction) {steps : List Step} {type trait : String}
    (describes : extraction.Describes steps) (marked : .implements type trait ∈ marks steps) :
    ∃ id body, extraction.Provides id body type trait := by
  cases describes with
  | crate => simp [marks_crateNode] at marked
  | dependency =>
      rw [marks_dependency] at marked
      split at marked <;> simp at marked
  | module => simp [marks_moduleNode] at marked
  | function =>
      exact absurd marked ((extraction.memberMarks_moduleFunction _ _ _).implements_not_mem _ _)
  | constant =>
      exact absurd marked ((extraction.memberMarks_constant _ _ _).implements_not_mem _ _)
  | static =>
      exact absurd marked ((extraction.memberMarks_static _ _ _).implements_not_mem _ _)
  | type =>
      rw [marks_typeEntry] at marked
      rcases List.mem_append.mp marked with header | details
      · simp at header
      · exact absurd details ((extraction.memberMarks_typeDetails _ _).implements_not_mem _ _)
  | @implementation id body target processes =>
      rw [marks_implementationNode] at marked
      rcases List.mem_append.mp marked with head | member
      · split at head
        · next reference named =>
            simp only [List.mem_cons, Mark.implements.injEq, reduceCtorEq, List.not_mem_nil,
              or_false, false_or] at head
            rcases head with ⟨rfl, rfl⟩
            exact ⟨id, body, processes, reference, named, rfl⟩
        · simp at head
      · exact absurd member
          ((extraction.memberMarks_implementationMembers _ _).implements_not_mem _ _)

theorem implements_mem_marks (extraction : Extraction) {id : ItemId} {body : ImplementationBody}
    {target : String} {reference : PathReference} (named : body.trait = some reference) :
    .implements target (extraction.referenceIri reference) ∈
      marks (extraction.implementationNode id target body) := by
  rw [marks_implementationNode, named]
  simp

theorem implements_iff_provides (extraction : Extraction) (type trait : String) :
    ⟨type, Property.implements, .iri trait⟩ ∈ extraction.triples ↔
      ∃ id body, extraction.Provides id body type trait := by
  rw [implements_iff]
  constructor
  · intro marking
    rcases marking with ⟨steps, describes, marked⟩
    exact extraction.provides_of_mark describes marked
  · intro providing
    rcases providing with ⟨id, body, processes, reference, named, rfl⟩
    exact ⟨_, .implementation processes, extraction.implements_mem_marks named⟩

/-- Every implementation with a trait counts, negative ones too. The types that are said to
implement a trait are therefore those with an implementation that is not negative exactly if a
negative implementation only ever stands beside such a one, for the same type and trait. -/
theorem implements_iff_implementation_given (extraction : Extraction) :
    (∀ type trait, ⟨type, Property.implements, .iri trait⟩ ∈ extraction.triples ↔
      ∃ id body, extraction.Provides id body type trait) ∧
    ((∀ type trait, ⟨type, Property.implements, .iri trait⟩ ∈ extraction.triples ↔
        ∃ id body, extraction.Provides id body type trait ∧ body.isNegative = false) ↔
      ∀ id body type trait, extraction.Provides id body type trait → body.isNegative = true →
        ∃ other otherBody, extraction.Provides other otherBody type trait ∧
          otherBody.isNegative = false) := by
  refine ⟨extraction.implements_iff_provides, ?_⟩
  constructor
  · intro faithful id body type trait provides _
    exact (faithful type trait).mp
      ((extraction.implements_iff_provides type trait).mpr ⟨id, body, provides⟩)
  · intro accompanied type trait
    rw [implements_iff_provides]
    constructor
    · intro providing
      rcases providing with ⟨id, body, provides⟩
      cases negative : body.isNegative with
      | false => exact ⟨id, body, provides, negative⟩
      | true => exact accompanied id body type trait provides negative
    · intro providing
      rcases providing with ⟨id, body, provides, _⟩
      exact ⟨id, body, provides⟩

def handle : Item :=
  .plain (some "Handle") (.struct ⟨.plain [] false, ⟨[], []⟩, []⟩)

/-- The implementation `impl !Send for Handle`. -/
def refusal : ImplementationBody where
  generics := ⟨[], []⟩
  trait := some ⟨"Send", some "9", none⟩
  target := .path ⟨"Handle", some "1", none⟩
  items := []
  isUnsafe := false
  isNegative := true
  isSynthetic := false
  blanket := none

/-- A crate with the struct `Handle`, which refuses to be `Send`. -/
def refusing : Extraction :=
  demo ["1"] [("1", handle), ("2", .plain none (.implementation refusal))]
    ⟨[("1", ⟨["demo", "Handle"], .struct, 0⟩),
      ("9", ⟨["core", "marker", "Send"], .trait, 1⟩)], by simp⟩

theorem refusing_declares_handle :
    refusing.typeIri (extendPath "demo" "Handle") ∈ refusing.outcome.types := by
  have visited : refusing.Visits "demo" handle := visits_demo List.mem_cons_self List.mem_cons_self
  have named : handle.properName? = some "Handle" := Item.properName?_plain (by simp) _
  exact refusing.mem_types_of_visits visited rfl named

theorem refusal_processed :
    refusing.Processes "2" refusal (refusing.typeIri (extendPath "demo" "Handle")) where
  included := rfl
  found := ⟨_, item?_demo (List.mem_cons_of_mem _ List.mem_cons_self), rfl⟩
  notSynthetic := rfl
  notBlanket := rfl
  resolves := by
    simp [refusal, typeIri?, referenceIri, referencedPath, refusing, demo, Table.get?,
      Entries.get?, ItemSummary.fullPath, extendPath, pathSeparator]
  declared := refusing_declares_handle

/-- The only implementation is negative, and still `Handle` is said to be `Send`. -/
theorem refused_trait_is_implemented :
    ⟨refusing.typeIri (extendPath "demo" "Handle"), Property.implements,
        .iri (refusing.typeIri "core::marker::Send")⟩ ∈ refusing.triples ∧
      ¬∃ id body, refusing.Provides id body (refusing.typeIri (extendPath "demo" "Handle"))
        (refusing.typeIri "core::marker::Send") ∧ body.isNegative = false := by
  constructor
  · have names : refusing.referenceIri ⟨"Send", some "9", none⟩ =
        refusing.typeIri "core::marker::Send" := by
      simp [referenceIri, referencedPath, refusing, demo, Table.get?, Entries.get?,
        ItemSummary.fullPath]
    exact (refusing.implements_iff_provides _ _).mpr
      ⟨"2", refusal, refusal_processed, ⟨_, rfl, names⟩⟩
  · intro providing
    rcases providing with ⟨id, body, provides, positive⟩
    rcases provides.processes.found with ⟨item, found, isImplementation⟩
    have inner : ∀ other, item.body ≠ .module other := by
      intro other
      rw [isImplementation]
      exact ItemBody.noConfusion
    have member := mem_of_item?_demo found inner
    simp only [List.mem_cons, Prod.mk.injEq, List.not_mem_nil, or_false] at member
    rcases member with ⟨_, rfl⟩ | ⟨_, rfl⟩
    · cases isImplementation
    · cases isImplementation
      cases positive

end Extraction

end CrateGraph
