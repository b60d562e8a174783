import CrateGraph.Proofs.Extraction.CoveredDescriptions
import CrateGraph.Proofs.Ontology.DistinctTerms
import Mathlib.Tactic.MkIffOfInductiveProp

/-!
Only descriptions of modules speak of namespaces.

No other description makes a node a namespace or gives one a parent. So a run states of namespaces
what the first descriptions of its modules state, and nothing else.
-/

namespace CrateGraph

open Rdf (Triple)
open Ontology

/-! ### The triples about namespaces -/

/-- Does the triple make a node a namespace, or give it a parent? -/
def Rdf.Triple.isNesting (triple : Triple) : Bool :=
  triple.predicate = Property.parentNamespace ||
    (triple.predicate = Property.type && triple.object = .iri Class.container)

/-- A property whose triples are not about namespaces. -/
def IsFlat (property : String) : Prop :=
  property ≠ Property.type ∧ property ≠ Property.parentNamespace

@[simp] theorem isFlat_of_properties :
    IsFlat Property.name ∧ IsFlat Property.fullName ∧ IsFlat Property.accessibility ∧
      IsFlat Property.isAbstract ∧ IsFlat Property.isGeneric ∧
      IsFlat Property.definedInAssembly ∧ IsFlat Property.inNamespace ∧
      IsFlat Property.implements ∧ IsFlat Property.hasMember ∧
      IsFlat Property.hasTypeParameter ∧ IsFlat Property.hasAttribute ∧
      IsFlat Property.relatedTo ∧ IsFlat Property.isAsync ∧ IsFlat Property.isConst ∧
      IsFlat Property.memberOf ∧ IsFlat Property.returnType ∧ IsFlat Property.fieldType ∧
      IsFlat Property.hasParameter ∧ IsFlat Property.ordinal ∧ IsFlat Property.parameterType ∧
      IsFlat Property.parameterOf ∧ IsFlat Property.typeParameterOf ∧ IsFlat Property.version ∧
      IsFlat Property.language ∧ IsFlat Property.dependsOn ∧ IsFlat Property.superTrait ∧
      IsFlat Property.implementationFor ∧ IsFlat Property.implementedTrait ∧
      IsFlat Property.hasVariant ∧ IsFlat Property.variantKind ∧ IsFlat Property.variantField ∧
      IsFlat Property.hasLifetime ∧ IsFlat Property.isUnsafe ∧ IsFlat Property.isMutable ∧
      IsFlat Property.errorType ∧ IsFlat Property.derives ∧ IsFlat Property.traitBound := by
  simp [IsFlat, Property.parentNamespace, Property.name, Property.fullName,
    Property.accessibility, Property.isAbstract, Property.isGeneric, Property.definedInAssembly,
    Property.inNamespace, Property.implements, Property.hasMember, Property.hasTypeParameter,
    Property.hasAttribute, Property.relatedTo, Property.isAsync, Property.isConst,
    Property.memberOf, Property.returnType, Property.fieldType, Property.hasParameter,
    Property.ordinal, Property.parameterType, Property.parameterOf, Property.typeParameterOf,
    Property.version, Property.language, Property.dependsOn, Property.superTrait,
    Property.implementationFor, Property.implementedTrait, Property.hasVariant,
    Property.variantKind, Property.variantField, Property.hasLifetime, Property.isUnsafe,
    Property.isMutable, Property.errorType, Property.derives, Property.traitBound]

@[simp] theorem ne_container_of_classes :
    Class.assembly ≠ Class.container ∧ Class.struct ≠ Class.container ∧
      Class.interface ≠ Class.container ∧ Class.enum ≠ Class.container ∧
      Class.member ≠ Class.container ∧ Class.method ≠ Class.container ∧
      Class.field ≠ Class.container ∧ Class.parameter ≠ Class.container ∧
      Class.typeParameter ≠ Class.container ∧ Class.crate ≠ Class.container ∧
      Class.module ≠ Class.container ∧ Class.trait ≠ Class.container ∧
      Class.union ≠ Class.container ∧ Class.typeAlias ≠ Class.container ∧
      Class.enumVariant ≠ Class.container ∧ Class.traitImplementation ≠ Class.container ∧
      Class.inherentImplementation ≠ Class.container ∧ Class.lifetime ≠ Class.container ∧
      Class.constParameter ≠ Class.container ∧ Class.static ≠ Class.container ∧
      Class.constant ≠ Class.container ∧ Class.type ≠ Class.container := by
  simp [Class.container, Class.assembly, Class.struct, Class.interface, Class.enum, Class.member,
    Class.method, Class.field, Class.parameter, Class.typeParameter, Class.crate, Class.module,
    Class.trait, Class.union, Class.typeAlias, Class.enumVariant, Class.traitImplementation,
    Class.inherentImplementation, Class.lifetime, Class.constParameter, Class.static,
    Class.constant, Class.type]

namespace Rdf.Triple

@[simp] theorem isNesting_flat {property : String} (flat : IsFlat property) (subject : String)
    (object : Rdf.Term) : (⟨subject, property, object⟩ : Triple).isNesting = false := by
  simp [isNesting, flat.1, flat.2]

@[simp] theorem isNesting_type {nodeClass : String} (other : nodeClass ≠ Class.container)
    (node : String) : (⟨node, Property.type, .iri nodeClass⟩ : Triple).isNesting = false := by
  simp [isNesting, other, Property.parentNamespace]

end Rdf.Triple

/-! ### Flat descriptions -/

/-- Steps with such a topic are not about namespaces. -/
@[simp] def Topic.IsFlat : Topic → Prop
  | .classOf nodeClass => nodeClass ≠ Class.container
  | .edge property | .text property | .value property => CrateGraph.IsFlat property
  | .function => True

open Lexicon

theorem not_mem_of_flat {steps : List Step} (flat : (ofTopics Topic.IsFlat).CoversAll steps)
    {triple : Triple} (nesting : triple.isNesting) : .triple triple ∉ steps := by
  intro member
  have own : triple.isNesting = false := by
    cases flat _ member with
    | classOf _ other => exact Triple.isNesting_type other _
    | edge _ flat => exact Triple.isNesting_flat flat _ _
    | text _ flat => exact Triple.isNesting_flat flat _ _
    | value _ flat => exact Triple.isNesting_flat flat _ _
  rw [nesting] at own
  cases own

namespace Extraction

variable (extraction : Extraction)

/-- Everything but modules is described without a word on namespaces. -/
@[simp] theorem allows_isFlat :
    (ofTopics Topic.IsFlat).Allows crateTopics ∧ (ofTopics Topic.IsFlat).Allows constantTopics ∧
      (ofTopics Topic.IsFlat).Allows staticTopics := by
  simp [crateTopics, constantTopics, staticTopics, memberTopics]

@[simp] theorem allows_isFlat_of_flags :
    (ofTopics Topic.IsFlat).Allows extraction.functionTopics ∧
      (ofTopics Topic.IsFlat).Allows extraction.typeTopics ∧
      (ofTopics Topic.IsFlat).Allows extraction.implementationTopics := by
  have attributes : (ofTopics Topic.IsFlat).Allows extraction.attributeTopics :=
    allows_attributeTopics (by simp)
  have errors : (ofTopics Topic.IsFlat).Allows extraction.errorTopics :=
    allows_errorTopics (by simp)
  have derives : (ofTopics Topic.IsFlat).Allows extraction.deriveTopics :=
    allows_deriveTopics (by simp)
  simp [attributes, errors, derives, functionTopics, typeTopics, headerTopics, fieldTopics,
    variantTopics, memberTopics, methodTopics, signatureTopics, genericTopics, parameterTopics,
    implementationTopics]

/-! ### Modules -/

/-- The triples about namespaces in the description of a module. -/
@[mk_iff] inductive Nests (path : String) : Triple → Prop
  | isNamespace : Nests path ⟨extraction.moduleIri path, Property.type, .iri Class.container⟩
  | parent {outer : String} (isParent : parentPath? path = some outer) :
      Nests path
        ⟨extraction.moduleIri path, Property.parentNamespace, .iri (extraction.moduleIri outer)⟩

theorem nesting_mem_moduleNode_iff {triple : Triple} (nesting : triple.isNesting) (path : String)
    (item : Item) :
    .triple triple ∈ extraction.moduleNode path item ↔ extraction.Nests path triple := by
  constructor
  · intro member
    unfold moduleNode at member
    rcases List.mem_append.mp member with own | parent
    · rcases List.mem_cons.mp own with same | rest
      · exact absurd (List.mem_singleton.mpr same) (not_mem_of_flat (by simp) nesting)
      · rcases List.mem_cons.mp rest with same | others
        · rw [Step.triple.inj same]
          exact .isNamespace
        · exact absurd others (not_mem_of_flat (by simp) nesting)
    · split at parent
      · next outer isParent =>
          rw [Step.triple.inj (List.mem_singleton.mp parent)]
          exact .parent isParent
      · cases parent
  · intro nests
    cases nests with
    | isNamespace => simp [moduleNode, Step.iri]
    | parent isParent => simp [moduleNode, isParent, Step.iri]

/-- A run states of namespaces what it states in describing the modules that it declares. -/
theorem nesting_mem_triples_iff {triple : Triple} (nesting : triple.isNesting) :
    triple ∈ extraction.triples ↔
      ∃ path ∈ extraction.outcome.modules, extraction.Nests path triple := by
  have notStub : ∀ iri name, triple ∉ Progress.stubNode iri name := by
    intro iri name member
    simp only [Progress.stubNode, List.mem_cons, List.not_mem_nil, or_false] at member
    rcases member with rfl | rfl
    · simp at nesting
    · simp at nesting
  rw [extraction.mem_triples_iff notStub]
  constructor
  · intro describing
    rcases describing with ⟨steps, describes, own⟩
    -- All descriptions but those of modules are flat.
    cases describes with
    | @module path item first =>
        refine ⟨path, ?_, (extraction.nesting_mem_moduleNode_iff nesting path item).mp own⟩
        exact (extraction.declares_run_iff (.module path)).mpr
          ⟨_, List.mem_of_find?_eq_some first, rfl⟩
    | dependency listed => exact absurd own (not_mem_of_flat (by simp [listed]) nesting)
    | type declares => exact absurd own (not_mem_of_flat (by simp [declares.named]) nesting)
    | crate | function | constant | static | implementation =>
        exact absurd own (not_mem_of_flat (by simp) nesting)
  · intro nested
    rcases nested with ⟨path, declared, nests⟩
    rcases extraction.exists_firstModule declared with ⟨item, first⟩
    exact ⟨_, .module first, (extraction.nesting_mem_moduleNode_iff nesting path item).mpr nests⟩

end Extraction

end CrateGraph
