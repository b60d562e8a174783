import CrateGraph.Proofs.Extraction.CoveredDescriptions
import CrateGraph.Proofs.Extraction.NodeAddresses
import CrateGraph.Proofs.Extraction.Parts
import CrateGraph.Proofs.Ontology.DistinctTerms

/-!
Descriptions present parts.

A description gives no node the class of a part and states no edge between an owner and what it owns
but to present a part, so that every fact about owners and what they own is one about parts.
-/

namespace CrateGraph

open Iri (Entity Minter)
open Ontology

/-! ### The steps that place nodes -/

/-- The properties between an owner and what it owns, in either direction. -/
def placingProperties : List String :=
  containmentProperties ++ inverseProperties

/-- The classes of nodes that belong to others. -/
def partClasses : List String :=
  [Class.method, Class.field, Class.constant, Class.static, Class.member, Class.enumVariant,
    Class.parameter, Class.typeParameter, Class.constParameter, Class.lifetime]

/-- Does the step give a node the class of a part, or state an edge between it and its owner? -/
def Step.isPlacing : Step → Bool
  | .triple ⟨_, property, .iri target⟩ =>
      property ∈ placingProperties || (property = Property.type && target ∈ partClasses)
  | _ => false

def placings (steps : List Step) : List Step :=
  steps.filter Step.isPlacing

@[simp] theorem mem_placingProperties :
    Property.hasMember ∈ placingProperties ∧ Property.hasParameter ∈ placingProperties ∧
      Property.hasTypeParameter ∈ placingProperties ∧ Property.hasLifetime ∈ placingProperties ∧
      Property.hasVariant ∈ placingProperties ∧ Property.variantField ∈ placingProperties ∧
      Property.memberOf ∈ placingProperties ∧ Property.parameterOf ∈ placingProperties ∧
      Property.typeParameterOf ∈ placingProperties := by
  simp [placingProperties, containmentProperties, inverseProperties]

/-- A property whose edges place no node. -/
def IsLoose (property : String) : Prop :=
  property ≠ Property.type ∧ property ∉ placingProperties

@[simp] theorem isLoose_of_properties :
    IsLoose Property.relatedTo ∧ IsLoose Property.returnType ∧ IsLoose Property.fieldType ∧
      IsLoose Property.parameterType ∧ IsLoose Property.errorType ∧
      IsLoose Property.parentNamespace ∧ IsLoose Property.definedInAssembly ∧
      IsLoose Property.inNamespace ∧ IsLoose Property.dependsOn ∧ IsLoose Property.superTrait ∧
      IsLoose Property.traitBound ∧ IsLoose Property.implementationFor ∧
      IsLoose Property.implementedTrait ∧ IsLoose Property.implements := by
  simp [IsLoose, placingProperties, containmentProperties, inverseProperties, Property.relatedTo,
    Property.returnType, Property.fieldType, Property.parameterType, Property.errorType,
    Property.parentNamespace, Property.definedInAssembly, Property.inNamespace,
    Property.dependsOn, Property.superTrait, Property.traitBound, Property.implementationFor,
    Property.implementedTrait, Property.implements, Property.hasMember, Property.memberOf,
    Property.hasParameter, Property.parameterOf, Property.hasTypeParameter,
    Property.typeParameterOf, Property.hasLifetime, Property.hasVariant, Property.variantField]

@[simp] theorem mem_partClasses :
    Class.method ∈ partClasses ∧ Class.field ∈ partClasses ∧ Class.constant ∈ partClasses ∧
      Class.static ∈ partClasses ∧ Class.member ∈ partClasses ∧ Class.enumVariant ∈ partClasses ∧
      Class.parameter ∈ partClasses ∧ Class.typeParameter ∈ partClasses ∧
      Class.constParameter ∈ partClasses ∧ Class.lifetime ∈ partClasses := by
  simp [partClasses]

@[simp] theorem not_mem_partClasses :
    Class.assembly ∉ partClasses ∧ Class.container ∉ partClasses ∧ Class.type ∉ partClasses ∧
      Class.struct ∉ partClasses ∧ Class.interface ∉ partClasses ∧ Class.enum ∉ partClasses ∧
      Class.crate ∉ partClasses ∧ Class.module ∉ partClasses ∧ Class.trait ∉ partClasses ∧
      Class.union ∉ partClasses ∧ Class.typeAlias ∉ partClasses ∧
      Class.traitImplementation ∉ partClasses ∧ Class.inherentImplementation ∉ partClasses := by
  simp [partClasses, Class.method, Class.field, Class.constant, Class.static, Class.member,
    Class.enumVariant, Class.parameter, Class.typeParameter, Class.constParameter,
    Class.lifetime, Class.assembly, Class.container, Class.type, Class.struct, Class.interface,
    Class.enum, Class.crate, Class.module, Class.trait, Class.union, Class.typeAlias,
    Class.traitImplementation, Class.inherentImplementation]

namespace Step

@[simp] theorem isPlacing_literal (subject property value : String) :
    (literal subject property value).isPlacing = false :=
  rfl

@[simp] theorem isPlacing_bool (subject property : String) (value : Bool) :
    (bool subject property value).isPlacing = false :=
  rfl

@[simp] theorem isPlacing_int (subject property : String) (value : Int) :
    (int subject property value).isPlacing = false :=
  rfl

@[simp] theorem isPlacing_countFunction : countFunction.isPlacing = false :=
  rfl

@[simp] theorem isPlacing_type (node nodeClass : String) :
    (iri node Property.type nodeClass).isPlacing = decide (nodeClass ∈ partClasses) := by
  simp [iri, isPlacing, placingProperties, containmentProperties, inverseProperties,
    Property.hasMember, Property.memberOf, Property.hasParameter, Property.parameterOf,
    Property.hasTypeParameter, Property.typeParameterOf, Property.hasLifetime,
    Property.hasVariant, Property.variantField]

@[simp] theorem isPlacing_edge {property : String} (places : property ∈ placingProperties)
    (subject target : String) : (iri subject property target).isPlacing = true := by
  simp [iri, isPlacing, places]

@[simp] theorem isPlacing_loose {property : String} (loose : IsLoose property)
    (subject target : String) : (iri subject property target).isPlacing = false := by
  simp [iri, isPlacing, loose.1, loose.2]

end Step

@[simp] theorem placings_cons (step : Step) (rest : List Step) :
    placings (step :: rest) = if step.isPlacing then step :: placings rest else placings rest :=
  List.filter_cons

@[simp] theorem placings_append (left right : List Step) :
    placings (left ++ right) = placings left ++ placings right :=
  List.filter_append left right

/-! ### Descriptions that present no part -/

/-- Steps with such a topic place no node. -/
@[simp] def Topic.PlacesNothing : Topic → Prop
  | .classOf nodeClass => nodeClass ∉ partClasses
  | .edge property => IsLoose property
  | .text _ | .value _ | .function => True

open Lexicon

@[simp] theorem placings_eq_nil {steps : List Step}
    (covers : (ofTopics Topic.PlacesNothing).CoversAll steps) : placings steps = [] := by
  rw [placings, List.filter_eq_nil_iff]
  intro step member
  rw [Bool.not_eq_true]
  cases covers step member with
  | classOf _ other => exact (Step.isPlacing_type _ _).trans (decide_eq_false other)
  | edge _ loose => exact Step.isPlacing_loose loose _ _
  | text | value | mention | countFunction | countUnresolved => rfl

@[simp] theorem allows_placesNothing :
    (ofTopics Topic.PlacesNothing).Allows Extraction.crateTopics ∧
      (ofTopics Topic.PlacesNothing).Allows Extraction.moduleTopics := by
  simp [Extraction.crateTopics, Extraction.moduleTopics]

@[simp] theorem allows_placesNothing_of_flags (extraction : Extraction) :
    (ofTopics Topic.PlacesNothing).Allows extraction.attributeTopics ∧
      (ofTopics Topic.PlacesNothing).Allows extraction.errorTopics ∧
      (ofTopics Topic.PlacesNothing).Allows extraction.deriveTopics ∧
      (ofTopics Topic.PlacesNothing).Allows extraction.headerTopics := by
  have attributes : (ofTopics Topic.PlacesNothing).Allows extraction.attributeTopics :=
    allows_attributeTopics trivial
  exact ⟨attributes, allows_errorTopics (by simp), allows_deriveTopics trivial,
    by simp [Extraction.headerTopics, attributes]⟩

namespace Extraction

variable (extraction : Extraction)

/-! ### Arranged descriptions -/

/-- What the steps place are parts of the owner, and parts of these. -/
def Arranged (owner : Entity) (steps : List Step) : Prop :=
  Arrangement extraction.minter owner (placings steps)

variable {extraction} {owner : Entity}

namespace Arranged

theorem of_loose {steps : List Step} (loose : placings steps = []) :
    extraction.Arranged owner steps := by
  rw [Arranged, loose]
  exact .empty owner

theorem append {left right : List Step} (first : extraction.Arranged owner left)
    (second : extraction.Arranged owner right) : extraction.Arranged owner (left ++ right) := by
  rw [Arranged, placings_append]
  exact Arrangement.append first second

theorem flatMap {Source : Type} {describe : Source → List Step}
    (each : ∀ source, extraction.Arranged owner (describe source)) (sources : List Source) :
    extraction.Arranged owner (sources.flatMap describe) := by
  induction sources with
  | nil => exact of_loose rfl
  | cons source rest induction =>
      rw [List.flatMap_cons]
      exact (each source).append induction

/-- The first steps present a part, all others parts of it. -/
theorem part (part : Part) {head inner : List Step} (fits : part.Fits owner)
    (presents : placings head = part.steps extraction.minter owner)
    (inside : extraction.Arranged (part.entity owner) inner) :
    extraction.Arranged owner (head ++ inner) := by
  rw [Arranged, placings_append, presents]
  exact Arrangement.part part fits inside

end Arranged

end Extraction

end CrateGraph
