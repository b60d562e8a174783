import CrateGraph.Proofs.Extraction.CoveredDescriptions
import CrateGraph.Proofs.Iri.MintedAddresses
import CrateGraph.Proofs.Ontology.DistinctTerms

/-!
The addresses and the vocabulary of descriptions.

Whatever a description says, it says of an address, by a property that the flags let it use, and it
leads to an address, to a class or to a value.
-/

namespace CrateGraph

open Rdf (Triple)
open Ontology

/-! ### The vocabulary -/

/-- The properties that no flag switches off. -/
def plainProperties : List String :=
  [Property.type, Property.name, Property.fullName, Property.accessibility, Property.isAbstract,
    Property.isGeneric, Property.definedInAssembly, Property.inNamespace, Property.implements,
    Property.hasMember, Property.hasTypeParameter, Property.relatedTo, Property.isAsync,
    Property.isConst, Property.memberOf, Property.returnType, Property.fieldType,
    Property.hasParameter, Property.ordinal, Property.parameterType, Property.parameterOf,
    Property.typeParameterOf, Property.version, Property.language, Property.parentNamespace,
    Property.dependsOn, Property.superTrait, Property.implementationFor,
    Property.implementedTrait, Property.hasVariant, Property.variantKind, Property.variantField,
    Property.hasLifetime, Property.isUnsafe, Property.isMutable, Property.traitBound]

/-- The flags let descriptions use the property. -/
def ExtractionFlags.Uses (flags : ExtractionFlags) (property : String) : Prop :=
  property ∈ plainProperties ∨
    (property = Property.hasAttribute ∧ flags.includeAttributes) ∨
    (property = Property.errorType ∧ flags.extractErrorTypes) ∨
    (property = Property.derives ∧ flags.extractDerives)

@[simp] theorem uses_plainProperties (flags : ExtractionFlags) :
    flags.Uses Property.type ∧ flags.Uses Property.name ∧ flags.Uses Property.fullName ∧
      flags.Uses Property.accessibility ∧ flags.Uses Property.isAbstract ∧
      flags.Uses Property.isGeneric ∧ flags.Uses Property.definedInAssembly ∧
      flags.Uses Property.inNamespace ∧ flags.Uses Property.implements ∧
      flags.Uses Property.hasMember ∧ flags.Uses Property.hasTypeParameter ∧
      flags.Uses Property.relatedTo ∧ flags.Uses Property.isAsync ∧ flags.Uses Property.isConst ∧
      flags.Uses Property.memberOf ∧ flags.Uses Property.returnType ∧
      flags.Uses Property.fieldType ∧ flags.Uses Property.hasParameter ∧
      flags.Uses Property.ordinal ∧ flags.Uses Property.parameterType ∧
      flags.Uses Property.parameterOf ∧ flags.Uses Property.typeParameterOf ∧
      flags.Uses Property.version ∧ flags.Uses Property.language ∧
      flags.Uses Property.parentNamespace ∧ flags.Uses Property.dependsOn ∧
      flags.Uses Property.superTrait ∧ flags.Uses Property.implementationFor ∧
      flags.Uses Property.implementedTrait ∧ flags.Uses Property.hasVariant ∧
      flags.Uses Property.variantKind ∧ flags.Uses Property.variantField ∧
      flags.Uses Property.hasLifetime ∧ flags.Uses Property.isUnsafe ∧
      flags.Uses Property.isMutable ∧ flags.Uses Property.traitBound := by
  simp [ExtractionFlags.Uses, plainProperties]

def classTerms : List String :=
  [Class.assembly, Class.container, Class.type, Class.struct, Class.interface, Class.enum,
    Class.member, Class.method, Class.field, Class.parameter, Class.typeParameter, Class.crate,
    Class.module, Class.trait, Class.union, Class.typeAlias, Class.enumVariant,
    Class.traitImplementation, Class.inherentImplementation, Class.lifetime,
    Class.constParameter, Class.static, Class.constant]

/-- What a triple leads to if it leads neither to an address nor to a plain text. -/
def objectTerms : List String :=
  classTerms ++ [Rdf.xsdBoolean, Rdf.xsdInteger]

@[simp] theorem mem_objectTerms :
    Class.assembly ∈ objectTerms ∧ Class.container ∈ objectTerms ∧ Class.type ∈ objectTerms ∧
      Class.struct ∈ objectTerms ∧ Class.interface ∈ objectTerms ∧ Class.enum ∈ objectTerms ∧
      Class.member ∈ objectTerms ∧ Class.method ∈ objectTerms ∧ Class.field ∈ objectTerms ∧
      Class.parameter ∈ objectTerms ∧ Class.typeParameter ∈ objectTerms ∧
      Class.crate ∈ objectTerms ∧ Class.module ∈ objectTerms ∧ Class.trait ∈ objectTerms ∧
      Class.union ∈ objectTerms ∧ Class.typeAlias ∈ objectTerms ∧
      Class.enumVariant ∈ objectTerms ∧ Class.traitImplementation ∈ objectTerms ∧
      Class.inherentImplementation ∈ objectTerms ∧ Class.lifetime ∈ objectTerms ∧
      Class.constParameter ∈ objectTerms ∧ Class.static ∈ objectTerms ∧
      Class.constant ∈ objectTerms ∧ Rdf.xsdBoolean ∈ objectTerms ∧
      Rdf.xsdInteger ∈ objectTerms := by
  simp [objectTerms, classTerms]

namespace Extraction

variable (extraction : Extraction)

/-! ### Addresses -/

def IsMinted (iri : String) : Prop :=
  ∃ texts, Iri.Minted extraction.minter texts iri

@[simp] theorem isMinted_crateIri : extraction.IsMinted extraction.crateIri :=
  ⟨_, .crate _ _⟩

@[simp] theorem isMinted_crate (name version : String) :
    extraction.IsMinted (extraction.minter.crate name version) :=
  ⟨_, .crate _ _⟩

@[simp] theorem isMinted_moduleIri (path : String) :
    extraction.IsMinted (extraction.moduleIri path) :=
  ⟨_, .module _ _ _⟩

@[simp] theorem isMinted_typeIri (path : String) : extraction.IsMinted (extraction.typeIri path) :=
  ⟨_, .type _ _ _⟩

@[simp] theorem isMinted_referenceIri (reference : PathReference) :
    extraction.IsMinted (extraction.referenceIri reference) :=
  ⟨_, .type _ _ _⟩

@[simp] theorem isMinted_implementationIri (id : ItemId) :
    extraction.IsMinted (extraction.implementationIri id) :=
  ⟨_, .implementation _ _ _⟩

theorem isMinted_of_typeIri? {type : RustType} {iri : String}
    (resolves : extraction.typeIri? type = some iri) : extraction.IsMinted iri := by
  cases type with
  | path => exact Option.some.inj resolves ▸ ⟨_, .type _ _ _⟩
  | primitive => exact Option.some.inj resolves ▸ ⟨_, .primitiveType _⟩
  | tuple => exact Option.some.inj resolves ▸ ⟨_, .tupleType _⟩
  | slice => exact Option.some.inj resolves ▸ ⟨_, .sliceType _⟩
  | array => exact Option.some.inj resolves ▸ ⟨_, .arrayType _ _⟩
  | rawPointer => exact Option.some.inj resolves ▸ ⟨_, .pointerType _ _⟩
  | borrowed => exact Option.some.inj resolves ▸ ⟨_, .referenceType _ _⟩
  | functionPointer | qualified | implTrait | dynTrait | infer | generic | unknown =>
      cases resolves

variable {extraction}

namespace IsMinted

variable {owner : String} (minted : extraction.IsMinted owner)
include minted

theorem member (name : String) : extraction.IsMinted (Iri.member owner name "") :=
  minted.imp' _ fun _ ofTexts => ofTexts.member name ""

theorem parameter (ordinal : Nat) : extraction.IsMinted (Iri.parameter owner ordinal) :=
  minted.imp fun _ ofTexts => ofTexts.parameter ordinal

theorem typeParameter (ordinal : Nat) : extraction.IsMinted (Iri.typeParameter owner ordinal) :=
  minted.imp fun _ ofTexts => ofTexts.typeParameter ordinal

theorem lifetime (name : String) : extraction.IsMinted (Iri.lifetime owner name) :=
  minted.imp' _ fun _ ofTexts => ofTexts.lifetime name

theorem variant (name : String) : extraction.IsMinted (Iri.variant owner name) :=
  minted.imp' _ fun _ ofTexts => ofTexts.variant name

end IsMinted

/-! ### Well-addressed descriptions -/

variable (extraction)

/-- The triple is about an address, by a property that the flags let descriptions use, and leads to
nothing but addresses and terms of the vocabulary. -/
structure AddressedTriple (triple : Triple) : Prop where
  subject : extraction.IsMinted triple.subject
  property : extraction.options.Uses triple.predicate
  object : ∀ iri ∈ triple.object.iris, extraction.IsMinted iri ∨ iri ∈ objectTerms

/-- Addresses, and the vocabulary as far as the flags let descriptions use it. -/
def addressLexicon : Lexicon where
  topic
    | .classOf nodeClass => nodeClass ∈ objectTerms
    | .edge property | .text property | .value property => extraction.options.Uses property
    | .function => True
  node := extraction.IsMinted
  target := extraction.IsMinted
  mention := extraction.IsMinted
  word _ := True
  value _ datatype := datatype ∈ objectTerms

variable {extraction}

theorem addressedTriple_of_covers {step : Step} (covers : extraction.addressLexicon.Covers step)
    {triple : Triple} (written : triple ∈ Progress.mayWrite step) :
    extraction.AddressedTriple triple := by
  cases covers with
  | classOf known isTerm =>
      rw [List.mem_singleton.mp written]
      exact ⟨known, (uses_plainProperties _).1, List.forall_mem_singleton.mpr (Or.inr isTerm)⟩
  | edge known uses reached =>
      rw [List.mem_singleton.mp written]
      exact ⟨known, uses, List.forall_mem_singleton.mpr (Or.inl reached)⟩
  | text known uses =>
      rw [List.mem_singleton.mp written]
      exact ⟨known, uses, List.forall_mem_nil _⟩
  | value known uses isTerm =>
      rw [List.mem_singleton.mp written]
      exact ⟨known, uses, List.forall_mem_singleton.mpr (Or.inr isTerm)⟩
  | mention known =>
      simp only [Progress.mayWrite, Progress.stubNode, List.mem_cons, List.not_mem_nil,
        or_false] at written
      rcases written with rfl | rfl
      · exact ⟨known, by simp, by simp [Rdf.Term.iris]⟩
      · exact ⟨known, by simp, by simp [Rdf.Term.iris]⟩
  | countFunction | countUnresolved => cases written

theorem suits_addressLexicon : extraction.addressLexicon.Suits extraction where
  node known := known
  type := extraction.isMinted_of_typeIri?
  reference reference := ⟨extraction.isMinted_referenceIri reference,
    extraction.isMinted_referenceIri reference⟩
  truth := show Rdf.xsdBoolean ∈ objectTerms by simp
  numbers _ := show Rdf.xsdInteger ∈ objectTerms by simp

theorem knowsNodes_addressLexicon : extraction.addressLexicon.KnowsNodes extraction where
  crate := extraction.isMinted_crate
  module := extraction.isMinted_moduleIri
  type := extraction.isMinted_typeIri
  implementation := extraction.isMinted_implementationIri
  resolved := extraction.isMinted_of_typeIri?
  member := IsMinted.member
  parameter := IsMinted.parameter
  typeParameter := IsMinted.typeParameter
  lifetime := IsMinted.lifetime
  variant := IsMinted.variant

theorem knowsWords_addressLexicon : extraction.addressLexicon.KnowsWords extraction where
  own _ _ := trivial
  extendPath _ _ := trivial
  item _ _ _ := trivial
  version := trivial
  dependency _ := trivial

/-- The flags let descriptions use the properties that they ask the flags for. -/
theorem allows_addressLexicon : extraction.addressLexicon.Allows extraction.topics := by
  have attributes : extraction.addressLexicon.Allows extraction.attributeTopics := by
    unfold attributeTopics
    split
    · next included => simp [addressLexicon, ExtractionFlags.Uses, included]
    · exact Lexicon.allows_nil
  have errors : extraction.addressLexicon.Allows extraction.errorTopics := by
    unfold errorTopics
    split
    · next included => simp [addressLexicon, ExtractionFlags.Uses, included]
    · exact Lexicon.allows_nil
  have derives : extraction.addressLexicon.Allows extraction.deriveTopics := by
    unfold deriveTopics
    split
    · next included => simp [addressLexicon, ExtractionFlags.Uses, included]
    · exact Lexicon.allows_nil
  have method : extraction.addressLexicon.Allows extraction.methodTopics := by
    simp only [methodTopics, memberTopics, signatureTopics, genericTopics, parameterTopics,
      Lexicon.allows_append, Lexicon.allows_cons, errors, and_true]
    simp [addressLexicon]
  simp only [topics, crateTopics, moduleTopics, functionTopics, constantTopics, staticTopics,
    typeTopics, headerTopics, fieldTopics, variantTopics, memberTopics, implementationTopics,
    Lexicon.allows_append, Lexicon.allows_cons, attributes, derives, method, and_true]
  simp [addressLexicon]

variable (extraction)

theorem addressedTriple_of_mem_outline {entry : Entry} (member : entry ∈ extraction.outline)
    {step : Step} (inEntry : step ∈ entry.steps) {triple : Triple}
    (written : triple ∈ Progress.mayWrite step) : extraction.AddressedTriple triple :=
  addressedTriple_of_covers (covers_of_mem_outline suits_addressLexicon knowsNodes_addressLexicon
    knowsWords_addressLexicon allows_addressLexicon member step inEntry) written

/-- Everything that a run says is about addresses, in words of the vocabulary. -/
theorem addressedTriple_of_mem_triples {triple : Triple} (stated : triple ∈ extraction.triples) :
    extraction.AddressedTriple triple := by
  rcases List.mem_flatMap.mp (extraction.triples_subset_mayWrite stated) with ⟨step, own, written⟩
  rcases List.mem_flatMap.mp own with ⟨entry, member, inEntry⟩
  exact extraction.addressedTriple_of_mem_outline member inEntry written

end Extraction

end CrateGraph
