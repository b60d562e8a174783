import CrateGraph.Proofs.Extraction.CarriedOut
import CrateGraph.Proofs.Extraction.Marks

/-!
The edges between owners and members in what is said of an implementation.

Functions have parameters, generics and bounds of their own, but what leads to these are edges of
other kinds. So each listed item is an end of at most one edge in each direction, and the other end
is the one owner of the implementation's members.
-/

namespace CrateGraph

open Rdf (Triple)
open Ontology

def memberProperties : List String :=
  [Property.hasMember, Property.memberOf]

/-- Does the triple say that something is a member? -/
def Rdf.Triple.isMemberEdge (triple : Triple) : Bool :=
  triple.predicate ∈ memberProperties

/-- The triple says that the node has a member or that something is a member of it. -/
inductive Rdf.Triple.IsMemberEdgeOf (owner : String) : Triple → Prop
  | hasMember (member : Rdf.Term) : IsMemberEdgeOf owner ⟨owner, Property.hasMember, member⟩
  | memberOf (member : String) : IsMemberEdgeOf owner ⟨member, Property.memberOf, .iri owner⟩

theorem Rdf.Triple.IsMemberEdgeOf.isMemberEdge {triple : Triple} {owner : String}
    (edge : triple.IsMemberEdgeOf owner) : triple.isMemberEdge := by
  cases edge <;> simp [Triple.isMemberEdge, memberProperties]

/-- An edge has one owner. -/
theorem Rdf.Triple.IsMemberEdgeOf.owner_eq {triple : Triple} {owner other : String}
    (edge : triple.IsMemberEdgeOf owner) (again : triple.IsMemberEdgeOf other) :
    owner = other := by
  have apart : Property.hasMember ≠ Property.memberOf := by
    simp [Property.hasMember, Property.memberOf]
  generalize same : triple = copy at again
  cases edge with
  | hasMember member =>
      cases again with
      | hasMember => exact congrArg Triple.subject same
      | memberOf => exact absurd (congrArg Triple.predicate same) apart
  | memberOf member =>
      cases again with
      | hasMember => exact absurd (congrArg Triple.predicate same) apart.symm
      | memberOf => exact Rdf.Term.iri.inj (congrArg Triple.object same)

def Step.memberEdge? (step : Step) : Option Triple :=
  step.triple?.filter Triple.isMemberEdge

def memberEdges (steps : List Step) : List Triple :=
  steps.filterMap Step.memberEdge?

theorem memberEdges_eq_filter (steps : List Step) :
    memberEdges steps = (steps.filterMap Step.triple?).filter Triple.isMemberEdge := by
  rw [List.filter_filterMap]
  rfl

@[simp] theorem not_mem_memberProperties :
    Property.type ∉ memberProperties ∧ Property.name ∉ memberProperties ∧
      Property.accessibility ∉ memberProperties ∧ Property.ordinal ∉ memberProperties ∧
      Property.isGeneric ∉ memberProperties ∧ Property.isUnsafe ∉ memberProperties ∧
      Property.isAsync ∉ memberProperties ∧ Property.isConst ∉ memberProperties ∧
      Property.isAbstract ∉ memberProperties ∧ Property.hasTypeParameter ∉ memberProperties ∧
      Property.typeParameterOf ∉ memberProperties ∧ Property.hasLifetime ∉ memberProperties ∧
      Property.hasParameter ∉ memberProperties ∧ Property.parameterOf ∉ memberProperties ∧
      Property.parameterType ∉ memberProperties ∧ Property.returnType ∉ memberProperties ∧
      Property.errorType ∉ memberProperties ∧ Property.traitBound ∉ memberProperties ∧
      Property.implementationFor ∉ memberProperties ∧
      Property.implementedTrait ∉ memberProperties ∧ Property.implements ∉ memberProperties := by
  simp [memberProperties, Property.hasMember, Property.memberOf, Property.name,
    Property.accessibility, Property.ordinal, Property.isGeneric, Property.isUnsafe,
    Property.isAsync, Property.isConst, Property.isAbstract, Property.hasTypeParameter,
    Property.typeParameterOf, Property.hasLifetime, Property.hasParameter, Property.parameterOf,
    Property.parameterType, Property.returnType, Property.errorType, Property.traitBound,
    Property.implementationFor, Property.implementedTrait, Property.implements]

namespace Step

theorem memberEdge?_other {triple : Triple} (other : triple.predicate ∉ memberProperties) :
    (Step.triple triple).memberEdge? = none := by
  simp [memberEdge?, triple?, Triple.isMemberEdge, other]

@[simp] theorem memberEdge?_iri {predicate : String} (other : predicate ∉ memberProperties)
    (subject object : String) : (iri subject predicate object).memberEdge? = none :=
  memberEdge?_other other

@[simp] theorem memberEdge?_literal {predicate : String} (other : predicate ∉ memberProperties)
    (subject value : String) : (literal subject predicate value).memberEdge? = none :=
  memberEdge?_other other

end Step

@[simp] theorem Step.memberEdge?_hasMember (owner member : String) :
    (iri owner Property.hasMember member).memberEdge? =
      some ⟨owner, Property.hasMember, .iri member⟩ := by
  simp [iri, memberEdge?, triple?, Triple.isMemberEdge, memberProperties]

@[simp] theorem Step.memberEdge?_memberOf (member owner : String) :
    (iri member Property.memberOf owner).memberEdge? =
      some ⟨member, Property.memberOf, .iri owner⟩ := by
  simp [iri, memberEdge?, triple?, Triple.isMemberEdge, memberProperties]

@[simp] theorem Step.memberEdge?_mention (iri name : String) :
    (mention iri name).memberEdge? = none :=
  rfl

@[simp] theorem Step.memberEdge?_countFunction : countFunction.memberEdge? = none :=
  rfl

@[simp] theorem memberEdges_nil : memberEdges [] = [] :=
  rfl

@[simp] theorem memberEdges_cons (step : Step) (rest : List Step) :
    memberEdges (step :: rest) = step.memberEdge?.toList ++ memberEdges rest := by
  cases edge : step.memberEdge? <;> simp [memberEdges, edge]

theorem memberEdges_flatMap {Source : Type} (sources : List Source)
    (describe : Source → List Step) :
    memberEdges (sources.flatMap describe) =
      sources.flatMap fun source => memberEdges (describe source) :=
  List.filterMap_flatMap

/-! ### Descriptions without members -/

/-- A step with such a topic states no member edge. -/
@[simp] def Topic.IsMemberless : Topic → Prop
  | .edge property | .text property | .value property => property ∉ memberProperties
  | .classOf _ | .function => True

open Lexicon

theorem Step.memberEdge?_eq_none {step : Step}
    (covers : (ofTopics Topic.IsMemberless).Covers step) : step.memberEdge? = none := by
  cases covers with
  | classOf => exact memberEdge?_other (by simp)
  | edge _ other => exact memberEdge?_other other
  | text _ other => exact memberEdge?_other other
  | value _ other => exact memberEdge?_other other
  | mention | countFunction | countUnresolved => rfl

@[simp] theorem memberEdges_eq_nil {steps : List Step}
    (covers : (ofTopics Topic.IsMemberless).CoversAll steps) : memberEdges steps = [] :=
  List.filterMap_eq_nil_iff.mpr fun step member => Step.memberEdge?_eq_none (covers step member)

@[simp] theorem allows_isMemberless :
    (ofTopics Topic.IsMemberless).Allows Extraction.signatureTopics := by
  simp [Extraction.signatureTopics, Extraction.genericTopics, Extraction.parameterTopics]

@[simp] theorem allows_isMemberless_of_flags (extraction : Extraction) :
    (ofTopics Topic.IsMemberless).Allows extraction.errorTopics :=
  allows_errorTopics (by simp)

/-- Nodes of merely mentioned types have no members. -/
theorem skipsStubs_memberEdge :
    Progress.SkipsStubs (Option.guard (Triple.isMemberEdge ·)) := by
  intro iri name
  simp [Progress.stubNode, Triple.isMemberEdge]

namespace Extraction

variable (extraction : Extraction)

/-! ### Implementations -/

/-- The edges that make an item a member of the owner: both ways for a function and one way for an
associated type or constant, if it has a name. -/
def edgesOfMember (owner : String) (item : Item) : List Triple :=
  match item.properName? with
  | none => []
  | some name =>
      let member := Iri.member owner name ""
      match item.body with
      | .function _ =>
          [⟨owner, Property.hasMember, .iri member⟩, ⟨member, Property.memberOf, .iri owner⟩]
      | .associatedType _ | .associatedConstant _ =>
          [⟨owner, Property.hasMember, .iri member⟩]
      | _ => []

def edgesOfMembers (owner : String) (listed : List ItemId) : List Triple :=
  listed.flatMap fun id => (extraction.item? id).toList.flatMap (edgesOfMember owner)

theorem isMemberEdgeOf_of_mem_edgesOfMember {owner : String} {item : Item} {triple : Triple}
    (member : triple ∈ edgesOfMember owner item) : triple.IsMemberEdgeOf owner := by
  rw [edgesOfMember] at member
  split at member
  · cases member
  · split at member
    · simp only [List.mem_cons, List.not_mem_nil, or_false] at member
      rcases member with rfl | rfl
      · exact .hasMember _
      · exact .memberOf _
    · rw [List.mem_singleton.mp member]
      exact .hasMember _
    · rw [List.mem_singleton.mp member]
      exact .hasMember _
    · cases member

theorem memberEdges_implementationMember (owner : String) (id : ItemId) :
    memberEdges (extraction.implementationMember owner id) =
      (extraction.item? id).toList.flatMap (edgesOfMember owner) := by
  cases found : extraction.item? id with
  | none => simp [implementationMember, found]
  | some item =>
      cases named : item.properName? with
      | none =>
          cases shape : item.body
          all_goals
            simp [implementationMember, method, edgesOfMember, found, shape, named]
      | some name =>
          cases shape : item.body
          all_goals
            simp [implementationMember, method, edgesOfMember, found, shape, named,
              memberHeader]

/-- All members of an implementation have the same owner. -/
theorem memberEdges_implementationNode (id : ItemId) (target : String)
    (body : ImplementationBody) :
    memberEdges (extraction.implementationNode id target body) =
      extraction.edgesOfMembers (extraction.memberOwner id target body) body.items := by
  have members : ∀ owner, memberEdges (body.items.flatMap (extraction.implementationMember owner)) =
      extraction.edgesOfMembers owner body.items := by
    intro owner
    rw [memberEdges_flatMap, edgesOfMembers]
    simp only [memberEdges_implementationMember]
  rw [implementationNode, memberOwner]
  cases body.trait <;> simp [members]

end Extraction

end CrateGraph
