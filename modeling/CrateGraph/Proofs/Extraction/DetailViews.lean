import CrateGraph.Proofs.Extraction.CoveredDescriptions
import CrateGraph.Proofs.Extraction.StepViews
import CrateGraph.Proofs.Extraction.TypePlaces

/-!
Where bounds of type parameters and derived traits are stated.

Bounds are stated along with the generics of a type or a function, and derived traits at the end of
what is said of a struct or an enum. A view that shows such statements alone is blank wherever else
a description speaks. So what it shows of a whole run comes from these two places.
-/

namespace CrateGraph

open Rdf (Term Triple)
open Ontology

/-- The properties for the bounds of type parameters and for derived traits. -/
def detailProperties : List String :=
  [Property.traitBound, Property.derives]

@[simp] theorem not_mem_detailProperties :
    Property.type ∉ detailProperties ∧ Property.name ∉ detailProperties ∧
      Property.fullName ∉ detailProperties ∧ Property.accessibility ∉ detailProperties ∧
      Property.isAbstract ∉ detailProperties ∧ Property.isGeneric ∉ detailProperties ∧
      Property.definedInAssembly ∉ detailProperties ∧ Property.inNamespace ∉ detailProperties ∧
      Property.implements ∉ detailProperties ∧ Property.hasMember ∉ detailProperties ∧
      Property.hasAttribute ∉ detailProperties ∧ Property.relatedTo ∉ detailProperties ∧
      Property.isAsync ∉ detailProperties ∧ Property.isConst ∉ detailProperties ∧
      Property.memberOf ∉ detailProperties ∧ Property.returnType ∉ detailProperties ∧
      Property.fieldType ∉ detailProperties ∧ Property.hasParameter ∉ detailProperties ∧
      Property.ordinal ∉ detailProperties ∧ Property.parameterType ∉ detailProperties ∧
      Property.parameterOf ∉ detailProperties ∧ Property.version ∉ detailProperties ∧
      Property.language ∉ detailProperties ∧ Property.parentNamespace ∉ detailProperties ∧
      Property.dependsOn ∉ detailProperties ∧ Property.superTrait ∉ detailProperties ∧
      Property.implementationFor ∉ detailProperties ∧
      Property.implementedTrait ∉ detailProperties ∧ Property.hasVariant ∉ detailProperties ∧
      Property.variantKind ∉ detailProperties ∧ Property.variantField ∉ detailProperties ∧
      Property.isUnsafe ∉ detailProperties ∧ Property.isMutable ∉ detailProperties ∧
      Property.errorType ∉ detailProperties ∧ Property.hasTypeParameter ∉ detailProperties ∧
      Property.typeParameterOf ∉ detailProperties ∧ Property.hasLifetime ∉ detailProperties := by
  simp [detailProperties, Property.traitBound, Property.derives, Property.name,
    Property.fullName, Property.accessibility, Property.isAbstract, Property.isGeneric,
    Property.definedInAssembly, Property.inNamespace, Property.implements, Property.hasMember,
    Property.hasAttribute, Property.relatedTo, Property.isAsync, Property.isConst,
    Property.memberOf, Property.returnType, Property.fieldType, Property.hasParameter,
    Property.ordinal, Property.parameterType, Property.parameterOf, Property.version,
    Property.language, Property.parentNamespace, Property.dependsOn, Property.superTrait,
    Property.implementationFor, Property.implementedTrait, Property.hasVariant,
    Property.variantKind, Property.variantField, Property.isUnsafe, Property.isMutable,
    Property.errorType, Property.hasTypeParameter, Property.typeParameterOf, Property.hasLifetime]

@[simp] theorem mem_detailProperties :
    Property.traitBound ∈ detailProperties ∧ Property.derives ∈ detailProperties := by
  simp [detailProperties]

/-- Nothing but bounds of type parameters and derived traits comes into the view. -/
def ShowsDetails {View : Type} (view : Triple → Option View) : Prop :=
  ∀ subject predicate object, predicate ∉ detailProperties →
    view ⟨subject, predicate, object⟩ = none

/-- The object of a triple that says something of the node by the property. -/
def object? (node property : String) : Triple → Option Term
  | ⟨subject, predicate, object⟩ =>
      if subject = node ∧ predicate = property then some object else none

/-- What some triples say of the node by the property, in order. -/
def objects (node property : String) (triples : List Triple) : List Term :=
  triples.filterMap (object? node property)

theorem mem_objects_iff (node property : String) (triples : List Triple) (object : Term) :
    object ∈ objects node property triples ↔ ⟨node, property, object⟩ ∈ triples := by
  rw [objects, List.mem_filterMap]
  constructor
  · intro saying
    rcases saying with ⟨⟨subject, predicate, other⟩, member, equal⟩
    simp only [object?, Option.ite_none_right_eq_some, Option.some.injEq] at equal
    rcases equal with ⟨⟨rfl, rfl⟩, rfl⟩
    exact member
  · exact fun member => ⟨_, member, if_pos ⟨rfl, rfl⟩⟩

theorem showsDetails_object? {property : String} (isDetail : property ∈ detailProperties)
    (node : String) : ShowsDetails (object? node property) := by
  intro subject predicate object other
  refine if_neg fun same => other ?_
  rw [same.2]
  exact isDetail

namespace Extraction

variable (extraction : Extraction)

def listedImplementations : ItemBody → List ItemId
  | .struct body => body.implementations
  | .enum body => body.implementations
  | _ => []

/-- The trait of an implementation that counts as derived. -/
def derivedTrait? (counts : Item → Bool) (item : Item) : Option PathReference :=
  match item.body with
  | .implementation body => if counts item then body.trait else none
  | _ => none

/-- The traits of the listed implementations that the index has and that count as derived. -/
def derivedTraits (counts : Item → Bool) (listed : List ItemId) : List PathReference :=
  listed.filterMap fun id => (extraction.item? id).bind (derivedTrait? counts)

theorem derives_eq_map (type : String) (listed : List ItemId) :
    extraction.derives type listed =
      if extraction.options.extractDerives then
        (extraction.derivedTraits Item.isAutomaticallyDerived listed).map fun trait =>
          .literal type Property.derives trait.path
      else [] := by
  rw [derives, derivedTraits, List.map_filterMap, List.filterMap_eq_flatMap_toList]
  congr 2
  funext id
  cases extraction.item? id with
  | none => rfl
  | some item =>
      cases shape : item.body with
      | implementation body =>
          cases ofTrait : body.trait <;> cases derived : item.isAutomaticallyDerived <;>
            simp [derivedTrait?, shape, ofTrait, derived]
      | module | struct | enum | union | trait | typeAlias | variant | function | reexport
      | constant | static | field | macroSource | associatedConstant | associatedType | unknown =>
          simp [derivedTrait?, shape]

theorem inView_derives {View : Type} (view : Triple → Option View) (type : String)
    (listed : List ItemId) :
    inView view (extraction.derives type listed) =
      if extraction.options.extractDerives then
        (extraction.derivedTraits Item.isAutomaticallyDerived listed).filterMap fun trait =>
          view ⟨type, Property.derives, .literal trait.path⟩
      else [] := by
  rw [derives_eq_map]
  split
  · rw [List.map_eq_flatMap, inView_flatMap, List.filterMap_eq_flatMap_toList]
    simp [Step.literal]
  · rfl

theorem derives_nil (type : String) : extraction.derives type [] = [] := by
  simp [derives]

end Extraction

open Lexicon

/-- Steps with such a topic state neither bounds of type parameters nor derived traits. -/
@[simp] def Topic.IsBroad : Topic → Prop
  | .edge property | .text property | .value property => property ∉ detailProperties
  | .classOf _ | .function => True

@[simp] theorem allows_isBroad :
    (ofTopics Topic.IsBroad).Allows Extraction.crateTopics ∧
      (ofTopics Topic.IsBroad).Allows Extraction.moduleTopics ∧
      (ofTopics Topic.IsBroad).Allows Extraction.constantTopics ∧
      (ofTopics Topic.IsBroad).Allows Extraction.staticTopics ∧
      (ofTopics Topic.IsBroad).Allows Extraction.memberTopics ∧
      (ofTopics Topic.IsBroad).Allows Extraction.fieldTopics ∧
      (ofTopics Topic.IsBroad).Allows Extraction.variantTopics ∧
      (ofTopics Topic.IsBroad).Allows Extraction.parameterTopics := by
  simp [Extraction.crateTopics, Extraction.moduleTopics, Extraction.constantTopics,
    Extraction.staticTopics, Extraction.memberTopics, Extraction.fieldTopics,
    Extraction.variantTopics, Extraction.parameterTopics]

@[simp] theorem allows_isBroad_of_flags (extraction : Extraction) :
    (ofTopics Topic.IsBroad).Allows extraction.attributeTopics ∧
      (ofTopics Topic.IsBroad).Allows extraction.errorTopics ∧
      (ofTopics Topic.IsBroad).Allows extraction.headerTopics := by
  have attributes : (ofTopics Topic.IsBroad).Allows extraction.attributeTopics :=
    allows_attributeTopics (by simp)
  exact ⟨attributes, allows_errorTopics (by simp), by simp [Extraction.headerTopics, attributes]⟩

namespace ShowsDetails

open Extraction

variable {View : Type} {view : Triple → Option View} (shows : ShowsDetails view)
include shows

theorem unseen {predicate : String} (other : predicate ∉ detailProperties) (subject : String)
    (object : Term) : view ⟨subject, predicate, object⟩ = none :=
  shows subject predicate object other

theorem skipsStubs : Progress.SkipsStubs view := by
  intro iri name
  simp [Progress.stubNode, shows.unseen]

theorem blank {steps : List Step} (covers : (ofTopics Topic.IsBroad).CoversAll steps) :
    inView view steps = [] := by
  refine inView_eq_nil fun triple stated => ?_
  cases covers _ stated with
  | classOf => exact shows.unseen (by simp) _ _
  | edge _ other => exact shows.unseen other _ _
  | text _ other => exact shows.unseen other _ _
  | value _ other => exact shows.unseen other _ _

variable (extraction : Extraction)

/-! ### Parts of descriptions -/

theorem generics (generics : Generics) (owner : String) :
    inView view (extraction.generics generics owner) =
      inView view (extraction.genericParameters owner 0 generics.parameters) := by
  simp [Extraction.generics, shows.blank]

/-- Of what is said of a generic parameter, the bounds of a type come into the view. -/
theorem genericParameter (owner : String) (ordinal : Nat) (parameter : GenericParameter) :
    inView view (extraction.genericParameter owner ordinal parameter) =
      match parameter.kind with
      | .type bounds _ _ =>
          (boundTraits bounds).filterMap fun trait =>
            view ⟨Iri.typeParameter owner ordinal, Property.traitBound,
              .iri (extraction.referenceIri trait)⟩
      | _ => [] := by
  rw [Extraction.genericParameter]
  cases parameter.kind with
  | type => simp [inView_boundEdges, Step.iri, Step.literal, Step.int, shows.unseen]
  | lifetime | const => simp [shows.blank]
  | unknown => rfl

/-- Of what is said of a function, its generics alone come into the view. -/
theorem functionDetails (function : String) (body : FunctionBody) :
    inView view (extraction.functionDetails function body) =
      inView view (extraction.genericParameters function 0 body.generics.parameters) := by
  simp [Extraction.functionDetails, shows.generics, shows.blank]

/-! ### Whole descriptions -/

theorem moduleFunction (item : Item) (body : FunctionBody) (path : String) :
    inView view (extraction.moduleFunction item body path) =
      item.properName?.toList.flatMap fun name =>
        inView view (extraction.genericParameters (Iri.member (extraction.moduleIri path) name "")
          0 body.generics.parameters) := by
  rw [Extraction.moduleFunction]
  cases item.properName? with
  | none => rfl
  | some name =>
      simp [Step.iri, Step.literal, shows.unseen, shows.functionDetails, shows.blank]

/-- Of what is said of a type, its generics, the items of a trait and the derived traits come into
the view. -/
theorem typeDetails (type : String) (body : ItemBody) :
    inView view (extraction.typeDetails type body) =
      ((typeGenerics? body).toList.flatMap fun generics =>
          inView view (extraction.genericParameters type 0 generics.parameters)) ++
        ((traitItemIds body).flatMap fun id => inView view (extraction.method id type)) ++
        inView view (extraction.derives type (listedImplementations body)) := by
  cases body
  all_goals
    simp [Extraction.typeDetails, typeGenerics?, traitItemIds, listedImplementations, derives_nil,
      inView_flatMap, shows.generics, shows.blank]

variable {extraction}

/-- What comes into the view of a listed item is of the generics of a function. -/
theorem of_mem_method {id : ItemId} {owner : String} {shown : View}
    (member : shown ∈ inView view (extraction.method id owner)) :
    ∃ item name body, extraction.item? id = some item ∧ item.properName? = some name ∧
      item.body = .function body ∧
      shown ∈ inView view
        (extraction.genericParameters (Iri.member owner name "") 0 body.generics.parameters) := by
  rw [Extraction.method] at member
  split at member
  · cases member
  · next item found =>
      split at member
      · cases member
      · next name named =>
          split at member
          · next body isFunction =>
              refine ⟨item, name, body, found, named, isFunction, ?_⟩
              simpa [Step.iri, shows.unseen, shows.functionDetails, shows.blank] using member
          · simp [shows.blank] at member

theorem of_mem_implementationMember {id : ItemId} {owner : String} {shown : View}
    (member : shown ∈ inView view (extraction.implementationMember owner id)) :
    shown ∈ inView view (extraction.method id owner) := by
  rw [Extraction.implementationMember] at member
  split at member
  · cases member
  · split at member
    · exact member
    · split at member
      · cases member
      · simp [shows.blank] at member
    · split at member
      · cases member
      · simp [shows.blank] at member
    · cases member

theorem of_mem_implementationNode {id : ItemId} {target : String} {body : ImplementationBody}
    {shown : View} (member : shown ∈ inView view (extraction.implementationNode id target body)) :
    ∃ memberId ∈ body.items,
      shown ∈ inView view (extraction.implementationMember
        (extraction.memberOwner id target body) memberId) := by
  rw [Extraction.implementationNode] at member
  rw [memberOwner]
  cases ofTrait : body.trait
  all_goals
    rw [ofTrait] at member
    simpa [Step.iri, shows.unseen, inView_flatMap] using member

/-- What an entry of a run shows is of the generics of a type or a function, or the entry declares a
type and it is of the derived traits. -/
theorem of_mem_carriedOut {entry : Entry} (carried : entry ∈ extraction.carriedOut) {shown : View}
    (member : shown ∈ inView view entry.steps) :
    (∃ owner generics, extraction.HasGenerics owner generics ∧
      shown ∈ inView view (extraction.genericParameters owner 0 generics.parameters)) ∨
    ∃ path name item, extraction.DeclaresType path name item ∧
      entry = extraction.typeEntry path name item ∧
      shown ∈ inView view (extraction.derives (extraction.typeIri (extendPath path name))
        (listedImplementations item.body)) := by
  rcases (extraction.mem_carriedOut_iff entry).mp carried with
    opening | ⟨walked, first⟩ | ⟨closing, carries⟩
  · rcases (extraction.mem_opening_iff entry).mp opening with
      ⟨_, _, _, rfl⟩ | rfl | ⟨external, listed, rfl⟩
    · cases member
    · simp [Entry.steps, shows.blank] at member
    · simp [Entry.steps, shows.blank, listed] at member
  · cases extraction.walkEntry_of_mem_walk walked with
    | log => cases member
    | module path item => simp [Entry.steps, shows.blank] at member
    | constant => simp [Entry.steps, shows.blank] at member
    | static => simp [Entry.steps, shows.blank] at member
    | function visited isFunction =>
        rw [Entry.steps, shows.moduleFunction, List.mem_flatMap] at member
        rcases member with ⟨name, named, own⟩
        rw [Option.mem_toList] at named
        have source := MethodSource.moduleFunction visited isFunction named
        exact Or.inl ⟨_, _, .function ⟨_, source, isFunction⟩, own⟩
    | @type path name item visited isType named =>
        have declares : extraction.DeclaresType path name item :=
          ⟨visited, isType, named, first _ rfl⟩
        rw [typeEntry, Entry.steps, inView_append, shows.blank (by simp), List.nil_append,
          shows.typeDetails, List.mem_append, List.mem_append, List.mem_flatMap,
          List.mem_flatMap] at member
        rcases member with (⟨generics, given, own⟩ | ⟨id, listed, own⟩) | derived
        · exact Or.inl ⟨_, _, .type declares (Option.mem_toList.mp given), own⟩
        · rcases shows.of_mem_method own with ⟨_, _, _, found, named, isFunction, shown⟩
          exact Or.inl ⟨_, _, .function ⟨_, .traitItem declares listed found named, isFunction⟩,
            shown⟩
        · exact Or.inr ⟨path, name, item, declares, rfl, derived⟩
  · rcases (mem_inView_iff _ _).mp member with ⟨triple, states, _⟩
    rcases extraction.processes_of_mem_closing closing carries states with
      ⟨id, body, target, processes, equal⟩
    rw [equal] at member
    rcases shows.of_mem_implementationNode member with ⟨memberId, listed, own⟩
    rcases shows.of_mem_method (shows.of_mem_implementationMember own) with
      ⟨_, _, _, found, named, isFunction, shown⟩
    exact Or.inl ⟨_, _, .function ⟨_, .implementationFunction processes listed found isFunction
      named, isFunction⟩, shown⟩

end ShowsDetails

end CrateGraph
