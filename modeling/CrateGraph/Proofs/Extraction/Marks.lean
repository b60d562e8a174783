import CrateGraph.Proofs.Extraction.CoveredDescriptions
import CrateGraph.Proofs.Ontology.DistinctTerms

/-!
The marks of a description: the nodes to which it gives a class, the functions that it counts, and
the traits that it says a type implements.

Parameters and lifetimes are left out, so that the signature of a function and the generics of a
type have no marks, whatever they hold. The marks of all other descriptions are given in full.
-/

namespace CrateGraph

open Ontology

inductive Mark where
  | typed (node nodeClass : String)
  | function
  | implements (type trait : String)
deriving DecidableEq

def signatureClasses : List String :=
  [Class.typeParameter, Class.constParameter, Class.lifetime, Class.parameter]

def Step.mark? : Step → Option Mark
  | .countFunction => some .function
  | .triple ⟨subject, predicate, .iri object⟩ =>
      if predicate = Property.type then
        if object ∈ signatureClasses then none else some (.typed subject object)
      else if predicate = Property.implements then some (.implements subject object)
      else none
  | _ => none

def marks (steps : List Step) : List Mark :=
  steps.filterMap Step.mark?

/-! ### Steps -/

/-- A property whose triples are no marks. -/
def IsPlain (property : String) : Prop :=
  property ≠ Property.type ∧ property ≠ Property.implements

@[simp] theorem isPlain_of_properties :
    IsPlain Property.definedInAssembly ∧ IsPlain Property.inNamespace ∧
      IsPlain Property.hasMember ∧ IsPlain Property.hasTypeParameter ∧
      IsPlain Property.relatedTo ∧ IsPlain Property.memberOf ∧ IsPlain Property.returnType ∧
      IsPlain Property.fieldType ∧ IsPlain Property.hasParameter ∧
      IsPlain Property.parameterType ∧ IsPlain Property.parameterOf ∧
      IsPlain Property.typeParameterOf ∧ IsPlain Property.parentNamespace ∧
      IsPlain Property.dependsOn ∧ IsPlain Property.superTrait ∧
      IsPlain Property.implementationFor ∧ IsPlain Property.implementedTrait ∧
      IsPlain Property.hasVariant ∧ IsPlain Property.variantField ∧
      IsPlain Property.hasLifetime ∧ IsPlain Property.errorType ∧ IsPlain Property.traitBound := by
  simp [IsPlain, Property.implements, Property.definedInAssembly, Property.inNamespace,
    Property.hasMember, Property.hasTypeParameter, Property.relatedTo, Property.memberOf,
    Property.returnType, Property.fieldType, Property.hasParameter, Property.parameterType,
    Property.parameterOf, Property.typeParameterOf, Property.parentNamespace, Property.dependsOn,
    Property.superTrait, Property.implementationFor, Property.implementedTrait,
    Property.hasVariant, Property.variantField, Property.hasLifetime, Property.errorType,
    Property.traitBound]

@[simp] theorem not_mem_signatureClasses :
    Class.assembly ∉ signatureClasses ∧ Class.container ∉ signatureClasses ∧
      Class.struct ∉ signatureClasses ∧ Class.interface ∉ signatureClasses ∧
      Class.enum ∉ signatureClasses ∧ Class.member ∉ signatureClasses ∧
      Class.method ∉ signatureClasses ∧ Class.field ∉ signatureClasses ∧
      Class.crate ∉ signatureClasses ∧ Class.module ∉ signatureClasses ∧
      Class.trait ∉ signatureClasses ∧ Class.union ∉ signatureClasses ∧
      Class.typeAlias ∉ signatureClasses ∧ Class.enumVariant ∉ signatureClasses ∧
      Class.traitImplementation ∉ signatureClasses ∧
      Class.inherentImplementation ∉ signatureClasses ∧ Class.static ∉ signatureClasses ∧
      Class.constant ∉ signatureClasses := by
  simp [signatureClasses, Class.typeParameter, Class.constParameter, Class.lifetime,
    Class.parameter, Class.assembly, Class.container, Class.struct, Class.interface, Class.enum,
    Class.member, Class.method, Class.field, Class.crate, Class.module, Class.trait, Class.union,
    Class.typeAlias, Class.enumVariant, Class.traitImplementation, Class.inherentImplementation,
    Class.static, Class.constant]

@[simp] theorem mem_signatureClasses :
    Class.typeParameter ∈ signatureClasses ∧ Class.constParameter ∈ signatureClasses ∧
      Class.lifetime ∈ signatureClasses ∧ Class.parameter ∈ signatureClasses := by
  simp [signatureClasses]

namespace Step

@[simp] theorem mark?_literal (subject predicate value : String) :
    (literal subject predicate value).mark? = none :=
  rfl

@[simp] theorem mark?_bool (subject predicate : String) (value : Bool) :
    (bool subject predicate value).mark? = none :=
  rfl

@[simp] theorem mark?_mention (iri name : String) : (mention iri name).mark? = none :=
  rfl

@[simp] theorem mark?_countUnresolved : countUnresolved.mark? = none :=
  rfl

@[simp] theorem mark?_countFunction : countFunction.mark? = some .function :=
  rfl

@[simp] theorem mark?_type (node nodeClass : String) :
    (iri node Property.type nodeClass).mark? =
      if nodeClass ∈ signatureClasses then none else some (.typed node nodeClass) := by
  simp [iri, mark?]

@[simp] theorem mark?_implements (type trait : String) :
    (iri type Property.implements trait).mark? = some (.implements type trait) := by
  simp [iri, mark?, Property.implements]

theorem mark?_own {nodeClass : String} (own : nodeClass ∉ signatureClasses) (node : String) :
    (iri node Property.type nodeClass).mark? = some (.typed node nodeClass) := by
  simp [own]

@[simp] theorem mark?_plain {predicate : String} (plain : IsPlain predicate)
    (subject object : String) : (iri subject predicate object).mark? = none := by
  simp [iri, mark?, plain.1, plain.2]

end Step

def Mark.step : Mark → Step
  | .typed node nodeClass => .iri node Property.type nodeClass
  | .function => .countFunction
  | .implements type trait => .iri type Property.implements trait

theorem Step.eq_of_mark? {step : Step} {mark : Mark} (marked : step.mark? = some mark) :
    step = mark.step := by
  cases step with
  | triple stated =>
      rcases stated with ⟨subject, predicate, object⟩
      cases object with
      | iri value =>
          simp only [mark?] at marked
          split at marked
          · next isType =>
              split at marked
              · cases marked
              · cases marked
                rw [isType]
                rfl
          · split at marked
            · next isImplements =>
                cases marked
                rw [isImplements]
                rfl
            · cases marked
      | literal | typed => cases marked
  | countFunction =>
      cases marked
      rfl
  | mention | countUnresolved => cases marked

theorem mem_marks_iff (mark : Mark) (own : mark.step.mark? = some mark) (steps : List Step) :
    mark ∈ marks steps ↔ mark.step ∈ steps := by
  rw [marks, List.mem_filterMap]
  constructor
  · intro marking
    rcases marking with ⟨step, member, marked⟩
    rwa [← Step.eq_of_mark? marked]
  · intro member
    exact ⟨mark.step, member, own⟩

@[simp] theorem marks_nil : marks [] = [] :=
  rfl

@[simp] theorem marks_cons (step : Step) (rest : List Step) :
    marks (step :: rest) = step.mark?.toList ++ marks rest := by
  cases marked : step.mark? <;> simp [marks, marked]

@[simp] theorem marks_append (left right : List Step) :
    marks (left ++ right) = marks left ++ marks right :=
  List.filterMap_append

@[simp] theorem marks_flatMap {Source : Type} (sources : List Source)
    (describe : Source → List Step) :
    marks (sources.flatMap describe) = sources.flatMap fun source => marks (describe source) :=
  List.filterMap_flatMap

/-! ### Descriptions without marks -/

/-- A step with such a topic leaves no mark. -/
@[simp] def Topic.IsUnmarked : Topic → Prop
  | .classOf nodeClass => nodeClass ∈ signatureClasses
  | .edge property => IsPlain property
  | .text _ | .value _ => True
  | .function => False

open Lexicon

theorem Step.mark?_eq_none {step : Step} (covers : (ofTopics Topic.IsUnmarked).Covers step) :
    step.mark? = none := by
  cases covers with
  | classOf _ ofSignature => exact (mark?_type _ _).trans (if_pos ofSignature)
  | edge _ plain => exact mark?_plain plain _ _
  | text | value | mention | countUnresolved => rfl
  | countFunction unmarked => exact unmarked.elim

@[simp] theorem marks_eq_nil {steps : List Step}
    (covers : (ofTopics Topic.IsUnmarked).CoversAll steps) : marks steps = [] :=
  List.filterMap_eq_nil_iff.mpr fun step member => Step.mark?_eq_none (covers step member)

@[simp] theorem allows_isUnmarked :
    (ofTopics Topic.IsUnmarked).Allows Extraction.genericTopics ∧
      (ofTopics Topic.IsUnmarked).Allows Extraction.signatureTopics ∧
      (ofTopics Topic.IsUnmarked).Allows Extraction.memberTopics := by
  simp [Extraction.signatureTopics, Extraction.genericTopics, Extraction.parameterTopics,
    Extraction.memberTopics]

@[simp] theorem allows_isUnmarked_of_flags (extraction : Extraction) :
    (ofTopics Topic.IsUnmarked).Allows extraction.attributeTopics ∧
      (ofTopics Topic.IsUnmarked).Allows extraction.errorTopics ∧
      (ofTopics Topic.IsUnmarked).Allows extraction.deriveTopics :=
  ⟨allows_attributeTopics trivial, allows_errorTopics (by simp), allows_deriveTopics trivial⟩

namespace Extraction

variable (extraction : Extraction)

/-! ### Crates and modules -/

theorem marks_crateNode :
    marks extraction.crateNode =
      [.typed extraction.crateIri Class.crate, .typed extraction.crateIri Class.assembly] := by
  simp [crateNode]

theorem marks_dependency (external : ExternalCrate) :
    marks (extraction.dependency external) =
      if external.name = "" then []
      else [.typed (extraction.minter.crate external.name unknownVersion) Class.crate] := by
  unfold dependency
  split <;> simp

theorem marks_moduleNode (path : String) (item : Item) :
    marks (extraction.moduleNode path item) =
      [.typed (extraction.moduleIri path) Class.module,
        .typed (extraction.moduleIri path) Class.container] := by
  unfold moduleNode
  cases parentPath? path <;> simp

/-! ### Functions, constants and statics -/

def memberNode? (owner : String) (item : Item) : Option String :=
  item.properName?.map fun name => Iri.member owner name ""

def methodMarks (node : String) : List Mark :=
  [.function, .typed node Class.method]

theorem marks_moduleFunction (item : Item) (body : FunctionBody) (path : String) :
    marks (extraction.moduleFunction item body path) =
      (memberNode? (extraction.moduleIri path) item).toList.flatMap methodMarks := by
  unfold moduleFunction memberNode?
  cases item.properName? <;> simp [methodMarks]

theorem marks_constant (item : Item) (body : ConstantBody) (path : String) :
    marks (extraction.constant item body path) =
      (memberNode? (extraction.moduleIri path) item).toList.flatMap fun node =>
        [.typed node Class.field, .typed node Class.constant] := by
  unfold constant memberNode?
  cases item.properName? <;> simp

theorem marks_static (item : Item) (body : StaticBody) (path : String) :
    marks (extraction.static item body path) =
      (memberNode? (extraction.moduleIri path) item).toList.map (Mark.typed · Class.static) := by
  unfold static memberNode?
  cases item.properName? <;> simp

theorem marks_method (id : ItemId) (owner : String) :
    marks (extraction.method id owner) =
      ((extraction.item? id).bind (memberNode? owner)).toList.flatMap methodMarks := by
  unfold method
  split
  · next missing => simp [missing]
  · next item found =>
      split
      · next nameless => simp [found, memberNode?, nameless]
      · next name named => split <;> simp [found, memberNode?, named, methodMarks]

/-! ### Types -/

/-- The node that a listed item has under an owner as a field. -/
def fieldNode? (owner : String) (id : ItemId) : Option String :=
  (extraction.item? id).bind fun item =>
    match item.body with
    | .field _ => some (Iri.member owner (fieldName item) "")
    | _ => none

theorem marks_field (owner : String) (id : ItemId) :
    marks (extraction.field owner id) =
      (extraction.fieldNode? owner id).toList.map (Mark.typed · Class.field) := by
  unfold field fieldNode?
  split
  · next item found =>
      rw [found, Option.bind_some]
      cases item.body <;> simp
  · next missing => simp [missing]

theorem marks_variantField (owner : String) (id : ItemId) :
    marks (extraction.variantField owner id) =
      (extraction.fieldNode? owner id).toList.map (Mark.typed · Class.field) := by
  unfold variantField fieldNode?
  split
  · next item found =>
      rw [found, Option.bind_some]
      cases item.body <;> simp
  · next missing => simp [missing]

def fieldIds : ItemBody → List ItemId
  | .struct body => structFieldIds body.fields
  | .union body => body.fields
  | _ => []

def shownFieldIds : ItemBody → List ItemId
  | .variant body => variantFieldIds body.fields
  | _ => []

def variantIds : ItemBody → List ItemId
  | .enum body => body.variants
  | _ => []

def traitItemIds : ItemBody → List ItemId
  | .trait body => body.items
  | _ => []

theorem marks_variant (owner : String) (id : ItemId) :
    marks (extraction.variant owner id) =
      (extraction.item? id).toList.flatMap fun item =>
        item.properName?.toList.flatMap fun name =>
          .typed (Iri.variant owner name) Class.enumVariant ::
            (shownFieldIds item.body).flatMap fun fieldId =>
              marks (extraction.variantField (Iri.variant owner name) fieldId) := by
  unfold variant
  split
  · next missing => simp [missing]
  · next item found =>
      rw [found]
      split
      · next nameless => simp [nameless]
      · next name named =>
          split
          · next isVariant => simp [named, isVariant, shownFieldIds]
          · next notVariant =>
              have shown : shownFieldIds item.body = [] := by
                unfold shownFieldIds
                split
                · next body isVariant => exact absurd isVariant (notVariant body)
                · rfl
              simp [named, shown]

theorem marks_typeHeader (type name path : String) (item : Item) (body : ItemBody) :
    marks (extraction.typeHeader type name path item (typeClasses body)) =
      (typeClasses body).map (Mark.typed type ·) := by
  cases body <;> simp [typeHeader, typeClasses]

theorem marks_typeDetails (type : String) (body : ItemBody) :
    marks (extraction.typeDetails type body) =
      (fieldIds body).flatMap (fun id => marks (extraction.field type id)) ++
        (variantIds body).flatMap (fun id => marks (extraction.variant type id)) ++
        (traitItemIds body).flatMap (fun id => marks (extraction.method id type)) := by
  cases body <;> simp [typeDetails, fieldIds, variantIds, traitItemIds]

/-! ### Implementations -/

def implementationMemberMarks (body : ItemBody) (node : String) : List Mark :=
  match body with
  | .function _ => methodMarks node
  | .associatedType _ | .associatedConstant _ => [.typed node Class.member]
  | _ => []

theorem marks_implementationMember (owner : String) (id : ItemId) :
    marks (extraction.implementationMember owner id) =
      (extraction.item? id).toList.flatMap fun item =>
        (memberNode? owner item).toList.flatMap (implementationMemberMarks item.body) := by
  unfold implementationMember
  split
  · next missing => simp [missing]
  · next item found =>
      rw [found]
      split
      · next isFunction =>
          have asMethod : implementationMemberMarks item.body = methodMarks := by
            rw [isFunction]
            rfl
          simp [marks_method, found, asMethod]
      · next isType =>
          cases named : item.properName? <;>
            simp [memberNode?, named, isType, implementationMemberMarks]
      · next isConstant =>
          cases named : item.properName? <;>
            simp [memberNode?, named, isConstant, implementationMemberMarks]
      · next notFunction notType notConstant =>
          have none : implementationMemberMarks item.body = fun _ => [] := by
            funext node
            unfold implementationMemberMarks
            split
            · next body isFunction => exact absurd isFunction (notFunction body)
            · next body isType => exact absurd isType (notType body)
            · next body isConstant => exact absurd isConstant (notConstant body)
            · rfl
          simp [none]

/-- What the members of an implementation belong to. -/
def memberOwner (id : ItemId) (target : String) (body : ImplementationBody) : String :=
  if body.trait.isSome then extraction.implementationIri id else target

theorem marks_implementationNode (id : ItemId) (target : String) (body : ImplementationBody) :
    marks (extraction.implementationNode id target body) =
      (match body.trait with
        | some trait =>
            [.typed (extraction.implementationIri id) Class.traitImplementation,
              .implements target (extraction.referenceIri trait)]
        | none => [.typed (extraction.implementationIri id) Class.inherentImplementation]) ++
      body.items.flatMap fun memberId => marks
        (extraction.implementationMember (extraction.memberOwner id target body) memberId) := by
  unfold implementationNode memberOwner
  cases body.trait <;> simp

end Extraction

end CrateGraph
