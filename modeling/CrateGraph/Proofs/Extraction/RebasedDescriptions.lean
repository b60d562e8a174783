import CrateGraph.Proofs.Extraction.RenamedRuns

/-!
Descriptions under another base.

Every address is a base and what follows it, and what follows it depends on the crate alone. So the
descriptions under a base are those without one, with the base put in front of their addresses.
-/

namespace CrateGraph

open Ontology

/-! ### Addresses -/

namespace Iri

/-- What a base is in addresses: itself, without slashes at its end. -/
def stem (base : String) : String :=
  (Minter.ofBase base).base

/-- Adds no base to addresses. -/
def Minter.baseless : Minter := ⟨""⟩

section Minter

variable (minter : Minter)

theorem Minter.crate_eq (name version : String) :
    minter.crate name version = minter.base ++ baseless.crate name version := by
  simp [crate, baseless, String.append_assoc]

theorem Minter.module_eq (crateName version path : String) :
    minter.module crateName version path =
      minter.base ++ baseless.module crateName version path := by
  simp [module, baseless, String.append_assoc]

theorem Minter.type_eq (crateName version path : String) :
    minter.type crateName version path = minter.base ++ baseless.type crateName version path := by
  simp [type, baseless, String.append_assoc]

theorem Minter.implementation_eq (crateName version id : String) :
    minter.implementation crateName version id =
      minter.base ++ baseless.implementation crateName version id := by
  simp [implementation, baseless, String.append_assoc]

theorem Minter.primitiveType_eq (name : String) :
    minter.primitiveType name = minter.base ++ baseless.primitiveType name := by
  simp [primitiveType, baseless, String.append_assoc]

theorem Minter.tupleType_eq (arity : Int) :
    minter.tupleType arity = minter.base ++ baseless.tupleType arity := by
  simp [tupleType, baseless, String.append_assoc]

theorem Minter.sliceType_eq (element : String) :
    minter.sliceType element = minter.base ++ baseless.sliceType element := by
  simp [sliceType, baseless, String.append_assoc]

theorem Minter.arrayType_eq (element length : String) :
    minter.arrayType element length = minter.base ++ baseless.arrayType element length := by
  simp [arrayType, baseless, String.append_assoc]

theorem Minter.referenceType_eq (target : String) (isMutable : Bool) :
    minter.referenceType target isMutable =
      minter.base ++ baseless.referenceType target isMutable := by
  simp [referenceType, baseless, String.append_assoc]

theorem Minter.pointerType_eq (target : String) (isMutable : Bool) :
    minter.pointerType target isMutable =
      minter.base ++ baseless.pointerType target isMutable := by
  simp [pointerType, baseless, String.append_assoc]

end Minter

section Owner

variable (front owner : String)

@[simp] theorem member_append (name signature : String) :
    member (front ++ owner) name signature = front ++ member owner name signature := by
  rw [member, member]
  split <;> simp [String.append_assoc]

@[simp] theorem parameter_append (ordinal : Int) :
    parameter (front ++ owner) ordinal = front ++ parameter owner ordinal := by
  simp [parameter, String.append_assoc]

@[simp] theorem typeParameter_append (ordinal : Int) :
    typeParameter (front ++ owner) ordinal = front ++ typeParameter owner ordinal := by
  simp [typeParameter, String.append_assoc]

@[simp] theorem lifetime_append (name : String) :
    lifetime (front ++ owner) name = front ++ lifetime owner name := by
  simp [lifetime, String.append_assoc]

@[simp] theorem variant_append (name : String) :
    variant (front ++ owner) name = front ++ variant owner name := by
  simp [variant, String.append_assoc]

end Owner

end Iri

open Iri (stem)

/-- The properties that lead to addresses are not the one that leads to classes. -/
@[simp] theorem property_ne_type :
    Property.definedInAssembly ≠ Property.type ∧ Property.inNamespace ≠ Property.type ∧
      Property.implements ≠ Property.type ∧ Property.hasMember ≠ Property.type ∧
      Property.hasTypeParameter ≠ Property.type ∧ Property.relatedTo ≠ Property.type ∧
      Property.memberOf ≠ Property.type ∧ Property.returnType ≠ Property.type ∧
      Property.fieldType ≠ Property.type ∧ Property.hasParameter ≠ Property.type ∧
      Property.parameterType ≠ Property.type ∧ Property.parameterOf ≠ Property.type ∧
      Property.typeParameterOf ≠ Property.type ∧ Property.parentNamespace ≠ Property.type ∧
      Property.dependsOn ≠ Property.type ∧ Property.superTrait ≠ Property.type ∧
      Property.implementationFor ≠ Property.type ∧ Property.implementedTrait ≠ Property.type ∧
      Property.hasVariant ≠ Property.type ∧ Property.variantField ≠ Property.type ∧
      Property.hasLifetime ≠ Property.type ∧ Property.errorType ≠ Property.type ∧
      Property.traitBound ≠ Property.type := by
  simp [Property.definedInAssembly, Property.inNamespace, Property.implements, Property.hasMember,
    Property.hasTypeParameter, Property.relatedTo, Property.memberOf, Property.returnType,
    Property.fieldType, Property.hasParameter, Property.parameterType, Property.parameterOf,
    Property.typeParameterOf, Property.parentNamespace, Property.dependsOn, Property.superTrait,
    Property.implementationFor, Property.implementedTrait, Property.hasVariant,
    Property.variantField, Property.hasLifetime, Property.errorType, Property.traitBound]

def Step.rebase (base : String) (steps : List Step) : List Step :=
  steps.map (Step.rename (stem base ++ ·))

namespace Step

variable (base : String)

@[simp] theorem rebase_nil : rebase base [] = [] :=
  rfl

@[simp] theorem rebase_cons (step : Step) (steps : List Step) :
    rebase base (step :: steps) = step.rename (stem base ++ ·) :: rebase base steps :=
  rfl

@[simp] theorem rebase_append (left right : List Step) :
    rebase base (left ++ right) = rebase base left ++ rebase base right :=
  List.map_append

@[simp] theorem rebase_flatMap {Source : Type} (sources : List Source)
    (describe : Source → List Step) :
    rebase base (sources.flatMap describe) =
      sources.flatMap fun source => rebase base (describe source) :=
  List.map_flatMap

end Step

open Step (rebase)

namespace Extraction

def withBase (extraction : Extraction) (base : String) : Extraction :=
  { extraction with options := { extraction.options with base := base } }

/-- The crate with addresses that have no base. -/
def baseless (extraction : Extraction) : Extraction :=
  extraction.withBase ""

variable (extraction : Extraction) (base : String)

@[simp] theorem crateIri_withBase :
    (extraction.withBase base).crateIri = stem base ++ extraction.baseless.crateIri :=
  Iri.Minter.crate_eq _ _ _

@[simp] theorem crate_withBase (name version : String) :
    (extraction.withBase base).minter.crate name version =
      stem base ++ extraction.baseless.minter.crate name version :=
  Iri.Minter.crate_eq _ _ _

@[simp] theorem moduleIri_withBase (path : String) :
    (extraction.withBase base).moduleIri path = stem base ++ extraction.baseless.moduleIri path :=
  Iri.Minter.module_eq _ _ _ _

@[simp] theorem typeIri_withBase (path : String) :
    (extraction.withBase base).typeIri path = stem base ++ extraction.baseless.typeIri path :=
  Iri.Minter.type_eq _ _ _ _

@[simp] theorem implementationIri_withBase (id : ItemId) :
    (extraction.withBase base).implementationIri id =
      stem base ++ extraction.baseless.implementationIri id :=
  Iri.Minter.implementation_eq _ _ _ _

@[simp] theorem referenceIri_withBase (reference : PathReference) :
    (extraction.withBase base).referenceIri reference =
      stem base ++ extraction.baseless.referenceIri reference :=
  Iri.Minter.type_eq _ _ _ _

theorem typeIri?_withBase (type : RustType) :
    (extraction.withBase base).typeIri? type =
      (extraction.baseless.typeIri? type).map (stem base ++ ·) := by
  cases type with
  | path reference => exact congrArg some (extraction.referenceIri_withBase base reference)
  | primitive name => exact congrArg some (Iri.Minter.primitiveType_eq _ _)
  | tuple elements => exact congrArg some (Iri.Minter.tupleType_eq _ _)
  | slice element => exact congrArg some (Iri.Minter.sliceType_eq _ _)
  | array element length => exact congrArg some (Iri.Minter.arrayType_eq _ _ _)
  | rawPointer target isMutable => exact congrArg some (Iri.Minter.pointerType_eq _ _ _)
  | borrowed target isMutable lifetime => exact congrArg some (Iri.Minter.referenceType_eq _ _ _)
  | functionPointer | qualified | implTrait | dynTrait | infer | generic | unknown => rfl

/-! ### Parts that several kinds of items share -/

section Edges

variable {property : String} (apart : property ≠ Property.type) (subject : String)
include apart

theorem typeEdge_withBase (type : RustType) :
    (extraction.withBase base).typeEdge (stem base ++ subject) property type =
      rebase base (extraction.baseless.typeEdge subject property type) := by
  rw [typeEdge, typeEdge, typeIri?_withBase]
  cases extraction.baseless.typeIri? type with
  | none => rfl
  | some target => simp [apart]

theorem optionalTypeEdge_withBase (type : Option RustType) :
    (extraction.withBase base).optionalTypeEdge (stem base ++ subject) property type =
      rebase base (extraction.baseless.optionalTypeEdge subject property type) := by
  cases type with
  | none => rfl
  | some type => exact extraction.typeEdge_withBase base apart subject type

theorem boundEdges_withBase (bounds : List GenericBound) :
    (extraction.withBase base).boundEdges (stem base ++ subject) property bounds =
      rebase base (extraction.baseless.boundEdges subject property bounds) := by
  rw [boundEdges, boundEdges, Step.rebase_flatMap]
  congr 1
  funext bound
  cases bound with
  | trait => simp [apart]
  | outlives | capture | unknown => rfl

end Edges

section Owner

variable (owner : String)

@[simp] theorem flag_append (property : String) (value : Bool) :
    flag (stem base ++ owner) property value = rebase base (flag owner property value) := by
  cases value <;> simp [flag]

@[simp] theorem attributes_withBase (item : Item) :
    (extraction.withBase base).attributes item (stem base ++ owner) =
      rebase base (extraction.baseless.attributes item owner) := by
  have each : ∀ text, Option.map (Step.rename (stem base ++ ·))
      (if Attribute.isDeriveMarker text then none
        else some (Step.literal owner Property.hasAttribute text)) =
      if Attribute.isDeriveMarker text then none
        else some (.literal (stem base ++ owner) Property.hasAttribute text) := by
    intro text
    split <;> simp
  change (if extraction.options.includeAttributes then _ else _) =
    rebase base (if extraction.options.includeAttributes then _ else _)
  split
  · rw [Step.rebase, List.map_filterMap]
    simp only [each]
  · rfl

@[simp] theorem memberHeader_append (member name : String) (item : Item) :
    memberHeader (stem base ++ member) name (stem base ++ owner) item =
      rebase base (memberHeader member name owner item) := by
  simp [memberHeader]

/-! ### Signatures -/

theorem genericParameter_withBase (ordinal : Nat) (parameter : GenericParameter) :
    (extraction.withBase base).genericParameter (stem base ++ owner) ordinal parameter =
      rebase base (extraction.baseless.genericParameter owner ordinal parameter) := by
  unfold genericParameter
  split
  · simp [boundEdges_withBase]
  · simp
  · simp [typeEdge_withBase]
  · rfl

theorem genericParameters_withBase (ordinal : Nat) (parameters : List GenericParameter) :
    (extraction.withBase base).genericParameters (stem base ++ owner) ordinal parameters =
      rebase base (extraction.baseless.genericParameters owner ordinal parameters) := by
  simp [genericParameters_eq_flatMap, genericParameter_withBase]

@[simp] theorem generics_withBase (generics : Generics) :
    (extraction.withBase base).generics generics (stem base ++ owner) =
      rebase base (extraction.baseless.generics generics owner) := by
  simp [Extraction.generics, genericParameters_withBase]

theorem parameters_withBase (ordinal : Nat) (inputs : List FunctionInput) :
    (extraction.withBase base).parameters (stem base ++ owner) ordinal inputs =
      rebase base (extraction.baseless.parameters owner ordinal inputs) := by
  simp [parameters_eq_flatMap, parameter, typeEdge_withBase]

@[simp] theorem functionDetails_withBase (body : FunctionBody) :
    (extraction.withBase base).functionDetails (stem base ++ owner) body =
      rebase base (extraction.baseless.functionDetails owner body) := by
  simp [functionDetails, parameters_withBase, optionalTypeEdge_withBase]

@[simp] theorem errorTypeEdge_withBase (body : FunctionBody) :
    (extraction.withBase base).errorTypeEdge (stem base ++ owner) body =
      rebase base (extraction.baseless.errorTypeEdge owner body) := by
  change (if extraction.options.extractErrorTypes then _ else _) =
    rebase base (if extraction.options.extractErrorTypes then _ else _)
  split
  · exact extraction.optionalTypeEdge_withBase base (by simp) owner _
  · rfl

end Owner

/-! ### Items of modules -/

theorem moduleFunction_withBase (item : Item) (body : FunctionBody) (path : String) :
    (extraction.withBase base).moduleFunction item body path =
      rebase base (extraction.baseless.moduleFunction item body path) := by
  unfold moduleFunction
  split
  · rfl
  · simp

theorem constant_withBase (item : Item) (body : ConstantBody) (path : String) :
    (extraction.withBase base).constant item body path =
      rebase base (extraction.baseless.constant item body path) := by
  unfold constant
  split
  · rfl
  · simp [typeEdge_withBase]

theorem static_withBase (item : Item) (body : StaticBody) (path : String) :
    (extraction.withBase base).static item body path =
      rebase base (extraction.baseless.static item body path) := by
  unfold static
  split
  · rfl
  · simp [typeEdge_withBase]

/-! ### Types -/

@[simp] theorem item?_withBase (id : ItemId) :
    (extraction.withBase base).item? id = extraction.item? id :=
  rfl

@[simp] theorem item?_baseless (id : ItemId) : extraction.baseless.item? id = extraction.item? id :=
  rfl

section Owner

variable (owner : String)

@[simp] theorem method_withBase (id : ItemId) :
    (extraction.withBase base).method id (stem base ++ owner) =
      rebase base (extraction.baseless.method id owner) := by
  simp only [method, item?_withBase, item?_baseless]
  split
  · rfl
  · split
    · rfl
    · split <;> simp

@[simp] theorem field_withBase :
    (extraction.withBase base).field (stem base ++ owner) =
      fun id => rebase base (extraction.baseless.field owner id) := by
  funext id
  simp only [field, item?_withBase, item?_baseless]
  split
  · split
    · simp [typeEdge_withBase]
    · rfl
  · rfl

@[simp] theorem variantField_withBase :
    (extraction.withBase base).variantField (stem base ++ owner) =
      fun id => rebase base (extraction.baseless.variantField owner id) := by
  funext id
  simp only [variantField, item?_withBase, item?_baseless]
  split
  · split
    · simp [typeEdge_withBase]
    · rfl
  · rfl

@[simp] theorem variant_withBase :
    (extraction.withBase base).variant (stem base ++ owner) =
      fun id => rebase base (extraction.baseless.variant owner id) := by
  funext id
  simp only [variant, item?_withBase, item?_baseless]
  split
  · rfl
  · split
    · rfl
    · split <;> simp

@[simp] theorem derives_withBase (implementations : List ItemId) :
    (extraction.withBase base).derives (stem base ++ owner) implementations =
      rebase base (extraction.baseless.derives owner implementations) := by
  change (if extraction.options.extractDerives then _ else _) =
    rebase base (if extraction.options.extractDerives then _ else _)
  split
  · rw [Step.rebase_flatMap]
    congr 1
    funext id
    rw [item?_withBase, item?_baseless]
    split
    · rfl
    · split
      · split
        · split <;> simp
        · rfl
      · rfl
  · rfl

theorem typeDetails_withBase (body : ItemBody) :
    (extraction.withBase base).typeDetails (stem base ++ owner) body =
      rebase base (extraction.baseless.typeDetails owner body) := by
  cases body with
  | struct | enum | union | trait | typeAlias =>
      simp [typeDetails, boundEdges_withBase, optionalTypeEdge_withBase]
  | module | variant | function | implementation | reexport | constant | static | field
  | macroSource | associatedConstant | associatedType | unknown => rfl

theorem typeHeader_withBase (name path : String) (item : Item) (classes : List String) :
    (extraction.withBase base).typeHeader (stem base ++ owner) name path item classes =
      rebase base (extraction.baseless.typeHeader owner name path item classes) := by
  have instances : rebase base (classes.map (Step.iri owner Property.type ·)) =
      classes.map (Step.iri (stem base ++ owner) Property.type ·) := by
    simp [Step.rebase]
  simp [typeHeader, instances]

@[simp] theorem implementationMember_withBase :
    (extraction.withBase base).implementationMember (stem base ++ owner) =
      fun id => rebase base (extraction.baseless.implementationMember owner id) := by
  funext id
  simp only [implementationMember, item?_withBase, item?_baseless]
  split
  · rfl
  · split
    · exact extraction.method_withBase base owner id
    · split <;> simp
    · split <;> simp
    · rfl

theorem implementationNode_withBase (id : ItemId) (body : ImplementationBody) :
    (extraction.withBase base).implementationNode id (stem base ++ owner) body =
      rebase base (extraction.baseless.implementationNode id owner body) := by
  unfold implementationNode
  split <;> simp

end Owner

/-! ### Crates and modules -/

theorem crateNode_withBase :
    (extraction.withBase base).crateNode = rebase base extraction.baseless.crateNode := by
  have name : (extraction.withBase base).crateName = extraction.baseless.crateName := rfl
  have version : (extraction.withBase base).crateVersion = extraction.baseless.crateVersion := rfl
  simp [crateNode, name, version]

theorem dependency_withBase (external : ExternalCrate) :
    (extraction.withBase base).dependency external =
      rebase base (extraction.baseless.dependency external) := by
  unfold dependency
  split
  · rfl
  · simp

theorem moduleNode_withBase (path : String) (item : Item) :
    (extraction.withBase base).moduleNode path item =
      rebase base (extraction.baseless.moduleNode path item) := by
  unfold moduleNode
  split <;> simp

end Extraction

end CrateGraph
