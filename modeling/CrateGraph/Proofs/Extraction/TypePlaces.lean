import CrateGraph.Proofs.Extraction.Members

/-!
The places in which a run comes upon types and traits.

A type stands in a field, a constant, a static, a constant parameter, a signature or an alias, and a
trait in the bounds of a trait or of a type parameter or in an implementation. At each place that a
description comes to, there is an edge to the address of the type or of the trait.
-/

namespace CrateGraph

open Ontology

namespace Extraction

variable (extraction : Extraction)

/-! ### Parts of descriptions -/

theorem genericParameter_subset (owner : String) {parameters : List GenericParameter}
    {parameter : GenericParameter} {place : Nat} (stands : parameters[place]? = some parameter)
    (ordinal : Nat) :
    extraction.genericParameter owner (ordinal + place) parameter ⊆
      extraction.genericParameters owner ordinal parameters := by
  rw [genericParameters_eq_flatMap]
  intro step own
  exact List.mem_flatMap.mpr ⟨_, List.mk_add_mem_zipIdx_iff_getElem?.mpr stands, own⟩

/-- The inputs of a function but for its receivers, as its parameters are numbered. -/
def numberedInputs (body : FunctionBody) : List FunctionInput :=
  body.signature.inputs.filter (·.name ≠ "self")

theorem parameterEdge_subset (function : String) {inputs : List FunctionInput}
    {input : FunctionInput} {place : Nat}
    (stands : (inputs.filter (·.name ≠ "self"))[place]? = some input) (ordinal : Nat) :
    extraction.typeEdge (Iri.parameter function (ordinal + place : Nat)) Property.parameterType
        input.type ⊆
      extraction.parameters function ordinal inputs := by
  rw [parameters_eq_flatMap]
  intro step own
  exact List.mem_flatMap.mpr ⟨_, List.mk_add_mem_zipIdx_iff_getElem?.mpr stands,
    List.mem_append_right _ own⟩

section Fields

variable {id : ItemId} {item : Item} (found : extraction.item? id = some item)
include found

theorem fieldEdge_subset {type : RustType} (isField : item.body = .field type) (owner : String) :
    extraction.typeEdge (Iri.member owner (fieldName item) "") Property.fieldType type ⊆
      extraction.field owner id := by
  rw [field, found]
  dsimp only
  rw [isField]
  exact List.subset_append_right _ _

theorem variantFieldEdge_subset {type : RustType} (isField : item.body = .field type)
    (owner : String) :
    extraction.typeEdge (Iri.member owner (fieldName item) "") Property.fieldType type ⊆
      extraction.variantField owner id := by
  rw [variantField, found]
  dsimp only
  rw [isField]
  exact List.subset_append_right _ _

theorem variantField_subset {name : String} (named : item.properName? = some name)
    {fieldId : ItemId} (listed : fieldId ∈ shownFieldIds item.body) (owner : String) :
    extraction.variantField (Iri.variant owner name) fieldId ⊆ extraction.variant owner id := by
  rw [variant, found]
  dsimp only
  rw [named]
  cases isVariant : item.body with
  | variant body =>
      rw [isVariant] at listed
      intro step own
      exact List.mem_append_right _ (List.mem_cons_of_mem _
        (List.mem_flatMap.mpr ⟨fieldId, listed, own⟩))
  | struct | enum | union | trait | typeAlias | module | function | implementation | reexport
  | constant | static | field | macroSource | associatedConstant | associatedType | unknown =>
      rw [isVariant] at listed
      cases listed

end Fields

def typeGenerics? : ItemBody → Option Generics
  | .struct body => some body.generics
  | .union body => some body.generics
  | .enum body => some body.generics
  | .trait body => some body.generics
  | .typeAlias body => some body.generics
  | _ => none

section TypeDetails

variable (type : String) {body : ItemBody}

theorem generics_subset_typeDetails {generics : Generics}
    (given : typeGenerics? body = some generics) :
    extraction.generics generics type ⊆ extraction.typeDetails type body := by
  cases body with
  | struct | enum =>
      cases given
      exact List.subset_append_of_subset_left _ (List.subset_append_left _ _)
  | union | typeAlias =>
      cases given
      exact List.subset_append_left _ _
  | trait =>
      cases given
      exact List.subset_append_of_subset_left _
        (List.subset_append_of_subset_left _ (List.subset_append_right _ _))
  | module | variant | function | implementation | reexport | constant | static | field
  | macroSource | associatedConstant | associatedType | unknown => cases given

theorem field_subset_typeDetails {id : ItemId} (listed : id ∈ fieldIds body) :
    extraction.field type id ⊆ extraction.typeDetails type body := by
  have among : ∀ ids : List ItemId, id ∈ ids →
      extraction.field type id ⊆ ids.flatMap (extraction.field type) :=
    fun ids member step own => List.mem_flatMap.mpr ⟨id, member, own⟩
  cases body with
  | struct =>
      exact List.subset_append_of_subset_left _
        (List.subset_append_of_subset_right _ (among _ listed))
  | union => exact List.subset_append_of_subset_right _ (among _ listed)
  | enum | trait | typeAlias | module | variant | function | implementation | reexport | constant
  | static | field | macroSource | associatedConstant | associatedType | unknown => cases listed

theorem variant_subset_typeDetails {id : ItemId} (listed : id ∈ variantIds body) :
    extraction.variant type id ⊆ extraction.typeDetails type body := by
  cases body with
  | enum =>
      intro step own
      exact List.mem_append_left _ (List.mem_append_right _
        (List.mem_flatMap.mpr ⟨id, listed, own⟩))
  | struct | union | trait | typeAlias | module | variant | function | implementation | reexport
  | constant | static | field | macroSource | associatedConstant | associatedType | unknown =>
      cases listed

theorem method_subset_typeDetails {id : ItemId} (listed : id ∈ traitItemIds body) :
    extraction.method id type ⊆ extraction.typeDetails type body := by
  cases body with
  | trait =>
      intro step own
      exact List.mem_append_right _ (List.mem_flatMap.mpr ⟨id, listed, own⟩)
  | struct | union | enum | typeAlias | module | variant | function | implementation | reexport
  | constant | static | field | macroSource | associatedConstant | associatedType | unknown =>
      cases listed

end TypeDetails

theorem implementationMember_subset {id memberId : ItemId} (target : String)
    {body : ImplementationBody} (listed : memberId ∈ body.items) :
    extraction.implementationMember (extraction.memberOwner id target body) memberId ⊆
      extraction.implementationNode id target body := by
  intro step own
  unfold memberOwner at own
  unfold implementationNode
  cases isTrait : body.trait with
  | some =>
      rw [isTrait, Option.isSome_some, if_pos rfl] at own
      exact List.mem_append_right _ (List.mem_flatMap.mpr ⟨memberId, listed, own⟩)
  | none =>
      rw [isTrait, Option.isSome_none, if_neg Bool.false_ne_true] at own
      exact List.mem_append_right _ (List.mem_flatMap.mpr ⟨memberId, listed, own⟩)

/-! ### What the descriptions include -/

def Includes (steps : List Step) : Prop :=
  ∃ whole, extraction.Describes whole ∧ steps ⊆ whole

variable {extraction}

theorem Describes.includes {steps whole : List Step} (describes : extraction.Describes whole)
    (among : steps ⊆ whole) : extraction.Includes steps :=
  ⟨whole, describes, among⟩

theorem Includes.of_subset {steps more : List Step} (included : extraction.Includes more)
    (among : steps ⊆ more) : extraction.Includes steps := by
  rcases included with ⟨whole, describes, within⟩
  exact ⟨whole, describes, List.Subset.trans among within⟩

theorem Includes.mem_triples {steps : List Step} (included : extraction.Includes steps)
    {triple : Rdf.Triple} (states : .triple triple ∈ steps) : triple ∈ extraction.triples := by
  rcases included with ⟨whole, describes, within⟩
  exact extraction.mem_triples_of_describes describes (within states)

theorem DeclaresType.includes_details {path name : String} {item : Item}
    (declares : extraction.DeclaresType path name item) :
    extraction.Includes
      (extraction.typeDetails (extraction.typeIri (extendPath path name)) item.body) :=
  (Describes.type declares).includes (List.subset_append_right _ _)

theorem Includes.of_method {id : ItemId} {owner name : String} {item : Item} {body : FunctionBody}
    (included : extraction.Includes (extraction.method id owner))
    (found : extraction.item? id = some item) (named : item.properName? = some name)
    (isFunction : item.body = .function body) :
    extraction.Includes (extraction.functionDetails (Iri.member owner name "") body) ∧
      extraction.Includes (extraction.errorTypeEdge (Iri.member owner name "") body) := by
  rw [method, found] at included
  dsimp only at included
  rw [named, isFunction] at included
  constructor
  · exact included.of_subset (List.subset_append_of_subset_right _
      (List.subset_append_of_subset_left _ (List.subset_append_left _ _)))
  · exact included.of_subset (List.subset_append_of_subset_right _ (List.subset_append_right _ _))

variable (extraction)

/-- The node is that of a function with the body. -/
def DescribesFunction (node : String) (body : FunctionBody) : Prop :=
  ∃ item, extraction.MethodSource node item ∧ item.body = .function body

/-- The node is that of a type or of a function with the generics. -/
inductive HasGenerics : String → Generics → Prop
  | type {path name : String} {item : Item} {generics : Generics}
      (declares : extraction.DeclaresType path name item)
      (given : typeGenerics? item.body = some generics) :
      HasGenerics (extraction.typeIri (extendPath path name)) generics
  | function {node : String} {body : FunctionBody}
      (describes : extraction.DescribesFunction node body) : HasGenerics node body.generics

variable {extraction}

theorem DescribesFunction.includes {node : String} {body : FunctionBody}
    (describes : extraction.DescribesFunction node body) :
    extraction.Includes (extraction.functionDetails node body) ∧
      extraction.Includes (extraction.errorTypeEdge node body) := by
  rcases describes with ⟨item, source, isFunction⟩
  cases source with
  | @moduleFunction path name item _ visited isOther named =>
      have included := (Describes.function visited isFunction).includes (List.Subset.refl _)
      rw [moduleFunction, named] at included
      constructor
      · exact included.of_subset
          (List.subset_append_of_subset_left _ (List.subset_append_right _ _))
      · exact included.of_subset (List.subset_append_right _ _)
  | traitItem declares listed found named =>
      exact (declares.includes_details.of_subset
        (extraction.method_subset_typeDetails _ listed)).of_method found named isFunction
  | @implementationFunction id memberId body target _ _ _ processes listed found isOther named =>
      have included := (Describes.implementation processes).includes
        (extraction.implementationMember_subset target listed)
      rw [implementationMember, found] at included
      dsimp only at included
      rw [isOther] at included
      exact included.of_method found named isFunction

theorem HasGenerics.includes {owner : String} {generics : Generics}
    (has : extraction.HasGenerics owner generics) :
    extraction.Includes (extraction.generics generics owner) := by
  cases has with
  | type declares given =>
      exact declares.includes_details.of_subset (extraction.generics_subset_typeDetails _ given)
  | function describes =>
      exact describes.includes.1.of_subset (List.subset_append_of_subset_left _
        (List.subset_append_of_subset_left _ (List.subset_append_right _ _)))

theorem HasGenerics.includes_parameter {owner : String} {generics : Generics}
    (has : extraction.HasGenerics owner generics) {ordinal : Nat} {parameter : GenericParameter}
    (stands : generics.parameters[ordinal]? = some parameter) :
    extraction.Includes (extraction.genericParameter owner ordinal parameter) := by
  have among := extraction.genericParameter_subset owner stands 0
  rw [Nat.zero_add] at among
  exact has.includes.of_subset (List.subset_append_of_subset_right _ among)

def fieldType? : ItemBody → Option RustType
  | .field type => some type
  | .constant body => some body.type
  | _ => none

theorem FieldSource.includes {node : String} {item : Item} {type : RustType}
    (source : extraction.FieldSource node item) (holds : fieldType? item.body = some type) :
    extraction.Includes (extraction.typeEdge node Property.fieldType type) := by
  cases source with
  | constant visited isConstant named =>
      rw [isConstant] at holds
      cases holds
      apply (Describes.constant visited isConstant).includes
      rw [Extraction.constant, named]
      exact List.subset_append_right _ _
  | field declares listed found isField =>
      rw [isField] at holds
      cases holds
      exact (declares.includes_details.of_subset
        (extraction.field_subset_typeDetails _ listed)).of_subset
        (extraction.fieldEdge_subset found isField _)
  | variantField declares hasVariant variantFound variantNamed listed found isField =>
      rw [isField] at holds
      cases holds
      exact ((declares.includes_details.of_subset
        (extraction.variant_subset_typeDetails _ hasVariant)).of_subset
        (extraction.variantField_subset variantFound variantNamed listed _)).of_subset
        (extraction.variantFieldEdge_subset found isField _)

/-! ### Places -/

variable (extraction)

/-- The type stands at a place from which an edge with the property leads to it. -/
inductive TypeAt : String → String → RustType → Prop
  | field {node : String} {item : Item} {type : RustType}
      (source : extraction.FieldSource node item) (holds : fieldType? item.body = some type) :
      TypeAt node Property.fieldType type
  | static {path name : String} {item : Item} {body : StaticBody}
      (visited : extraction.Visits path item) (isStatic : item.body = .static body)
      (named : item.properName? = some name) :
      TypeAt (Iri.member (extraction.moduleIri path) name "") Property.fieldType body.type
  | constParameter {owner : String} {generics : Generics} {ordinal : Nat}
      {parameter : GenericParameter} {type : RustType} {default : Option String}
      (has : extraction.HasGenerics owner generics)
      (stands : generics.parameters[ordinal]? = some parameter)
      (isConst : parameter.kind = .const type default) :
      TypeAt (Iri.typeParameter owner ordinal) Property.parameterType type
  | parameter {function : String} {body : FunctionBody} {ordinal : Nat} {input : FunctionInput}
      (describes : extraction.DescribesFunction function body)
      (stands : (numberedInputs body)[ordinal]? = some input) :
      TypeAt (Iri.parameter function ordinal) Property.parameterType input.type
  | returned {function : String} {body : FunctionBody} {type : RustType}
      (describes : extraction.DescribesFunction function body)
      (returns : body.signature.output = some type) : TypeAt function Property.returnType type
  | error {function : String} {body : FunctionBody} {type : RustType}
      (describes : extraction.DescribesFunction function body)
      (wanted : extraction.options.extractErrorTypes) (fails : errorType? body = some type) :
      TypeAt function Property.errorType type
  | aliased {path name : String} {item : Item} {body : TypeAliasBody} {type : RustType}
      (declares : extraction.DeclaresType path name item)
      (isAlias : item.body = .typeAlias body) (stands : body.type = some type) :
      TypeAt (extraction.typeIri (extendPath path name)) Property.relatedTo type

/-- The trait stands at a place from which an edge with the property leads to it. -/
inductive TraitAt : String → String → PathReference → Prop
  | superTrait {path name modifier : String} {item : Item} {body : TraitBody}
      {trait : PathReference} {parameters : List GenericParameter}
      (declares : extraction.DeclaresType path name item) (isTrait : item.body = .trait body)
      (bound : .trait trait modifier parameters ∈ body.bounds) :
      TraitAt (extraction.typeIri (extendPath path name)) Property.superTrait trait
  | traitBound {owner modifier : String} {generics : Generics} {ordinal : Nat}
      {parameter : GenericParameter} {bounds : List GenericBound} {default : Option RustType}
      {isSynthetic : Bool} {trait : PathReference} {parameters : List GenericParameter}
      (has : extraction.HasGenerics owner generics)
      (stands : generics.parameters[ordinal]? = some parameter)
      (isType : parameter.kind = .type bounds default isSynthetic)
      (bound : .trait trait modifier parameters ∈ bounds) :
      TraitAt (Iri.typeParameter owner ordinal) Property.traitBound trait
  | implementedTrait {id : ItemId} {body : ImplementationBody} {target : String}
      {trait : PathReference} (processes : extraction.Processes id body target)
      (ofTrait : body.trait = some trait) :
      TraitAt (extraction.implementationIri id) Property.implementedTrait trait
  | implements {id : ItemId} {body : ImplementationBody} {target : String}
      {trait : PathReference} (processes : extraction.Processes id body target)
      (ofTrait : body.trait = some trait) : TraitAt target Property.implements trait

variable {extraction}

theorem TypeAt.includes {subject property : String} {type : RustType}
    (place : extraction.TypeAt subject property type) :
    extraction.Includes (extraction.typeEdge subject property type) := by
  cases place with
  | field source holds => exact source.includes holds
  | static visited isStatic named =>
      apply (Describes.static visited isStatic).includes
      rw [Extraction.static, named]
      exact List.subset_append_right _ _
  | @constParameter _ _ _ parameter _ _ has stands isConst =>
      have included := has.includes_parameter stands
      rw [genericParameter, isConst] at included
      exact included.of_subset (List.subset_append_right _ _)
  | @parameter function _ ordinal _ describes stands =>
      have among := extraction.parameterEdge_subset function stands 0
      rw [Nat.zero_add] at among
      exact describes.includes.1.of_subset (List.subset_append_of_subset_left _
        (List.subset_append_of_subset_right _ among))
  | @returned function body _ describes returns =>
      have included := describes.includes.1
      rw [functionDetails, returns] at included
      exact included.of_subset (List.subset_append_right _ _)
  | error describes wanted fails =>
      have included := describes.includes.2
      rw [errorTypeEdge, if_pos wanted, fails] at included
      exact included
  | aliased declares isAlias stands =>
      have included := declares.includes_details
      rw [isAlias, typeDetails, stands] at included
      exact included.of_subset (List.subset_append_right _ _)

/-- From each place of a type that has an address an edge leads there. -/
theorem TypeAt.edge {subject property target : String} {type : RustType}
    (place : extraction.TypeAt subject property type)
    (resolves : extraction.typeIri? type = some target) :
    ⟨subject, property, .iri target⟩ ∈ extraction.triples := by
  apply place.includes.mem_triples
  simp [typeEdge, resolves, Step.iri]

theorem edge_mem_boundEdges {bounds : List GenericBound} {trait : PathReference}
    {modifier : String} {parameters : List GenericParameter}
    (bound : .trait trait modifier parameters ∈ bounds) (subject property : String) :
    .iri subject property (extraction.referenceIri trait) ∈
      extraction.boundEdges subject property bounds :=
  List.mem_flatMap.mpr ⟨_, bound, List.mem_cons_self⟩

/-- From each place of a trait an edge leads to its address. -/
theorem TraitAt.edge {subject property : String} {trait : PathReference}
    (place : extraction.TraitAt subject property trait) :
    ⟨subject, property, .iri (extraction.referenceIri trait)⟩ ∈ extraction.triples := by
  cases place with
  | superTrait declares isTrait bound =>
      have included := declares.includes_details
      rw [isTrait, typeDetails] at included
      exact included.mem_triples
        (List.mem_append_left _ (List.mem_append_right _ (edge_mem_boundEdges bound _ _)))
  | @traitBound _ _ _ _ parameter _ _ _ _ _ has stands isType bound =>
      have included := has.includes_parameter stands
      rw [genericParameter, isType] at included
      exact included.mem_triples (List.mem_append_right _ (edge_mem_boundEdges bound _ _))
  | implementedTrait processes ofTrait =>
      apply extraction.mem_triples_of_describes (.implementation processes)
      simp [implementationNode, ofTrait, Step.iri]
  | implements processes ofTrait =>
      apply extraction.mem_triples_of_describes (.implementation processes)
      simp [implementationNode, ofTrait, Step.iri]

end Extraction

end CrateGraph
