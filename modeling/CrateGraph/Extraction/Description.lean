import CrateGraph.Extraction.Attribute
import CrateGraph.Extraction.Resolution
import CrateGraph.Ontology
import CrateGraph.Rdf.Triple

/-!
What is said about each item.

The description of an item is a list of steps that depends on the crate and the options alone. Only
one kind of step leaves something open: a type that is merely mentioned gets a node of its own
unless it has one already, which is known when the steps are carried out.
-/

namespace CrateGraph

open Rdf (Term Triple)
open Ontology

inductive Step where
  | triple (triple : Triple)
  /-- A type is referred to by its address and by the name it was written with. -/
  | mention (iri name : String)
  | countFunction
  | countUnresolved
deriving DecidableEq

namespace Step

def iri (subject predicate object : String) : Step :=
  .triple ⟨subject, predicate, .iri object⟩

def literal (subject predicate value : String) : Step :=
  .triple ⟨subject, predicate, .literal value⟩

def bool (subject predicate : String) (value : Bool) : Step :=
  .triple ⟨subject, predicate, Term.bool value⟩

def int (subject predicate : String) (value : Int) : Step :=
  .triple ⟨subject, predicate, Term.int value⟩

end Step

namespace Extraction

/-! ### Parts that several kinds of items share -/

def typeEdge (extraction : Extraction) (subject predicate : String) (type : RustType) :
    List Step :=
  match extraction.typeIri? type with
  | some target => [.iri subject predicate target]
  | none => [.countUnresolved]

def optionalTypeEdge (extraction : Extraction) (subject predicate : String) :
    Option RustType → List Step
  | none => []
  | some type => extraction.typeEdge subject predicate type

def flag (subject predicate : String) (value : Bool) : List Step :=
  if value then [.bool subject predicate true] else []

def attributes (extraction : Extraction) (item : Item) (owner : String) : List Step :=
  if extraction.options.includeAttributes then
    (item.attributes.filterMap Attribute.text?).filterMap fun text =>
      if Attribute.isDeriveMarker text then none
      else some (.literal owner Property.hasAttribute text)
  else []

def boundEdges (extraction : Extraction) (subject predicate : String)
    (bounds : List GenericBound) : List Step :=
  bounds.flatMap fun bound =>
    match bound with
    | .trait trait _ _ =>
        let target := extraction.referenceIri trait
        [.iri subject predicate target, .mention target trait.path]
    | _ => []

/-! ### Generic parameters -/

/-- Type and constant parameters are numbered by their place in the whole list. -/
def genericParameter (extraction : Extraction) (owner : String) (ordinal : Nat)
    (parameter : GenericParameter) : List Step :=
  match parameter.kind with
  | .type bounds _ _ =>
      let node := Iri.typeParameter owner ordinal
      [.iri node Property.type Class.typeParameter,
        .literal node Property.name parameter.name,
        .int node Property.ordinal ordinal,
        .iri owner Property.hasTypeParameter node,
        .iri node Property.typeParameterOf owner] ++
      extraction.boundEdges node Property.traitBound bounds
  | .lifetime _ =>
      let node := Iri.lifetime owner parameter.name
      [.iri node Property.type Class.lifetime,
        .literal node Property.name parameter.name,
        .iri owner Property.hasLifetime node]
  | .const type _ =>
      let node := Iri.typeParameter owner ordinal
      [.iri node Property.type Class.constParameter,
        .literal node Property.name parameter.name,
        .int node Property.ordinal ordinal,
        .iri owner Property.hasTypeParameter node] ++
      extraction.typeEdge node Property.parameterType type
  | .unknown _ => []

def genericParameters (extraction : Extraction) (owner : String) (ordinal : Nat) :
    List GenericParameter → List Step
  | [] => []
  | parameter :: rest =>
      extraction.genericParameter owner ordinal parameter ++
        extraction.genericParameters owner (ordinal + 1) rest

theorem genericParameters_eq_flatMap (extraction : Extraction) (owner : String) (ordinal : Nat)
    (parameters : List GenericParameter) :
    extraction.genericParameters owner ordinal parameters =
      (parameters.zipIdx ordinal).flatMap fun (parameter, ordinal) =>
        extraction.genericParameter owner ordinal parameter := by
  induction parameters generalizing ordinal with
  | nil => rfl
  | cons parameter rest induction =>
      rw [genericParameters, induction, List.zipIdx_cons, List.flatMap_cons]

def generics (extraction : Extraction) (generics : Generics) (owner : String) : List Step :=
  flag owner Property.isGeneric generics.hasTypeParameters ++
    extraction.genericParameters owner 0 generics.parameters

/-! ### Functions -/

def parameter (extraction : Extraction) (function : String) (ordinal : Nat)
    (input : FunctionInput) : List Step :=
  let node := Iri.parameter function ordinal
  [.iri node Property.type Class.parameter,
    .literal node Property.name input.name,
    .int node Property.ordinal ordinal,
    .iri function Property.hasParameter node,
    .iri node Property.parameterOf function] ++
  extraction.typeEdge node Property.parameterType input.type

/-- The inputs are numbered without the receivers among them. -/
def parameters (extraction : Extraction) (function : String) (ordinal : Nat) :
    List FunctionInput → List Step
  | [] => []
  | input :: rest =>
      if input.name = "self" then extraction.parameters function ordinal rest
      else
        extraction.parameter function ordinal input ++
          extraction.parameters function (ordinal + 1) rest

theorem parameters_eq_flatMap (extraction : Extraction) (function : String) (ordinal : Nat)
    (inputs : List FunctionInput) :
    extraction.parameters function ordinal inputs =
      ((inputs.filter (·.name ≠ "self")).zipIdx ordinal).flatMap fun (input, ordinal) =>
        extraction.parameter function ordinal input := by
  induction inputs generalizing ordinal with
  | nil => rfl
  | cons input rest induction =>
      by_cases receiver : input.name = "self"
      · simp [parameters, receiver, induction]
      · simp [parameters, receiver, induction]

def functionDetails (extraction : Extraction) (function : String) (body : FunctionBody) :
    List Step :=
  flag function Property.isUnsafe body.header.isUnsafe ++
    flag function Property.isAsync body.header.isAsync ++
    flag function Property.isConst body.header.isConst ++
    extraction.generics body.generics function ++
    extraction.parameters function 0 body.signature.inputs ++
    extraction.optionalTypeEdge function Property.returnType body.signature.output

def isResultPath (path : String) : Bool :=
  path == "Result" || (pathSeparator ++ "Result").toList.isSuffixOf path.toList

def errorType? : FunctionBody → Option RustType
  | ⟨⟨_, some (.path ⟨path, _, some (.angleBracketed (_ :: .type error :: _) _)⟩), _⟩, _, _, _⟩ =>
      if isResultPath path then some error else none
  | _ => none

def errorTypeEdge (extraction : Extraction) (function : String) (body : FunctionBody) :
    List Step :=
  if extraction.options.extractErrorTypes then
    extraction.optionalTypeEdge function Property.errorType (errorType? body)
  else []

def moduleFunction (extraction : Extraction) (item : Item) (body : FunctionBody) (path : String) :
    List Step :=
  match item.properName? with
  | none => []
  | some name =>
      let owner := extraction.moduleIri path
      let function := Iri.member owner name ""
      [.countFunction,
        .iri function Property.type Class.method,
        .literal function Property.name name,
        .literal function Property.fullName (extendPath path name),
        .iri owner Property.hasMember function,
        .iri function Property.memberOf owner,
        .literal function Property.accessibility item.visibility.label] ++
      extraction.attributes item function ++
      extraction.functionDetails function body ++
      extraction.errorTypeEdge function body

def memberHeader (member name owner : String) (item : Item) : List Step :=
  [.literal member Property.name name,
    .iri owner Property.hasMember member,
    .iri member Property.memberOf owner,
    .literal member Property.accessibility item.visibility.label]

/-- An item listed by a trait or an implementation, as a method of the owner. -/
def method (extraction : Extraction) (id : ItemId) (owner : String) : List Step :=
  match extraction.item? id with
  | none => []
  | some item =>
      match item.properName? with
      | none => []
      | some name =>
          let node := Iri.member owner name ""
          [.countFunction, .iri node Property.type Class.method] ++
          memberHeader node name owner item ++
          (match item.body with
            | .function body =>
                extraction.functionDetails node body ++
                  flag node Property.isAbstract (!body.hasBody) ++
                  extraction.errorTypeEdge node body
            | _ => [])

/-! ### Constants and statics -/

def constant (extraction : Extraction) (item : Item) (body : ConstantBody) (path : String) :
    List Step :=
  match item.properName? with
  | none => []
  | some name =>
      let owner := extraction.moduleIri path
      let node := Iri.member owner name ""
      [.iri node Property.type Class.field,
        .iri node Property.type Class.constant,
        .literal node Property.name name,
        .bool node Property.isConst true,
        .iri owner Property.hasMember node,
        .iri node Property.memberOf owner,
        .literal node Property.accessibility item.visibility.label] ++
      extraction.typeEdge node Property.fieldType body.type

def static (extraction : Extraction) (item : Item) (body : StaticBody) (path : String) :
    List Step :=
  match item.properName? with
  | none => []
  | some name =>
      let owner := extraction.moduleIri path
      let node := Iri.member owner name ""
      [.iri node Property.type Class.static] ++
      memberHeader node name owner item ++
      flag node Property.isMutable body.isMutable ++
      extraction.typeEdge node Property.fieldType body.type

/-! ### Types -/

def fieldName (item : Item) : String :=
  item.properName?.getD "unnamed"

def field (extraction : Extraction) (owner : String) (id : ItemId) : List Step :=
  match extraction.item? id with
  | some item =>
      match item.body with
      | .field type =>
          let node := Iri.member owner (fieldName item) ""
          [.iri node Property.type Class.field] ++
          memberHeader node (fieldName item) owner item ++
          extraction.typeEdge node Property.fieldType type
      | _ => []
  | none => []

def variantField (extraction : Extraction) (owner : String) (id : ItemId) : List Step :=
  match extraction.item? id with
  | some item =>
      match item.body with
      | .field type =>
          let node := Iri.member owner (fieldName item) ""
          [.iri node Property.type Class.field,
            .literal node Property.name (fieldName item),
            .iri owner Property.variantField node] ++
          extraction.typeEdge node Property.fieldType type
      | _ => []
  | none => []

def variantKind : VariantFields → String
  | .plain => "plain"
  | .tuple _ => "tuple"
  | .struct _ _ => "struct"

def variantFieldIds : VariantFields → List ItemId
  | .plain => []
  | .tuple fields => fields.filterMap id
  | .struct fields _ => fields

def structFieldIds : StructFields → List ItemId
  | .unit => []
  | .tuple fields => fields.filterMap id
  | .plain fields _ => fields

/-- A listed item counts as a variant by its name alone; its fields need a variant's body. -/
def variant (extraction : Extraction) (owner : String) (id : ItemId) : List Step :=
  match extraction.item? id with
  | none => []
  | some item =>
      match item.properName? with
      | none => []
      | some name =>
          let node := Iri.variant owner name
          [.iri node Property.type Class.enumVariant,
            .literal node Property.name name,
            .iri owner Property.hasVariant node] ++
          (match item.body with
            | .variant body =>
                .literal node Property.variantKind (variantKind body.fields) ::
                  (variantFieldIds body.fields).flatMap (extraction.variantField node)
            | _ => [])

def derives (extraction : Extraction) (type : String) (implementations : List ItemId) :
    List Step :=
  if extraction.options.extractDerives then
    implementations.flatMap fun id =>
      match extraction.item? id with
      | none => []
      | some item =>
          match item.body with
          | .implementation body =>
              match body.trait with
              | some trait =>
                  if item.isAutomaticallyDerived then
                    [.literal type Property.derives trait.path]
                  else []
              | none => []
          | _ => []
  else []

def typeHeader (extraction : Extraction) (type name path : String) (item : Item)
    (classes : List String) : List Step :=
  classes.map (Step.iri type Property.type ·) ++
    [.literal type Property.name name,
      .literal type Property.fullName (extendPath path name),
      .iri type Property.definedInAssembly extraction.crateIri,
      .iri type Property.inNamespace (extraction.moduleIri path),
      .literal type Property.accessibility item.visibility.label] ++
    extraction.attributes item type

def typeClasses : ItemBody → List String
  | .struct _ => [Class.struct]
  | .enum _ => [Class.enum]
  | .trait _ => [Class.interface, Class.trait]
  | .typeAlias _ => [Class.typeAlias]
  | .union _ => [Class.union]
  | _ => []

def typeDetails (extraction : Extraction) (type : String) : ItemBody → List Step
  | .struct body =>
      extraction.generics body.generics type ++
        (structFieldIds body.fields).flatMap (extraction.field type) ++
        extraction.derives type body.implementations
  | .union body =>
      extraction.generics body.generics type ++ body.fields.flatMap (extraction.field type)
  | .enum body =>
      extraction.generics body.generics type ++
        body.variants.flatMap (extraction.variant type) ++
        extraction.derives type body.implementations
  | .trait body =>
      flag type Property.isUnsafe body.isUnsafe ++
        extraction.generics body.generics type ++
        extraction.boundEdges type Property.superTrait body.bounds ++
        body.items.flatMap (extraction.method · type)
  | .typeAlias body =>
      extraction.generics body.generics type ++
        extraction.optionalTypeEdge type Property.relatedTo body.type
  | _ => []

/-! ### The crate and its modules -/

def languageName : String := "rust"

def crateNode (extraction : Extraction) : List Step :=
  let node := extraction.crateIri
  [.iri node Property.type Class.crate,
    .iri node Property.type Class.assembly,
    .literal node Property.name extraction.crateName,
    .literal node Property.language languageName,
    .literal node Property.version extraction.crateVersion]

def dependency (extraction : Extraction) (external : ExternalCrate) : List Step :=
  if external.name = "" then []
  else
    let node := extraction.minter.crate external.name unknownVersion
    [.iri extraction.crateIri Property.dependsOn node,
      .iri node Property.type Class.crate,
      .literal node Property.name external.name]

def beforeSeparator? : List Char → Option (List Char)
  | [] => none
  | ':' :: ':' :: rest => some rest.reverse
  | _ :: rest => beforeSeparator? rest

def parentPath? (path : String) : Option String :=
  (beforeSeparator? path.toList.reverse).map String.ofList

def moduleNode (extraction : Extraction) (path : String) (item : Item) : List Step :=
  let node := extraction.moduleIri path
  [.iri node Property.type Class.module,
    .iri node Property.type Class.container,
    .literal node Property.name (item.properName?.getD path),
    .literal node Property.fullName path,
    .iri node Property.definedInAssembly extraction.crateIri,
    .literal node Property.accessibility item.visibility.label] ++
  (match parentPath? path with
    | some parent => [.iri node Property.parentNamespace (extraction.moduleIri parent)]
    | none => [])

/-! ### Implementations -/

def implementationMember (extraction : Extraction) (owner : String) (id : ItemId) : List Step :=
  match extraction.item? id with
  | none => []
  | some item =>
      match item.body with
      | .function _ => extraction.method id owner
      | .associatedType _ | .associatedConstant _ =>
          match item.properName? with
          | none => []
          | some name =>
              let node := Iri.member owner name ""
              [.iri node Property.type Class.member,
                .literal node Property.name name,
                .iri owner Property.hasMember node]
      | _ => []

/-- The members of a trait's implementation belong to the implementation, those of an inherent one
to the type itself. -/
def implementationNode (extraction : Extraction) (id : ItemId) (target : String)
    (body : ImplementationBody) : List Step :=
  let node := extraction.implementationIri id
  match body.trait with
  | some trait =>
      let traitIri := extraction.referenceIri trait
      [.iri node Property.type Class.traitImplementation,
        .iri node Property.implementationFor target,
        .iri node Property.implementedTrait traitIri,
        .iri target Property.implements traitIri,
        .mention traitIri trait.path] ++
      body.items.flatMap (extraction.implementationMember node)
  | none =>
      [.iri node Property.type Class.inherentImplementation,
        .iri node Property.implementationFor target] ++
      body.items.flatMap (extraction.implementationMember target)

end Extraction

end CrateGraph
