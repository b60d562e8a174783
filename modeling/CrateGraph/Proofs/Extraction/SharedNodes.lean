import CrateGraph.Proofs.Extraction.MethodKinds

/-!
When a field and a method share a node.

The address of a member is that of its owner with the member's name, whatever kind of member it is.
The functions of an inherent implementation belong to the type itself, so that one of them has the
address of a field with the same name. Otherwise only a constant and a function of one module can
share a node.
-/

namespace CrateGraph

open Iri (Entity)
open Ontology

namespace Extraction

variable (extraction : Extraction)

/-- A constant and a function of one module have the same name, or a field and a function of an
inherent implementation of one type. -/
inductive SharedNode : String → Prop
  | ofModule {path name : String} {constant function : Item} {constantBody : ConstantBody}
      {functionBody : FunctionBody}
      (constantVisited : extraction.Visits path constant)
      (functionVisited : extraction.Visits path function)
      (isConstant : constant.body = .constant constantBody)
      (isFunction : function.body = .function functionBody)
      (constantNamed : constant.properName? = some name)
      (functionNamed : function.properName? = some name) :
      SharedNode (Iri.member (extraction.moduleIri path) name "")
  | ofType {path name : String} {item field function : Item} {fieldId id functionId : ItemId}
      {type : RustType} {body : ImplementationBody} {functionBody : FunctionBody}
      (declares : extraction.DeclaresType path name item)
      (fieldListed : fieldId ∈ fieldIds item.body)
      (fieldFound : extraction.item? fieldId = some field) (isField : field.body = .field type)
      (processes : extraction.Processes id body (extraction.typeIri (extendPath path name)))
      (inherent : body.trait = none) (functionListed : functionId ∈ body.items)
      (functionFound : extraction.item? functionId = some function)
      (isFunction : function.body = .function functionBody)
      (named : function.properName? = some (fieldName field)) :
      SharedNode (Iri.member (extraction.typeIri (extendPath path name)) (fieldName field) "")

/-! ### One address, one kind of type -/

theorem typed_mem_typeEntry_iff {nodeClass : String} (notMember : nodeClass ∉ memberClasses)
    (path name : String) (item : Item) :
    .typed (extraction.typeIri (extendPath path name)) nodeClass ∈
        marks (extraction.typeEntry path name item).steps ↔
      nodeClass ∈ typeClasses item.body := by
  rw [marks_typeEntry, List.mem_append]
  constructor
  · intro marked
    rcases marked with header | details
    · simpa using header
    · rcases (extraction.memberMarks_typeDetails _ _).members _ details with
        equal | ⟨_, _, isMember, equal⟩
      · cases equal
      · rw [(Mark.typed.inj equal).2] at notMember
        exact absurd isMember notMember
  · intro isClass
    exact Or.inl (List.mem_map.mpr ⟨nodeClass, isClass, rfl⟩)

theorem DeclaresType.mem_typeClasses_iff {extraction : Extraction}
    {leftPath leftName rightPath rightName nodeClass : String} {left right : Item}
    (declaresLeft : extraction.DeclaresType leftPath leftName left)
    (declaresRight : extraction.DeclaresType rightPath rightName right)
    (same : extendPath leftPath leftName = extendPath rightPath rightName)
    (notMember : nodeClass ∉ memberClasses) :
    nodeClass ∈ typeClasses left.body ↔ nodeClass ∈ typeClasses right.body := by
  have entries : extraction.typeEntry leftPath leftName left =
      extraction.typeEntry rightPath rightName right := by
    apply Option.some.inj
    rw [← declaresLeft.first, ← declaresRight.first, same]
  rw [← extraction.typed_mem_typeEntry_iff notMember leftPath leftName,
    ← extraction.typed_mem_typeEntry_iff notMember rightPath rightName, entries, same]

/-- What is declared with fields is not declared as a trait. -/
theorem fieldIds_traitItemIds_disjoint {extraction : Extraction}
    {leftPath leftName rightPath rightName : String} {left right : Item} {fieldId id : ItemId}
    (declaresLeft : extraction.DeclaresType leftPath leftName left)
    (declaresRight : extraction.DeclaresType rightPath rightName right)
    (same : extendPath leftPath leftName = extendPath rightPath rightName)
    (hasField : fieldId ∈ fieldIds left.body) : id ∉ traitItemIds right.body := by
  intro listed
  have isInterface : Class.interface ∈ typeClasses right.body := by
    cases shape : right.body with
    | trait => simp [typeClasses]
    | struct | enum | union | typeAlias | module | variant | function | implementation | reexport
    | constant | static | field | macroSource | associatedConstant | associatedType | unknown =>
        rw [shape] at listed
        cases listed
  rw [← declaresLeft.mem_typeClasses_iff declaresRight same (by simp)] at isInterface
  cases shape : left.body with
  | struct =>
      rw [shape] at isInterface
      simp [typeClasses, Class.interface, Class.struct] at isInterface
  | union =>
      rw [shape] at isInterface
      simp [typeClasses, Class.interface, Class.union] at isInterface
  | trait | enum | typeAlias | module | variant | function | implementation | reexport | constant
  | static | field | macroSource | associatedConstant | associatedType | unknown =>
      rw [shape] at hasField
      cases hasField

/-! ### Owners of members -/

inductive MethodOwner : Entity → Item → Prop
  | module {path : String} {item : Item} {body : FunctionBody}
      (visited : extraction.Visits path item) (isFunction : item.body = .function body) :
      MethodOwner (extraction.moduleEntity path) item
  | trait {path name : String} {item member : Item} {id : ItemId}
      (declares : extraction.DeclaresType path name item) (listed : id ∈ traitItemIds item.body) :
      MethodOwner (extraction.typeEntity (extendPath path name)) member
  | implementation {id : ItemId} {member : Item} :
      MethodOwner (extraction.implementationEntity id) member
  | type {path : String} {id functionId : ItemId} {body : ImplementationBody} {function : Item}
      {functionBody : FunctionBody}
      (processes : extraction.Processes id body (extraction.typeIri path))
      (inherent : body.trait = none) (listed : functionId ∈ body.items)
      (found : extraction.item? functionId = some function)
      (isFunction : function.body = .function functionBody) :
      MethodOwner (extraction.typeEntity path) function

theorem MethodSource.exists_owner {extraction : Extraction} {node : String} {item : Item}
    (source : extraction.MethodSource node item) :
    ∃ owner name, extraction.MethodOwner owner item ∧ item.properName? = some name ∧
      node = Iri.member (owner.iri extraction.minter) name "" := by
  cases source with
  | moduleFunction visited isFunction named =>
      exact ⟨_, _, .module visited isFunction, named, rfl⟩
  | traitItem declares listed _ named => exact ⟨_, _, .trait declares listed, named, rfl⟩
  | @implementationFunction id _ body _ _ _ _ processes listed found isFunction named =>
      cases inherent : body.trait with
      | some =>
          refine ⟨extraction.implementationEntity id, _, .implementation, named, ?_⟩
          rw [memberOwner, inherent, Option.isSome_some, if_pos rfl, implementationIri_eq]
      | none =>
          -- The target is a declared type, and its address that of the type's path.
          rcases extraction.exists_declaresType processes.declared with ⟨path, name, _, _, rfl⟩
          refine ⟨_, _, .type processes inherent listed found isFunction, named, ?_⟩
          rw [memberOwner, inherent, Option.isSome_none, if_neg Bool.false_ne_true, typeIri_eq]

theorem sharedNode_of_sources {node : String} {field function : Item}
    (fieldSource : extraction.FieldSource node field)
    (methodSource : extraction.MethodSource node function) : extraction.SharedNode node := by
  rcases methodSource.exists_owner with ⟨owner, name, owns, named, same⟩
  cases fieldSource with
  | @constant path _ _ _ constantVisited isConstant constantNamed =>
      rw [moduleIri_eq] at same
      rcases Entity.owner_and_name_eq_of_member_eq same with ⟨owners, rfl⟩
      cases owns with
      | @module otherPath _ _ functionVisited isFunction =>
          obtain rfl : path = otherPath := by simpa [moduleEntity, Entity.bare] using owners
          exact .ofModule constantVisited functionVisited isConstant isFunction constantNamed named
      | trait | implementation | type => exact Entity.noConfusion owners
  | @field path typeName _ _ _ _ declares fieldListed fieldFound isField =>
      rw [typeIri_eq] at same
      rcases Entity.owner_and_name_eq_of_member_eq same with ⟨owners, rfl⟩
      cases owns with
      | @trait otherPath otherName _ _ _ otherDeclares listed =>
          have paths : extendPath path typeName = extendPath otherPath otherName := by
            simpa [typeEntity, Entity.bare] using owners
          exact absurd listed
            (fieldIds_traitItemIds_disjoint declares otherDeclares paths fieldListed)
      | @type otherPath _ _ _ _ _ processes inherent listed found isFunction =>
          obtain rfl : extendPath path typeName = otherPath := by
            simpa [typeEntity, Entity.bare] using owners
          exact .ofType declares fieldListed fieldFound isField processes inherent listed found
            isFunction named
      | module | implementation => exact Entity.noConfusion owners
  | variantField =>
      rw [variantIri_eq] at same
      rcases Entity.owner_and_name_eq_of_member_eq same with ⟨owners, _⟩
      cases owns with
      | module | trait | implementation | type => exact Entity.noConfusion owners

theorem sources_of_sharedNode {node : String} (shared : extraction.SharedNode node) :
    (∃ item, extraction.FieldSource node item) ∧ ∃ item, extraction.MethodSource node item := by
  cases shared with
  | ofModule constantVisited functionVisited isConstant isFunction constantNamed functionNamed =>
      exact ⟨⟨_, .constant constantVisited isConstant constantNamed⟩,
        ⟨_, .moduleFunction functionVisited isFunction functionNamed⟩⟩
  | ofType declares fieldListed fieldFound isField processes inherent functionListed functionFound
      isFunction named =>
      have source := MethodSource.implementationFunction processes functionListed functionFound
        isFunction named
      rw [memberOwner, inherent] at source
      exact ⟨⟨_, .field declares fieldListed fieldFound isField⟩, ⟨_, source⟩⟩

/-- A node is both a field and a method exactly if it belongs to a constant and a function of one
module with the same name, or to a field and a function of an inherent implementation of one type
with the same name. -/
theorem field_and_method_iff_shared (node : String) :
    ⟨node, Property.type, .iri Class.field⟩ ∈ extraction.triples ∧
        ⟨node, Property.type, .iri Class.method⟩ ∈ extraction.triples ↔
      extraction.SharedNode node := by
  rw [field_iff_source, method_iff_source]
  constructor
  · intro both
    rcases both with ⟨⟨field, fieldSource⟩, ⟨function, methodSource⟩⟩
    exact extraction.sharedNode_of_sources fieldSource methodSource
  · exact extraction.sources_of_sharedNode

/-! ### A field and a function with the same name -/

/-- The fields that any type or variant lists have pairwise distinct names. -/
def DistinctFieldNames : Prop :=
  ∀ id item, extraction.item? id = some item →
    ((fieldIds item.body ++ shownFieldIds item.body).filterMap fun fieldId =>
      (extraction.item? fieldId).map fieldName).Nodup

def functionName? (id : ItemId) : Option String :=
  (extraction.item? id).bind fun item =>
    if item.body.isFunction then item.properName? else none

/-- The functions that the inherent implementations of a type list. -/
def inherentFunctionNames (target : String) : List String :=
  extraction.implementations.flatMap fun (_, body) =>
    if body.trait.isNone ∧ extraction.typeIri? body.target = some target then
      body.items.filterMap extraction.functionName?
    else []

/-- The functions of all inherent implementations of one type have pairwise distinct names. -/
def DistinctInherentFunctionNames : Prop :=
  ∀ target, (extraction.inherentFunctionNames target).Nodup

/-- The struct `struct Buffer { len: usize }`. -/
def buffer : Item :=
  .plain (some "Buffer") (.struct ⟨.plain ["2"] false, ⟨[], []⟩, []⟩)

def lengthField : Item :=
  .plain (some "len") (.field (.primitive "usize"))

/-- The implementation `impl Buffer { fn len() }`. -/
def bufferImplementation : ImplementationBody where
  generics := ⟨[], []⟩
  trait := none
  target := .path ⟨"Buffer", some "1", none⟩
  items := ["4"]
  isUnsafe := false
  isNegative := false
  isSynthetic := false
  blanket := none

def lengthFunction : Item :=
  .plain (some "len")
    (.function ⟨⟨[], none, false⟩, ⟨[], []⟩, ⟨false, false, false, .str "Rust"⟩, true⟩)

def bufferItems : Entries String Item :=
  [("1", buffer), ("2", lengthField), ("3", .plain none (.implementation bufferImplementation)),
    ("4", lengthFunction)]

/-- A crate with the struct `Buffer`, whose length is both a field and a function. -/
def buffering : Extraction :=
  demo ["1"] bufferItems ⟨[("1", ⟨["demo", "Buffer"], .struct, 0⟩)], by simp⟩
    (by simp [bufferItems])

theorem buffering_item? :
    buffering.item? "2" = some lengthField ∧
      buffering.item? "3" = some (.plain none (.implementation bufferImplementation)) ∧
      buffering.item? "4" = some lengthFunction :=
  ⟨item?_demo (by simp [bufferItems]), item?_demo (by simp [bufferItems]),
    item?_demo (by simp [bufferItems])⟩

theorem fieldName_lengthField : fieldName lengthField = "len" := by
  rw [fieldName, lengthField, Item.properName?_plain (by simp), Option.getD_some]

theorem properName?_lengthFunction : lengthFunction.properName? = some "len" :=
  Item.properName?_plain (by simp) _

theorem buffering_declares :
    ∃ path, buffering.DeclaresType path "Buffer" buffer ∧
      buffering.typeIri (extendPath path "Buffer") =
        buffering.typeIri (extendPath "demo" "Buffer") := by
  have named : buffer.properName? = some "Buffer" := Item.properName?_plain (by simp) _
  have only : ∀ entry ∈ bufferItems, entry.2.body.isTypeBody → entry.2 = buffer := by
    intro entry member isType
    simp only [bufferItems, List.mem_cons, List.not_mem_nil, or_false] at member
    rcases member with rfl | rfl | rfl | rfl
    · rfl
    all_goals cases isType
  exact exists_declaresType_demo List.mem_cons_self List.mem_cons_self rfl named only

theorem sharedNode_length :
    buffering.SharedNode
      (Iri.member (buffering.typeIri (extendPath "demo" "Buffer")) "len" "") := by
  rcases buffering_declares with ⟨path, declares, same⟩
  have resolves : buffering.typeIri? bufferImplementation.target =
      some (buffering.typeIri (extendPath path "Buffer")) := by
    rw [same]
    simp [bufferImplementation, typeIri?, referenceIri, referencedPath, buffering, demo,
      Table.get?, Entries.get?, ItemSummary.fullPath, extendPath, pathSeparator]
  have processes : buffering.Processes "3" bufferImplementation
      (buffering.typeIri (extendPath path "Buffer")) :=
    ⟨rfl, ⟨_, buffering_item?.2.1, rfl⟩, rfl, rfl, resolves, declares.mem_types⟩
  have named : lengthFunction.properName? = some (fieldName lengthField) := by
    rw [properName?_lengthFunction, fieldName_lengthField]
  have shared := SharedNode.ofType declares List.mem_cons_self buffering_item?.1 rfl processes rfl
    List.mem_cons_self buffering_item?.2.2 rfl named
  rw [same, fieldName_lengthField] at shared
  exact shared

theorem buffering_distinctFieldNames : buffering.DistinctFieldNames := by
  intro id item found
  have member := (Table.mem_entries_iff _ _ _).mpr found
  simp only [buffering, demo, bufferItems, List.mem_cons, Prod.mk.injEq, List.not_mem_nil,
    or_false] at member
  rcases member with ⟨_, rfl⟩ | ⟨_, rfl⟩ | ⟨_, rfl⟩ | ⟨_, rfl⟩ | ⟨_, rfl⟩
  · exact List.nodup_nil
  · have fields : fieldIds buffer.body ++ shownFieldIds buffer.body = ["2"] := rfl
    simp [fields, buffering_item?.1]
  · exact List.nodup_nil
  · exact List.nodup_nil
  · exact List.nodup_nil

theorem buffering_distinctInherentFunctionNames : buffering.DistinctInherentFunctionNames := by
  intro target
  have implementations : buffering.implementations = [("3", bufferImplementation)] := rfl
  have items : bufferImplementation.items = ["4"] := rfl
  rw [inherentFunctionNames, implementations, List.flatMap_singleton]
  dsimp only
  split
  · rw [items]
    cases named : buffering.functionName? "4" with
    | none => simp [named]
    | some => simp [named]
  · exact List.nodup_nil

/-- No two fields of a type have the same name and no two functions do, and still a field and a
function share a node. -/
theorem field_and_method_share_node :
    buffering.DistinctFieldNames ∧ buffering.DistinctInherentFunctionNames ∧
      ⟨Iri.member (buffering.typeIri (extendPath "demo" "Buffer")) "len" "", Property.type,
        .iri Class.field⟩ ∈ buffering.triples ∧
      ⟨Iri.member (buffering.typeIri (extendPath "demo" "Buffer")) "len" "", Property.type,
        .iri Class.method⟩ ∈ buffering.triples := by
  refine ⟨buffering_distinctFieldNames, buffering_distinctInherentFunctionNames, ?_⟩
  rw [field_iff_source, method_iff_source]
  exact buffering.sources_of_sharedNode sharedNode_length

end Extraction

end CrateGraph
