import CrateGraph.Proofs.Extraction.Counters

/-!
Which items become methods and which become fields.

A method comes from a function of a module, from an item that a trait lists or from a function that
an implementation lists, and a field from a constant of a module or from a field of a struct, a
union or a variant. A node is a method or a field exactly if it belongs to such an item.
-/

namespace CrateGraph

open Ontology

namespace Extraction

variable (extraction : Extraction)

/-! ### Where members come from -/

/-- The item is made a method with the node. -/
inductive MethodSource : String → Item → Prop
  | moduleFunction {path name : String} {item : Item} {body : FunctionBody}
      (visited : extraction.Visits path item) (isFunction : item.body = .function body)
      (named : item.properName? = some name) :
      MethodSource (Iri.member (extraction.moduleIri path) name "") item
  | traitItem {path name memberName : String} {item member : Item} {id : ItemId}
      (declares : extraction.DeclaresType path name item) (listed : id ∈ traitItemIds item.body)
      (found : extraction.item? id = some member) (named : member.properName? = some memberName) :
      MethodSource (Iri.member (extraction.typeIri (extendPath path name)) memberName "") member
  | implementationFunction {id memberId : ItemId} {body : ImplementationBody}
      {target memberName : String} {member : Item} {function : FunctionBody}
      (processes : extraction.Processes id body target) (listed : memberId ∈ body.items)
      (found : extraction.item? memberId = some member)
      (isFunction : member.body = .function function)
      (named : member.properName? = some memberName) :
      MethodSource (Iri.member (extraction.memberOwner id target body) memberName "") member

/-- The item is made a field with the node. -/
inductive FieldSource : String → Item → Prop
  | constant {path name : String} {item : Item} {body : ConstantBody}
      (visited : extraction.Visits path item) (isConstant : item.body = .constant body)
      (named : item.properName? = some name) :
      FieldSource (Iri.member (extraction.moduleIri path) name "") item
  | field {path name : String} {item member : Item} {id : ItemId} {type : RustType}
      (declares : extraction.DeclaresType path name item) (listed : id ∈ fieldIds item.body)
      (found : extraction.item? id = some member) (isField : member.body = .field type) :
      FieldSource
        (Iri.member (extraction.typeIri (extendPath path name)) (fieldName member) "") member
  | variantField {path name variantName : String} {item variant member : Item}
      {variantId id : ItemId} {type : RustType}
      (declares : extraction.DeclaresType path name item)
      (hasVariant : variantId ∈ variantIds item.body)
      (variantFound : extraction.item? variantId = some variant)
      (variantNamed : variant.properName? = some variantName)
      (listed : id ∈ shownFieldIds variant.body) (found : extraction.item? id = some member)
      (isField : member.body = .field type) :
      FieldSource
        (Iri.member (Iri.variant (extraction.typeIri (extendPath path name)) variantName)
          (fieldName member) "") member

/-! ### Marks of single members -/

theorem memberNode?_eq_some_iff (owner node : String) (item : Item) :
    memberNode? owner item = some node ↔
      ∃ name, item.properName? = some name ∧ node = Iri.member owner name "" := by
  rw [memberNode?, Option.map_eq_some_iff]
  simp only [eq_comm]

theorem fieldNode?_eq_some_iff (owner node : String) (id : ItemId) :
    extraction.fieldNode? owner id = some node ↔
      ∃ item type, extraction.item? id = some item ∧ item.body = .field type ∧
        node = Iri.member owner (fieldName item) "" := by
  rw [fieldNode?, Option.bind_eq_some_iff]
  constructor
  · intro finding
    rcases finding with ⟨item, found, holds⟩
    split at holds
    · next type isField =>
        cases holds
        exact ⟨item, type, found, isField, rfl⟩
    · cases holds
  · intro finding
    rcases finding with ⟨item, type, found, isField, rfl⟩
    refine ⟨item, found, ?_⟩
    rw [isField]

theorem typed_mem_methodMarks_iff (node nodeClass other : String) :
    .typed node nodeClass ∈ methodMarks other ↔ node = other ∧ nodeClass = Class.method := by
  simp [methodMarks]

theorem typed_mem_moduleFunction_iff (node nodeClass path : String) (item : Item)
    (body : FunctionBody) :
    .typed node nodeClass ∈ marks (extraction.moduleFunction item body path) ↔
      nodeClass = Class.method ∧ memberNode? (extraction.moduleIri path) item = some node := by
  simp [marks_moduleFunction, typed_mem_methodMarks_iff, and_comm]

theorem typed_mem_method_iff (node nodeClass owner : String) (id : ItemId) :
    .typed node nodeClass ∈ marks (extraction.method id owner) ↔
      nodeClass = Class.method ∧
        ∃ item, extraction.item? id = some item ∧ memberNode? owner item = some node := by
  simp [marks_method, typed_mem_methodMarks_iff, and_comm, Option.bind_eq_some_iff]

theorem typed_mem_constant_iff (node nodeClass path : String) (item : Item)
    (body : ConstantBody) :
    .typed node nodeClass ∈ marks (extraction.constant item body path) ↔
      (nodeClass = Class.field ∨ nodeClass = Class.constant) ∧
        memberNode? (extraction.moduleIri path) item = some node := by
  simp only [marks_constant, List.mem_flatMap, Option.mem_toList, List.mem_cons,
    Mark.typed.injEq, List.not_mem_nil, or_false]
  constructor
  · intro marking
    rcases marking with ⟨other, isNode, ⟨rfl, isClass⟩ | ⟨rfl, isClass⟩⟩
    · exact ⟨Or.inl isClass, isNode⟩
    · exact ⟨Or.inr isClass, isNode⟩
  · intro marking
    rcases marking with ⟨isField | isConstant, isNode⟩
    · exact ⟨node, isNode, Or.inl ⟨rfl, isField⟩⟩
    · exact ⟨node, isNode, Or.inr ⟨rfl, isConstant⟩⟩

theorem typed_mem_static_iff (node nodeClass path : String) (item : Item) (body : StaticBody) :
    .typed node nodeClass ∈ marks (extraction.static item body path) ↔
      nodeClass = Class.static ∧ memberNode? (extraction.moduleIri path) item = some node := by
  simp [marks_static, eq_comm, and_comm]

theorem typed_mem_field_iff (node nodeClass owner : String) (id : ItemId) :
    .typed node nodeClass ∈ marks (extraction.field owner id) ↔
      nodeClass = Class.field ∧ extraction.fieldNode? owner id = some node := by
  simp [marks_field, eq_comm, and_comm]

theorem typed_mem_variant_iff (node nodeClass owner : String) (id : ItemId) :
    .typed node nodeClass ∈ marks (extraction.variant owner id) ↔
      ∃ item name, extraction.item? id = some item ∧ item.properName? = some name ∧
        (nodeClass = Class.enumVariant ∧ node = Iri.variant owner name ∨
          ∃ fieldId ∈ shownFieldIds item.body, nodeClass = Class.field ∧
            extraction.fieldNode? (Iri.variant owner name) fieldId = some node) := by
  simp [marks_variant, marks_variantField, eq_comm, and_comm]

theorem method_mem_implementationMember_iff (node owner : String) (id : ItemId) :
    .typed node Class.method ∈ marks (extraction.implementationMember owner id) ↔
      ∃ item body, extraction.item? id = some item ∧ item.body = .function body ∧
        memberNode? owner item = some node := by
  simp only [marks_implementationMember, List.mem_flatMap, Option.mem_toList]
  constructor
  · intro marking
    rcases marking with ⟨item, found, other, isNode, marked⟩
    unfold implementationMemberMarks at marked
    split at marked
    · next body isFunction =>
        obtain ⟨rfl, _⟩ := (typed_mem_methodMarks_iff _ _ _).mp marked
        exact ⟨item, body, found, isFunction, isNode⟩
    · simp [Class.method, Class.member] at marked
    · simp [Class.method, Class.member] at marked
    · cases marked
  · intro marking
    rcases marking with ⟨item, body, found, isFunction, isNode⟩
    refine ⟨item, found, node, isNode, ?_⟩
    rw [isFunction]
    exact (typed_mem_methodMarks_iff _ _ _).mpr ⟨rfl, rfl⟩

theorem field_not_mem_implementationMember (node owner : String) (id : ItemId) :
    .typed node Class.field ∉ marks (extraction.implementationMember owner id) := by
  simp only [marks_implementationMember, List.mem_flatMap, Option.mem_toList]
  intro marking
  rcases marking with ⟨item, _, other, _, marked⟩
  unfold implementationMemberMarks at marked
  split at marked
  · simp [methodMarks, Class.field, Class.method] at marked
  · simp [Class.field, Class.member] at marked
  · simp [Class.field, Class.member] at marked
  · cases marked

theorem method_mem_typeDetails_iff (node type : String) (body : ItemBody) :
    .typed node Class.method ∈ marks (extraction.typeDetails type body) ↔
      ∃ id ∈ traitItemIds body, ∃ item, extraction.item? id = some item ∧
        memberNode? type item = some node := by
  simp [marks_typeDetails, typed_mem_field_iff, typed_mem_variant_iff, typed_mem_method_iff,
    Class.method, Class.field, Class.enumVariant]

theorem field_mem_typeDetails_iff (node type : String) (body : ItemBody) :
    .typed node Class.field ∈ marks (extraction.typeDetails type body) ↔
      (∃ id ∈ fieldIds body, extraction.fieldNode? type id = some node) ∨
      ∃ id ∈ variantIds body, ∃ item name, extraction.item? id = some item ∧
        item.properName? = some name ∧ ∃ fieldId ∈ shownFieldIds item.body,
          extraction.fieldNode? (Iri.variant type name) fieldId = some node := by
  simp [marks_typeDetails, typed_mem_field_iff, typed_mem_variant_iff, typed_mem_method_iff,
    Class.method, Class.field, Class.enumVariant]

/-! ### Marks of members in a run -/

/-- The descriptions in which members get their classes. -/
inductive MemberMark (node nodeClass : String) : Prop
  | function {path : String} {item : Item} {body : FunctionBody}
      (visited : extraction.Visits path item) (isFunction : item.body = .function body)
      (marked : .typed node nodeClass ∈ marks (extraction.moduleFunction item body path))
  | constant {path : String} {item : Item} {body : ConstantBody}
      (visited : extraction.Visits path item) (isConstant : item.body = .constant body)
      (marked : .typed node nodeClass ∈ marks (extraction.constant item body path))
  | static {path : String} {item : Item} {body : StaticBody}
      (visited : extraction.Visits path item) (isStatic : item.body = .static body)
      (marked : .typed node nodeClass ∈ marks (extraction.static item body path))
  | type {path name : String} {item : Item} (declares : extraction.DeclaresType path name item)
      (marked : .typed node nodeClass ∈
        marks (extraction.typeDetails (extraction.typeIri (extendPath path name)) item.body))
  | implementation {id memberId : ItemId} {body : ImplementationBody} {target : String}
      (processes : extraction.Processes id body target) (listed : memberId ∈ body.items)
      (marked : .typed node nodeClass ∈
        marks (extraction.implementationMember (extraction.memberOwner id target body) memberId))

@[simp] theorem not_mem_memberClasses :
    Class.struct ∉ memberClasses ∧ Class.enum ∉ memberClasses ∧
      Class.interface ∉ memberClasses ∧ Class.union ∉ memberClasses ∧
      Class.typeAlias ∉ memberClasses ∧ Class.trait ∉ memberClasses ∧
      Class.crate ∉ memberClasses ∧ Class.assembly ∉ memberClasses ∧
      Class.module ∉ memberClasses ∧ Class.container ∉ memberClasses ∧
      Class.traitImplementation ∉ memberClasses ∧
      Class.inherentImplementation ∉ memberClasses := by
  simp [memberClasses, Class.struct, Class.enum, Class.interface, Class.union, Class.typeAlias,
    Class.trait, Class.crate, Class.assembly, Class.module, Class.container,
    Class.traitImplementation, Class.inherentImplementation, Class.method, Class.field,
    Class.constant, Class.static, Class.enumVariant, Class.member]

theorem not_mem_typeClasses {nodeClass : String} (isMember : nodeClass ∈ memberClasses)
    (body : ItemBody) : nodeClass ∉ typeClasses body := by
  intro isClass
  cases body with
  | struct | enum | union | typeAlias =>
      rw [List.mem_singleton.mp isClass] at isMember
      simp at isMember
  | trait =>
      simp only [typeClasses, List.mem_cons, List.not_mem_nil, or_false] at isClass
      rcases isClass with rfl | rfl
      · simp at isMember
      · simp at isMember
  | module | variant | function | implementation | reexport | constant | static | field
  | macroSource | associatedConstant | associatedType | unknown => cases isClass

theorem memberMark_of_describes {nodeClass node : String} {steps : List Step}
    (isMember : nodeClass ∈ memberClasses) (describes : extraction.Describes steps)
    (marked : .typed node nodeClass ∈ marks steps) : extraction.MemberMark node nodeClass := by
  cases describes with
  | crate =>
      simp only [marks_crateNode, List.mem_cons, Mark.typed.injEq, List.not_mem_nil,
        or_false] at marked
      rcases marked with ⟨_, rfl⟩ | ⟨_, rfl⟩
      · simp at isMember
      · simp at isMember
  | dependency =>
      rw [marks_dependency] at marked
      split at marked
      · cases marked
      · simp only [List.mem_singleton, Mark.typed.injEq] at marked
        rw [marked.2] at isMember
        simp at isMember
  | module =>
      simp only [marks_moduleNode, List.mem_cons, Mark.typed.injEq, List.not_mem_nil,
        or_false] at marked
      rcases marked with ⟨_, rfl⟩ | ⟨_, rfl⟩
      · simp at isMember
      · simp at isMember
  | function visited isFunction => exact .function visited isFunction marked
  | constant visited isConstant => exact .constant visited isConstant marked
  | static visited isStatic => exact .static visited isStatic marked
  | type declares =>
      rw [marks_typeEntry] at marked
      rcases List.mem_append.mp marked with header | details
      · simp only [List.mem_map, Mark.typed.injEq] at header
        rcases header with ⟨_, isClass, _, rfl⟩
        exact absurd isClass (not_mem_typeClasses isMember _)
      · exact .type declares details
  | implementation processes =>
      rw [marks_implementationNode] at marked
      rcases List.mem_append.mp marked with header | member
      · split at header
        · simp only [List.mem_cons, Mark.typed.injEq, reduceCtorEq, List.not_mem_nil,
            or_false] at header
          rw [header.2] at isMember
          simp at isMember
        · simp only [List.mem_singleton, Mark.typed.injEq] at header
          rw [header.2] at isMember
          simp at isMember
      · rcases List.mem_flatMap.mp member with ⟨_, listed, own⟩
        exact .implementation processes listed own

theorem exists_describes_of_memberMark {nodeClass node : String}
    (memberMark : extraction.MemberMark node nodeClass) :
    ∃ steps, extraction.Describes steps ∧ .typed node nodeClass ∈ marks steps := by
  cases memberMark with
  | function visited isFunction marked => exact ⟨_, .function visited isFunction, marked⟩
  | constant visited isConstant marked => exact ⟨_, .constant visited isConstant, marked⟩
  | static visited isStatic marked => exact ⟨_, .static visited isStatic, marked⟩
  | type declares marked =>
      refine ⟨_, .type declares, ?_⟩
      rw [marks_typeEntry]
      exact List.mem_append_right _ marked
  | implementation processes listed marked =>
      refine ⟨_, .implementation processes, ?_⟩
      rw [marks_implementationNode]
      exact List.mem_append_right _ (List.mem_flatMap.mpr ⟨_, listed, marked⟩)

theorem typed_iff_memberMark {nodeClass : String} (isMember : nodeClass ∈ memberClasses)
    (own : nodeClass ∉ signatureClasses) (node : String) :
    ⟨node, Property.type, .iri nodeClass⟩ ∈ extraction.triples ↔
      extraction.MemberMark node nodeClass := by
  rw [extraction.typed_iff own (member_class_apart isMember).2.2.2]
  constructor
  · intro marking
    rcases marking with ⟨steps, describes, marked⟩
    exact extraction.memberMark_of_describes isMember describes marked
  · exact extraction.exists_describes_of_memberMark

/-! ### Methods and fields -/

theorem method_iff_source (node : String) :
    ⟨node, Property.type, .iri Class.method⟩ ∈ extraction.triples ↔
      ∃ item, extraction.MethodSource node item := by
  rw [extraction.typed_iff_memberMark (by simp [memberClasses]) (by simp)]
  constructor
  · intro memberMark
    cases memberMark with
    | @function path item body visited isFunction marked =>
        rw [typed_mem_moduleFunction_iff, memberNode?_eq_some_iff] at marked
        rcases marked with ⟨_, name, named, rfl⟩
        exact ⟨item, .moduleFunction visited isFunction named⟩
    | constant _ _ marked =>
        rw [typed_mem_constant_iff] at marked
        simp [Class.method, Class.field, Class.constant] at marked
    | static _ _ marked =>
        rw [typed_mem_static_iff] at marked
        simp [Class.method, Class.static] at marked
    | type declares marked =>
        rcases (extraction.method_mem_typeDetails_iff _ _ _).mp marked with
          ⟨id, listed, item, found, isNode⟩
        rcases (memberNode?_eq_some_iff _ _ _).mp isNode with ⟨name, named, rfl⟩
        exact ⟨item, .traitItem declares listed found named⟩
    | implementation processes listed marked =>
        rcases (extraction.method_mem_implementationMember_iff _ _ _).mp marked with
          ⟨item, body, found, isFunction, isNode⟩
        rcases (memberNode?_eq_some_iff _ _ _).mp isNode with ⟨name, named, rfl⟩
        exact ⟨item, .implementationFunction processes listed found isFunction named⟩
  · intro origin
    rcases origin with ⟨_, source⟩
    have isNode : ∀ {owner name : String} {item : Item}, item.properName? = some name →
        memberNode? owner item = some (Iri.member owner name "") :=
      fun named => (memberNode?_eq_some_iff _ _ _).mpr ⟨_, named, rfl⟩
    cases source with
    | moduleFunction visited isFunction named =>
        refine .function visited isFunction ?_
        exact (extraction.typed_mem_moduleFunction_iff _ _ _ _ _).mpr ⟨rfl, isNode named⟩
    | traitItem declares listed found named =>
        refine .type declares ?_
        exact (extraction.method_mem_typeDetails_iff _ _ _).mpr ⟨_, listed, _, found, isNode named⟩
    | implementationFunction processes listed found isFunction named =>
        refine .implementation processes listed ?_
        exact (extraction.method_mem_implementationMember_iff _ _ _).mpr
          ⟨_, _, found, isFunction, isNode named⟩

theorem field_iff_source (node : String) :
    ⟨node, Property.type, .iri Class.field⟩ ∈ extraction.triples ↔
      ∃ item, extraction.FieldSource node item := by
  rw [extraction.typed_iff_memberMark (by simp [memberClasses]) (by simp)]
  constructor
  · intro memberMark
    cases memberMark with
    | function _ _ marked =>
        rw [typed_mem_moduleFunction_iff] at marked
        simp [Class.method, Class.field] at marked
    | @constant path item body visited isConstant marked =>
        rw [typed_mem_constant_iff, memberNode?_eq_some_iff] at marked
        rcases marked with ⟨_, name, named, rfl⟩
        exact ⟨item, .constant visited isConstant named⟩
    | static _ _ marked =>
        rw [typed_mem_static_iff] at marked
        simp [Class.field, Class.static] at marked
    | type declares marked =>
        rcases (extraction.field_mem_typeDetails_iff _ _ _).mp marked with
          ⟨id, listed, isNode⟩ |
          ⟨variantId, hasVariant, variant, variantName, variantFound, variantNamed, id, listed,
            isNode⟩
        · rcases (extraction.fieldNode?_eq_some_iff _ _ _).mp isNode with
            ⟨item, type, found, isField, rfl⟩
          exact ⟨item, .field declares listed found isField⟩
        · rcases (extraction.fieldNode?_eq_some_iff _ _ _).mp isNode with
            ⟨item, type, found, isField, rfl⟩
          exact ⟨item, .variantField declares hasVariant variantFound variantNamed listed found
            isField⟩
    | implementation _ _ marked =>
        exact absurd marked (extraction.field_not_mem_implementationMember _ _ _)
  · intro origin
    rcases origin with ⟨_, source⟩
    have isNode : ∀ {owner : String} {id : ItemId} {item : Item} {type : RustType},
        extraction.item? id = some item → item.body = .field type →
        extraction.fieldNode? owner id = some (Iri.member owner (fieldName item) "") :=
      fun found isField => (extraction.fieldNode?_eq_some_iff _ _ _).mpr ⟨_, _, found, isField, rfl⟩
    cases source with
    | constant visited isConstant named =>
        refine .constant visited isConstant ?_
        exact (extraction.typed_mem_constant_iff _ _ _ _ _).mpr
          ⟨Or.inl rfl, (memberNode?_eq_some_iff _ _ _).mpr ⟨_, named, rfl⟩⟩
    | field declares listed found isField =>
        refine .type declares ?_
        exact (extraction.field_mem_typeDetails_iff _ _ _).mpr
          (Or.inl ⟨_, listed, isNode found isField⟩)
    | variantField declares hasVariant variantFound variantNamed listed found isField =>
        refine .type declares ?_
        exact (extraction.field_mem_typeDetails_iff _ _ _).mpr
          (Or.inr ⟨_, hasVariant, _, _, variantFound, variantNamed, _, listed,
            isNode found isField⟩)

end Extraction

end CrateGraph
