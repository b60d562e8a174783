import CrateGraph.Extraction.Outline

/-!
What descriptions read of a crate.

A description looks items up by their ids and reads of each no more than its name, its visibility,
its attributes and its body, and nothing of what a module lists. Two crates in which all of these
agree are described in the same words, whatever the order of their items.
-/

namespace CrateGraph

def ItemBody.isModule : ItemBody → Bool
  | .module _ => true
  | _ => false

/-- Two items in which everything agrees that a description reads. What a module lists is not read
by descriptions but followed by the walk. -/
structure Item.Alike (left right : Item) : Prop where
  name : left.name = right.name
  visibility : left.visibility = right.visibility
  attributes : left.attributes = right.attributes
  body : left.body = right.body ∨ (left.body.isModule ∧ right.body.isModule)

namespace Item.Alike

variable {left right : Item}

theorem refl (item : Item) : Alike item item :=
  ⟨rfl, rfl, rfl, Or.inl rfl⟩

theorem properName?_eq (alike : Alike left right) : left.properName? = right.properName? := by
  rw [properName?, properName?, alike.name]

theorem fieldName_eq (alike : Alike left right) :
    Extraction.fieldName left = Extraction.fieldName right := by
  rw [Extraction.fieldName, Extraction.fieldName, alike.properName?_eq]

theorem memberHeader_eq (alike : Alike left right) (member name owner : String) :
    Extraction.memberHeader member name owner left =
      Extraction.memberHeader member name owner right := by
  rw [Extraction.memberHeader, Extraction.memberHeader, alike.visibility]

theorem isAutomaticallyDerived_eq (alike : Alike left right) :
    left.isAutomaticallyDerived = right.isAutomaticallyDerived := by
  rw [isAutomaticallyDerived, isAutomaticallyDerived, alike.attributes]

/-- The bodies are the same, or they are those of two modules. -/
theorem body_cases (alike : Alike left right) :
    left.body = right.body ∨
      ∃ leftBody rightBody, left.body = .module leftBody ∧ right.body = .module rightBody := by
  rcases alike.body with same | ⟨leftIsModule, rightIsModule⟩
  · exact Or.inl same
  · right
    cases leftShape : left.body <;> simp [leftShape, ItemBody.isModule] at leftIsModule
    cases rightShape : right.body <;> simp [rightShape, ItemBody.isModule] at rightIsModule
    exact ⟨_, _, rfl, rfl⟩

end Item.Alike

theorem optionRel_cases {Value : Type} {related : Value → Value → Prop}
    {left right : Option Value} (rel : Option.Rel related left right) :
    (left = none ∧ right = none) ∨
      ∃ leftValue rightValue, left = some leftValue ∧ right = some rightValue ∧
        related leftValue rightValue := by
  cases rel with
  | none => exact Or.inl ⟨rfl, rfl⟩
  | some values => exact Or.inr ⟨_, _, rfl, rfl, values⟩

namespace Extraction

/-- Two extractions that read the same addresses and alike items, whatever their flags. -/
structure ReadsAlike (left right : Extraction) : Prop where
  base : left.options.base = right.options.base
  name : left.crateName = right.crateName
  version : left.crateVersion = right.crateVersion
  paths : ∀ id, left.crate.paths.get? id = right.crate.paths.get? id
  items : ∀ id, Option.Rel Item.Alike (left.item? id) (right.item? id)

/-- The flags that decide what a description holds are the same. -/
structure SameDetail (left right : Extraction) : Prop where
  attributes : left.options.includeAttributes = right.options.includeAttributes
  errorTypes : left.options.extractErrorTypes = right.options.extractErrorTypes
  derives : left.options.extractDerives = right.options.extractDerives

theorem SameDetail.attributes_eq {left right : Extraction} (detail : SameDetail left right) :
    left.attributes = right.attributes := by
  funext item owner
  simp only [Extraction.attributes, detail.attributes]

namespace ReadsAlike

variable {left right : Extraction} (same : ReadsAlike left right)
include same

theorem item?_cases (id : ItemId) :
    (left.item? id = none ∧ right.item? id = none) ∨
      ∃ leftItem rightItem, left.item? id = some leftItem ∧ right.item? id = some rightItem ∧
        leftItem.Alike rightItem :=
  optionRel_cases (same.items id)

/-! ### Addresses -/

theorem minter_eq : left.minter = right.minter := by
  rw [minter, minter, same.base]

theorem crateIri_eq : left.crateIri = right.crateIri := by
  rw [crateIri, crateIri, same.minter_eq, same.name, same.version]

theorem moduleIri_eq : left.moduleIri = right.moduleIri := by
  funext path
  rw [moduleIri, moduleIri, same.minter_eq, same.name, same.version]

theorem typeIri_eq : left.typeIri = right.typeIri := by
  funext path
  rw [typeIri, typeIri, same.minter_eq, same.name, same.version]

theorem implementationIri_eq : left.implementationIri = right.implementationIri := by
  funext id
  rw [implementationIri, implementationIri, same.minter_eq, same.name, same.version]

theorem referencedPath_eq : left.referencedPath = right.referencedPath := by
  funext reference
  have names : ∀ id, (left.item? id).bind Item.properName? =
      (right.item? id).bind Item.properName? := by
    intro id
    rcases same.item?_cases id with
      ⟨leftMissing, rightMissing⟩ | ⟨_, _, leftFound, rightFound, alike⟩
    · rw [leftMissing, rightMissing]
    · rw [leftFound, rightFound]
      exact alike.properName?_eq
  simp only [referencedPath, same.paths, names]

theorem referenceIri_eq : left.referenceIri = right.referenceIri := by
  funext reference
  rw [referenceIri, referenceIri, same.typeIri_eq, same.referencedPath_eq]

theorem typeIri?_eq : left.typeIri? = right.typeIri? := by
  funext type
  cases type <;> simp only [typeIri?, same.referenceIri_eq, same.minter_eq]

/-! ### Signatures -/

theorem typeEdge_eq : left.typeEdge = right.typeEdge := by
  funext subject predicate type
  simp only [typeEdge, same.typeIri?_eq]

theorem optionalTypeEdge_eq : left.optionalTypeEdge = right.optionalTypeEdge := by
  funext subject predicate type
  cases type with
  | none => rfl
  | some type => simp only [optionalTypeEdge, same.typeEdge_eq]

theorem boundEdges_eq : left.boundEdges = right.boundEdges := by
  funext subject predicate bounds
  simp only [boundEdges, same.referenceIri_eq]

theorem genericParameter_eq : left.genericParameter = right.genericParameter := by
  funext owner ordinal parameter
  simp only [genericParameter, same.boundEdges_eq, same.typeEdge_eq]

theorem genericParameters_eq : left.genericParameters = right.genericParameters := by
  funext owner ordinal parameters
  rw [genericParameters_eq_flatMap, genericParameters_eq_flatMap, same.genericParameter_eq]

theorem generics_eq : left.generics = right.generics := by
  funext generics owner
  rw [Extraction.generics, Extraction.generics, same.genericParameters_eq]

theorem parameters_eq : left.parameters = right.parameters := by
  funext function ordinal inputs
  simp only [parameters_eq_flatMap, parameter, same.typeEdge_eq]

theorem functionDetails_eq : left.functionDetails = right.functionDetails := by
  funext function body
  rw [functionDetails, functionDetails, same.generics_eq, same.parameters_eq,
    same.optionalTypeEdge_eq]

/-! ### Constants, statics and fields -/

theorem constant_eq : left.constant = right.constant := by
  funext item body path
  simp only [constant, same.moduleIri_eq, same.typeEdge_eq]

theorem static_eq : left.static = right.static := by
  funext item body path
  simp only [static, same.moduleIri_eq, same.typeEdge_eq]

theorem field_eq : left.field = right.field := by
  funext owner id
  unfold field
  rcases same.item?_cases id with ⟨leftMissing, rightMissing⟩ | ⟨_, _, leftFound, rightFound, alike⟩
  · rw [leftMissing, rightMissing]
  · rw [leftFound, rightFound]
    rcases alike.body_cases with bodies | ⟨_, _, leftBody, rightBody⟩
    · simp only [bodies, alike.fieldName_eq, alike.memberHeader_eq, same.typeEdge_eq]
    · simp only [leftBody, rightBody]

theorem variantField_eq : left.variantField = right.variantField := by
  funext owner id
  unfold variantField
  rcases same.item?_cases id with ⟨leftMissing, rightMissing⟩ | ⟨_, _, leftFound, rightFound, alike⟩
  · rw [leftMissing, rightMissing]
  · rw [leftFound, rightFound]
    rcases alike.body_cases with bodies | ⟨_, _, leftBody, rightBody⟩
    · simp only [bodies, alike.fieldName_eq, same.typeEdge_eq]
    · simp only [leftBody, rightBody]

theorem variant_eq : left.variant = right.variant := by
  funext owner id
  unfold variant
  rcases same.item?_cases id with ⟨leftMissing, rightMissing⟩ | ⟨_, _, leftFound, rightFound, alike⟩
  · rw [leftMissing, rightMissing]
  · rw [leftFound, rightFound]
    rcases alike.body_cases with bodies | ⟨_, _, leftBody, rightBody⟩
    · simp only [bodies, alike.properName?_eq, same.variantField_eq]
    · simp only [leftBody, rightBody, alike.properName?_eq]

/-! ### Crates and modules -/

theorem crateNode_eq : left.crateNode = right.crateNode := by
  simp only [crateNode, same.crateIri_eq, same.name, same.version]

theorem dependency_eq : left.dependency = right.dependency := by
  funext external
  simp only [dependency, same.crateIri_eq, same.minter_eq]

theorem moduleNode_eq (path : String) {leftItem rightItem : Item}
    (alike : leftItem.Alike rightItem) :
    left.moduleNode path leftItem = right.moduleNode path rightItem := by
  simp only [moduleNode, same.moduleIri_eq, same.crateIri_eq, alike.properName?_eq,
    alike.visibility]

/-! ### Descriptions that depend on flags -/

variable (detail : SameDetail left right)
include detail

theorem errorTypeEdge_eq : left.errorTypeEdge = right.errorTypeEdge := by
  funext function body
  simp only [errorTypeEdge, detail.errorTypes, same.optionalTypeEdge_eq]

theorem moduleFunction_eq : left.moduleFunction = right.moduleFunction := by
  funext item body path
  simp only [moduleFunction, same.moduleIri_eq, detail.attributes_eq,
    same.functionDetails_eq, same.errorTypeEdge_eq detail]

theorem method_eq : left.method = right.method := by
  funext id owner
  unfold method
  rcases same.item?_cases id with ⟨leftMissing, rightMissing⟩ | ⟨_, _, leftFound, rightFound, alike⟩
  · rw [leftMissing, rightMissing]
  · rw [leftFound, rightFound]
    rcases alike.body_cases with bodies | ⟨_, _, leftBody, rightBody⟩
    · simp only [bodies, alike.properName?_eq, alike.memberHeader_eq, same.functionDetails_eq,
        same.errorTypeEdge_eq detail]
    · simp only [leftBody, rightBody, alike.properName?_eq, alike.memberHeader_eq]

theorem derives_eq : left.derives = right.derives := by
  funext type implementations
  unfold derives
  rw [detail.derives]
  congr 2
  funext id
  rcases same.item?_cases id with ⟨leftMissing, rightMissing⟩ | ⟨_, _, leftFound, rightFound, alike⟩
  · rw [leftMissing, rightMissing]
  · rw [leftFound, rightFound]
    rcases alike.body_cases with bodies | ⟨_, _, leftBody, rightBody⟩
    · simp only [bodies, alike.isAutomaticallyDerived_eq]
    · simp only [leftBody, rightBody]

theorem typeHeader_eq : left.typeHeader = right.typeHeader := by
  funext type name path item classes
  simp only [typeHeader, same.crateIri_eq, same.moduleIri_eq,
    detail.attributes_eq]

theorem typeDetails_eq : left.typeDetails = right.typeDetails := by
  funext type body
  cases body <;>
    simp only [typeDetails, same.generics_eq, same.field_eq, same.variant_eq,
      same.boundEdges_eq, same.optionalTypeEdge_eq, same.derives_eq detail, same.method_eq detail]

theorem implementationMember_eq : left.implementationMember = right.implementationMember := by
  funext owner id
  unfold implementationMember
  rcases same.item?_cases id with ⟨leftMissing, rightMissing⟩ | ⟨_, _, leftFound, rightFound, alike⟩
  · rw [leftMissing, rightMissing]
  · rw [leftFound, rightFound]
    rcases alike.body_cases with bodies | ⟨_, _, leftBody, rightBody⟩
    · simp only [bodies, alike.properName?_eq, same.method_eq detail]
    · simp only [leftBody, rightBody]

theorem implementationNode_eq : left.implementationNode = right.implementationNode := by
  funext id target body
  simp only [implementationNode, same.implementationIri_eq, same.referenceIri_eq,
    same.implementationMember_eq detail]

/-! ### Entries -/

theorem itemEntries_eq : left.itemEntries = right.itemEntries := by
  funext item path
  simp only [itemEntries, same.moduleFunction_eq detail, same.constant_eq, same.static_eq,
    same.typeIri_eq, same.typeHeader_eq detail, same.typeDetails_eq detail]

theorem implementationEntries_eq :
    left.implementationEntries = right.implementationEntries := by
  funext id body
  simp only [implementationEntries, same.typeIri?_eq, same.implementationNode_eq detail]

end ReadsAlike

/-! ### Crates that differ in their index alone -/

/-- Nothing but the index of the crate is different. -/
structure SameFrame (left right : Extraction) : Prop where
  crate : right.crate = { left.crate with index := right.crate.index }
  options : left.options = right.options

namespace SameFrame

variable {left right : Extraction} (frame : SameFrame left right)
include frame

theorem root_eq : left.crate.root = right.crate.root := by
  rw [frame.crate]

theorem sameDetail : SameDetail left right where
  attributes := by rw [frame.options]
  errorTypes := by rw [frame.options]
  derives := by rw [frame.options]

theorem readsAlike (items : ∀ id, Option.Rel Item.Alike (left.item? id) (right.item? id)) :
    ReadsAlike left right where
  base := by rw [frame.options]
  name := by
    have sameName : (left.item? left.crate.root).bind Item.properName? =
        (right.item? left.crate.root).bind Item.properName? := by
      rcases optionRel_cases (items left.crate.root) with
        ⟨leftMissing, rightMissing⟩ | ⟨_, _, leftFound, rightFound, alike⟩
      · rw [leftMissing, rightMissing]
      · rw [leftFound, rightFound]
        exact alike.properName?_eq
    change ((left.item? left.crate.root).bind Item.properName?).getD Crate.unnamed =
      ((right.item? right.crate.root).bind Item.properName?).getD Crate.unnamed
    rw [sameName, frame.root_eq]
  version := by
    rw [crateVersion, crateVersion, frame.crate]
  paths := by
    intro id
    rw [frame.crate]
  items := items

end SameFrame

end Extraction

end CrateGraph
