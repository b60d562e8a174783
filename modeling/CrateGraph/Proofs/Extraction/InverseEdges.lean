import CrateGraph.Proofs.Extraction.ContainmentForest

/-!
Which edges between owners and what they own are stated in both directions.

Main statement: functions and their parameters lead to each other. A member leads back to its owner
exactly if it is a method, a field or a static, and a generic parameter exactly if it is a type
parameter. The associated types and constants of implementations and the constant parameters are
found from their owners only.
-/

namespace CrateGraph

open Iri (Entity)
open Ontology

namespace Extraction

/-! ### Parts that lead back -/

/-- Of the parts that owners hold by the one property, those with one of the classes lead back, by
the other property, and no other parts do. -/
structure Answers (forward backward : String) (classes : List String) : Prop where
  contains : forward ∈ containmentProperties
  inverts : backward ∈ inverseProperties
  ofParts : ∀ nodeClass ∈ classes, nodeClass ∈ partClasses
  held : ∀ shown ∈ Part.presentations, shown.backward? = some backward →
    shown.forward = forward ∧ ∃ nodeClass ∈ classes, nodeClass ∈ shown.classes
  leadsBack : ∀ shown ∈ Part.presentations, shown.forward = forward →
    ∀ nodeClass ∈ classes, nodeClass ∈ shown.classes → shown.backward? = some backward

/-- The classes of the members that lead back to their owners. -/
def answeringMemberClasses : List String :=
  [Class.method, Class.field, Class.static]

theorem answers_memberOf :
    Answers Property.hasMember Property.memberOf answeringMemberClasses := by
  constructor <;> decide +kernel

theorem answers_parameterOf :
    Answers Property.hasParameter Property.parameterOf [Class.parameter] := by
  constructor <;> decide +kernel

theorem answers_typeParameterOf :
    Answers Property.hasTypeParameter Property.typeParameterOf [Class.typeParameter] := by
  constructor <;> decide +kernel

/-! ### Edges back -/

variable (extraction : Extraction)

/-- The graph has an edge with the property from one node to the other. -/
def States (subject property target : String) : Prop :=
  ⟨subject, property, .iri target⟩ ∈ extraction.triples

variable {extraction} {forward backward : String} {classes : List String}

/-- An edge back is stated where the edge from the owner is and the node has one of the classes. -/
theorem Answers.backward_iff (answers : Answers forward backward classes) (owner node : String) :
    extraction.States node backward owner ↔
      extraction.States owner forward node ∧
        ∃ nodeClass ∈ classes, extraction.States node Property.type nodeClass := by
  constructor
  · intro stated
    have placing : (Step.iri node backward owner).isPlacing :=
      Step.isPlacing_edge (List.mem_append_right _ answers.inverts) node owner
    rcases exists_hasPart stated placing with ⟨holder, part, has, own, _⟩
    rcases Part.backward?_of_mem_steps answers.inverts own with ⟨rfl, back, rfl⟩
    rcases answers.held _ part.presentation_mem_presentations back with
      ⟨rfl, nodeClass, answering, isClass⟩
    exact ⟨has.edge, nodeClass, answering, has.typed isClass⟩
  · rintro ⟨edge, nodeClass, answering, typed⟩
    have placing : (Step.iri node Property.type nodeClass).isPlacing := by
      simpa using answers.ofParts nodeClass answering
    rcases exists_hasPart typed placing with ⟨holder, part, has, own, _⟩
    rcases Part.class_of_mem_steps own with ⟨rfl, isClass⟩
    -- The node may be presented twice, but it has one owner and one property by which it is held.
    rcases owner_and_property_unique answers.contains part.forward_mem_containmentProperties edge
      has.edge with ⟨rfl, sameProperty⟩
    exact has.inverse (answers.leadsBack _ part.presentation_mem_presentations sameProperty.symm
      nodeClass answering isClass)

/-- What owners hold by the property leads back or has one more class. -/
theorem backward_or_class {otherClass : String} (contains : forward ∈ containmentProperties)
    (each : ∀ shown ∈ Part.presentations, shown.forward = forward →
      shown.backward? = some backward ∨ otherClass ∈ shown.classes)
    {owner node : String} (stated : extraction.States owner forward node) :
    extraction.States node backward owner ∨ extraction.States node Property.type otherClass := by
  rcases exists_hasPart_of_edge contains stated with ⟨holder, part, has, rfl, isForward, rfl, _⟩
  exact (each _ part.presentation_mem_presentations isForward.symm).imp has.inverse has.typed

/-- Where the edge back is missing, the node has the other class and none of those that answer. -/
theorem Answers.not_backward_iff (answers : Answers forward backward classes) {otherClass : String}
    (each : ∀ shown ∈ Part.presentations, shown.forward = forward →
      shown.backward? = some backward ∨ otherClass ∈ shown.classes) (owner node : String) :
    (extraction.States owner forward node ∧ ¬extraction.States node backward owner) ↔
      extraction.States owner forward node ∧ extraction.States node Property.type otherClass ∧
        ∀ nodeClass ∈ classes, ¬extraction.States node Property.type nodeClass := by
  apply and_congr_right
  intro stated
  rw [answers.backward_iff, and_iff_right stated]
  constructor
  · intro silent
    have back : ¬extraction.States node backward owner := by
      rwa [answers.backward_iff, and_iff_right stated]
    refine ⟨(backward_or_class answers.contains each stated).resolve_left back, ?_⟩
    intro nodeClass answering typed
    exact silent ⟨nodeClass, answering, typed⟩
  · rintro ⟨_, silent⟩ ⟨nodeClass, answering, typed⟩
    exact silent nodeClass answering typed

variable (extraction)

/-- Functions and their parameters lead to each other. A member leads back to its owner exactly if
it is a method, a field or a static, and else it is an associated type or constant; a generic
parameter leads back exactly if it is a type parameter, and else it is a constant one. -/
theorem inverse_stated_iff_class :
    (∀ function parameter,
      extraction.States function Property.hasParameter parameter ↔
        extraction.States parameter Property.parameterOf function) ∧
    (∀ owner member,
      extraction.States member Property.memberOf owner ↔
        extraction.States owner Property.hasMember member ∧
          ∃ nodeClass ∈ answeringMemberClasses,
            extraction.States member Property.type nodeClass) ∧
    (∀ owner member,
      (extraction.States owner Property.hasMember member ∧
          ¬extraction.States member Property.memberOf owner) ↔
        extraction.States owner Property.hasMember member ∧
          extraction.States member Property.type Class.member ∧
          ∀ nodeClass ∈ answeringMemberClasses,
            ¬extraction.States member Property.type nodeClass) ∧
    (∀ owner parameter,
      extraction.States parameter Property.typeParameterOf owner ↔
        extraction.States owner Property.hasTypeParameter parameter ∧
          extraction.States parameter Property.type Class.typeParameter) ∧
    ∀ owner parameter,
      (extraction.States owner Property.hasTypeParameter parameter ∧
          ¬extraction.States parameter Property.typeParameterOf owner) ↔
        extraction.States owner Property.hasTypeParameter parameter ∧
          extraction.States parameter Property.type Class.constParameter ∧
          ¬extraction.States parameter Property.type Class.typeParameter := by
  refine ⟨?_, answers_memberOf.backward_iff, ?_, ?_, ?_⟩
  · intro function parameter
    have answer : ∀ shown ∈ Part.presentations, shown.forward = Property.hasParameter →
        shown.backward? = some Property.parameterOf := by
      decide +kernel
    constructor
    · intro stated
      rcases exists_hasPart_of_edge answers_parameterOf.contains stated with
        ⟨holder, part, has, rfl, isForward, rfl, _⟩
      exact has.inverse (answer _ part.presentation_mem_presentations isForward.symm)
    · intro stated
      exact ((answers_parameterOf.backward_iff _ _).mp stated).1
  · exact answers_memberOf.not_backward_iff (by decide +kernel)
  · intro owner parameter
    rw [answers_typeParameterOf.backward_iff]
    simp
  · intro owner parameter
    have each : ∀ shown ∈ Part.presentations, shown.forward = Property.hasTypeParameter →
        shown.backward? = some Property.typeParameterOf ∨
          Class.constParameter ∈ shown.classes := by
      decide +kernel
    rw [answers_typeParameterOf.not_backward_iff each]
    simp

/-- The struct `struct Wrapper<const N: usize>`. -/
def wrapper : Item :=
  .plain (some "Wrapper")
    (.struct ⟨.unit, ⟨[⟨"N", .const (.primitive "usize") none⟩], []⟩, []⟩)

/-- The implementation `impl Wrapper { const LIMIT: usize }`. -/
def wrapperImplementation : ImplementationBody where
  generics := ⟨[], []⟩
  trait := none
  target := .path ⟨"Wrapper", some "1", none⟩
  items := ["3"]
  isUnsafe := false
  isNegative := false
  isSynthetic := false
  blanket := none

def wrapperLimit : Item :=
  .plain (some "LIMIT") (.associatedConstant ⟨.primitive "usize", some "8"⟩)

def wrapperItems : Entries String Item :=
  [("1", wrapper), ("2", .plain none (.implementation wrapperImplementation)),
    ("3", wrapperLimit)]

/-- A crate with the struct `Wrapper`, which has a constant parameter and an associated constant. -/
def wrapping : Extraction :=
  demo ["1"] wrapperItems ⟨[("1", ⟨["demo", "Wrapper"], .struct, 0⟩)], by simp⟩
    (by simp [wrapperItems])

def wrapping.typeNode : String :=
  wrapping.typeIri (extendPath "demo" "Wrapper")

theorem wrapping_declares :
    ∃ path, wrapping.DeclaresType path "Wrapper" wrapper ∧
      wrapping.typeIri (extendPath path "Wrapper") = wrapping.typeNode := by
  have named : wrapper.properName? = some "Wrapper" := Item.properName?_plain (by simp) _
  have only : ∀ entry ∈ wrapperItems, entry.2.body.isTypeBody → entry.2 = wrapper := by
    intro entry member isType
    simp only [wrapperItems, List.mem_cons, List.not_mem_nil, or_false] at member
    rcases member with rfl | rfl | rfl
    · rfl
    all_goals cases isType
  exact exists_declaresType_demo List.mem_cons_self List.mem_cons_self rfl named only

theorem wrapping_processes :
    wrapping.Processes "2" wrapperImplementation wrapping.typeNode where
  included := rfl
  found := ⟨.plain none (.implementation wrapperImplementation),
    item?_demo (by simp [wrapperItems]), rfl⟩
  notSynthetic := rfl
  notBlanket := rfl
  resolves := by
    simp [wrapperImplementation, typeIri?, referenceIri, referencedPath, wrapping.typeNode,
      wrapping, demo, Table.get?, Entries.get?, ItemSummary.fullPath, extendPath, pathSeparator]
  declared := by
    rcases wrapping_declares with ⟨path, declares, same⟩
    rw [← same]
    exact declares.mem_types

theorem eq_wrapper_of_visits {path : String} {item : Item} (visited : wrapping.Visits path item) :
    item = wrapper := by
  rcases visited with ⟨_, last, id, _, _, ⟨body, holds, listed⟩, found, _⟩
  rcases (wrapping.moduleBody?_eq_some_iff _ _).mp holds with ⟨outer, outerFound, isModule⟩
  -- The root is the only module, and it lists nothing else.
  have member := (Table.mem_entries_iff _ _ _).mpr outerFound
  simp only [wrapping, demo, wrapperItems, List.mem_cons, Prod.mk.injEq, List.not_mem_nil,
    or_false] at member
  rcases member with ⟨_, rfl⟩ | ⟨_, rfl⟩ | ⟨_, rfl⟩ | ⟨_, rfl⟩
  · cases isModule
    rw [List.mem_singleton.mp listed] at found
    have known : wrapping.item? "1" = some wrapper := item?_demo (by simp [wrapperItems])
    exact Option.some.inj (found.symm.trans known)
  all_goals cases isModule

theorem eq_wrapperImplementation_of_processes {id : ItemId} {body : ImplementationBody}
    {target : String} (processes : wrapping.Processes id body target) :
    body = wrapperImplementation := by
  rcases processes.found with ⟨item, found, isImplementation⟩
  have member : (id, item) ∈ wrapperItems := mem_of_item?_demo found (by simp [isImplementation])
  simp only [wrapperItems, List.mem_cons, Prod.mk.injEq, List.not_mem_nil, or_false] at member
  rcases member with ⟨_, rfl⟩ | ⟨_, rfl⟩ | ⟨_, rfl⟩
  · cases isImplementation
  · exact (ItemBody.implementation.inj isImplementation).symm
  · cases isImplementation

theorem wrapping_item?_limit : wrapping.item? "3" = some wrapperLimit :=
  item?_demo (by simp [wrapperItems])

theorem properName?_wrapperLimit : wrapperLimit.properName? = some "LIMIT" :=
  Item.properName?_plain (by simp) _

theorem placings_wrapper (type : String) :
    placings (wrapping.typeDetails type wrapper.body) =
      [.iri (Iri.typeParameter type 0) Property.type Class.constParameter,
        .iri type Property.hasTypeParameter (Iri.typeParameter type 0)] := by
  simp [wrapper, Item.plain, typeDetails, generics, genericParameters, genericParameter,
    structFieldIds]

theorem placings_wrapperImplementation (id : ItemId) (target : String) :
    placings (wrapping.implementationNode id target wrapperImplementation) =
      [.iri (Iri.member target "LIMIT" "") Property.type Class.member,
        .iri target Property.hasMember (Iri.member target "LIMIT" "")] := by
  have isConstant : wrapperLimit.body = .associatedConstant ⟨.primitive "usize", some "8"⟩ := rfl
  simp [wrapperImplementation, implementationNode, implementationMember, wrapping_item?_limit,
    isConstant, properName?_wrapperLimit]

/-- Nothing in the crate leads back to its owner. -/
theorem wrapping_states_no_inverse {property : String} (inverts : property ∈ inverseProperties)
    (subject target : String) : ¬wrapping.States subject property target := by
  intro stated
  have apart : property ≠ Property.type ∧ property ≠ Property.hasTypeParameter ∧
      property ≠ Property.hasMember := by
    simp only [inverseProperties, List.mem_cons, List.not_mem_nil, or_false] at inverts
    rcases inverts with rfl | rfl | rfl
    all_goals
      simp [Property.memberOf, Property.parameterOf, Property.typeParameterOf,
        Property.hasTypeParameter, Property.hasMember]
  have placing : (Step.iri subject property target).isPlacing :=
    Step.isPlacing_edge (List.mem_append_right _ inverts) subject target
  rcases exists_mem_placings stated placing with ⟨steps, describes, placed⟩
  cases describes with
  | dependency listed => simp [listed] at placed
  | crate | module => simp at placed
  | function visited isFunction =>
      rw [eq_wrapper_of_visits visited] at isFunction
      cases isFunction
  | constant visited isConstant =>
      rw [eq_wrapper_of_visits visited] at isConstant
      cases isConstant
  | static visited isStatic =>
      rw [eq_wrapper_of_visits visited] at isStatic
      cases isStatic
  | type declares =>
      rw [eq_wrapper_of_visits declares.visited] at placed
      simp [typeEntry, Entry.steps, placings_wrapper, Step.iri, apart] at placed
  | implementation processes =>
      rw [eq_wrapperImplementation_of_processes processes] at placed
      simp [placings_wrapperImplementation, Step.iri, apart] at placed

/-- The struct has a constant parameter and a constant, and neither leads back to it. -/
theorem constants_do_not_lead_back :
    wrapping.States wrapping.typeNode Property.hasTypeParameter
        (Iri.typeParameter wrapping.typeNode 0) ∧
      ¬wrapping.States (Iri.typeParameter wrapping.typeNode 0) Property.typeParameterOf
        wrapping.typeNode ∧
      wrapping.States wrapping.typeNode Property.hasMember
        (Iri.member wrapping.typeNode "LIMIT" "") ∧
      ¬wrapping.States (Iri.member wrapping.typeNode "LIMIT" "") Property.memberOf
        wrapping.typeNode := by
  refine ⟨?_, wrapping_states_no_inverse (by simp [inverseProperties]) _ _, ?_,
    wrapping_states_no_inverse (by simp [inverseProperties]) _ _⟩
  · rcases wrapping_declares with ⟨path, declares, same⟩
    have placed : .iri wrapping.typeNode Property.hasTypeParameter
        (Iri.typeParameter wrapping.typeNode 0) ∈
          placings (wrapping.typeDetails wrapping.typeNode wrapper.body) := by
      simp [placings_wrapper]
    rw [← same] at placed ⊢
    apply wrapping.mem_triples_of_describes (.type declares)
    exact List.mem_append_right _ (List.mem_of_mem_filter placed)
  · have placed : .iri wrapping.typeNode Property.hasMember
        (Iri.member wrapping.typeNode "LIMIT" "") ∈
          placings (wrapping.implementationNode "2" wrapping.typeNode wrapperImplementation) := by
      simp [placings_wrapperImplementation]
    exact wrapping.mem_triples_of_describes (.implementation wrapping_processes)
      (List.mem_of_mem_filter placed)

end Extraction

end CrateGraph
