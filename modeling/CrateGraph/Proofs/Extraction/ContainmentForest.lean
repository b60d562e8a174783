import CrateGraph.Proofs.Extraction.ReferentialClosure
import Mathlib.Logic.Relation
import Mathlib.Order.WellFounded

/-!
What belongs to what in the graph of a run.

Main statement: the edges from owners to what they own form a forest. A node has at most one owner,
which holds it by one property, and its address continues that of its owner. Above every owned node
there is a module, a declared type or an implementation, which nothing owns.
-/

namespace CrateGraph

open Iri (Entity)
open Rdf (Triple)
open Ontology

namespace Extraction

variable (extraction : Extraction)

/-! ### The parts that a run presents -/

/-- The run presents the part of the owner. -/
structure HasPart (owner : Entity) (part : Part) : Prop where
  fits : part.Fits owner
  stated : ∀ triple, .triple triple ∈ part.steps extraction.minter owner →
    triple ∈ extraction.triples

/-- The nodes that belong to no other: modules, declared types and implementations. -/
inductive IsTop : String → Prop
  | rootModule : IsTop extraction.rootModuleIri
  | module {path : String} (declared : path ∈ extraction.outcome.modules) :
      IsTop (extraction.moduleIri path)
  | type {iri : String} (declared : iri ∈ extraction.outcome.types) : IsTop iri
  | implementation {id : ItemId}
      (isNode : extraction.IsImplementationNode (extraction.implementationIri id)) :
      IsTop (extraction.implementationIri id)

variable {extraction}

theorem Visits.isTop {path : String} {item : Item} (visited : extraction.Visits path item) :
    extraction.IsTop (extraction.moduleIri path) := by
  rcases visited.root_or_declared with rfl | declared
  · exact .rootModule
  · exact .module declared

/-- Every description presents parts of a node that belongs to no other. -/
theorem Describes.exists_owner {steps : List Step} (describes : extraction.Describes steps) :
    ∃ owner, extraction.IsTop (owner.iri extraction.minter) ∧ extraction.Arranged owner steps := by
  have loose : placings steps = [] → ∃ owner,
      extraction.IsTop (owner.iri extraction.minter) ∧ extraction.Arranged owner steps :=
    fun empty => ⟨extraction.moduleEntity extraction.crateName, .rootModule, .of_loose empty⟩
  cases describes with
  | dependency listed => exact loose (by simp [listed])
  | crate | module => exact loose (by simp)
  | @function path item body visited =>
      exact ⟨extraction.moduleEntity path, visited.isTop,
        (rooted_moduleFunction item body path).arranged⟩
  | @constant path item body visited =>
      exact ⟨extraction.moduleEntity path, visited.isTop,
        (rooted_constant item body path).arranged⟩
  | @static path item body visited =>
      exact ⟨extraction.moduleEntity path, visited.isTop, (rooted_static item body path).arranged⟩
  | @type path name item declares =>
      exact ⟨extraction.typeEntity (extendPath path name), .type declares.mem_types,
        (extraction.rooted_typeEntry declares.isType path name).arranged⟩
  | @implementation id body target processes =>
      rcases extraction.exists_declaresType processes.declared with ⟨path, name, _, _, rfl⟩
      refine ⟨_, ?_, (extraction.rooted_implementationNode id (extendPath path name) body).arranged⟩
      unfold implementationOwner
      split
      · exact .implementation (extraction.isImplementationNode_of_processes processes)
      · exact .type processes.declared

/-- Whatever places a node stands among the placings of a description. -/
theorem exists_mem_placings {triple : Triple} (stated : triple ∈ extraction.triples)
    (placing : (Step.triple triple).isPlacing) :
    ∃ steps, extraction.Describes steps ∧ .triple triple ∈ placings steps := by
  have notStub : ∀ iri name, triple ∉ Progress.stubNode iri name := by
    intro iri name member
    simp only [Progress.stubNode, List.mem_cons, List.not_mem_nil, or_false] at member
    rcases member with rfl | rfl
    · have placed : (Step.iri iri Property.type Class.type).isPlacing := placing
      simp at placed
    · cases placing
  rcases (extraction.mem_triples_iff notStub).mp stated with ⟨steps, describes, member⟩
  exact ⟨steps, describes, List.mem_filter.mpr ⟨member, placing⟩⟩

/-- It presents a part, of a node that belongs to no other or of a part. -/
theorem exists_hasPart {triple : Triple} (stated : triple ∈ extraction.triples)
    (placing : (Step.triple triple).isPlacing) :
    ∃ owner part, extraction.HasPart owner part ∧
      .triple triple ∈ part.steps extraction.minter owner ∧
      (extraction.IsTop (owner.iri extraction.minter) ∨
        ∃ upper outer, extraction.HasPart upper outer ∧ owner = outer.entity upper) := by
  rcases exists_mem_placings stated placing with ⟨steps, describes, placed⟩
  rcases describes.exists_owner with ⟨top, isTop, arranged⟩
  have hasPart : ∀ {owner part},
      Presents extraction.minter (placings steps) owner part → extraction.HasPart owner part := by
    intro owner part presents
    refine ⟨presents.fits, fun shown own => ?_⟩
    exact extraction.mem_triples_of_describes describes
      (List.mem_of_mem_filter (presents.whole own))
  rcases arranged.places _ placed with
    ⟨owner, part, presents, own, rfl | ⟨upper, outer, above, same⟩⟩
  · exact ⟨_, part, hasPart presents, own, Or.inl isTop⟩
  · exact ⟨owner, part, hasPart presents, own, Or.inr ⟨upper, outer, hasPart above, same⟩⟩

/-! ### Edges between owners and parts -/

namespace HasPart

variable {owner : Entity} {part : Part} (has : extraction.HasPart owner part)
include has

theorem edge :
    ⟨owner.iri extraction.minter, part.presentation.forward,
      .iri ((part.entity owner).iri extraction.minter)⟩ ∈ extraction.triples :=
  has.stated _ ((part.mem_steps_iff _ _ _ _ _).mpr (Or.inr (Or.inl ⟨rfl, rfl, rfl⟩)))

theorem typed {nodeClass : String} (isClass : nodeClass ∈ part.presentation.classes) :
    ⟨(part.entity owner).iri extraction.minter, Property.type, .iri nodeClass⟩ ∈
      extraction.triples :=
  has.stated _ ((part.mem_steps_iff _ _ _ _ _).mpr (Or.inl ⟨rfl, rfl, isClass⟩))

theorem inverse {property : String} (back : part.presentation.backward? = some property) :
    ⟨(part.entity owner).iri extraction.minter, property, .iri (owner.iri extraction.minter)⟩ ∈
      extraction.triples :=
  has.stated _ ((part.mem_steps_iff _ _ _ _ _).mpr (Or.inr (Or.inr ⟨rfl, back, rfl⟩)))

end HasPart

variable (extraction)

/-- One of the edges from owners to what they own leads from the one node to the other. -/
def Owns (owner node : String) : Prop :=
  ∃ property ∈ containmentProperties, ⟨owner, property, .iri node⟩ ∈ extraction.triples

variable {extraction}

theorem HasPart.owns {owner : Entity} {part : Part} (has : extraction.HasPart owner part) :
    extraction.Owns (owner.iri extraction.minter) ((part.entity owner).iri extraction.minter) :=
  ⟨_, part.forward_mem_containmentProperties, has.edge⟩

/-- An edge from an owner leads to a part of it, and the owner has an owner or needs none. -/
theorem exists_hasPart_of_edge {owner property node : String}
    (contains : property ∈ containmentProperties)
    (stated : ⟨owner, property, .iri node⟩ ∈ extraction.triples) :
    ∃ holder part, extraction.HasPart holder part ∧ owner = holder.iri extraction.minter ∧
      property = part.presentation.forward ∧
      node = (part.entity holder).iri extraction.minter ∧
      (extraction.IsTop owner ∨ ∃ upper, extraction.Owns upper owner) := by
  have placing : (Step.iri owner property node).isPlacing :=
    Step.isPlacing_edge (List.mem_append_left _ contains) owner node
  rcases exists_hasPart stated placing with ⟨holder, part, has, own, place⟩
  rcases Part.edge_of_mem_steps contains own with ⟨rfl, rfl, rfl⟩
  refine ⟨holder, part, has, rfl, rfl, rfl, place.imp_right ?_⟩
  rintro ⟨upper, outer, above, rfl⟩
  exact ⟨_, above.owns⟩

theorem owner_and_property_unique {left right leftProperty rightProperty node : String}
    (leftContains : leftProperty ∈ containmentProperties)
    (rightContains : rightProperty ∈ containmentProperties)
    (leftStated : ⟨left, leftProperty, .iri node⟩ ∈ extraction.triples)
    (rightStated : ⟨right, rightProperty, .iri node⟩ ∈ extraction.triples) :
    left = right ∧ leftProperty = rightProperty := by
  rcases exists_hasPart_of_edge leftContains leftStated with
    ⟨leftOwner, leftPart, leftHas, rfl, rfl, rfl, _⟩
  rcases exists_hasPart_of_edge rightContains rightStated with
    ⟨rightOwner, rightPart, rightHas, rfl, rfl, same, _⟩
  exact leftHas.fits.owner_and_forward_eq rightHas.fits same

theorem Owns.exists_rest {owner node : String} (owns : extraction.Owns owner node) :
    ∃ rest, rest ≠ "" ∧ node = owner ++ rest := by
  rcases owns with ⟨property, contains, stated⟩
  rcases exists_hasPart_of_edge contains stated with ⟨holder, part, _, rfl, _, rfl, _⟩
  exact part.exists_iri_entity_eq extraction.minter holder

/-! ### Above every owned node -/

theorem wellFounded_owns : WellFounded extraction.Owns := by
  -- Addresses grow along the edges.
  apply Subrelation.wf (r := InvImage (· < ·) String.length) ?_ (InvImage.wf _ Nat.lt_wfRel.wf)
  intro owner node owns
  rcases owns.exists_rest with ⟨rest, proper, rfl⟩
  have positive : 0 < rest.length := by
    rw [Nat.pos_iff_ne_zero]
    simpa using proper
  simp only [InvImage, String.length_append]
  omega

theorem IsTop.not_owns {top : String} (isTop : extraction.IsTop top) (owner : String) :
    ¬extraction.Owns owner top := by
  have free : ∃ entity : Entity, entity.owner? = none ∧ top = entity.iri extraction.minter := by
    cases isTop with
    | rootModule => exact ⟨extraction.moduleEntity extraction.crateName, rfl, rfl⟩
    | @module path => exact ⟨extraction.moduleEntity path, rfl, rfl⟩
    | type declared =>
        rcases extraction.exists_declaresType declared with ⟨path, name, _, _, rfl⟩
        exact ⟨extraction.typeEntity (extendPath path name), rfl, rfl⟩
    | @implementation id => exact ⟨extraction.implementationEntity id, rfl, rfl⟩
  rintro ⟨property, contains, stated⟩
  rcases free with ⟨entity, noOwner, rfl⟩
  rcases exists_hasPart_of_edge contains stated with ⟨holder, part, _, _, _, same, _⟩
  have owners := congrArg Entity.owner? (Entity.bare_eq_of_iri_eq same)
  rw [Entity.owner?_bare, Entity.owner?_bare, noOwner, part.owner?_entity] at owners
  cases owners

theorem Owns.exists_top {owner node : String} (owns : extraction.Owns owner node) :
    ∃ top, extraction.IsTop top ∧ Relation.TransGen extraction.Owns top node := by
  have grounded : WellFounded extraction.Owns := wellFounded_owns
  induction owner using grounded.induction generalizing node with
  | _ owner higher =>
      have edge := owns
      rcases edge with ⟨property, contains, stated⟩
      rcases exists_hasPart_of_edge contains stated with ⟨_, _, _, _, _, _, isTop | ⟨upper, above⟩⟩
      · exact ⟨owner, isTop, .single owns⟩
      · rcases higher upper above above with ⟨top, isTop, reaches⟩
        exact ⟨top, isTop, reaches.tail owns⟩

variable (extraction)

/-- Each node has at most one owner and is held by it by one property, the address of an owner is a
proper beginning of the addresses of what it owns, and from every owned node the edges lead upward
to a module, a declared type or an implementation, where they end. -/
theorem containment_is_forest :
    (∀ left right leftProperty rightProperty node : String,
      leftProperty ∈ containmentProperties → rightProperty ∈ containmentProperties →
      ⟨left, leftProperty, .iri node⟩ ∈ extraction.triples →
      ⟨right, rightProperty, .iri node⟩ ∈ extraction.triples →
        left = right ∧ leftProperty = rightProperty) ∧
    (∀ owner node, extraction.Owns owner node → ∃ rest, rest ≠ "" ∧ node = owner ++ rest) ∧
    WellFounded extraction.Owns ∧
    ∀ owner node, extraction.Owns owner node →
      ∃ top, extraction.IsTop top ∧ Relation.TransGen extraction.Owns top node ∧
        ∀ other, ¬extraction.Owns other top := by
  refine ⟨?_, fun _ _ => Owns.exists_rest, wellFounded_owns, ?_⟩
  · intro left right leftProperty rightProperty node leftContains rightContains
    exact owner_and_property_unique leftContains rightContains
  · intro owner node owns
    rcases owns.exists_top with ⟨top, isTop, reaches⟩
    exact ⟨top, isTop, reaches, isTop.not_owns⟩

/-- The enum `enum Token { Word(str) }`. -/
def token : Item :=
  .plain (some "Token") (.enum ⟨⟨[], []⟩, ["2"], false, []⟩)

def wordVariant : Item :=
  .plain (some "Word") (.variant ⟨.tuple [some "3"], none⟩)

def wordText : Item :=
  .plain (some "0") (.field (.primitive "str"))

def tokenItems : Entries String Item :=
  [("1", token), ("2", wordVariant), ("3", wordText)]

def lexing : Extraction :=
  demo ["1"] tokenItems Table.empty (by simp [tokenItems])

def lexing.typeNode : String :=
  lexing.typeIri (extendPath "demo" "Token")

def lexing.variantNode : String :=
  Iri.variant lexing.typeNode "Word"

def lexing.fieldNode : String :=
  Iri.member lexing.variantNode "0" ""

theorem lexing_presents_variant {triple : Triple}
    (states : .triple triple ∈ lexing.variant lexing.typeNode "2") :
    triple ∈ lexing.triples := by
  have named : token.properName? = some "Token" := Item.properName?_plain (by simp) _
  have only : ∀ entry ∈ tokenItems, entry.2.body.isTypeBody → entry.2 = token := by
    intro entry member isType
    simp only [tokenItems, List.mem_cons, List.not_mem_nil, or_false] at member
    rcases member with rfl | rfl | rfl
    · rfl
    all_goals cases isType
  have declaring : ∃ path, lexing.DeclaresType path "Token" token ∧
      lexing.typeIri (extendPath path "Token") = lexing.typeNode :=
    exists_declaresType_demo List.mem_cons_self List.mem_cons_self rfl named only
  rcases declaring with ⟨path, declares, same⟩
  rw [← same] at states
  have inVariants := List.mem_flatMap.mpr ⟨"2", List.mem_singleton_self "2", states⟩
  apply lexing.mem_triples_of_describes (.type declares)
  exact List.mem_append_right _ (List.mem_append_left _ (List.mem_append_right _ inVariants))

theorem lexing_edges :
    ⟨lexing.typeNode, Property.hasVariant, .iri lexing.variantNode⟩ ∈ lexing.triples ∧
      ⟨lexing.variantNode, Property.variantField, .iri lexing.fieldNode⟩ ∈ lexing.triples := by
  have variantFound : lexing.item? "2" = some wordVariant := item?_demo (by simp [tokenItems])
  have variantNamed : wordVariant.properName? = some "Word" := Item.properName?_plain (by simp) _
  have fieldFound : lexing.item? "3" = some wordText := item?_demo (by simp [tokenItems])
  have isField : wordText.body = .field (.primitive "str") := rfl
  have fieldNamed : fieldName wordText = "0" := by
    rw [fieldName, wordText, Item.properName?_plain (by simp), Option.getD_some]
  have fieldEdge : .iri lexing.variantNode Property.variantField lexing.fieldNode ∈
      lexing.variantField lexing.variantNode "3" := by
    simp [variantField, fieldFound, isField, fieldNamed, lexing.fieldNode]
  constructor
  · apply lexing_presents_variant
    simp [variant, variantFound, variantNamed, lexing.variantNode, Step.iri]
  · apply lexing_presents_variant
    rw [variant, variantFound]
    dsimp only
    rw [variantNamed]
    exact List.mem_append_right _ (List.mem_cons_of_mem _
      (List.mem_flatMap.mpr ⟨"3", List.mem_singleton_self "3", fieldEdge⟩))

/-- The field of the variant belongs to nothing but the variant, whose address its own continues,
and there is something above both that nothing owns. -/
theorem variant_field_in_forest :
    lexing.Owns lexing.typeNode lexing.variantNode ∧
      lexing.Owns lexing.variantNode lexing.fieldNode ∧
      (∀ owner property, property ∈ containmentProperties →
        ⟨owner, property, .iri lexing.fieldNode⟩ ∈ lexing.triples →
          owner = lexing.variantNode ∧ property = Property.variantField) ∧
      (∃ rest, rest ≠ "" ∧ lexing.fieldNode = lexing.variantNode ++ rest) ∧
      ∃ top, lexing.IsTop top ∧ Relation.TransGen lexing.Owns top lexing.fieldNode ∧
        ∀ other, ¬lexing.Owns other top := by
  have holdsVariant : Property.hasVariant ∈ containmentProperties := by
    simp [containmentProperties]
  have holdsField : Property.variantField ∈ containmentProperties := by
    simp [containmentProperties]
  have ownsField : lexing.Owns lexing.variantNode lexing.fieldNode :=
    ⟨_, holdsField, lexing_edges.2⟩
  rcases lexing.containment_is_forest with ⟨unique, continued, _, topped⟩
  refine ⟨⟨_, holdsVariant, lexing_edges.1⟩, ownsField, ?_, continued _ _ ownsField,
    topped _ _ ownsField⟩
  intro owner property contains stated
  exact unique _ _ _ _ _ contains holdsField stated lexing_edges.2

end Extraction

end CrateGraph
