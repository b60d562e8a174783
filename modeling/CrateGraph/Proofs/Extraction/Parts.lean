import CrateGraph.Extraction.Description
import CrateGraph.Proofs.Iri.EntityAddress
import CrateGraph.Proofs.Ontology.DistinctTerms

/-!
Nodes that belong to other nodes.

Such a node is presented as a part of its owner: it gets its classes, there is an edge from the
owner to it and, for most kinds of parts, one back. Parts have parts in turn. The address of a part
tells its owner and the property by which it is held.
-/

namespace CrateGraph

open Iri (Entity Minter)
open Ontology

/-! ### Owners -/

/-- The properties that lead from an owner to what it owns. -/
def containmentProperties : List String :=
  [Property.hasMember, Property.hasParameter, Property.hasTypeParameter, Property.hasLifetime,
    Property.hasVariant, Property.variantField]

/-- The properties that lead from what is owned to its owner. -/
def inverseProperties : List String :=
  [Property.memberOf, Property.parameterOf, Property.typeParameterOf]

theorem ne_type_of_mem_containmentProperties {property : String}
    (contains : property ∈ containmentProperties) :
    property ≠ Property.type ∧ property ∉ inverseProperties := by
  simp only [containmentProperties, List.mem_cons, List.not_mem_nil, or_false] at contains
  rcases contains with rfl | rfl | rfl | rfl | rfl | rfl
  all_goals
    simp [inverseProperties, Property.hasMember, Property.hasParameter, Property.hasTypeParameter,
      Property.hasLifetime, Property.hasVariant, Property.variantField, Property.memberOf,
      Property.parameterOf, Property.typeParameterOf]

theorem type_not_mem_inverseProperties : Property.type ∉ inverseProperties := by
  simp [inverseProperties, Property.memberOf, Property.parameterOf, Property.typeParameterOf]

namespace Iri.Entity

def owner? : Entity → Option Entity
  | member owner _ _ => some owner
  | parameter owner _ | typeParameter owner _ => some owner
  | lifetime owner _ | variant owner _ => some owner
  | _ => none

/-- The property by which an entity is held. The members of variants are fields. -/
def heldBy? : Entity → Option String
  | member (variant _ _) _ _ => some Property.variantField
  | member _ _ _ => some Property.hasMember
  | parameter _ _ => some Property.hasParameter
  | typeParameter _ _ => some Property.hasTypeParameter
  | lifetime _ _ => some Property.hasLifetime
  | variant _ _ => some Property.hasVariant
  | _ => none

theorem owner?_bare (entity : Entity) : entity.bare.owner? = entity.owner?.map bare := by
  cases entity <;> rfl

theorem heldBy?_bare (entity : Entity) : entity.bare.heldBy? = entity.heldBy? := by
  cases entity with
  | member owner => cases owner <;> rfl
  | crate | module | type | implementation | parameter | typeParameter | lifetime | variant => rfl

theorem heldBy?_member {owner : Entity} (free : owner.owner? = none) (name signature : String) :
    (member owner name signature).heldBy? = some Property.hasMember := by
  cases owner with
  | crate | module | type | implementation => rfl
  | member | parameter | typeParameter | lifetime | variant => cases free

theorem iri_eq_of_bare_eq {left right : Entity} (same : left.bare = right.bare)
    (minter : Minter) : left.iri minter = right.iri minter := by
  rw [← String.toList_inj, toList_iri, toList_iri, same]

end Iri.Entity

/-! ### Parts -/

/-- How the parts of one kind are presented: their classes, the property that leads from the owner
to them and, if there is one, the property that leads back. -/
structure Presentation where
  classes : List String
  forward : String
  backward? : Option String

/-- What a node can be of its owner, by its name or its number. -/
inductive Part where
  | method (name : String)
  | constant (name : String)
  | static (name : String)
  | field (name : String)
  | associated (name : String)
  | variant (name : String)
  | variantField (name : String)
  | parameter (ordinal : Nat)
  | typeParameter (ordinal : Nat)
  | constParameter (ordinal : Nat)
  | lifetime (name : String)

namespace Part

def presentation : Part → Presentation
  | method _ => ⟨[Class.method], Property.hasMember, some Property.memberOf⟩
  | constant _ => ⟨[Class.field, Class.constant], Property.hasMember, some Property.memberOf⟩
  | static _ => ⟨[Class.static], Property.hasMember, some Property.memberOf⟩
  | field _ => ⟨[Class.field], Property.hasMember, some Property.memberOf⟩
  | associated _ => ⟨[Class.member], Property.hasMember, none⟩
  | variant _ => ⟨[Class.enumVariant], Property.hasVariant, none⟩
  | variantField _ => ⟨[Class.field], Property.variantField, none⟩
  | parameter _ => ⟨[Class.parameter], Property.hasParameter, some Property.parameterOf⟩
  | typeParameter _ =>
      ⟨[Class.typeParameter], Property.hasTypeParameter, some Property.typeParameterOf⟩
  | constParameter _ => ⟨[Class.constParameter], Property.hasTypeParameter, none⟩
  | lifetime _ => ⟨[Class.lifetime], Property.hasLifetime, none⟩

def presentations : List Presentation :=
  [method "", constant "", static "", field "", associated "", variant "", variantField "",
    parameter 0, typeParameter 0, constParameter 0, lifetime ""].map presentation

theorem presentation_mem_presentations (part : Part) : part.presentation ∈ presentations := by
  cases part <;> simp [presentations, presentation]

def entity (owner : Entity) : Part → Entity
  | method name | constant name | static name => .member owner name ""
  | field name | associated name | variantField name => .member owner name ""
  | variant name => .variant owner name
  | parameter ordinal => .parameter owner ordinal
  | typeParameter ordinal | constParameter ordinal => .typeParameter owner ordinal
  | lifetime name => .lifetime owner name

def steps (minter : Minter) (owner : Entity) (part : Part) : List Step :=
  part.presentation.classes.map (Step.iri ((part.entity owner).iri minter) Property.type ·) ++
    .iri (owner.iri minter) part.presentation.forward ((part.entity owner).iri minter) ::
      part.presentation.backward?.toList.map
        (Step.iri ((part.entity owner).iri minter) · (owner.iri minter))

/-- The part is of a kind that the owner can have: only variants hold fields of variants, and they
hold no other members. -/
def Fits (owner : Entity) (part : Part) : Prop :=
  (part.entity owner).heldBy? = some part.presentation.forward

theorem owner?_entity (owner : Entity) (part : Part) :
    (part.entity owner).owner? = some owner := by
  cases part <;> rfl

theorem forward_mem_containmentProperties (part : Part) :
    part.presentation.forward ∈ containmentProperties := by
  cases part <;> simp [presentation, containmentProperties]

theorem mem_steps_iff (minter : Minter) (owner : Entity) (part : Part)
    (subject property target : String) :
    .iri subject property target ∈ part.steps minter owner ↔
      (subject = (part.entity owner).iri minter ∧ property = Property.type ∧
        target ∈ part.presentation.classes) ∨
      (subject = owner.iri minter ∧ property = part.presentation.forward ∧
        target = (part.entity owner).iri minter) ∨
      (subject = (part.entity owner).iri minter ∧ part.presentation.backward? = some property ∧
        target = owner.iri minter) := by
  simp only [steps, List.mem_append, List.mem_cons, List.mem_map, Option.mem_toList, Step.iri,
    Step.triple.injEq, Rdf.Triple.mk.injEq, Rdf.Term.iri.injEq]
  grind

theorem mem_inverseProperties_of_backward? {part : Part} {property : String}
    (back : part.presentation.backward? = some property) : property ∈ inverseProperties := by
  cases part with
  | method | constant | static | field | parameter | typeParameter =>
      cases back
      simp [inverseProperties]
  | associated | variant | variantField | constParameter | lifetime => cases back

section Steps

variable {minter : Minter} {owner : Entity} {part : Part} {subject property target : String}

theorem edge_of_mem_steps (contains : property ∈ containmentProperties)
    (member : .iri subject property target ∈ part.steps minter owner) :
    subject = owner.iri minter ∧ property = part.presentation.forward ∧
      target = (part.entity owner).iri minter := by
  rcases ne_type_of_mem_containmentProperties contains with ⟨notType, notInverse⟩
  rcases (part.mem_steps_iff minter owner _ _ _).mp member with
    ⟨_, isType, _⟩ | edge | ⟨_, back, _⟩
  · exact absurd isType notType
  · exact edge
  · exact absurd (mem_inverseProperties_of_backward? back) notInverse

theorem backward?_of_mem_steps (inverse : property ∈ inverseProperties)
    (member : .iri subject property target ∈ part.steps minter owner) :
    subject = (part.entity owner).iri minter ∧ part.presentation.backward? = some property ∧
      target = owner.iri minter := by
  rcases (part.mem_steps_iff minter owner _ _ _).mp member with
    ⟨_, rfl, _⟩ | ⟨_, rfl, _⟩ | back
  · exact absurd inverse type_not_mem_inverseProperties
  · exact absurd inverse
      (ne_type_of_mem_containmentProperties part.forward_mem_containmentProperties).2
  · exact back

theorem class_of_mem_steps
    (member : .iri subject Property.type target ∈ part.steps minter owner) :
    subject = (part.entity owner).iri minter ∧ target ∈ part.presentation.classes := by
  rcases (part.mem_steps_iff minter owner _ _ _).mp member with
    ⟨isNode, _, isClass⟩ | ⟨_, isType, _⟩ | ⟨_, back, _⟩
  · exact ⟨isNode, isClass⟩
  · exact absurd isType.symm
      (ne_type_of_mem_containmentProperties part.forward_mem_containmentProperties).1
  · exact absurd (mem_inverseProperties_of_backward? back) type_not_mem_inverseProperties

end Steps

/-- The address of a part tells its owner and the property by which it is held. -/
theorem Fits.owner_and_forward_eq {minter : Minter} {left right : Entity}
    {leftPart rightPart : Part} (leftFits : leftPart.Fits left) (rightFits : rightPart.Fits right)
    (same : (leftPart.entity left).iri minter = (rightPart.entity right).iri minter) :
    left.iri minter = right.iri minter ∧
      leftPart.presentation.forward = rightPart.presentation.forward := by
  have bare := Entity.bare_eq_of_iri_eq same
  constructor
  · have owners := congrArg Entity.owner? bare
    rw [Entity.owner?_bare, Entity.owner?_bare, owner?_entity, owner?_entity] at owners
    exact Entity.iri_eq_of_bare_eq (Option.some.inj owners) minter
  · apply Option.some.inj
    rw [← leftFits, ← rightFits, ← Entity.heldBy?_bare, bare, Entity.heldBy?_bare]

/-- The address of a part continues that of its owner. -/
theorem exists_iri_entity_eq (minter : Minter) (owner : Entity) (part : Part) :
    ∃ rest, rest ≠ "" ∧ (part.entity owner).iri minter = owner.iri minter ++ rest := by
  have continued : ∃ rest,
      ((part.entity owner).iri minter).toList = (owner.iri minter).toList ++ '/' :: rest := by
    cases part with
    | method | constant | static | field | associated | variantField =>
        simp [entity, Entity.iri, Entity.member_eq]
    | variant => simp [entity, Entity.iri, Iri.variant]
    | parameter => simp [entity, Entity.iri, Iri.parameter]
    | typeParameter | constParameter => simp [entity, Entity.iri, Iri.typeParameter]
    | lifetime => simp [entity, Entity.iri, Iri.lifetime]
  rcases continued with ⟨rest, equal⟩
  refine ⟨String.ofList ('/' :: rest), ?_, ?_⟩
  · simp [← String.toList_inj]
  · simp [← String.toList_inj, equal]

end Part

/-- The steps present parts of the owner, and parts of these. -/
inductive Arrangement (minter : Minter) : Entity → List Step → Prop
  | empty (owner : Entity) : Arrangement minter owner []
  | append {owner : Entity} {left right : List Step} (first : Arrangement minter owner left)
      (second : Arrangement minter owner right) : Arrangement minter owner (left ++ right)
  | part {owner : Entity} (part : Part) {inner : List Step} (fits : part.Fits owner)
      (inside : Arrangement minter (part.entity owner) inner) :
      Arrangement minter owner (part.steps minter owner ++ inner)

/-- The steps present the part of the owner in full. -/
structure Presents (minter : Minter) (steps : List Step) (owner : Entity) (part : Part) : Prop where
  fits : part.Fits owner
  whole : part.steps minter owner ⊆ steps

theorem Presents.mono {minter : Minter} {fewer steps : List Step} {owner : Entity} {part : Part}
    (presents : Presents minter fewer owner part) (among : fewer ⊆ steps) :
    Presents minter steps owner part :=
  ⟨presents.fits, List.Subset.trans presents.whole among⟩

/-- The step is one of those that present a part of the owner, or a part of another part. -/
def Places (minter : Minter) (owner : Entity) (steps : List Step) (step : Step) : Prop :=
  ∃ holder part, Presents minter steps holder part ∧ step ∈ part.steps minter holder ∧
    (holder = owner ∨
      ∃ upper outer, Presents minter steps upper outer ∧ holder = outer.entity upper)

theorem Places.mono {minter : Minter} {owner : Entity} {fewer steps : List Step} {step : Step}
    (places : Places minter owner fewer step) (among : fewer ⊆ steps) :
    Places minter owner steps step := by
  rcases places with ⟨holder, part, presents, own, place⟩
  refine ⟨holder, part, presents.mono among, own, place.imp_right ?_⟩
  rintro ⟨upper, outer, above, same⟩
  exact ⟨upper, outer, above.mono among, same⟩

/-- An arrangement holds nothing but presented parts. -/
theorem Arrangement.places {minter : Minter} {owner : Entity} {steps : List Step}
    (arrangement : Arrangement minter owner steps) :
    ∀ step ∈ steps, Places minter owner steps step := by
  induction arrangement with
  | empty => exact fun _ member => nomatch member
  | append _ _ ofLeft ofRight =>
      intro step member
      rcases List.mem_append.mp member with inLeft | inRight
      · exact (ofLeft step inLeft).mono (List.subset_append_left _ _)
      · exact (ofRight step inRight).mono (List.subset_append_right _ _)
  | @part owner part inner fits _ ofInner =>
      have here : Presents minter (part.steps minter owner ++ inner) owner part :=
        ⟨fits, List.subset_append_left _ _⟩
      intro step member
      rcases List.mem_append.mp member with own | deeper
      · exact ⟨owner, part, here, own, Or.inl rfl⟩
      · -- Inside of the part its own entity is the owner.
        rcases (ofInner step deeper).mono (List.subset_append_right _ _) with
          ⟨holder, innerPart, presents, own, rfl | above⟩
        · exact ⟨_, innerPart, presents, own, Or.inr ⟨owner, part, here, rfl⟩⟩
        · exact ⟨holder, innerPart, presents, own, Or.inr above⟩

end CrateGraph
