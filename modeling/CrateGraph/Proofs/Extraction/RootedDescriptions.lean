import CrateGraph.Proofs.Extraction.ArrangedDescriptions
import CrateGraph.Proofs.Extraction.ClosedDescriptions

/-!
Descriptions are rooted in their owners.

A description of an owner presents nothing but parts of it, and speaks of nothing but anchors, these
parts and what it mentions. Both follow from how it is put together: each part is introduced where
it is presented, and is an anchor for what is said inside of it.
-/

namespace CrateGraph

open Iri (Entity)
open Ontology

/-- Steps with such a topic lead to no node and place none. -/
@[simp] def Topic.IsLoose (topic : Topic) : Prop :=
  topic.LeadsNowhere ∧ topic.PlacesNothing

open Lexicon

namespace Extraction

variable (extraction : Extraction)

@[simp] theorem allows_isLoose (node : String → Prop) :
    (about Topic.IsLoose node).Allows extraction.attributeTopics ∧
      (about Topic.IsLoose node).Allows extraction.errorTopics ∧
      (about Topic.IsLoose node).Allows extraction.deriveTopics :=
  ⟨allows_attributeTopics (by simp), allows_errorTopics (by simp), allows_deriveTopics (by simp)⟩

/-- The steps present parts of the owner, and speak of anchors, these parts and mentioned types. -/
structure Rooted (anchors : List String) (owner : Entity) (steps : List Step) : Prop where
  closed : Closed anchors steps
  arranged : extraction.Arranged owner steps

variable {extraction} {anchors : List String} {owner : Entity}

namespace Rooted

theorem nil : extraction.Rooted anchors owner [] :=
  ⟨.nil, .of_loose rfl⟩

theorem append {left right : List Step} (first : extraction.Rooted anchors owner left)
    (second : extraction.Rooted anchors owner right) :
    extraction.Rooted anchors owner (left ++ right) :=
  ⟨first.closed.append second.closed, first.arranged.append second.arranged⟩

theorem flatMap {Source : Type} {describe : Source → List Step}
    (each : ∀ source, extraction.Rooted anchors owner (describe source)) (sources : List Source) :
    extraction.Rooted anchors owner (sources.flatMap describe) :=
  ⟨.flatMap fun source _ => (each source).closed, .flatMap (fun source => (each source).arranged) _⟩

theorem loose {steps : List Step}
    (covers : (about Topic.IsLoose (· ∈ anchors)).CoversAll steps) :
    extraction.Rooted anchors owner steps where
  closed := .of_covers (covers.about_mono (fun _ => And.left) fun _ => id)
  arranged := .of_loose
    (placings_eq_nil (covers.about_mono (fun _ => And.right) fun _ _ => trivial))

/-- The first steps introduce a part and present it, all others speak inside of it. -/
theorem part (part : Part) {head inner : List Step} (fits : part.Fits owner)
    (presents : placings head = part.steps extraction.minter owner)
    (introduces : Introduces head ((part.entity owner).iri extraction.minter))
    (speaks : ∀ step ∈ head, step.Reaches
      (· ∈ (part.entity owner).iri extraction.minter :: anchors) fun _ => False)
    (inside : extraction.Rooted ((part.entity owner).iri extraction.minter :: anchors)
      (part.entity owner) inner) :
    extraction.Rooted anchors owner (head ++ inner) where
  closed := .introducing _ (introduces.mono (List.subset_append_left head inner))
    ((Closed.of_anchored speaks).append inside.closed)
  arranged := .part part fits presents inside.arranged

/-- A part of which nothing else is said. -/
theorem leaf (part : Part) {steps : List Step} (fits : part.Fits owner)
    (presents : placings steps = part.steps extraction.minter owner)
    (introduces : Introduces steps ((part.entity owner).iri extraction.minter))
    (speaks : ∀ step ∈ steps, step.Reaches
      (· ∈ (part.entity owner).iri extraction.minter :: anchors) fun _ => False) :
    extraction.Rooted anchors owner steps :=
  List.append_nil steps ▸ Rooted.part part fits presents introduces speaks .nil

end Rooted

/-! ### Signatures -/

section Owner

variable (anchored : owner.iri extraction.minter ∈ anchors)
include anchored

/-- Each of the traits is mentioned. -/
theorem rooted_boundEdges {property : String} (loose : CrateGraph.IsLoose property)
    (bounds : List GenericBound) :
    extraction.Rooted anchors owner
      (extraction.boundEdges (owner.iri extraction.minter) property bounds) := by
  refine ⟨.flatMap fun bound _ => ?_, .of_loose (by simp [loose])⟩
  cases bound with
  | trait reference =>
      intro step member
      simp only [List.mem_cons, List.not_mem_nil, or_false] at member
      rcases member with rfl | rfl
      · exact ⟨Or.inl anchored, fun _ => Or.inr ⟨reference.path, by simp⟩⟩
      · exact trivial
  | outlives | capture | unknown => exact .nil

theorem rooted_genericParameter (ordinal : Nat) (parameter : GenericParameter) :
    extraction.Rooted anchors owner
      (extraction.genericParameter (owner.iri extraction.minter) ordinal parameter) := by
  unfold genericParameter
  split
  · refine .part (.typeParameter ordinal) rfl ?_ ?_ ?_ (rooted_boundEdges (by simp) (by simp) _)
    · simp [Part.steps, Part.presentation, Part.entity, Entity.iri]
    · simp [Introduces, Part.entity, Entity.iri, Step.iri, Step.literal]
    · simp [Part.entity, Entity.iri, anchored]
  · refine .leaf (.lifetime parameter.name) rfl ?_ ?_ ?_
    · simp [Part.steps, Part.presentation, Part.entity, Entity.iri]
    · simp [Introduces, Part.entity, Entity.iri, Step.iri, Step.literal]
    · simp [Part.entity, Entity.iri, anchored]
  · refine .part (.constParameter ordinal) rfl ?_ ?_ ?_ (.loose ?_)
    · simp [Part.steps, Part.presentation, Part.entity, Entity.iri]
    · simp [Introduces, Part.entity, Entity.iri, Step.iri, Step.literal]
    · simp [Part.entity, Entity.iri, anchored]
    · simp [Part.entity, Entity.iri]
  · exact .nil

theorem rooted_generics (generics : Generics) :
    extraction.Rooted anchors owner
      (extraction.generics generics (owner.iri extraction.minter)) := by
  rw [Extraction.generics, genericParameters_eq_flatMap]
  refine (Rooted.loose (by simp [anchored])).append (.flatMap ?_ _)
  rintro ⟨parameter, ordinal⟩
  exact rooted_genericParameter anchored ordinal parameter

theorem rooted_parameters (ordinal : Nat) (inputs : List FunctionInput) :
    extraction.Rooted anchors owner
      (extraction.parameters (owner.iri extraction.minter) ordinal inputs) := by
  rw [parameters_eq_flatMap]
  refine .flatMap ?_ _
  rintro ⟨input, ordinal⟩
  refine .part (.parameter ordinal) rfl ?_ ?_ ?_ (.loose ?_)
  · simp [Part.steps, Part.presentation, Part.entity, Entity.iri]
  · simp [Introduces, Part.entity, Entity.iri, Step.iri, Step.literal]
  · simp [Part.entity, Entity.iri, anchored]
  · simp [Part.entity, Entity.iri]

theorem rooted_functionDetails (body : FunctionBody) :
    extraction.Rooted anchors owner
      (extraction.functionDetails (owner.iri extraction.minter) body) := by
  have flags : extraction.Rooted anchors owner
      (flag (owner.iri extraction.minter) Property.isUnsafe body.header.isUnsafe ++
        flag (owner.iri extraction.minter) Property.isAsync body.header.isAsync ++
        flag (owner.iri extraction.minter) Property.isConst body.header.isConst) :=
    .loose (by simp [anchored])
  exact ((flags.append (rooted_generics anchored body.generics)).append
    (rooted_parameters anchored 0 body.signature.inputs)).append (.loose (by simp [anchored]))

/-! ### Members -/

section Members

variable (free : owner.owner? = none)
include free

theorem rooted_method (id : ItemId) :
    extraction.Rooted anchors owner (extraction.method id (owner.iri extraction.minter)) := by
  unfold method
  split
  · exact .nil
  · split
    · exact .nil
    · next name _ =>
        refine .part (.method name) (Entity.heldBy?_member free name "") ?_ ?_ ?_ ?_
        · simp [Part.steps, Part.presentation, Part.entity, Entity.iri, memberHeader]
        · simp [Introduces, Part.entity, Entity.iri, memberHeader, Step.iri, Step.literal]
        · simp [Part.entity, Entity.iri, memberHeader, anchored]
        · split
          · next body _ =>
              exact ((rooted_functionDetails List.mem_cons_self body).append
                (.loose (by simp [Part.entity, Entity.iri]))).append
                (.loose (by simp [Part.entity, Entity.iri]))
          · exact .nil

theorem rooted_field (id : ItemId) :
    extraction.Rooted anchors owner (extraction.field (owner.iri extraction.minter) id) := by
  unfold field
  split
  · next item _ =>
      split
      · refine .part (.field (fieldName item)) (Entity.heldBy?_member free _ "") ?_ ?_ ?_
          (.loose ?_)
        · simp [Part.steps, Part.presentation, Part.entity, Entity.iri, memberHeader]
        · simp [Introduces, Part.entity, Entity.iri, memberHeader, Step.iri, Step.literal]
        · simp [Part.entity, Entity.iri, memberHeader, anchored]
        · simp [Part.entity, Entity.iri]
      · exact .nil
  · exact .nil

theorem rooted_implementationMember (id : ItemId) :
    extraction.Rooted anchors owner
      (extraction.implementationMember (owner.iri extraction.minter) id) := by
  have associated (name : String) : extraction.Rooted anchors owner
      [.iri (Iri.member (owner.iri extraction.minter) name "") Property.type Class.member,
        .literal (Iri.member (owner.iri extraction.minter) name "") Property.name name,
        .iri (owner.iri extraction.minter) Property.hasMember
          (Iri.member (owner.iri extraction.minter) name "")] := by
    refine .leaf (.associated name) (Entity.heldBy?_member free name "") ?_ ?_ ?_
    · simp [Part.steps, Part.presentation, Part.entity, Entity.iri]
    · simp [Introduces, Part.entity, Entity.iri, Step.iri, Step.literal]
    · simp [Part.entity, Entity.iri, anchored]
  unfold implementationMember
  split
  · exact .nil
  · split
    · exact rooted_method anchored free id
    · split
      · exact .nil
      · exact associated _
    · split
      · exact .nil
      · exact associated _
    · exact .nil

end Members

omit anchored in
theorem rooted_variantField (enum : Entity) (name : String) (id : ItemId) :
    extraction.Rooted (Iri.variant (enum.iri extraction.minter) name :: anchors)
      (.variant enum name)
      (extraction.variantField (Iri.variant (enum.iri extraction.minter) name) id) := by
  unfold variantField
  split
  · next item _ =>
      split
      · refine .part (.variantField (fieldName item)) rfl ?_ ?_ ?_ (.loose ?_)
        · simp [Part.steps, Part.presentation, Part.entity, Entity.iri]
        · simp [Introduces, Part.entity, Entity.iri, Step.iri, Step.literal]
        · simp [Part.entity, Entity.iri]
        · simp [Part.entity, Entity.iri]
      · exact .nil
  · exact .nil

theorem rooted_variant (id : ItemId) :
    extraction.Rooted anchors owner (extraction.variant (owner.iri extraction.minter) id) := by
  unfold variant
  split
  · exact .nil
  · split
    · exact .nil
    · next name _ =>
        refine .part (.variant name) rfl ?_ ?_ ?_ ?_
        · simp [Part.steps, Part.presentation, Part.entity, Entity.iri]
        · simp [Introduces, Part.entity, Entity.iri, Step.iri, Step.literal]
        · simp [Part.entity, Entity.iri, anchored]
        · split
          · next body _ =>
              have kind : extraction.Rooted
                  (Iri.variant (owner.iri extraction.minter) name :: anchors) (.variant owner name)
                  [.literal (Iri.variant (owner.iri extraction.minter) name) Property.variantKind
                    (variantKind body.fields)] := .loose (by simp)
              exact kind.append (.flatMap (rooted_variantField owner name) _)
          · exact .nil

end Owner

/-! ### Items of modules -/

theorem rooted_moduleFunction (item : Item) (body : FunctionBody) (path : String) :
    extraction.Rooted [extraction.moduleIri path] (extraction.moduleEntity path)
      (extraction.moduleFunction item body path) := by
  unfold moduleFunction
  split
  · exact .nil
  · next name _ =>
      simp only [List.append_assoc]
      refine .part (.method name) rfl ?_ ?_ ?_ ?_
      · simp [Part.steps, Part.presentation, Part.entity, Entity.iri, moduleIri_eq]
      · simp [Introduces, Part.entity, Entity.iri, moduleIri_eq, Step.iri, Step.literal]
      · simp [Part.entity, Entity.iri, moduleIri_eq]
      · exact (Rooted.loose (by simp [Part.entity, Entity.iri, moduleIri_eq])).append
          ((rooted_functionDetails List.mem_cons_self body).append
            (.loose (by simp [Part.entity, Entity.iri, moduleIri_eq])))

theorem rooted_constant (item : Item) (body : ConstantBody) (path : String) :
    extraction.Rooted [extraction.moduleIri path] (extraction.moduleEntity path)
      (extraction.constant item body path) := by
  unfold constant
  split
  · exact .nil
  · next name _ =>
      refine .part (.constant name) rfl ?_ ?_ ?_ (.loose ?_)
      · simp [Part.steps, Part.presentation, Part.entity, Entity.iri, moduleIri_eq]
      · simp [Introduces, Part.entity, Entity.iri, moduleIri_eq, Step.iri, Step.literal]
      · simp [Part.entity, Entity.iri, moduleIri_eq]
      · simp [Part.entity, Entity.iri, moduleIri_eq]

theorem rooted_static (item : Item) (body : StaticBody) (path : String) :
    extraction.Rooted [extraction.moduleIri path] (extraction.moduleEntity path)
      (extraction.static item body path) := by
  unfold static
  split
  · exact .nil
  · next name _ =>
      rw [List.append_assoc]
      refine .part (.static name) rfl ?_ ?_ ?_ (.loose ?_)
      · simp [Part.steps, Part.presentation, Part.entity, Entity.iri, moduleIri_eq, memberHeader]
      · simp [Introduces, Part.entity, Entity.iri, moduleIri_eq, memberHeader, Step.iri,
          Step.literal]
      · simp [Part.entity, Entity.iri, moduleIri_eq, memberHeader]
      · simp [Part.entity, Entity.iri, moduleIri_eq]

/-! ### Types -/

theorem rooted_typeDetails (path : String) (body : ItemBody) :
    extraction.Rooted [extraction.typeIri path] (extraction.typeEntity path)
      (extraction.typeDetails (extraction.typeIri path) body) := by
  have anchored : (extraction.typeEntity path).iri extraction.minter ∈ [extraction.typeIri path] :=
    List.mem_cons_self
  have generics := rooted_generics anchored
  have fields := Rooted.flatMap (rooted_field anchored rfl)
  cases body with
  | struct body => exact ((generics _).append (fields _)).append (.loose (by simp))
  | union body => exact (generics _).append (fields _)
  | enum body =>
      exact ((generics _).append (.flatMap (rooted_variant anchored) _)).append (.loose (by simp))
  | trait body =>
      have flags : extraction.Rooted [extraction.typeIri path] (extraction.typeEntity path)
          (flag (extraction.typeIri path) Property.isUnsafe body.isUnsafe) := .loose (by simp)
      exact ((flags.append (generics _)).append (rooted_boundEdges anchored (by simp) _)).append
        (.flatMap (rooted_method anchored rfl) _)
  | typeAlias body => exact (generics _).append (.loose (by simp))
  | module | variant | function | implementation | reexport | constant | static | field
  | macroSource | associatedConstant | associatedType | unknown => exact .nil

variable (extraction)

theorem introduces_typeEntry {item : Item} (isType : item.body.isTypeBody) (path name : String) :
    Introduces (extraction.typeEntry path name item).steps
      (extraction.typeIri (extendPath path name)) := by
  have classed : ∃ nodeClass, nodeClass ∈ typeClasses item.body := by
    apply List.exists_mem_of_ne_nil
    rw [ne_eq, typeClasses_eq_nil_iff, isType]
    exact Bool.noConfusion
  rcases classed with ⟨nodeClass, listed⟩
  constructor
  · refine ⟨nodeClass, ?_⟩
    simp only [typeEntry, Entry.steps, typeHeader, List.mem_append, List.mem_map]
    exact Or.inl (Or.inl (Or.inl ⟨nodeClass, listed, rfl⟩))
  · refine ⟨name, ?_⟩
    simp [typeEntry, Entry.steps, typeHeader]

theorem rooted_typeEntry {item : Item} (isType : item.body.isTypeBody) (path name : String) :
    extraction.Rooted [extraction.crateIri, extraction.moduleIri path]
      (extraction.typeEntity (extendPath path name))
      (extraction.typeEntry path name item).steps := by
  have details : extraction.Rooted [extraction.typeIri (extendPath path name)] _ _ :=
    rooted_typeDetails (extendPath path name) item.body
  refine ⟨?_, (Arranged.of_loose (by simp)).append details.arranged⟩
  apply Closed.introducing _ (extraction.introduces_typeEntry isType path name)
  refine Closed.append ((Closed.append ?_ ?_).append (.of_covers ?_))
    (details.closed.mono (by simp))
  · apply Closed.of_anchored
    simp
  · apply Closed.of_anchored
    simp
  · exact covers_attributes (by simp) (allows_attributeTopics (by simp)) (by simp)

/-! ### Implementations -/

/-- What has the members of an implementation of the type with the path: the implementation itself
if it is one of a trait, else the type. -/
def implementationOwner (id : ItemId) (path : String) (body : ImplementationBody) : Entity :=
  if body.trait.isSome then extraction.implementationEntity id else extraction.typeEntity path

theorem rooted_implementationNode (id : ItemId) (path : String) (body : ImplementationBody) :
    extraction.Rooted [extraction.implementationIri id, extraction.typeIri path]
      (extraction.implementationOwner id path body)
      (extraction.implementationNode id (extraction.typeIri path) body) := by
  have members (holder : Entity) (free : holder.owner? = none)
      (anchored : holder.iri extraction.minter ∈
        [extraction.implementationIri id, extraction.typeIri path]) :
      extraction.Rooted [extraction.implementationIri id, extraction.typeIri path] holder
        (body.items.flatMap (extraction.implementationMember (holder.iri extraction.minter))) :=
    .flatMap (rooted_implementationMember anchored free) _
  unfold implementationNode implementationOwner
  cases body.trait with
  | some reference =>
      refine Rooted.append ⟨?_, .of_loose (by simp)⟩
        (members (extraction.implementationEntity id) rfl List.mem_cons_self)
      intro step member
      simp only [List.mem_cons, List.not_mem_nil, or_false] at member
      rcases member with rfl | rfl | rfl | rfl | rfl
      · simp
      · simp
      · exact ⟨Or.inl (by simp), fun _ => Or.inr ⟨reference.path, by simp⟩⟩
      · exact ⟨Or.inl (by simp), fun _ => Or.inr ⟨reference.path, by simp⟩⟩
      · exact trivial
  | none =>
      exact Rooted.append ⟨.of_anchored (by simp), .of_loose (by simp)⟩
        (members (extraction.typeEntity path) rfl (by simp [typeIri_eq]))

/-! ### Crates and modules -/

theorem introduces_crateNode : Introduces extraction.crateNode extraction.crateIri :=
  ⟨⟨Class.crate, by simp [crateNode]⟩, ⟨extraction.crateName, by simp [crateNode]⟩⟩

theorem closed_crateNode : Closed [] extraction.crateNode := by
  apply Closed.introducing _ extraction.introduces_crateNode
  apply Closed.of_anchored
  simp [crateNode]

theorem closed_dependency (external : ExternalCrate) :
    Closed [extraction.crateIri] (extraction.dependency external) := by
  unfold dependency
  split
  · exact .nil
  · apply Closed.introducing (extraction.minter.crate external.name unknownVersion)
    · exact ⟨⟨Class.crate, by simp⟩, ⟨external.name, by simp⟩⟩
    · apply Closed.of_anchored
      simp

theorem introduces_moduleNode (path : String) (item : Item) :
    Introduces (extraction.moduleNode path item) (extraction.moduleIri path) :=
  ⟨⟨Class.module, by simp [moduleNode]⟩, ⟨item.properName?.getD path, by simp [moduleNode]⟩⟩

theorem closed_moduleNode (path : String) (item : Item) :
    Closed [extraction.crateIri] (extraction.moduleNode path item) := by
  apply Closed.introducing _ (extraction.introduces_moduleNode path item)
  apply Closed.append
  · apply Closed.of_anchored
    simp
  · apply Closed.of_anchored
    split <;> simp

end Extraction

end CrateGraph
