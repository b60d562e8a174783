import CrateGraph.Proofs.Extraction.CoveredDescriptions
import CrateGraph.Proofs.Ontology.DistinctTerms

/-!
Descriptions that speak only of nodes that exist.

A description introduces most nodes that it speaks of by a class and a name. The others are anchors
that it relies on: the crate, the module around it, the type that an implementation is for, the
implementation itself. Its links lead to the same nodes, or to types that it mentions.
-/

namespace CrateGraph

open Rdf (Term Triple)
open Ontology

/-- The properties that lead from one node of the graph to another. -/
def linkProperties : List String :=
  [Property.definedInAssembly, Property.inNamespace, Property.dependsOn, Property.hasMember,
    Property.memberOf, Property.hasParameter, Property.parameterOf, Property.hasTypeParameter,
    Property.typeParameterOf, Property.hasLifetime, Property.hasVariant, Property.variantField,
    Property.superTrait, Property.traitBound, Property.implementationFor,
    Property.implementedTrait, Property.implements]

/-- The properties of classes, of types that need no node, and of values. -/
@[simp] theorem not_mem_linkProperties :
    Property.type ∉ linkProperties ∧ Property.relatedTo ∉ linkProperties ∧
      Property.returnType ∉ linkProperties ∧ Property.fieldType ∉ linkProperties ∧
      Property.parameterType ∉ linkProperties ∧ Property.errorType ∉ linkProperties ∧
      Property.parentNamespace ∉ linkProperties ∧ Property.name ∉ linkProperties ∧
      Property.fullName ∉ linkProperties ∧ Property.accessibility ∉ linkProperties ∧
      Property.isAbstract ∉ linkProperties ∧ Property.isGeneric ∉ linkProperties ∧
      Property.hasAttribute ∉ linkProperties ∧ Property.isAsync ∉ linkProperties ∧
      Property.isConst ∉ linkProperties ∧ Property.ordinal ∉ linkProperties ∧
      Property.version ∉ linkProperties ∧ Property.language ∉ linkProperties ∧
      Property.variantKind ∉ linkProperties ∧ Property.isUnsafe ∉ linkProperties ∧
      Property.isMutable ∉ linkProperties ∧ Property.derives ∉ linkProperties := by
  simp [linkProperties, Property.relatedTo, Property.returnType, Property.fieldType,
    Property.parameterType, Property.errorType, Property.parentNamespace, Property.name,
    Property.fullName, Property.accessibility, Property.isAbstract, Property.isGeneric,
    Property.hasAttribute, Property.isAsync, Property.isConst, Property.ordinal, Property.version,
    Property.language, Property.variantKind, Property.isUnsafe, Property.isMutable,
    Property.derives, Property.definedInAssembly, Property.inNamespace, Property.dependsOn,
    Property.hasMember, Property.memberOf, Property.hasParameter, Property.parameterOf,
    Property.hasTypeParameter, Property.typeParameterOf, Property.hasLifetime,
    Property.hasVariant, Property.variantField,
    Property.superTrait, Property.traitBound, Property.implementationFor,
    Property.implementedTrait, Property.implements]

/-! ### Steps that speak of known nodes -/

namespace Step

/-- The step speaks of a known node, and if it is a link, it leads to a known one or to a type that
is mentioned. -/
def Reaches (known mentioned : String → Prop) : Step → Prop
  | .triple ⟨subject, property, .iri target⟩ =>
      known subject ∧ (property ∈ linkProperties → known target ∨ mentioned target)
  | .triple ⟨subject, property, _⟩ => known subject ∧ property ∉ linkProperties
  | _ => True

variable {known mentioned : String → Prop}

@[simp] theorem reaches_iri (subject property target : String) :
    (iri subject property target).Reaches known mentioned ↔
      known subject ∧ (property ∈ linkProperties → known target ∨ mentioned target) :=
  Iff.rfl

@[simp] theorem reaches_literal (subject property value : String) :
    (literal subject property value).Reaches known mentioned ↔
      known subject ∧ property ∉ linkProperties :=
  Iff.rfl

@[simp] theorem reaches_bool (subject property : String) (value : Bool) :
    (bool subject property value).Reaches known mentioned ↔
      known subject ∧ property ∉ linkProperties :=
  Iff.rfl

@[simp] theorem reaches_int (subject property : String) (value : Int) :
    (int subject property value).Reaches known mentioned ↔
      known subject ∧ property ∉ linkProperties :=
  Iff.rfl

@[simp] theorem reaches_mention (iri name : String) :
    (mention iri name).Reaches known mentioned :=
  trivial

@[simp] theorem reaches_countFunction : countFunction.Reaches known mentioned :=
  trivial

@[simp] theorem reaches_countUnresolved : countUnresolved.Reaches known mentioned :=
  trivial

theorem Reaches.mono {step : Step} (reaches : step.Reaches known mentioned)
    {known' mentioned' : String → Prop} (moreKnown : ∀ node, known node → known' node)
    (moreMentioned : ∀ node, mentioned node → mentioned' node) :
    step.Reaches known' mentioned' := by
  cases step with
  | triple triple =>
      rcases triple with ⟨subject, property, object⟩
      cases object with
      | iri target =>
          refine ⟨moreKnown _ reaches.1, ?_⟩
          intro isLink
          exact (reaches.2 isLink).imp (moreKnown _) (moreMentioned _)
      | literal | typed => exact ⟨moreKnown _ reaches.1, reaches.2⟩
  | mention | countFunction | countUnresolved => exact trivial

theorem Reaches.subject {triple : Triple}
    (reaches : (Step.triple triple).Reaches known mentioned) : known triple.subject := by
  rcases triple with ⟨subject, property, object⟩
  cases object with
  | iri | literal | typed => exact reaches.1

theorem Reaches.exists_target {triple : Triple}
    (reaches : (Step.triple triple).Reaches known mentioned)
    (isLink : triple.predicate ∈ linkProperties) :
    ∃ target, triple.object = .iri target ∧ (known target ∨ mentioned target) := by
  rcases triple with ⟨subject, property, object⟩
  cases object with
  | iri target => exact ⟨target, rfl, reaches.2 isLink⟩
  | literal | typed => exact absurd isLink reaches.2

end Step

/-! ### Closed descriptions -/

/-- The steps give the node a class and a name. -/
def Introduces (steps : List Step) (node : String) : Prop :=
  (∃ nodeClass, .iri node Property.type nodeClass ∈ steps) ∧
    ∃ name, .literal node Property.name name ∈ steps

theorem Introduces.mono {narrow wide : List Step} {node : String}
    (introduces : Introduces narrow node) (part : narrow ⊆ wide) : Introduces wide node :=
  ⟨introduces.1.imp fun _ typed => part typed, introduces.2.imp fun _ named => part named⟩

def Mentions (steps : List Step) (node : String) : Prop :=
  ∃ name, .mention node name ∈ steps

/-- Apart from anchors the steps speak only of nodes that they introduce, and link only to these
and to types that they mention. -/
def Closed (anchors : List String) (steps : List Step) : Prop :=
  ∀ step ∈ steps,
    step.Reaches (fun node => node ∈ anchors ∨ Introduces steps node) (Mentions steps)

/-- Steps with such a topic are no links. -/
@[simp] def Topic.LeadsNowhere : Topic → Prop
  | .edge property | .text property | .value property => property ∉ linkProperties
  | .classOf _ | .function => True

namespace Closed

variable {anchors : List String} {steps : List Step}

theorem widen {narrow wide : List Step} (part : narrow ⊆ wide) {fewer : List String}
    (anchored : fewer ⊆ anchors) (closed : Closed fewer narrow) :
    ∀ step ∈ narrow,
      step.Reaches (fun node => node ∈ anchors ∨ Introduces wide node) (Mentions wide) := by
  intro step member
  apply (closed step member).mono
  · intro node known
    exact known.imp (fun isAnchor => anchored isAnchor) fun introduced => introduced.mono part
  · rintro node ⟨name, mentioned⟩
    exact ⟨name, part mentioned⟩

theorem nil : Closed anchors [] := by
  simp [Closed]

theorem mono {fewer : List String} (closed : Closed fewer steps) (anchored : fewer ⊆ anchors) :
    Closed anchors steps :=
  closed.widen (List.Subset.refl _) anchored

theorem append {left right : List Step} (first : Closed anchors left)
    (second : Closed anchors right) : Closed anchors (left ++ right) := by
  intro step member
  rcases List.mem_append.mp member with inLeft | inRight
  · exact first.widen (List.subset_append_left _ _) (List.Subset.refl _) step inLeft
  · exact second.widen (List.subset_append_right _ _) (List.Subset.refl _) step inRight

theorem flatMap {Source : Type} {sources : List Source} {describe : Source → List Step}
    (each : ∀ source ∈ sources, Closed anchors (describe source)) :
    Closed anchors (sources.flatMap describe) := by
  induction sources with
  | nil => exact nil
  | cons source rest induction =>
      rw [List.flatMap_cons]
      exact (each source List.mem_cons_self).append
        (induction fun other member => each other (List.mem_cons_of_mem source member))

/-- Steps that speak of anchors only, those that mention something aside. -/
theorem of_anchored
    (each : ∀ step ∈ steps, step.Reaches (· ∈ anchors) (fun _ => False)) :
    Closed anchors steps := by
  intro step member
  exact (each step member).mono (fun _ => Or.inl) (fun _ => False.elim)

theorem of_covers
    (covers : (Lexicon.about Topic.LeadsNowhere (· ∈ anchors)).CoversAll steps) :
    Closed anchors steps := by
  apply of_anchored
  intro step member
  cases covers step member with
  | classOf known => exact ⟨known, fun isLink => absurd isLink not_mem_linkProperties.1⟩
  | edge known noLink => exact ⟨known, fun isLink => absurd isLink noLink⟩
  | text known noLink => exact ⟨known, noLink⟩
  | value known noLink => exact ⟨known, noLink⟩
  | mention | countFunction | countUnresolved => exact trivial

/-- A node that the steps introduce need not be an anchor. -/
theorem introducing (node : String) (introduces : Introduces steps node)
    (closed : Closed (node :: anchors) steps) : Closed anchors steps := by
  intro step member
  apply (closed step member).mono
  · intro other known
    rcases known with isAnchor | introduced
    · rcases List.mem_cons.mp isAnchor with rfl | isOther
      · exact Or.inr introduces
      · exact Or.inl isOther
    · exact Or.inr introduced
  · exact fun _ => id

end Closed

end CrateGraph
