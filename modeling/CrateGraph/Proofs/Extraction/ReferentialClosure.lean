import CrateGraph.Proofs.Extraction.Counters
import CrateGraph.Proofs.Extraction.RootedDescriptions

/-!
The graph of a run is closed under reference.

Main statement: every anchor of a description and every type that one mentions has a node of its
own, so that all subjects and the targets of all links have a class, and all subjects but
implementations a name. Only the root module, which stands for the crate, has no node.
-/

namespace CrateGraph

open Rdf (Triple)
open Ontology

namespace Extraction

variable (extraction : Extraction)

/-- The address of the root module, which stands for the crate and has no node of its own. -/
def rootModuleIri : String :=
  extraction.moduleIri extraction.crateName

def HasClass (node : String) : Prop :=
  ∃ nodeClass, ⟨node, Property.type, .iri nodeClass⟩ ∈ extraction.triples

def HasName (node : String) : Prop :=
  ∃ name, ⟨node, Property.name, .literal name⟩ ∈ extraction.triples

def IsImplementationNode (node : String) : Prop :=
  ∃ nodeClass ∈ implementationClasses,
    ⟨node, Property.type, .iri nodeClass⟩ ∈ extraction.triples

/-- The node has a class and, unless it is an implementation, a name. -/
structure HasNode (node : String) : Prop where
  hasClass : extraction.HasClass node
  hasName : ¬extraction.IsImplementationNode node → extraction.HasName node

theorem hasNode_of_introduces {steps : List Step} (describes : extraction.Describes steps)
    {node : String} (introduces : Introduces steps node) : extraction.HasNode node := by
  rcases introduces with ⟨⟨nodeClass, typed⟩, ⟨name, named⟩⟩
  exact ⟨⟨nodeClass, extraction.mem_triples_of_describes describes typed⟩,
    fun _ => ⟨name, extraction.mem_triples_of_describes describes named⟩⟩

theorem hasNode_crateIri : extraction.HasNode extraction.crateIri :=
  extraction.hasNode_of_introduces .crate extraction.introduces_crateNode

theorem hasNode_of_declaredType {iri : String} (declared : iri ∈ extraction.outcome.types) :
    extraction.HasNode iri := by
  rcases extraction.exists_declaresType declared with ⟨path, name, item, declares, rfl⟩
  exact extraction.hasNode_of_introduces (.type declares)
    (extraction.introduces_typeEntry declares.isType path name)

theorem hasNode_of_declaredModule {path : String}
    (declared : path ∈ extraction.outcome.modules) :
    extraction.HasNode (extraction.moduleIri path) := by
  rcases extraction.exists_firstModule declared with ⟨item, first⟩
  exact extraction.hasNode_of_introduces (.module first)
    (extraction.introduces_moduleNode path item)

/-- The module around a visited item is the root or declared. -/
theorem Visits.root_or_declared {extraction : Extraction} {path : String} {item : Item}
    (visited : extraction.Visits path item) :
    path = extraction.crateName ∨ path ∈ extraction.outcome.modules := by
  rcases visited with ⟨ids, last, _, chain, _, _, _, rfl⟩
  by_cases long : 2 ≤ ids.length
  · exact Or.inr ((extraction.module_declared_iff _).mpr ⟨ids, chain, long, rfl⟩)
  · left
    match ids, chain with
    | [], chain => cases chain.fromRoot
    | [_], _ => exact String.intercalate_singleton
    | _ :: _ :: _, _ => exact absurd (Nat.le_add_left _ _) long

theorem Visits.root_or_hasNode {extraction : Extraction} {path : String} {item : Item}
    (visited : extraction.Visits path item) :
    extraction.moduleIri path = extraction.rootModuleIri ∨
      extraction.HasNode (extraction.moduleIri path) := by
  rcases visited.root_or_declared with isRoot | declared
  · exact Or.inl (congrArg extraction.moduleIri isRoot)
  · exact Or.inr (extraction.hasNode_of_declaredModule declared)

theorem isImplementationNode_of_processes {id : ItemId} {body : ImplementationBody}
    {target : String} (processes : extraction.Processes id body target) :
    extraction.IsImplementationNode (extraction.implementationIri id) := by
  have describes := Describes.implementation processes
  cases isTrait : body.trait with
  | some reference =>
      refine ⟨Class.traitImplementation, by simp, ?_⟩
      apply extraction.mem_triples_of_describes describes
      simp [implementationNode, isTrait, Step.iri]
  | none =>
      refine ⟨Class.inherentImplementation, by simp, ?_⟩
      apply extraction.mem_triples_of_describes describes
      simp [implementationNode, isTrait, Step.iri]

theorem hasNode_of_processes {id : ItemId} {body : ImplementationBody} {target : String}
    (processes : extraction.Processes id body target) :
    extraction.HasNode (extraction.implementationIri id) := by
  rcases extraction.isImplementationNode_of_processes processes with
    ⟨nodeClass, isImplementation, stated⟩
  exact ⟨⟨nodeClass, stated⟩, fun apart => absurd ⟨nodeClass, isImplementation, stated⟩ apart⟩

/-- Every description is closed under anchors that have nodes. -/
theorem Describes.exists_anchors {extraction : Extraction} {steps : List Step}
    (describes : extraction.Describes steps) :
    ∃ anchors, Closed anchors steps ∧
      ∀ anchor ∈ anchors, anchor = extraction.rootModuleIri ∨ extraction.HasNode anchor := by
  have crate : ∀ anchor ∈ [extraction.crateIri],
      anchor = extraction.rootModuleIri ∨ extraction.HasNode anchor := by
    simpa using Or.inr extraction.hasNode_crateIri
  have module : ∀ {path item}, extraction.Visits path item →
      ∀ anchor ∈ [extraction.moduleIri path],
        anchor = extraction.rootModuleIri ∨ extraction.HasNode anchor := by
    intro path item visited
    simpa using visited.root_or_hasNode
  cases describes with
  | crate => exact ⟨[], extraction.closed_crateNode, by simp⟩
  | dependency => exact ⟨_, extraction.closed_dependency _, crate⟩
  | module => exact ⟨_, extraction.closed_moduleNode _ _, crate⟩
  | function visited => exact ⟨_, (rooted_moduleFunction _ _ _).closed, module visited⟩
  | constant visited => exact ⟨_, (rooted_constant _ _ _).closed, module visited⟩
  | static visited => exact ⟨_, (rooted_static _ _ _).closed, module visited⟩
  | type declares =>
      refine ⟨_, (extraction.rooted_typeEntry declares.isType _ _).closed, ?_⟩
      rw [List.forall_mem_cons]
      exact ⟨Or.inr extraction.hasNode_crateIri, module declares.visited⟩
  | implementation processes =>
      rcases extraction.exists_declaresType processes.declared with ⟨path, _, _, _, rfl⟩
      refine ⟨_, (extraction.rooted_implementationNode _ _ _).closed, ?_⟩
      simp only [List.forall_mem_cons, List.not_mem_nil, false_implies, implies_true, and_true]
      exact ⟨Or.inr (extraction.hasNode_of_processes processes),
        Or.inr (extraction.hasNode_of_declaredType processes.declared)⟩

theorem hasClass_of_knows {iri : String} (known : extraction.outcome.Knows iri) :
    extraction.HasClass iri := by
  rcases known with declared | mentioned
  · exact (extraction.hasNode_of_declaredType declared).hasClass
  · have listed : iri ∈ instances [Class.type] extraction.triples := by
      rw [extraction.stepTally_outcome.stubs, List.mem_reverse]
      exact mentioned
    exact ⟨Class.type, (mem_instances_iff _ _ _).mp listed⟩

theorem Describes.hasClass_of_mentions {extraction : Extraction} {steps : List Step}
    (describes : extraction.Describes steps) {iri : String} (mentions : Mentions steps iri) :
    extraction.HasClass iri := by
  rcases extraction.exists_carriedOut_of_describes describes with ⟨entry, carried, rfl⟩
  exact extraction.hasClass_of_knows
    ((extraction.knows_outcome_iff iri).mpr ⟨entry, carried, Or.inr mentions⟩)

theorem subject_root_or_hasNode {triple : Triple} (stated : triple ∈ extraction.triples) :
    triple.subject = extraction.rootModuleIri ∨ extraction.HasNode triple.subject := by
  rcases (extraction.mem_triples_iff_origin triple).mp stated with described | mentioned
  · rcases (extraction.mem_statedTriples_iff triple).mp described with ⟨steps, describes, own⟩
    rcases describes.exists_anchors with ⟨anchors, closed, nodes⟩
    rcases (closed _ own).subject with isAnchor | introduces
    · exact nodes _ isAnchor
    · exact Or.inr (extraction.hasNode_of_introduces describes introduces)
  · rcases extraction.exists_stubNode_of_mem_stubTriples mentioned with ⟨iri, name, own, whole⟩
    have written : ∀ part ∈ Progress.stubNode iri name, part ∈ extraction.triples :=
      fun part member => (extraction.mem_triples_iff_origin part).mpr (Or.inr (whole member))
    have isSubject : triple.subject = iri := by
      simp only [Progress.stubNode, List.mem_cons, List.not_mem_nil, or_false] at own
      rcases own with rfl | rfl
      all_goals rfl
    rw [isSubject]
    exact Or.inr ⟨⟨Class.type, written _ (by simp [Progress.stubNode])⟩,
      fun _ => ⟨name, written _ (by simp [Progress.stubNode])⟩⟩

theorem exists_target_root_or_hasClass {triple : Triple} (stated : triple ∈ extraction.triples)
    (isLink : triple.predicate ∈ linkProperties) :
    ∃ target, triple.object = .iri target ∧
      (target = extraction.rootModuleIri ∨ extraction.HasClass target) := by
  rcases (extraction.mem_triples_iff_origin _).mp stated with described | mentioned
  · rcases (extraction.mem_statedTriples_iff _).mp described with ⟨steps, describes, own⟩
    rcases describes.exists_anchors with ⟨anchors, closed, nodes⟩
    rcases (closed _ own).exists_target isLink with ⟨target, isTarget, reached⟩
    refine ⟨target, isTarget, ?_⟩
    rcases reached with (isAnchor | introduces) | mentions
    · exact (nodes _ isAnchor).imp_right HasNode.hasClass
    · exact Or.inr (extraction.hasNode_of_introduces describes introduces).hasClass
    · exact Or.inr (describes.hasClass_of_mentions mentions)
  · rcases extraction.exists_stubNode_of_mem_stubTriples mentioned with ⟨iri, name, own, _⟩
    simp only [Progress.stubNode, List.mem_cons, List.not_mem_nil, or_false] at own
    rcases own with rfl | rfl
    · exact absurd isLink not_mem_linkProperties.1
    · exact absurd isLink (by simp)

/-- Every subject but the root module has a class and, unless it is an implementation, a name, and
every link leads to the root module or to a node with a class. -/
theorem subjects_and_link_targets_are_nodes :
    (∀ triple ∈ extraction.triples, triple.subject ≠ extraction.rootModuleIri →
      (∃ nodeClass, ⟨triple.subject, Property.type, .iri nodeClass⟩ ∈ extraction.triples) ∧
        (¬extraction.IsImplementationNode triple.subject →
          ∃ name, ⟨triple.subject, Property.name, .literal name⟩ ∈ extraction.triples)) ∧
    ∀ triple ∈ extraction.triples, triple.predicate ∈ linkProperties →
      ∃ target, triple.object = .iri target ∧
        (target = extraction.rootModuleIri ∨
          ∃ nodeClass, ⟨target, Property.type, .iri nodeClass⟩ ∈ extraction.triples) := by
  constructor
  · intro triple stated inner
    have node := (extraction.subject_root_or_hasNode stated).resolve_left inner
    exact ⟨node.hasClass, node.hasName⟩
  · intro triple stated isLink
    exact extraction.exists_target_root_or_hasClass stated isLink

/-- The trait `Source` with the supertrait `Read`, of which the crate knows no more. -/
def sourceTrait : Item :=
  .plain (some "Source") (.trait {
    generics := ⟨[], []⟩
    bounds := [.trait ⟨"Read", none, none⟩ "none" []]
    items := []
    implementations := []
    isAuto := false
    isUnsafe := false
    isDynCompatible := true })

def extending : Extraction :=
  demo ["1"] [("1", sourceTrait)] Table.empty

theorem extending_superTrait :
    ⟨extending.typeIri (extendPath "demo" "Source"), Property.superTrait,
      .iri (extending.typeIri "Read")⟩ ∈ extending.triples := by
  have named : sourceTrait.properName? = some "Source" := Item.properName?_plain (by simp) _
  have only : ∀ entry ∈ [("1", sourceTrait)], entry.2.body.isTypeBody → entry.2 = sourceTrait := by
    simp
  have declaring : ∃ path, extending.DeclaresType path "Source" sourceTrait ∧
      extending.typeIri (extendPath path "Source") =
        extending.typeIri (extendPath "demo" "Source") :=
    exists_declaresType_demo List.mem_cons_self List.mem_cons_self rfl named only
  rcases declaring with ⟨path, declares, same⟩
  rw [← same]
  apply extending.mem_triples_of_describes (.type declares)
  simp [typeEntry, Entry.steps, typeDetails, sourceTrait, Item.plain, boundEdges, referenceIri,
    referencedPath, Step.iri]

theorem foreign_superTrait_is_node :
    ⟨extending.typeIri (extendPath "demo" "Source"), Property.superTrait,
        .iri (extending.typeIri "Read")⟩ ∈ extending.triples ∧
      Property.superTrait ∈ linkProperties ∧
      ∃ target, Rdf.Term.iri (extending.typeIri "Read") = .iri target ∧
        (target = extending.rootModuleIri ∨
          ∃ nodeClass, ⟨target, Property.type, .iri nodeClass⟩ ∈ extending.triples) := by
  have isLink : Property.superTrait ∈ linkProperties := by simp [linkProperties]
  exact ⟨extending_superTrait, isLink,
    extending.subjects_and_link_targets_are_nodes.2 _ extending_superTrait isLink⟩

end Extraction

end CrateGraph
