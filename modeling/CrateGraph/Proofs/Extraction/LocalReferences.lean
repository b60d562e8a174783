import CrateGraph.Proofs.Extraction.ReferentialClosure
import CrateGraph.Proofs.Extraction.Reordering
import CrateGraph.Proofs.Extraction.TypePlaces

/-!
References to the types of the crate itself.

The address of a declared type is made of the path under which the walk comes to it, that of a
reference of what the summaries say about its id. Main statement: where the two paths agree, every
reference with the id leads to the declared type, from every place in which it can stand, and every
implementation for it is processed.
-/

namespace CrateGraph

open Ontology

namespace Extraction

variable (extraction : Extraction)

/-- An implementation with the id is left out because its target is no type that was declared
before. -/
def SkipsAsForeign (id : ItemId) : Prop :=
  ∃ before target steps after,
    extraction.outline = before ++ .implementation id target steps :: after ∧
      target ∉ ((Progress.start extraction).runEntries before).1.types

variable {extraction}

theorem ReachesType.mem_types {path : String} {id : ItemId}
    (reached : extraction.ReachesType path id) :
    extraction.typeIri path ∈ extraction.outcome.types := by
  rcases reached with
    ⟨_, last, item, name, ⟨ids, chain, isLast, rfl⟩, lists, found, isType, named, rfl⟩
  exact extraction.mem_types_of_visits ⟨ids, last, id, chain, isLast, lists, found, rfl⟩ isType
    named

theorem typeIri?_path_of_summary {id : ItemId} {summary : ItemSummary}
    (listed : extraction.crate.paths.get? id = some summary) {reference : PathReference}
    (refers : reference.id = some id) :
    extraction.typeIri? (.path reference) = some (extraction.typeIri summary.fullPath) := by
  rw [typeIri?, referenceIri, referencedPath, refers]
  dsimp only
  rw [listed]

/-! ### Implementations are not foreign -/

/-- What stands before an implementation in the outline includes the walk. -/
theorem walk_subset_of_outline_eq {before after : List Entry} {id : ItemId} {target : String}
    {steps : List Step}
    (split : extraction.outline = before ++ .implementation id target steps :: after) :
    extraction.walk ⊆ before := by
  have outside : .implementation id target steps ∉ extraction.opening ++ extraction.walk := by
    intro inside
    rcases List.mem_append.mp inside with opens | walks
    · exact Bool.noConfusion (extraction.isImplementation_of_mem_opening opens)
    · exact extraction.implementation_not_mem_walk id target steps walks
  rw [outline_eq, List.append_eq_append_iff] at split
  rcases split with ⟨between, rfl, _⟩ | ⟨rest, equal, cut⟩
  · exact List.subset_append_of_subset_left _ (List.subset_append_right _ _)
  · cases rest with
    | nil =>
        rw [List.append_nil] at equal
        rw [← equal]
        exact List.subset_append_right _ _
    | cons entry rest =>
        rw [List.cons_append, List.cons.injEq] at cut
        rw [equal, ← cut.1] at outside
        exact absurd (List.mem_append_right _ List.mem_cons_self) outside

theorem mem_types_before {iri : String} (declared : iri ∈ extraction.outcome.types)
    {before after : List Entry} {id : ItemId} {target : String} {steps : List Step}
    (split : extraction.outline = before ++ .implementation id target steps :: after) :
    iri ∈ ((Progress.start extraction).runEntries before).1.types := by
  rcases (extraction.declares_run_iff (.type iri)).mp declared with ⟨entry, walked, asked⟩
  exact (Progress.declares_runEntries _ _ (.type iri)).mpr
    (Or.inr ⟨entry, walk_subset_of_outline_eq split walked, asked⟩)

theorem resolves_of_mem_outline {id : ItemId} {target : String} {steps : List Step}
    (member : .implementation id target steps ∈ extraction.outline) :
    ∃ body item, extraction.item? id = some item ∧ item.body = .implementation body ∧
      extraction.typeIri? body.target = some target := by
  rw [outline_eq, List.mem_append, List.mem_append] at member
  rcases member with (opens | walks) | closes
  · exact Bool.noConfusion (extraction.isImplementation_of_mem_opening opens)
  · exact absurd walks (extraction.implementation_not_mem_walk id target steps)
  · unfold closing at closes
    split at closes
    · rcases List.mem_cons.mp closes with isLog | later
      · cases isLog
      · rcases List.mem_flatMap.mp later with ⟨⟨listedId, body⟩, listed, own⟩
        rcases extraction.mem_implementationEntries_cases own with
          ⟨_, other⟩ | other | ⟨_, _, _, resolves, same⟩
        · cases other
        · cases other
        · cases same
          rcases (extraction.mem_implementations_iff id body).mp listed with ⟨item, found, isBody⟩
          exact ⟨body, item, found, isBody, resolves⟩
    · cases closes

theorem Processes.not_skipsAsForeign {id : ItemId} {body : ImplementationBody} {target : String}
    (processes : extraction.Processes id body target) : ¬extraction.SkipsAsForeign id := by
  rintro ⟨before, other, steps, after, split, absent⟩
  have member : .implementation id other steps ∈ extraction.outline := by
    rw [split]
    exact List.mem_append_right _ List.mem_cons_self
  rcases resolves_of_mem_outline member with ⟨otherBody, item, found, isOther, resolves⟩
  rcases processes.found with ⟨own, ownFound, isOwn⟩
  obtain rfl := Option.some.inj (ownFound.symm.trans found)
  obtain rfl := ItemBody.implementation.inj (isOwn.symm.trans isOther)
  obtain rfl := Option.some.inj (processes.resolves.symm.trans resolves)
  exact absent (mem_types_before processes.declared split)

theorem Processes.implementationFor {id : ItemId} {body : ImplementationBody} {target : String}
    (processes : extraction.Processes id body target) :
    ⟨extraction.implementationIri id, Property.implementationFor, .iri target⟩ ∈
      extraction.triples := by
  apply extraction.mem_triples_of_describes (.implementation processes)
  cases isTrait : body.trait with
  | some => simp [implementationNode, isTrait, Step.iri]
  | none => simp [implementationNode, isTrait, Step.iri]

variable (extraction)

/-- Where the summary of an id gives the path under which the walk comes to it as a type, every
reference with the id leads to the declared type, whatever else it says: from each place in which
it stands, and as the target of implementations, which are then described and not left out. -/
theorem references_reach_declaration {path : String} {id : ItemId} {summary : ItemSummary}
    (reached : extraction.ReachesType path id)
    (listed : extraction.crate.paths.get? id = some summary) (agrees : summary.fullPath = path) :
    extraction.typeIri path ∈ extraction.outcome.types ∧
    ∀ reference : PathReference, reference.id = some id →
      extraction.typeIri? (.path reference) = some (extraction.typeIri path) ∧
      (∀ subject property,
        extraction.TypeAt subject property (.path reference) ∨
            extraction.TraitAt subject property reference →
          ⟨subject, property, .iri (extraction.typeIri path)⟩ ∈ extraction.triples) ∧
      (extraction.options.includeImplementations →
        ∀ implementationId item body, extraction.item? implementationId = some item →
          item.body = .implementation body → body.isSynthetic = false → body.blanket = none →
          body.target = .path reference →
            (∀ triple, .triple triple ∈ extraction.implementationNode implementationId
                (extraction.typeIri path) body → triple ∈ extraction.triples) ∧
            ⟨extraction.implementationIri implementationId, Property.implementationFor,
              .iri (extraction.typeIri path)⟩ ∈ extraction.triples ∧
            ¬extraction.SkipsAsForeign implementationId) := by
  refine ⟨reached.mem_types, ?_⟩
  intro reference refers
  have resolves : extraction.typeIri? (.path reference) = some (extraction.typeIri path) := by
    rw [typeIri?_path_of_summary listed refers, agrees]
  refine ⟨resolves, ?_, ?_⟩
  · intro subject property place
    rcases place with ofType | ofTrait
    · exact ofType.edge resolves
    · have edge := ofTrait.edge
      rwa [Option.some.inj resolves] at edge
  · intro included implementationId item body found isBody notSynthetic notBlanket isTarget
    rw [← isTarget] at resolves
    have processes : extraction.Processes implementationId body (extraction.typeIri path) :=
      ⟨included, ⟨item, found, isBody⟩, notSynthetic, notBlanket, resolves, reached.mem_types⟩
    exact ⟨fun _ => extraction.mem_triples_of_describes (.implementation processes),
      processes.implementationFor, processes.not_skipsAsForeign⟩

/-- A reference to the item with the id 1, by a name that the crate does not know. -/
def renamedLink : PathReference :=
  ⟨"list::Renamed", some "1", none⟩

/-- The struct `struct Link { next: list::Renamed }`. -/
def link : Item :=
  .plain (some "Link") (.struct ⟨.plain ["2"] false, ⟨[], []⟩, []⟩)

def nextField : Item :=
  .plain (some "next") (.field (.path renamedLink))

/-- The implementation `impl list::Renamed`. -/
def linkImplementation : ImplementationBody where
  generics := ⟨[], []⟩
  trait := none
  target := .path renamedLink
  items := []
  isUnsafe := false
  isNegative := false
  isSynthetic := false
  blanket := none

def linkItems : Entries String Item :=
  [("1", link), ("2", nextField), ("3", .plain none (.implementation linkImplementation))]

/-- A crate with the struct `Link`, which is referred to by another name. -/
def linking : Extraction :=
  demo ["1"] linkItems ⟨[("1", ⟨["demo", "Link"], .struct, 0⟩)], by simp⟩ (by simp [linkItems])

theorem linking_reaches : linking.ReachesType (extendPath "demo" "Link") "1" := by
  have holds : linking.moduleBody? "0" = some ⟨["1"], false, true⟩ := by
    simp [moduleBody?, linking, demo, item?, Table.get?, Entries.get?, Item.plain]
  have chain : linking.ModuleChain ["0"] :=
    (linking.moduleChain_singleton_iff _).mpr ⟨rfl, Option.isSome_of_eq_some holds⟩
  refine ⟨"demo", "0", link, "Link", ⟨["0"], chain, rfl, ?_⟩,
    ⟨_, holds, List.mem_singleton_self _⟩, item?_demo (by simp [linkItems]), rfl,
    Item.properName?_plain (by simp) _, rfl⟩
  exact String.intercalate_singleton.symm

theorem linking_nextField :
    linking.TypeAt (Iri.member (linking.typeIri (extendPath "demo" "Link")) "next" "")
      Property.fieldType (.path renamedLink) := by
  have named : link.properName? = some "Link" := Item.properName?_plain (by simp) _
  have only : ∀ entry ∈ linkItems, entry.2.body.isTypeBody → entry.2 = link := by
    intro entry member isType
    simp only [linkItems, List.mem_cons, List.not_mem_nil, or_false] at member
    rcases member with rfl | rfl | rfl
    · rfl
    all_goals cases isType
  have declaring : ∃ path, linking.DeclaresType path "Link" link ∧
      linking.typeIri (extendPath path "Link") = linking.typeIri (extendPath "demo" "Link") :=
    exists_declaresType_demo List.mem_cons_self List.mem_cons_self rfl named only
  have fieldNamed : fieldName nextField = "next" := by
    rw [fieldName, nextField, Item.properName?_plain (by simp), Option.getD_some]
  have found : linking.item? "2" = some nextField := item?_demo (by simp [linkItems])
  rcases declaring with ⟨path, declares, same⟩
  rw [← same, ← fieldNamed]
  exact .field (.field declares List.mem_cons_self found rfl) rfl

theorem renamed_references_reach_link :
    linking.ReachesType (extendPath "demo" "Link") "1" ∧
      linking.typeIri? (.path renamedLink) = some (linking.typeIri (extendPath "demo" "Link")) ∧
      ⟨Iri.member (linking.typeIri (extendPath "demo" "Link")) "next" "", Property.fieldType,
        .iri (linking.typeIri (extendPath "demo" "Link"))⟩ ∈ linking.triples ∧
      ⟨linking.implementationIri "3", Property.implementationFor,
        .iri (linking.typeIri (extendPath "demo" "Link"))⟩ ∈ linking.triples ∧
      ¬linking.SkipsAsForeign "3" := by
  have found : linking.item? "3" = some (.plain none (.implementation linkImplementation)) :=
    item?_demo (by simp [linkItems])
  have listed : linking.crate.paths.get? "1" = some ⟨["demo", "Link"], .struct, 0⟩ := by
    simp [linking, demo, Table.get?, Entries.get?]
  have agrees : ItemSummary.fullPath ⟨["demo", "Link"], .struct, 0⟩ = extendPath "demo" "Link" := by
    simp [ItemSummary.fullPath, extendPath, pathSeparator]
  rcases linking.references_reach_declaration linking_reaches listed agrees with ⟨_, reach⟩
  rcases reach renamedLink rfl with ⟨resolves, edges, processed⟩
  rcases processed rfl "3" _ _ found rfl rfl rfl rfl with ⟨_, isFor, notSkipped⟩
  exact ⟨linking_reaches, resolves, edges _ _ (Or.inl linking_nextField), isFor, notSkipped⟩

end Extraction

end CrateGraph
