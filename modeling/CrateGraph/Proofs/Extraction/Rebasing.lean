import CrateGraph.Proofs.Extraction.AddressedDescriptions
import CrateGraph.Proofs.Extraction.RebasedDescriptions
import Mathlib.Data.List.Forall2

/-!
The base of addresses is only a label.

Main statement: two extractions of a crate that differ in their bases alone hand over the same
triples one by one, except that where one has an address under its base the other has the same
address under its own, and they count the same. Slashes at the end of a base make no difference at
all.
-/

namespace CrateGraph

open Rdf (Statement Term Triple)
open Ontology
open Iri (stem)

/-! ### Addresses start with their base -/

theorem Iri.Minted.startsWithBase {minter : Minter} {texts : List String} {iri : String}
    (minted : Minted minter texts iri) : minter.base.toList ++ ['/'] <+: iri.toList := by
  have owned : ∀ {owner : String} (rest : String), minter.base.toList ++ ['/'] <+: owner.toList →
      minter.base.toList ++ ['/'] <+: (owner ++ rest).toList := by
    intro owner rest starts
    rw [String.toList_append]
    exact starts.trans (List.prefix_append _ _)
  induction minted with
  | crate => simp [Minter.crate]
  | module => simp [Minter.module]
  | type => simp [Minter.type]
  | implementation => simp [Minter.implementation]
  | primitiveType => simp [Minter.primitiveType]
  | tupleType => simp [Minter.tupleType]
  | sliceType => simp [Minter.sliceType]
  | arrayType => simp [Minter.arrayType]
  | referenceType => simp [Minter.referenceType]
  | pointerType => simp [Minter.pointerType]
  | member _ name signature induction =>
      rw [Iri.member]
      split
      · exact owned _ (owned _ induction)
      · exact owned _ (owned _ (owned _ (owned _ (owned _ induction))))
  | parameter _ _ induction | typeParameter _ _ induction | lifetime _ _ induction
  | variant _ _ induction => exact owned _ (owned _ induction)

theorem Iri.stem_empty : stem "" = "" := by
  simp [stem, Minter.ofBase]

theorem Iri.stem_letter : stem "x" = "x" := by
  simp [stem, Minter.ofBase]

theorem Iri.stem_append_slashes (base : String) (count : Nat) :
    stem (base ++ String.ofList (List.replicate count '/')) = stem base := by
  have dropped : ∀ character ∈ List.replicate count '/', (character == '/') = true := by
    intro character member
    rw [List.eq_of_mem_replicate member]
    rfl
  simp only [stem, Minter.ofBase, String.toList_append, String.toList_ofList, List.reverse_append,
    List.reverse_replicate]
  rw [List.dropWhile_append_of_pos dropped]

namespace Extraction

variable (extraction : Extraction) (base : String)

/-! ### Outlines -/

def rebaseEntries (base : String) (entries : List Entry) : List Entry :=
  entries.map (Entry.rename (stem base ++ ·))

theorem itemEntries_withBase (item : Item) (path : String) :
    (extraction.withBase base).itemEntries item path =
      rebaseEntries base (extraction.baseless.itemEntries item path) := by
  unfold itemEntries
  split
  · rw [moduleFunction_withBase]
    rfl
  · rw [constant_withBase]
    rfl
  · rw [static_withBase]
    rfl
  · split
    · rfl
    · rfl
    · simp only [typeIri_withBase, typeHeader_withBase, typeDetails_withBase,
        ← Step.rebase_append]
      rfl

theorem childEntries_withBase {active : List ItemId} {child : ItemId}
    (inside : ∀ innerPath, (extraction.withBase base).moduleEntries active child innerPath =
      rebaseEntries base (extraction.baseless.moduleEntries active child innerPath))
    (path : String) :
    (extraction.withBase base).childEntries active path child =
      rebaseEntries base (extraction.baseless.childEntries active path child) := by
  simp only [childEntries, item?_withBase, item?_baseless]
  cases extraction.item? child with
  | none => rfl
  | some item =>
      simp only
      cases item.body with
      | module body => exact inside _
      | _ => exact extraction.itemEntries_withBase base item path

/-- The walk takes the same way under every base. -/
theorem moduleEntries_withBase (active : List ItemId) (id : ItemId) (path : String) :
    (extraction.withBase base).moduleEntries active id path =
      rebaseEntries base (extraction.baseless.moduleEntries active id path) := by
  induction active, id, path using extraction.walk_induction with
  | step active id path inside =>
      rw [moduleEntries_eq, moduleEntries_eq, item?_withBase, item?_baseless]
      cases found : extraction.item? id with
      | none => rfl
      | some item =>
          simp only
          cases item.body with
          | module body =>
              simp only
              split
              · rfl
              · next outside =>
                  have children := fun child =>
                    extraction.childEntries_withBase base (inside item found outside child) path
                  rw [funext children, moduleNode_withBase, rebaseEntries, List.map_append,
                    List.map_flatMap]
                  congr 1
                  change (if id = extraction.crate.root then _ else _) =
                    List.map _ (if id = extraction.crate.root then _ else _)
                  split <;> rfl
          | _ => rfl

theorem implementationEntries_withBase (id : ItemId) (body : ImplementationBody) :
    (extraction.withBase base).implementationEntries id body =
      rebaseEntries base (extraction.baseless.implementationEntries id body) := by
  unfold implementationEntries
  rw [typeIri?_withBase]
  split
  · rfl
  · split
    · rfl
    · cases extraction.baseless.typeIri? body.target with
      | none => rfl
      | some target =>
          simp only [Option.map_some, implementationNode_withBase]
          rfl

theorem opening_withBase :
    (extraction.withBase base).opening = rebaseEntries base extraction.baseless.opening := by
  simp only [opening, crateNode_withBase, dependency_withBase, rebaseEntries, List.map_append,
    List.map_map]
  rfl

theorem closing_withBase :
    (extraction.withBase base).closing = rebaseEntries base extraction.baseless.closing := by
  change (if extraction.options.includeImplementations then _ else _) =
    rebaseEntries base (if extraction.options.includeImplementations then _ else _)
  split
  · simp only [allImplementationEntries, implementationEntries_withBase, rebaseEntries,
      List.map_cons, List.map_flatMap]
    rfl
  · rfl

theorem outline_withBase :
    (extraction.withBase base).outline = rebaseEntries base extraction.baseless.outline := by
  simp only [outline_eq, opening_withBase, closing_withBase, rebaseEntries, List.map_append]
  congr 2
  exact extraction.moduleEntries_withBase base _ _ _

/-! ### Runs -/

theorem append_injective (front : String) : Function.Injective (front ++ · : String → String) := by
  intro left right same
  simpa [← String.toList_inj] using same

theorem handing_run (progress : Progress) :
    Progress.handing (extraction.run progress) =
      Progress.handing (progress.runEntries extraction.outline) := by
  rw [Progress.handing, Progress.handing, filterMap_run fun _ => rfl]
  rfl

theorem handing_run_withBase :
    Progress.handing ((extraction.withBase base).run (.start (extraction.withBase base))) =
      Progress.renameOutcome (stem base ++ ·)
        (Progress.handing (extraction.baseless.run (.start extraction.baseless))) := by
  rw [handing_run, handing_run, outline_withBase]
  exact Progress.handing_runEntries_rename (append_injective _) (.start extraction.baseless) _

theorem statements_withBase :
    (extraction.withBase base).statements =
      extraction.baseless.statements.map (Statement.rename (stem base ++ ·)) :=
  congrArg Prod.snd (extraction.handing_run_withBase base)

theorem outcome_withBase :
    (extraction.withBase base).outcome = extraction.baseless.outcome.rename (stem base ++ ·) :=
  congrArg Prod.fst (extraction.handing_run_withBase base)

theorem triples_withBase :
    (extraction.withBase base).triples =
      extraction.baseless.triples.map (Triple.rename (stem base ++ ·)) := by
  rw [triples, triples, statements_withBase, List.filterMap_map, List.map_filterMap]
  congr 1
  funext statement
  cases statement <;> rfl

/-- Bases that are the same in addresses cannot be told apart at all. -/
theorem run_withBase_eq {other : String} (same : stem base = stem other) :
    (extraction.withBase base).run (.start (extraction.withBase base)) =
      (extraction.withBase other).run (.start (extraction.withBase other)) := by
  have outlines : (extraction.withBase base).outline = (extraction.withBase other).outline := by
    rw [outline_withBase, outline_withBase, rebaseEntries, rebaseEntries, same]
  rw [run, run, outlines]
  rfl

/-! ### Classes -/

theorem startsWithBase_withBase {texts : List String} {iri : String}
    (minted : Iri.Minted (extraction.withBase base).minter texts iri) :
    (stem base).toList ++ ['/'] <+: iri.toList :=
  minted.startsWithBase

/-- What a node is said to be does not depend on the base and so is no address. -/
theorem class_mem_objectTerms {triple : Triple} (stated : triple ∈ extraction.baseless.triples)
    (isType : triple.predicate = Property.type) {nodeClass : String}
    (object : triple.object = .iri nodeClass) : nodeClass ∈ objectTerms := by
  have moved : triple.rename (stem "x" ++ ·) ∈ (extraction.withBase "x").triples := by
    rw [triples_withBase]
    exact List.mem_map_of_mem stated
  have movedObject : (triple.rename (stem "x" ++ ·)).object = .iri nodeClass := by
    rw [Rdf.Triple.rename, if_pos isType, object]
  have leads : nodeClass ∈ triple.object.iris := by rw [object]; exact List.mem_cons_self
  have movedLeads : nodeClass ∈ (triple.rename (stem "x" ++ ·)).object.iris := by
    rw [movedObject]
    exact List.mem_cons_self
  rcases (extraction.baseless.addressedTriple_of_mem_triples stated).object _ leads with
    ⟨_, minted⟩ | isTerm
  · rcases ((extraction.withBase "x").addressedTriple_of_mem_triples moved).object _ movedLeads with
      ⟨_, mintedElsewhere⟩ | isTerm
    · rcases extraction.startsWithBase_withBase _ minted with ⟨_, startsWithSlash⟩
      rcases extraction.startsWithBase_withBase _ mintedElsewhere with ⟨_, startsWithLetter⟩
      rw [← startsWithSlash, Iri.stem_empty, Iri.stem_letter] at startsWithLetter
      simp at startsWithLetter
    · exact isTerm
  · exact isTerm

end Extraction

/-! ### Triples under two bases -/

/-- The same object under two bases: what follows the base in an address is the same, and so is
anything else. -/
inductive Rdf.Term.Relabelled (left right : String) : Term → Term → Prop
  | address (rest : String) : Relabelled left right (.iri (left ++ rest)) (.iri (right ++ rest))
  | term {iri : String} (isTerm : iri ∈ objectTerms) : Relabelled left right (.iri iri) (.iri iri)
  | literal (value : String) : Relabelled left right (.literal value) (.literal value)
  | typed (value datatype : String) :
      Relabelled left right (.typed value datatype) (.typed value datatype)

structure Rdf.Triple.Relabelled (left right : String) (first second : Triple) : Prop where
  subject : ∃ rest, first.subject = left ++ rest ∧ second.subject = right ++ rest
  predicate : first.predicate = second.predicate
  object : first.object.Relabelled left right second.object

namespace Extraction

theorem relabelled_of_mem_triples (extraction : Extraction) (left right : String) {triple : Triple}
    (stated : triple ∈ extraction.baseless.triples) :
    (triple.rename (left ++ ·)).Relabelled left right (triple.rename (right ++ ·)) where
  subject := ⟨triple.subject, rfl, rfl⟩
  predicate := rfl
  object := by
    by_cases isType : triple.predicate = Property.type
    · rw [Rdf.Triple.rename, Rdf.Triple.rename, if_pos isType, if_pos isType]
      cases object : triple.object with
      | iri nodeClass => exact .term (extraction.class_mem_objectTerms stated isType object)
      | literal value => exact .literal value
      | typed value datatype => exact .typed value datatype
    · rw [Rdf.Triple.rename, Rdf.Triple.rename, if_neg isType, if_neg isType]
      cases triple.object with
      | iri target => exact .address target
      | literal value => exact .literal value
      | typed value datatype => exact .typed value datatype

/-- Under two bases a crate is described by the same triples in the same order, with one base or the
other in front of the addresses in them, and the counts are the same. Under bases that differ in the
slashes at their end alone, everything is the same. -/
theorem base_is_only_a_label (extraction : Extraction) (left right : String) :
    List.Forall₂ (Triple.Relabelled (stem left) (stem right))
        (extraction.withBase left).triples (extraction.withBase right).triples ∧
      (extraction.withBase left).outcome.stats = (extraction.withBase right).outcome.stats ∧
      ∀ count, (extraction.withBase (left ++ String.ofList (List.replicate count '/'))).run
          (.start (extraction.withBase (left ++ String.ofList (List.replicate count '/')))) =
        (extraction.withBase left).run (.start (extraction.withBase left)) := by
  refine ⟨?_, ?_, ?_⟩
  · rw [triples_withBase, triples_withBase, List.forall₂_map_left_iff, List.forall₂_map_right_iff,
      List.forall₂_same]
    intro triple stated
    exact extraction.relabelled_of_mem_triples _ _ stated
  · rw [outcome_withBase, outcome_withBase, Progress.rename_stats, Progress.rename_stats]
  · intro count
    exact extraction.run_withBase_eq _ (Iri.stem_append_slashes left count)

end Extraction

end CrateGraph
