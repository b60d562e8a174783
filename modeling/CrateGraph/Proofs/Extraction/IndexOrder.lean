import CrateGraph.Proofs.Extraction.CommutingEntries
import CrateGraph.Proofs.Extraction.Counters
import CrateGraph.Proofs.Extraction.OptionalTriples

/-!
The order of the index.

The walk looks items up by their ids, so the order of the index is not seen before the
implementations, which declare nothing. Main statement: two crates that differ in the order of their
index alone are described alike, but for the names of types that are merely mentioned. Such a type
is named as the first mention of it is written, and which mention comes first depends on the order.
-/

namespace CrateGraph

open Rdf (Triple)
open Ontology

/-- The second crate is the first one, but for the order of its index. -/
structure Crate.Reindexed (left right : Crate) : Prop where
  rest : right = { left with index := right.index }
  index : left.index.entries.Perm right.index.entries

namespace Extraction

/-! ### Triples that are not names of merely mentioned types -/

/-- The triple gives a name to a type that is merely mentioned. -/
def NamesStub (extraction : Extraction) (triple : Triple) : Prop :=
  ∃ stub ∈ extraction.outcome.stubs, ∃ name, triple = ⟨stub, Property.name, .literal name⟩

theorem mem_stubs_iff (extraction : Extraction) (iri : String) :
    iri ∈ extraction.outcome.stubs ↔
      ⟨iri, Property.type, .iri Class.type⟩ ∈ extraction.triples := by
  rw [← mem_instances_iff, extraction.stepTally_outcome.stubs, List.mem_reverse]

/-- No description calls a type merely mentioned. It is called so where it is mentioned, and named
there as well. -/
theorem exists_name_of_mem_stubs {extraction : Extraction} {stub : String}
    (isStub : stub ∈ extraction.outcome.stubs) :
    ∃ name, ⟨stub, Property.name, .literal name⟩ ∈ extraction.triples := by
  have written := (extraction.mem_stubs_iff stub).mp isStub
  rcases (extraction.mem_triples_iff_origin _).mp written with stated | atMention
  · rw [statedTriples_eq, List.mem_filterMap] at stated
    rcases stated with ⟨step, member, states⟩
    rcases List.mem_flatMap.mp member with ⟨entry, carried, own⟩
    have inOutline := (Progress.carriedOut_sublist _ _).subset carried
    rw [Step.eq_triple_of_triple? states] at own
    exact absurd own (extraction.type_type_not_mem_steps inOutline stub)
  · rcases extraction.exists_stubNode_of_mem_stubTriples atMention with
      ⟨iri, name, inNode, whole⟩
    simp only [Progress.stubNode, List.mem_cons, List.not_mem_nil, or_false] at inNode
    rcases inNode with isType | isName
    · cases isType
      have named := whole (List.mem_cons_of_mem _ List.mem_cons_self)
      exact ⟨name, (extraction.mem_triples_iff_origin _).mpr (Or.inr named)⟩
    · cases isName

/-- What a run writes beyond what descriptions state are merely mentioned types and their names. -/
theorem mem_triples_iff_of_not_namesStub {extraction : Extraction} {triple : Triple}
    (unnaming : ¬extraction.NamesStub triple) :
    triple ∈ extraction.triples ↔ triple ∈ extraction.statedTriples ∨
      ∃ stub ∈ extraction.outcome.stubs, triple = ⟨stub, Property.type, .iri Class.type⟩ := by
  constructor
  · intro written
    rcases (extraction.mem_triples_iff_origin triple).mp written with stated | atMention
    · exact Or.inl stated
    · rcases extraction.exists_stubNode_of_mem_stubTriples atMention with
        ⟨iri, name, inNode, whole⟩
      have typed : ⟨iri, Property.type, .iri Class.type⟩ ∈ extraction.triples :=
        (extraction.mem_triples_iff_origin _).mpr (Or.inr (whole List.mem_cons_self))
      have isStub := (extraction.mem_stubs_iff iri).mpr typed
      simp only [Progress.stubNode, List.mem_cons, List.not_mem_nil, or_false] at inNode
      rcases inNode with isType | isName
      · exact Or.inr ⟨iri, isStub, isType⟩
      · exact absurd ⟨iri, isStub, name, isName⟩ unnaming
  · rintro (stated | ⟨stub, isStub, rfl⟩)
    · exact (extraction.mem_triples_iff_origin triple).mpr (Or.inl stated)
    · exact (extraction.mem_stubs_iff stub).mp isStub

theorem triplesBeforeImplementations_prefix_triples (extraction : Extraction) :
    extraction.triplesBeforeImplementations <+: extraction.triples := by
  rw [triples, statements_eq_handedOver, outline_eq]
  exact (extraction.handedOver_append_prefix _ _).filterMap _

theorem unresolved_outcome (extraction : Extraction) :
    extraction.outcome.stats.unresolvedTypes =
      (extraction.carriedOut.flatMap Entry.steps).countP Step.isUnresolved := by
  have counted := (Progress.start extraction).unresolved_runEntries extraction.outline
  have fresh : (Progress.start extraction).stats.unresolvedTypes = 0 := rfl
  rw [fresh, Int.zero_add] at counted
  exact counted

/-! ### The outline of a reindexed crate -/

/-- The second extraction is the first one, of a reindexed crate. -/
structure Reindexed (left right : Extraction) : Prop where
  crate : left.crate.Reindexed right.crate
  options : left.options = right.options

namespace Reindexed

variable {left right : Extraction} (reindexed : left.Reindexed right)
include reindexed

theorem item?_eq : left.item? = right.item? := by
  funext id
  exact Table.perm_entries_iff.mp reindexed.crate.index id

theorem frame : SameFrame left right :=
  ⟨reindexed.crate.rest, reindexed.options⟩

theorem readsAlike : ReadsAlike left right := by
  apply reindexed.frame.readsAlike
  intro id
  rw [reindexed.item?_eq]
  cases right.item? id with
  | none => exact .none
  | some item => exact .some (Item.Alike.refl item)

theorem opening_eq : left.opening = right.opening := by
  rw [opening, opening, reindexed.readsAlike.crateNode_eq, reindexed.readsAlike.dependency_eq,
    reindexed.crate.rest]

theorem childEntries_congr {active : List ItemId} {path : String} {child : ItemId}
    (inside : ∀ innerPath, left.moduleEntries active child innerPath =
      right.moduleEntries active child innerPath) :
    left.childEntries active path child = right.childEntries active path child := by
  unfold childEntries
  rw [reindexed.readsAlike.itemEntries_eq reindexed.frame.sameDetail, reindexed.item?_eq]
  split
  · rfl
  · split
    · exact inside _
    · rfl

theorem moduleEntries_congr_of_children {active : List ItemId} {id : ItemId} {path : String}
    (children : ∀ item, left.item? id = some item → id ∉ active → ∀ child,
      left.childEntries (id :: active) path child =
        right.childEntries (id :: active) path child) :
    left.moduleEntries active id path = right.moduleEntries active id path := by
  rw [moduleEntries_eq, moduleEntries_eq, ← reindexed.item?_eq]
  cases found : left.item? id with
  | none => rfl
  | some item =>
      simp only
      cases item.body with
      | module body =>
          simp only [reindexed.frame.root_eq,
            reindexed.readsAlike.moduleNode_eq path (Item.Alike.refl item)]
          split
          · rfl
          · next fresh => rw [funext (children item found fresh)]
      | _ => rfl

/-- The walk takes the same way and says the same. -/
theorem moduleEntries_congr (active : List ItemId) (id : ItemId) (path : String) :
    left.moduleEntries active id path = right.moduleEntries active id path := by
  apply reindexed.moduleEntries_congr_of_children
  intro item found fresh child
  apply reindexed.childEntries_congr
  intro innerPath
  exact moduleEntries_congr (id :: active) child innerPath
termination_by left.idleModules active
decreasing_by exact left.idleModules_lt found fresh

theorem walk_eq : left.walk = right.walk := by
  rw [walk, walk, reindexed.frame.root_eq, reindexed.readsAlike.name]
  exact reindexed.moduleEntries_congr _ _ _

theorem closing_perm : left.closing.Perm right.closing := by
  have implementations : left.implementations.Perm right.implementations :=
    reindexed.crate.index.filterMap _
  rw [closing, closing, reindexed.options]
  split
  · rw [allImplementationEntries, allImplementationEntries, implementations.length_eq,
      reindexed.readsAlike.implementationEntries_eq reindexed.frame.sameDetail]
    exact (implementations.flatMap_right _).cons _
  · exact List.Perm.refl _

/-! ### Runs over reindexed crates -/

theorem start_eq : Progress.start left = Progress.start right := by
  rw [Progress.start, Progress.start, reindexed.readsAlike.name, reindexed.readsAlike.version]

theorem opened_eq : left.opened = right.opened := by
  rw [opened, opened, reindexed.start_eq, reindexed.opening_eq]

theorem walked_eq : left.walked = right.walked := by
  rw [walked, walked, reindexed.opened_eq, reindexed.walk_eq]

theorem triplesBeforeImplementations_eq :
    left.triplesBeforeImplementations = right.triplesBeforeImplementations := by
  simp only [triplesBeforeImplementations, statementsBeforeImplementations, handedOver,
    reindexed.start_eq, reindexed.opening_eq, reindexed.walk_eq]

theorem carriedOut_closing_perm :
    (left.walked.carriedOut left.closing).Perm (right.walked.carriedOut right.closing) := by
  rw [← reindexed.walked_eq]
  exact Progress.carriedOut_perm_of_undeclaring (fun _ => left.declaration?_of_mem_closing)
    reindexed.closing_perm left.walked

theorem carriedOut_perm : left.carriedOut.Perm right.carriedOut := by
  rw [carriedOut_eq, carriedOut_eq, reindexed.opening_eq, reindexed.opened_eq, reindexed.walk_eq]
  exact reindexed.carriedOut_closing_perm.append_left _

theorem statedTriples_perm : left.statedTriples.Perm right.statedTriples := by
  rw [statedTriples_eq, statedTriples_eq]
  exact (reindexed.carriedOut_perm.flatMap_right Entry.steps).filterMap Step.triple?

theorem types_perm : left.outcome.types.Perm right.outcome.types := by
  have listed := reindexed.carriedOut_perm.filterMap Entry.declaredType?
  rw [left.entryTally_outcome.types, right.entryTally_outcome.types] at listed
  exact (List.reverse_perm _).symm.trans (listed.trans (List.reverse_perm _))

theorem modules_perm : left.outcome.modules.Perm right.outcome.modules := by
  have listed := reindexed.carriedOut_perm.filterMap Entry.declaredModule?
  rw [left.entryTally_outcome.modules, right.entryTally_outcome.modules] at listed
  exact (List.reverse_perm _).symm.trans (listed.trans (List.reverse_perm _))

theorem stubs_perm : left.outcome.stubs.Perm right.outcome.stubs := by
  rw [List.perm_ext_iff_of_nodup left.stepTally_outcome.stubsNodup
    right.stepTally_outcome.stubsNodup]
  intro iri
  rw [outcome_eq, outcome_eq,
    Progress.mem_stubs_runEntries (fun _ => left.declaration?_of_mem_closing),
    Progress.mem_stubs_runEntries (fun _ => right.declaration?_of_mem_closing)]
  simp only [reindexed.carriedOut_closing_perm.mem_iff]
  rw [reindexed.walked_eq]

theorem stats_agree : left.outcome.stats.Agree right.outcome.stats := by
  have carried := reindexed.carriedOut_perm
  have heading : left.outcome.heading = right.outcome.heading := by
    rw [outcome_eq, outcome_eq, Progress.heading_runEntries, Progress.heading_runEntries,
      reindexed.walked_eq]
  rcases left.entryTally_outcome.counts_eq right.entryTally_outcome carried with
    ⟨types, modules, processed⟩
  exact {
    crateName := congrArg Prod.fst heading
    crateVersion := congrArg Prod.snd heading
    namespaces := modules
    types := types
    functions := by
      have marked : left.carriedMarks.Perm right.carriedMarks := carried.flatMap_right _
      rw [left.stepTally_outcome.functions, right.stepTally_outcome.functions, marked.count_eq]
    externalTypes := by
      rw [left.stepTally_outcome.stubCount, right.stepTally_outcome.stubCount,
        reindexed.stubs_perm.length_eq]
    processed := processed
    unresolved := by
      rw [unresolved_outcome, unresolved_outcome, (carried.flatMap_right Entry.steps).countP_eq]
    skipped := by
      rw [outcome_eq, outcome_eq, ← reindexed.walked_eq]
      exact Progress.skipped_runEntries_perm (fun _ => left.declaration?_of_mem_closing)
        reindexed.closing_perm left.walked }

end Reindexed

/-- The triples of the runs are the same, names of merely mentioned types apart. -/
theorem Reindexed.mem_triples_iff {left right : Extraction} (reindexed : left.Reindexed right)
    {triple : Triple} (unnaming : ¬left.NamesStub triple) :
    triple ∈ left.triples ↔ triple ∈ right.triples := by
  have stubs := reindexed.stubs_perm
  have unnamingRight : ¬right.NamesStub triple := by
    simpa only [NamesStub, stubs.mem_iff] using unnaming
  rw [mem_triples_iff_of_not_namesStub unnaming, mem_triples_iff_of_not_namesStub unnamingRight,
    reindexed.statedTriples_perm.mem_iff]
  simp only [stubs.mem_iff]

/-- Whatever the order of the index, a run writes the same up to the implementations. At its end it
has written the same triples, but for what the merely mentioned types are called, knows the same
types and modules, and counts the same. -/
theorem index_order_moves_only_stub_names {left right : Extraction}
    (reindexed : left.Reindexed right) :
    left.triplesBeforeImplementations = right.triplesBeforeImplementations ∧
      left.triplesBeforeImplementations <+: left.triples ∧
      right.triplesBeforeImplementations <+: right.triples ∧
      (∀ triple, ¬left.NamesStub triple → (triple ∈ left.triples ↔ triple ∈ right.triples)) ∧
      (∀ stub ∈ left.outcome.stubs, ∃ leftName rightName,
        ⟨stub, Property.name, .literal leftName⟩ ∈ left.triples ∧
          ⟨stub, Property.name, .literal rightName⟩ ∈ right.triples) ∧
      left.outcome.types.Perm right.outcome.types ∧
      left.outcome.modules.Perm right.outcome.modules ∧
      left.outcome.stubs.Perm right.outcome.stubs ∧
      left.outcome.stats.Agree right.outcome.stats ∧
      left.outcome.stats.summary = right.outcome.stats.summary := by
  refine ⟨reindexed.triplesBeforeImplementations_eq,
    left.triplesBeforeImplementations_prefix_triples,
    right.triplesBeforeImplementations_prefix_triples,
    fun _ => reindexed.mem_triples_iff, ?_, reindexed.types_perm, reindexed.modules_perm,
    reindexed.stubs_perm, reindexed.stats_agree, reindexed.stats_agree.summary_eq⟩
  intro stub isStub
  rcases exists_name_of_mem_stubs isStub with ⟨leftName, leftNamed⟩
  rcases exists_name_of_mem_stubs (reindexed.stubs_perm.mem_iff.mp isStub) with
    ⟨rightName, rightNamed⟩
  exact ⟨leftName, rightName, leftNamed, rightNamed⟩

/-! ### A trait that is written in two ways -/

theorem reindexed_demo {listed : List ItemId} {items other : Entries String Item}
    {paths : Table ItemSummary} {nodup : ("0" :: items.map Prod.fst).Nodup}
    {otherNodup : ("0" :: other.map Prod.fst).Nodup} (perm : items.Perm other) :
    (demo listed items paths nodup).Reindexed (demo listed other paths otherNodup) :=
  ⟨⟨rfl, perm.cons _⟩, rfl⟩

def unitStruct (name : String) : Item :=
  .plain (some name) (.struct ⟨.unit, ⟨[], []⟩, []⟩)

/-- The implementation of a trait, written with the path given, for a type of the crate. -/
def displayFor (path name : String) (id : ItemId) : ImplementationBody where
  generics := ⟨[], []⟩
  trait := some ⟨path, some "9", none⟩
  target := .path ⟨name, some id, none⟩
  items := []
  isUnsafe := false
  isNegative := false
  isSynthetic := false
  blanket := none

def meterItem : String × Item :=
  ("3", .plain none (.implementation (displayFor "fmt::Display" "Meter" "1")))

def gaugeItem : String × Item :=
  ("4", .plain none (.implementation (displayFor "Display" "Gauge" "2")))

/-- The structs `Meter` and `Gauge`, with `impl fmt::Display for Meter` and
`impl Display for Gauge` in some order. -/
def displaying (implementations : Entries String Item)
    (nodup : ("0" :: "1" :: "2" :: implementations.map Prod.fst).Nodup) : Extraction :=
  demo ["1", "2"] (("1", unitStruct "Meter") :: ("2", unitStruct "Gauge") :: implementations)
    ⟨[("1", ⟨["demo", "Meter"], .struct, 0⟩), ("2", ⟨["demo", "Gauge"], .struct, 0⟩),
      ("9", ⟨["core", "fmt", "Display"], .trait, 1⟩)], by simp⟩ nodup

def meterFirst : Extraction :=
  displaying [meterItem, gaugeItem] (by simp [meterItem, gaugeItem])

def gaugeFirst : Extraction :=
  displaying [gaugeItem, meterItem] (by simp [meterItem, gaugeItem])

/-- The trait is named as the first of the two implementations writes it, and nothing else
changes. -/
theorem swapped_implementations_rename_trait :
    meterFirst.Reindexed gaugeFirst ∧
      ⟨meterFirst.typeIri "core::fmt::Display", Property.name, .literal "fmt::Display"⟩ ∈
        meterFirst.triples ∧
      ⟨meterFirst.typeIri "core::fmt::Display", Property.name, .literal "fmt::Display"⟩ ∉
        gaugeFirst.triples ∧
      (∀ triple, ¬meterFirst.NamesStub triple →
        (triple ∈ meterFirst.triples ↔ triple ∈ gaugeFirst.triples)) ∧
      meterFirst.outcome.stats.summary = gaugeFirst.outcome.stats.summary := by
  have reindexed : meterFirst.Reindexed gaugeFirst :=
    reindexed_demo (((List.Perm.swap _ _ []).cons _).cons _)
  rcases index_order_moves_only_stub_names reindexed with
    ⟨_, _, _, triples, _, _, _, _, _, summary⟩
  exact ⟨reindexed, by decide +kernel, by decide +kernel, triples, summary⟩

end Extraction

end CrateGraph
