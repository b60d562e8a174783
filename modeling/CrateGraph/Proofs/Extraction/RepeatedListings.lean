import CrateGraph.Proofs.Extraction.Counters
import CrateGraph.Proofs.Extraction.Readings
import CrateGraph.Proofs.Extraction.RepeatedRuns

/-!
Ids that a module lists more than once.

At a further occurrence the walk comes to a whole module, or to an item, in a larger state than
before, and functions, constants and statics are described again. All that is said then was said
before, though: declarations are made once, and a description finds the types that it mentions known
and repeats its triples.

Main statement: without the further occurrences the same triples are stated, as a set, and the same
nodes are known and counted.
-/

namespace CrateGraph

open Rdf (Triple)

/-! ### Lists without repetitions -/

/-- The second list is the first one without some elements that come again, be it after one of the
earlier elements or after one of the list itself. -/
inductive WithoutRepeats {Element : Type} : List Element → List Element → List Element → Prop
  | nil (earlier : List Element) : WithoutRepeats earlier [] []
  | keep {earlier full short : List Element} (element : Element)
      (rest : WithoutRepeats (element :: earlier) full short) :
      WithoutRepeats earlier (element :: full) (element :: short)
  | drop {earlier full short : List Element} {element : Element} (again : element ∈ earlier)
      (rest : WithoutRepeats earlier full short) : WithoutRepeats earlier (element :: full) short

namespace WithoutRepeats

variable {Element Part : Type} {earlier full short : List Element}

theorem mono {wider : List Element} (repeats : WithoutRepeats earlier full short)
    (subset : earlier ⊆ wider) : WithoutRepeats wider full short := by
  induction repeats generalizing wider with
  | nil => exact .nil wider
  | keep element _ induction =>
      exact .keep element (induction (List.cons_subset_cons element subset))
  | drop again _ induction => exact .drop (subset again) (induction subset)

theorem refl (earlier list : List Element) : WithoutRepeats earlier list list := by
  induction list generalizing earlier with
  | nil => exact .nil earlier
  | cons element rest induction => exact .keep element (induction (element :: earlier))

/-- What has all come before may be left out altogether. -/
theorem of_subset (subset : full ⊆ earlier) : WithoutRepeats earlier full [] := by
  induction full with
  | nil => exact .nil earlier
  | cons element rest induction =>
      rw [List.cons_subset] at subset
      exact .drop subset.1 (induction subset.2)

theorem append {further fewer : List Element} (first : WithoutRepeats earlier full short)
    (second : WithoutRepeats (full ++ earlier) further fewer) :
    WithoutRepeats earlier (full ++ further) (short ++ fewer) := by
  induction first with
  | nil => exact second
  | keep element _ induction =>
      exact .keep element (induction (second.mono List.perm_middle.symm.subset))
  | @drop earlier full _ element again _ induction =>
      apply WithoutRepeats.drop again
      apply induction
      apply second.mono
      exact List.cons_subset.mpr ⟨List.mem_append_right full again, List.Subset.refl _⟩

/-- The elements stand for parts. What comes again with an element are all of its parts. -/
theorem flatMap {before : List Part} {parts other : Element → List Part}
    (repeats : WithoutRepeats earlier full short)
    (each : ∀ element, WithoutRepeats [] (parts element) (other element))
    (known : ∀ element ∈ earlier, parts element ⊆ before) :
    WithoutRepeats before (full.flatMap parts) (short.flatMap other) := by
  induction repeats generalizing before with
  | nil => exact .nil before
  | @keep earlier _ _ element _ induction =>
      rw [List.flatMap_cons, List.flatMap_cons]
      apply ((each element).mono (List.nil_subset before)).append
      apply induction
      intro other member
      rcases List.mem_cons.mp member with rfl | isEarlier
      · exact List.subset_append_left _ before
      · exact List.subset_append_of_subset_right _ (known other isEarlier)
  | drop again _ induction =>
      rw [List.flatMap_cons]
      apply (of_subset (known _ again)).append
      apply induction
      intro other isEarlier
      exact List.subset_append_of_subset_right _ (known other isEarlier)

variable [DecidableEq Element]

theorem eraseDups_filter (earlier list : List Element) :
    WithoutRepeats earlier list (list.filter (· ∉ earlier)).eraseDups := by
  induction list generalizing earlier with
  | nil => exact .nil earlier
  | cons element rest induction =>
      by_cases again : element ∈ earlier
      · rw [List.filter_cons_of_neg (by simpa using again)]
        exact .drop again (induction earlier)
      · have further : (rest.filter (· ∉ earlier)).filter (fun other => !other == element) =
            rest.filter (· ∉ element :: earlier) := by
          rw [List.filter_filter]
          congr 1
          funext other
          simp [List.mem_cons, not_or, beq_eq_decide]
        rw [List.filter_cons_of_pos (by simpa using again), List.eraseDups_cons, further]
        exact .keep element (induction (element :: earlier))

theorem eraseDups (list : List Element) : WithoutRepeats [] list list.eraseDups := by
  have filtered := eraseDups_filter [] list
  rwa [List.filter_eq_self.mpr (by simp)] at filtered

end WithoutRepeats

/-! ### Runs over lists of entries with repetitions -/

namespace Progress

variable {left right progress : Progress} {written : List Triple} {entry : Entry}

/-- Where the same nodes are written, a run goes on in the same way. -/
theorem SameNodes.runEntries (same : SameNodes left right) (entries : List Entry) :
    SameNodes (left.runEntries entries).1 (right.runEntries entries).1 ∧
      (left.runEntries entries).2 = (right.runEntries entries).2 := by
  have stubs : KeepsStubs fun _ => true := fun _ _ _ _ => rfl
  have forward := runEntries_shadows stubs same entries
  have back := runEntries_shadows stubs (SameNodes.refl right) entries
  have kept : ∀ events : List Event, events.filter (Event.isKept fun _ => true) = events := by
    intro events
    apply List.filter_eq_self.mpr
    rintro (⟨_ | _⟩ | _) _
    all_goals rfl
  constructor
  · exact forward.nodes.trans back.nodes.symm
  · rw [← kept (left.runEntries entries).2, ← kept (right.runEntries entries).2, forward.outputs,
      back.outputs]

/-- All that the entry has to say is written: what it declares, or else the types that it mentions
and the triples that it states. -/
structure Settled (progress : Progress) (written : List Triple) (entry : Entry) : Prop where
  declared : ∀ declaration, entry.declaration? = some declaration →
    progress.Declares declaration
  known : entry.declaration? = none → ∀ iri name, .mention iri name ∈ entry.steps →
    progress.Knows iri
  stated : entry.declaration? = none → entry.steps.filterMap Step.triple? ⊆ written

theorem carriesOut_of_silent (plain : entry.isImplementation = false)
    (silent : entry.declaration? = none) (progress : Progress) : progress.carriesOut entry := by
  cases entry with
  | module | type => cases silent
  | implementation => cases plain
  | log | namespaceName | description | skippedImplementation => rfl

theorem Settled.congr (same : SameNodes left right) (settled : left.Settled written entry) :
    right.Settled written entry where
  declared declaration asked := (same.declares_iff declaration).mp (settled.declared _ asked)
  known silent iri _ mentioned := (same.knows_iff iri).mp (settled.known silent _ _ mentioned)
  stated := settled.stated

theorem Settled.runEntry (settled : progress.Settled written entry) (next : Entry)
    (further : List Triple) :
    (progress.runEntry next).1.Settled (written ++ further) entry where
  declared declaration asked :=
    (progress.declares_runEntry next declaration).mpr (Or.inl (settled.declared _ asked))
  known silent iri _ mentioned :=
    (progress.knows_runEntry next iri).mpr (Or.inl (settled.known silent _ _ mentioned))
  stated silent := List.subset_append_of_subset_left further (settled.stated silent)

/-- What has been run is settled. -/
theorem settled_runEntry (plain : entry.isImplementation = false) (progress : Progress)
    (written : List Triple) :
    (progress.runEntry entry).1.Settled
      (written ++ (progress.runEntry entry).2.filterMap Event.triple?) entry where
  declared declaration asked := (progress.declares_runEntry entry declaration).mpr (Or.inr asked)
  known silent iri name mentioned := by
    have carried := carriesOut_of_silent plain silent progress
    exact (progress.knows_runEntry entry iri).mpr (Or.inr ⟨carried, Or.inr ⟨name, mentioned⟩⟩)
  stated silent := by
    have carried := carriesOut_of_silent plain silent progress
    apply List.subset_append_of_subset_right
    rw [(runEntry_of_carriesOut carried).2, ← writtenAt_true, ← writtenAt_statements]
    intro triple stated
    exact (mem_writtenAt_true_iff Step.isMention _ _ triple).mpr (Or.inl stated)

/-- What is settled adds nothing when it comes again. -/
theorem Settled.runEntry_again (settled : progress.Settled written entry)
    (plain : entry.isImplementation = false) :
    SameNodes (progress.runEntry entry).1 progress ∧
      (progress.runEntry entry).2.filterMap Event.triple? ⊆ written := by
  cases asked : entry.declaration? with
  | some declaration =>
      have passed : ¬progress.carriesOut entry := fun carried =>
        not_declares_of_carriesOut carried asked (settled.declared _ asked)
      rcases runEntry_of_not_carriesOut passed with ⟨state, output⟩
      rw [state, output]
      exact ⟨progress.sameNodes_pass entry, List.nil_subset _⟩
  | none =>
      have noted := progress.sameNodes_note asked
      have knows : ∀ iri name, .mention iri name ∈ entry.steps → (progress.note entry).Knows iri :=
        fun iri name mentioned => (noted.knows_iff iri).mpr (settled.known asked iri name mentioned)
      rcases runSteps_of_knows knows with ⟨nodes, output⟩
      rcases runEntry_of_carriesOut (carriesOut_of_silent plain asked progress) with
        ⟨state, events⟩
      rw [state, events, output]
      exact ⟨nodes.trans noted, settled.stated asked⟩

/-- Runs with and without the entries that come again keep the same nodes and have written the same
triples, as a set. -/
theorem runEntries_of_withoutRepeats {earlier full short : List Entry}
    (repeats : WithoutRepeats earlier full short)
    (plain : ∀ entry ∈ full, entry.isImplementation = false) (same : SameNodes left right)
    (settled : ∀ entry ∈ earlier, right.Settled written entry) :
    SameNodes (left.runEntries full).1 (right.runEntries short).1 ∧
      ∀ triple,
        triple ∈ written ++ (left.runEntries full).2.filterMap Event.triple? ↔
          triple ∈ written ++ (right.runEntries short).2.filterMap Event.triple? := by
  induction repeats generalizing left right written with
  | nil => exact ⟨same, fun _ => Iff.rfl⟩
  | @keep earlier full short entry _ induction =>
      have furtherPlain := fun other member => plain other (List.mem_cons_of_mem entry member)
      rcases same.runEntries [entry] with ⟨nodes, events⟩
      rw [runEntries_singleton, runEntries_singleton] at nodes events
      have settledNow : ∀ other ∈ entry :: earlier, (right.runEntry entry).1.Settled
          (written ++ (right.runEntry entry).2.filterMap Event.triple?) other := by
        intro other member
        rcases List.mem_cons.mp member with rfl | isEarlier
        · exact settled_runEntry (plain _ List.mem_cons_self) right written
        · exact (settled other isEarlier).runEntry entry _
      rcases induction furtherPlain nodes settledNow with ⟨atEnd, triples⟩
      refine ⟨atEnd, fun triple => ?_⟩
      simp only [runEntries, List.filterMap_append, ← List.append_assoc, events]
      exact triples triple
  | @drop earlier full short entry again _ induction =>
      have furtherPlain := fun other member => plain other (List.mem_cons_of_mem entry member)
      rcases ((settled entry again).congr same.symm).runEntry_again
          (plain entry List.mem_cons_self) with ⟨nodes, repeated⟩
      rcases induction furtherPlain (nodes.trans same) settled with ⟨atEnd, triples⟩
      refine ⟨atEnd, fun triple => ?_⟩
      rw [← triples triple]
      simp only [runEntries, List.filterMap_append, List.mem_append]
      constructor
      · rintro (before | now | later)
        · exact Or.inl before
        · exact Or.inl (repeated now)
        · exact Or.inr later
      · exact Or.imp_right Or.inr

end Progress

open Progress (SameNodes)

/-! ### Crates in which modules list each id once -/

def Table.map {Value : Type} (change : Value → Value) (table : Table Value) : Table Value where
  entries := table.entries.map fun (key, value) => (key, change value)
  nodup := by
    rw [List.map_map]
    exact table.nodup

theorem Table.get?_map {Value : Type} (change : Value → Value) (table : Table Value)
    (key : String) : (table.map change).get? key = (table.get? key).map change := by
  change Entries.get? key (table.entries.map _) = (Entries.get? key table.entries).map change
  induction table.entries with
  | nil => rfl
  | cons entry rest induction =>
      simp only [List.map_cons, Entries.get?]
      split
      · rfl
      · exact induction

/-- Further occurrences of an id in what a module lists are left out. -/
def ItemBody.listingOnce : ItemBody → ItemBody
  | .module body => .module { body with items := body.items.eraseDups }
  | body => body

def Item.listingOnce (item : Item) : Item :=
  { item with body := item.body.listingOnce }

def Crate.listingOnce (crate : Crate) : Crate :=
  { crate with index := crate.index.map Item.listingOnce }

theorem ItemBody.listingOnce_of_other {body : ItemBody}
    (other : ∀ inner, body ≠ .module inner) : body.listingOnce = body := by
  cases body with
  | module inner => exact absurd rfl (other inner)
  | _ => rfl

theorem Item.alike_listingOnce (item : Item) : item.Alike item.listingOnce where
  name := rfl
  visibility := rfl
  attributes := rfl
  body := by
    by_cases isModule : ∃ inner, item.body = .module inner
    · rcases isModule with ⟨inner, isModule⟩
      right
      rw [listingOnce, isModule]
      exact ⟨rfl, rfl⟩
    · rw [not_exists] at isModule
      exact Or.inl (ItemBody.listingOnce_of_other isModule).symm

namespace Extraction

variable (extraction : Extraction)

/-- The extraction of the crate in which each module lists each id once. -/
def listingOnce : Extraction :=
  { extraction with crate := extraction.crate.listingOnce }

theorem item?_listingOnce (id : ItemId) :
    extraction.listingOnce.item? id = (extraction.item? id).map Item.listingOnce :=
  Table.get?_map Item.listingOnce extraction.crate.index id

theorem frame_listingOnce : SameFrame extraction extraction.listingOnce :=
  ⟨rfl, rfl⟩

theorem readsAlike_listingOnce : ReadsAlike extraction extraction.listingOnce := by
  apply extraction.frame_listingOnce.readsAlike
  intro id
  rw [item?_listingOnce]
  cases extraction.item? id with
  | none => exact .none
  | some item => exact .some item.alike_listingOnce

theorem implementations_listingOnce :
    extraction.listingOnce.implementations = extraction.implementations := by
  change List.filterMap _ (List.map _ extraction.crate.index.entries) = _
  rw [List.filterMap_map, implementations]
  congr 1
  funext entry
  rcases entry with ⟨id, item⟩
  by_cases isModule : ∃ inner, item.body = .module inner
  · rcases isModule with ⟨inner, isModule⟩
    simp only [Function.comp, Item.listingOnce, isModule, ItemBody.listingOnce]
  · rw [not_exists] at isModule
    simp only [Function.comp, Item.listingOnce, ItemBody.listingOnce_of_other isModule]

theorem opening_listingOnce : extraction.listingOnce.opening = extraction.opening := by
  have alike := extraction.readsAlike_listingOnce
  rw [opening, opening, alike.crateNode_eq, alike.dependency_eq]
  rfl

theorem closing_listingOnce : extraction.listingOnce.closing = extraction.closing := by
  rw [closing, closing, allImplementationEntries, allImplementationEntries,
    implementations_listingOnce,
    extraction.readsAlike_listingOnce.implementationEntries_eq
      extraction.frame_listingOnce.sameDetail]
  rfl

theorem childEntries_withoutRepeats {active : List ItemId} {path : String} (child : ItemId)
    (inside : ∀ innerPath, WithoutRepeats [] (extraction.moduleEntries active child innerPath)
      (extraction.listingOnce.moduleEntries active child innerPath)) :
    WithoutRepeats [] (extraction.childEntries active path child)
      (extraction.listingOnce.childEntries active path child) := by
  have alike := extraction.readsAlike_listingOnce
  cases found : extraction.item? child with
  | none =>
      simp only [childEntries, item?_listingOnce, found, Option.map_none]
      exact .refl [] _
  | some item =>
      by_cases isModule : ∃ body, item.body = .module body
      · rcases isModule with ⟨body, isModule⟩
        simp only [childEntries, item?_listingOnce, found, Option.map_some, Item.listingOnce,
          isModule, ItemBody.listingOnce]
        exact inside _
      · rw [not_exists] at isModule
        have same : item.listingOnce = item := by
          rw [Item.listingOnce, ItemBody.listingOnce_of_other isModule]
        have foundOnce : extraction.listingOnce.item? child = some item := by
          rw [item?_listingOnce, found, Option.map_some, same]
        rw [childEntries_of_other _ found isModule, childEntries_of_other _ foundOnce isModule,
          alike.itemEntries_eq extraction.frame_listingOnce.sameDetail]
        exact .refl [] _

theorem moduleEntries_withoutRepeats_of_children {active : List ItemId} {id : ItemId}
    {path : String}
    (children : ∀ item, extraction.item? id = some item → id ∉ active → ∀ child,
      WithoutRepeats [] (extraction.childEntries (id :: active) path child)
        (extraction.listingOnce.childEntries (id :: active) path child)) :
    WithoutRepeats [] (extraction.moduleEntries active id path)
      (extraction.listingOnce.moduleEntries active id path) := by
  rw [moduleEntries_eq, moduleEntries_eq, item?_listingOnce]
  cases found : extraction.item? id with
  | none => exact .refl [] _
  | some item =>
      by_cases isModule : ∃ body, item.body = .module body
      · rcases isModule with ⟨body, isModule⟩
        have listsOnce : item.listingOnce.body =
            .module { body with items := body.items.eraseDups } := by
          rw [Item.listingOnce, isModule, ItemBody.listingOnce]
        simp only [Option.map_some, isModule, listsOnce,
          ← extraction.frame_listingOnce.root_eq,
          ← extraction.readsAlike_listingOnce.moduleNode_eq path item.alike_listingOnce]
        split
        · exact .refl [] _
        · next outside =>
            apply (WithoutRepeats.refl [] _).append
            apply (WithoutRepeats.eraseDups body.items).flatMap (children item found outside)
            simp
      · rw [not_exists] at isModule
        have same : item.listingOnce = item := by
          rw [Item.listingOnce, ItemBody.listingOnce_of_other isModule]
        simp only [Option.map_some, same]
        cases isBody : item.body with
        | module body => exact absurd isBody (isModule body)
        | _ => exact .nil []

/-- Where ids are listed once, the walk leaves out what comes again. -/
theorem moduleEntries_withoutRepeats (active : List ItemId) (id : ItemId) (path : String) :
    WithoutRepeats [] (extraction.moduleEntries active id path)
      (extraction.listingOnce.moduleEntries active id path) := by
  induction active, id, path using extraction.walk_induction with
  | step active id path inside =>
      apply extraction.moduleEntries_withoutRepeats_of_children
      intro item found outside child
      exact extraction.childEntries_withoutRepeats child (inside item found outside child)

theorem walk_withoutRepeats : WithoutRepeats [] extraction.walk extraction.listingOnce.walk := by
  have name := extraction.readsAlike_listingOnce.name
  rw [walk, walk, ← name]
  exact extraction.moduleEntries_withoutRepeats _ _ _

/-! ### Runs over such crates -/

theorem start_listingOnce :
    Progress.start extraction.listingOnce = Progress.start extraction := by
  have alike := extraction.readsAlike_listingOnce
  rw [Progress.start, Progress.start, alike.name, alike.version]

theorem opened_listingOnce : extraction.listingOnce.opened = extraction.opened := by
  rw [opened, opened, start_listingOnce, opening_listingOnce]

/-- The triples in the order in which the parts of the outline state them. -/
theorem triples_eq_parts :
    extraction.triples =
      ((Progress.start extraction).runEntries extraction.opening).2.filterMap Event.triple? ++
        (extraction.opened.runEntries extraction.walk).2.filterMap Event.triple? ++
        (extraction.walked.runEntries extraction.closing).2.filterMap Event.triple? := by
  rw [triples_eq, outline_eq, Progress.events_runEntries_append,
    Progress.events_runEntries_append, Progress.runEntries_append, List.filterMap_append,
    List.filterMap_append]
  rfl

/-- The run knows and counts as many types and modules as have nodes. -/
theorem counts_eq_of_sameNodes {left right : Extraction}
    (nodes : SameNodes left.outcome right.outcome) :
    left.outcome.stats.types = right.outcome.stats.types ∧
      left.outcome.stats.namespaces = right.outcome.stats.namespaces ∧
      left.outcome.stats.externalTypes = right.outcome.stats.externalTypes := by
  refine ⟨?_, ?_, ?_⟩
  · rw [left.entryTally_outcome.typeCount, right.entryTally_outcome.typeCount, nodes.types]
  · rw [left.entryTally_outcome.moduleCount, right.entryTally_outcome.moduleCount, nodes.modules]
  · rw [left.stepTally_outcome.stubCount, right.stepTally_outcome.stubCount, nodes.stubs]

/-- If modules list an id more than once, the further occurrences add no triple, declare nothing and
make no type known. -/
theorem listing_again_adds_nothing :
    (∀ triple, triple ∈ extraction.triples ↔ triple ∈ extraction.listingOnce.triples) ∧
      SameNodes extraction.outcome extraction.listingOnce.outcome ∧
      extraction.outcome.stats.types = extraction.listingOnce.outcome.stats.types ∧
      extraction.outcome.stats.namespaces = extraction.listingOnce.outcome.stats.namespaces ∧
      extraction.outcome.stats.externalTypes =
        extraction.listingOnce.outcome.stats.externalTypes := by
  let written :=
    ((Progress.start extraction).runEntries extraction.opening).2.filterMap Event.triple?
  have opening : ((Progress.start extraction.listingOnce).runEntries
      extraction.listingOnce.opening).2.filterMap Event.triple? = written := by
    rw [start_listingOnce, opening_listingOnce]
  have walk : SameNodes extraction.walked extraction.listingOnce.walked ∧
      ∀ triple,
        triple ∈ written ++ (extraction.opened.runEntries extraction.walk).2.filterMap
            Event.triple? ↔
          triple ∈ written ++ (extraction.listingOnce.opened.runEntries
            extraction.listingOnce.walk).2.filterMap Event.triple? := by
    apply Progress.runEntries_of_withoutRepeats extraction.walk_withoutRepeats
      (fun _ => extraction.isImplementation_of_mem_walk)
    · rw [opened_listingOnce]
      exact .refl _
    · simp
  rcases walk with ⟨walked, triples⟩
  rcases walked.runEntries extraction.closing with ⟨nodes, events⟩
  have atEnd : SameNodes extraction.outcome extraction.listingOnce.outcome := by
    rw [outcome_eq, outcome_eq, closing_listingOnce]
    exact nodes
  refine ⟨fun triple => ?_, atEnd, counts_eq_of_sameNodes atEnd⟩
  rw [triples_eq_parts, triples_eq_parts, opening, List.mem_append, triples, closing_listingOnce,
    events, ← List.mem_append]

end Extraction

end CrateGraph
