import CrateGraph.Proofs.Extraction.AddressedDescriptions
import CrateGraph.Proofs.Extraction.PrunedRuns
import CrateGraph.Proofs.Extraction.Readings

/-!
What the flags of an extraction leave out.

Main statement: a run under any flags produces the triples of the run under all flags, in their
order, without those by the properties that its flags switch off; if implementations are off, it
produces what that run has produced when it comes to the first of them. So a flag that is switched
off adds nothing, and without implementations the text ends sooner but begins alike.
-/

namespace CrateGraph

open Rdf (Triple Statement Format)
open Ontology

/-! ### Flags -/

namespace ExtractionFlags

/-- The triple is by none of the properties that the flags switch off. -/
def keeps (flags : ExtractionFlags) (triple : Triple) : Bool :=
  (triple.predicate != Property.hasAttribute || flags.includeAttributes) &&
    (triple.predicate != Property.errorType || flags.extractErrorTypes) &&
    (triple.predicate != Property.derives || flags.extractDerives)

def meet (left right : ExtractionFlags) : ExtractionFlags where
  includeImplementations := left.includeImplementations && right.includeImplementations
  includeAttributes := left.includeAttributes && right.includeAttributes
  extractErrorTypes := left.extractErrorTypes && right.extractErrorTypes
  extractDerives := left.extractDerives && right.extractDerives

theorem keeps_of_keeps_meet {left right : ExtractionFlags} {triple : Triple}
    (kept : (left.meet right).keeps triple) : left.keeps triple := by
  simp only [keeps, meet, Bool.and_eq_true, Bool.or_eq_true] at kept ⊢
  tauto

theorem keeps_of_uses {flags : ExtractionFlags} {triple : Triple}
    (uses : flags.Uses triple.predicate) : flags.keeps triple := by
  have plain : ∀ property ∈ plainProperties, property ≠ Property.hasAttribute ∧
      property ≠ Property.errorType ∧ property ≠ Property.derives := by
    decide +kernel
  have apart : Property.hasAttribute ≠ Property.errorType ∧
      Property.hasAttribute ≠ Property.derives ∧ Property.errorType ≠ Property.derives := by
    decide +kernel
  rcases apart with ⟨attributeError, attributeDerives, errorDerives⟩
  rcases uses with isPlain | ⟨is, included⟩ | ⟨is, included⟩ | ⟨is, included⟩
  · simp [keeps, plain _ isPlain]
  · simp [keeps, is, included, attributeError, attributeDerives]
  · simp [keeps, is, included, attributeError.symm, errorDerives]
  · simp [keeps, is, included, attributeDerives.symm, errorDerives.symm]

theorem keepsStubs (flags : ExtractionFlags) : Progress.KeepsStubs flags.keeps := by
  intro iri name triple member
  apply keeps_of_uses
  rcases List.mem_cons.mp member with rfl | other
  · simp
  · obtain rfl := List.mem_singleton.mp other
    simp

end ExtractionFlags

/-! ### Texts -/

theorem Rdf.Writer.addAll_append (writer : Writer) (first later : List Statement) :
    (writer.addAll (first ++ later)).2 =
      (writer.addAll first).2 ++ ((writer.addAll first).1.addAll later).2 := by
  induction first generalizing writer with
  | nil => rfl
  | cons statement rest induction =>
      simp only [List.cons_append, addAll, induction]

/-- Statements that come first are written first, whatever follows them. -/
theorem Rdf.Format.write_prefix (format : Format) {first all : List Statement}
    (comesFirst : first <+: all) : (format.write first).toList <+: (format.write all).toList := by
  rcases comesFirst with ⟨later, rfl⟩
  rw [write, write, Writer.addAll_append, String.toList_join, String.toList_join,
    List.flatMap_append]
  exact List.prefix_append _ _

namespace Extraction

def withFlags (extraction : Extraction) (flags : ExtractionFlags) : Extraction :=
  { extraction with options := { flags with base := extraction.options.base } }

/-- The same crate under all flags. -/
def whole (extraction : Extraction) : Extraction :=
  extraction.withFlags .all

/-- What the first run hands over at some of the entries that it begins with. -/
def handedOver (extraction : Extraction) (entries : List Entry) : List Statement :=
  ((Progress.start extraction).runEntries entries).2.filterMap Event.statement?

/-- What a run hands over before it comes to the implementations. -/
def statementsBeforeImplementations (extraction : Extraction) : List Statement :=
  extraction.handedOver (extraction.opening ++ extraction.walk)

def triplesBeforeImplementations (extraction : Extraction) : List Triple :=
  extraction.statementsBeforeImplementations.filterMap Statement.triple?

variable (extraction : Extraction)

/-! ### Descriptions -/

theorem readsAlike_whole : ReadsAlike extraction.whole extraction where
  base := rfl
  name := rfl
  version := rfl
  paths _ := rfl
  items id := by
    change Option.Rel Item.Alike (extraction.item? id) (extraction.item? id)
    cases extraction.item? id with
    | none => exact .none
    | some item => exact .some (Item.Alike.refl item)

theorem item?_whole (id : ItemId) : extraction.whole.item? id = extraction.item? id :=
  rfl

/-- The steps without the triples that the flags switch off. -/
abbrev prune : List Step → List Step :=
  Step.prune extraction.options.keeps

theorem prune_attributes (item : Item) (owner : String) :
    extraction.prune (extraction.whole.attributes item owner) =
      extraction.prune (extraction.attributes item owner) := by
  apply Step.prune_optional
  intro excluded step member
  rcases List.mem_filterMap.mp member with ⟨text, _, said⟩
  split at said
  · cases said
  · cases said
    simp [Step.literal, Step.isKept, ExtractionFlags.keeps, excluded]

theorem prune_errorTypeEdge (function : String) (body : FunctionBody) :
    extraction.prune (extraction.whole.errorTypeEdge function body) =
      extraction.prune (extraction.errorTypeEdge function body) := by
  apply Step.prune_optional
  intro excluded
  change ∀ step ∈ extraction.optionalTypeEdge function Property.errorType (errorType? body), _
  cases errorType? body with
  | none => simp [optionalTypeEdge]
  | some type =>
      -- A type without an address is only counted, and counting is dropped under any flags.
      rw [optionalTypeEdge, typeEdge]
      split <;> simp [Step.iri, Step.isKept, ExtractionFlags.keeps, excluded]

theorem prune_derives (type : String) (implementations : List ItemId) :
    extraction.prune (extraction.whole.derives type implementations) =
      extraction.prune (extraction.derives type implementations) := by
  apply Step.prune_optional
  intro excluded step member
  rcases List.mem_flatMap.mp member with ⟨id, _, said⟩
  -- Only a derived implementation of a trait says anything.
  repeat' split at said
  case h_1.isTrue =>
    obtain rfl := List.mem_singleton.mp said
    simp [Step.literal, Step.isKept, ExtractionFlags.keeps, excluded]
  all_goals cases said

theorem prune_moduleFunction (item : Item) (body : FunctionBody) (path : String) :
    extraction.prune (extraction.whole.moduleFunction item body path) =
      extraction.prune (extraction.moduleFunction item body path) := by
  have same := extraction.readsAlike_whole
  unfold moduleFunction
  cases item.properName? with
  | none => rfl
  | some name =>
      simp only [same.moduleIri_eq, same.functionDetails_eq, Step.prune_append,
        prune_attributes, prune_errorTypeEdge]

theorem prune_method (id : ItemId) (owner : String) :
    extraction.prune (extraction.whole.method id owner) =
      extraction.prune (extraction.method id owner) := by
  have same := extraction.readsAlike_whole
  simp only [method, item?_whole]
  cases extraction.item? id with
  | none => rfl
  | some item =>
      simp only
      cases item.properName? with
      | none => rfl
      | some name =>
          cases item.body with
          | function body =>
              simp only [same.functionDetails_eq, Step.prune_append, prune_errorTypeEdge]
          | _ => rfl

theorem prune_typeHeader (type name path : String) (item : Item) (classes : List String) :
    extraction.prune (extraction.whole.typeHeader type name path item classes) =
      extraction.prune (extraction.typeHeader type name path item classes) := by
  have same := extraction.readsAlike_whole
  simp only [typeHeader, same.crateIri_eq, same.moduleIri_eq, Step.prune_append, prune_attributes]

theorem prune_typeDetails (type : String) (body : ItemBody) :
    extraction.prune (extraction.whole.typeDetails type body) =
      extraction.prune (extraction.typeDetails type body) := by
  have same := extraction.readsAlike_whole
  cases body <;>
    simp only [typeDetails, same.generics_eq, same.field_eq, same.variant_eq, same.boundEdges_eq,
      same.optionalTypeEdge_eq, Step.prune_append, Step.prune_flatMap, prune_derives, prune_method]

theorem prune_implementationMember (owner : String) (id : ItemId) :
    extraction.prune (extraction.whole.implementationMember owner id) =
      extraction.prune (extraction.implementationMember owner id) := by
  simp only [implementationMember, item?_whole]
  cases extraction.item? id with
  | none => rfl
  | some item =>
      simp only
      cases item.body with
      | function body => exact extraction.prune_method id owner
      | _ => rfl

theorem prune_implementationNode (id : ItemId) (target : String) (body : ImplementationBody) :
    extraction.prune (extraction.whole.implementationNode id target body) =
      extraction.prune (extraction.implementationNode id target body) := by
  have same := extraction.readsAlike_whole
  unfold implementationNode
  cases body.trait <;>
    simp only [same.implementationIri_eq, same.referenceIri_eq, Step.prune_append,
      Step.prune_flatMap, prune_implementationMember]

/-! ### The outline -/

/-- The entries without the triples that the flags switch off. -/
abbrev pruneEntries (entries : List Entry) : List Entry :=
  entries.map (Entry.prune extraction.options.keeps)

theorem pruneEntries_opening :
    extraction.pruneEntries extraction.whole.opening =
      extraction.pruneEntries extraction.opening := by
  have same := extraction.readsAlike_whole
  rw [opening, opening, same.crateNode_eq, same.dependency_eq]
  rfl

theorem pruneEntries_itemEntries (item : Item) (path : String) :
    extraction.pruneEntries (extraction.whole.itemEntries item path) =
      extraction.pruneEntries (extraction.itemEntries item path) := by
  have same := extraction.readsAlike_whole
  unfold itemEntries
  split
  · simp only [List.map_cons, Entry.prune, prune_moduleFunction]
  · rw [same.constant_eq]
  · rw [same.static_eq]
  · simp only [same.typeIri_eq]
    split
    · rfl
    · rfl
    · simp only [List.map_cons, Entry.prune, Step.prune_append, prune_typeHeader,
        prune_typeDetails]

theorem pruneEntries_childEntries {active : List ItemId} {path : String} {child : ItemId}
    (inside : ∀ innerPath,
      extraction.pruneEntries (extraction.whole.moduleEntries active child innerPath) =
        extraction.pruneEntries (extraction.moduleEntries active child innerPath)) :
    extraction.pruneEntries (extraction.whole.childEntries active path child) =
      extraction.pruneEntries (extraction.childEntries active path child) := by
  simp only [childEntries, item?_whole]
  cases extraction.item? child with
  | none => rfl
  | some item =>
      simp only
      cases item.body with
      | module body => exact inside _
      | _ => exact extraction.pruneEntries_itemEntries item path

theorem pruneEntries_moduleEntries_of_children {active : List ItemId} {id : ItemId} {path : String}
    (children : ∀ item, extraction.item? id = some item → id ∉ active → ∀ child,
      extraction.pruneEntries (extraction.whole.childEntries (id :: active) path child) =
        extraction.pruneEntries (extraction.childEntries (id :: active) path child)) :
    extraction.pruneEntries (extraction.whole.moduleEntries active id path) =
      extraction.pruneEntries (extraction.moduleEntries active id path) := by
  rw [moduleEntries_eq, moduleEntries_eq, item?_whole]
  cases found : extraction.item? id with
  | none => rfl
  | some item =>
      simp only
      cases item.body with
      | module body =>
          simp only
          split
          · rfl
          · next fresh =>
              simp only [List.map_append, List.map_flatMap, children item found fresh,
                extraction.readsAlike_whole.moduleNode_eq path (Item.Alike.refl item)]
              rfl
      | _ => rfl

/-- The flags do not change the way of the walk. -/
theorem pruneEntries_moduleEntries (active : List ItemId) (id : ItemId) (path : String) :
    extraction.pruneEntries (extraction.whole.moduleEntries active id path) =
      extraction.pruneEntries (extraction.moduleEntries active id path) := by
  apply extraction.pruneEntries_moduleEntries_of_children
  intro item found fresh child
  apply extraction.pruneEntries_childEntries
  intro innerPath
  exact pruneEntries_moduleEntries (id :: active) child innerPath
termination_by extraction.idleModules active
decreasing_by exact extraction.idleModules_lt found fresh

theorem pruneEntries_walk :
    extraction.pruneEntries extraction.whole.walk = extraction.pruneEntries extraction.walk :=
  extraction.pruneEntries_moduleEntries _ _ _

theorem pruneEntries_implementationEntries (id : ItemId) (body : ImplementationBody) :
    extraction.pruneEntries (extraction.whole.implementationEntries id body) =
      extraction.pruneEntries (extraction.implementationEntries id body) := by
  unfold implementationEntries
  rw [extraction.readsAlike_whole.typeIri?_eq]
  split
  · rfl
  · split
    · rfl
    · split
      · rfl
      · simp only [List.map_cons, Entry.prune, prune_implementationNode]

theorem pruneEntries_allImplementationEntries :
    extraction.pruneEntries extraction.whole.allImplementationEntries =
      extraction.pruneEntries extraction.allImplementationEntries := by
  simp only [allImplementationEntries, List.map_cons, List.map_flatMap,
    pruneEntries_implementationEntries]
  rfl

/-! ### What is handed over -/

theorem statements_eq_handedOver :
    extraction.statements = extraction.handedOver extraction.outline := by
  change List.filterMap Event.statement? (_ ++ [Event.log _]) = _
  rw [List.filterMap_append]
  exact List.append_nil _

theorem handedOver_append_prefix (first later : List Entry) :
    extraction.handedOver first <+: extraction.handedOver (first ++ later) := by
  rw [handedOver, handedOver, Progress.events_runEntries_append, List.filterMap_append]
  exact List.prefix_append _ _

/-- The flags of a run keep all that it states. -/
theorem filter_statements :
    extraction.statements.filter (·.isKept extraction.options.keeps) = extraction.statements := by
  rw [List.filter_eq_self]
  intro statement handed
  cases statement with
  | namespaceName name iri => rfl
  | triple stated =>
      have written : stated ∈ extraction.triples := List.mem_filterMap.mpr ⟨_, handed, rfl⟩
      have addressed := extraction.addressedTriple_of_mem_triples written
      exact ExtractionFlags.keeps_of_uses addressed.property

theorem filter_handedOver {whole own : List Entry}
    (same : extraction.pruneEntries whole = extraction.pruneEntries own) :
    (extraction.whole.handedOver whole).filter (·.isKept extraction.options.keeps) =
      (extraction.handedOver own).filter (·.isKept extraction.options.keeps) := by
  have start : Progress.SameNodes (.start extraction.whole) (.start extraction) := ⟨rfl, rfl, rfl⟩
  have events := Progress.filter_runEntries_eq (ExtractionFlags.keepsStubs _) start same
  rw [handedOver, handedOver, ← filterMap_statement?_filter, ← filterMap_statement?_filter, events]

theorem statements_eq_filter :
    extraction.statements =
      (if extraction.options.includeImplementations then extraction.whole.statements
        else extraction.whole.statementsBeforeImplementations).filter
          (·.isKept extraction.options.keeps) := by
  rw [← extraction.filter_statements, statements_eq_handedOver]
  split
  · next included =>
      rw [statements_eq_handedOver]
      refine (extraction.filter_handedOver ?_).symm
      have closings : extraction.pruneEntries extraction.whole.closing =
          extraction.pruneEntries extraction.closing := by
        rw [closing, closing, if_pos included]
        exact extraction.pruneEntries_allImplementationEntries
      simp only [outline_eq, List.map_append, pruneEntries_opening, pruneEntries_walk, closings]
  · next excluded =>
      refine (extraction.filter_handedOver ?_).symm
      rw [outline_eq, closing, if_neg excluded, List.append_nil]
      simp only [List.map_append, pruneEntries_opening, pruneEntries_walk]

/-- What is handed over ahead of the implementations under all flags comes first there. -/
theorem statementsBeforeImplementations_prefix :
    extraction.whole.statementsBeforeImplementations <+: extraction.whole.statements := by
  rw [statementsBeforeImplementations, statements_eq_handedOver, outline_eq]
  exact extraction.whole.handedOver_append_prefix _ _

theorem triplesBeforeImplementations_prefix :
    extraction.whole.triplesBeforeImplementations <+: extraction.whole.triples :=
  extraction.statementsBeforeImplementations_prefix.filterMap _

theorem triples_eq_filter :
    extraction.triples =
      (if extraction.options.includeImplementations then extraction.whole.triples
        else extraction.whole.triplesBeforeImplementations).filter extraction.options.keeps := by
  rw [triples, statements_eq_filter, filterMap_triple?_filter]
  split <;> rfl

/-- Under fewer flags a run stops no later and keeps no more. -/
theorem triples_sublist_of_meet (flags : ExtractionFlags) :
    (extraction.withFlags (extraction.options.meet flags)).triples.Sublist extraction.triples := by
  have stopsNoLater :
      (if extraction.options.includeImplementations && flags.includeImplementations
        then extraction.whole.triples
        else extraction.whole.triplesBeforeImplementations).Sublist
      (if extraction.options.includeImplementations then extraction.whole.triples
        else extraction.whole.triplesBeforeImplementations) := by
    cases extraction.options.includeImplementations with
    | false => exact List.Sublist.refl _
    | true =>
        cases flags.includeImplementations with
        | false => exact extraction.triplesBeforeImplementations_prefix.sublist
        | true => exact List.Sublist.refl _
  have keepsNoMore : (extraction.options.meet flags).keeps ≤ extraction.options.keeps :=
    fun _ => ExtractionFlags.keeps_of_keeps_meet
  rw [triples_eq_filter, extraction.triples_eq_filter]
  exact (List.monotone_filter_right _ keepsNoMore).trans (stopsNoLater.filter _)

/-- Without the implementations a run hands over the same and stops sooner. -/
theorem statements_prefix_of_implementations_off :
    (extraction.withFlags { extraction.options with includeImplementations := false }).statements
      <+: extraction.statements := by
  rw [statements_eq_filter, extraction.statements_eq_filter]
  apply List.IsPrefix.filter
  cases extraction.options.includeImplementations with
  | false => exact List.prefix_refl _
  | true => exact extraction.statementsBeforeImplementations_prefix

/-- Flags only leave out: every run produces the triples of the run under all flags, or those ahead
of the implementations, without the properties that are switched off. Fewer flags add no triple, and
without implementations the text is the beginning of what it is with them. -/
theorem flags_only_leave_out :
    extraction.triples =
        (if extraction.options.includeImplementations then extraction.whole.triples
          else extraction.whole.triplesBeforeImplementations).filter extraction.options.keeps ∧
      extraction.whole.triplesBeforeImplementations <+: extraction.whole.triples ∧
      (∀ flags, (extraction.withFlags (extraction.options.meet flags)).triples.Sublist
        extraction.triples) ∧
      ∀ format : Format,
        (format.write (extraction.withFlags
          { extraction.options with includeImplementations := false }).statements).toList <+:
            (format.write extraction.statements).toList := by
  refine ⟨extraction.triples_eq_filter, extraction.triplesBeforeImplementations_prefix,
    extraction.triples_sublist_of_meet, ?_⟩
  intro format
  exact format.write_prefix extraction.statements_prefix_of_implementations_off

end Extraction

end CrateGraph
