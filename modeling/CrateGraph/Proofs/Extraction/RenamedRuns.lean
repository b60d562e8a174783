import CrateGraph.Proofs.Extraction.CarriedOut
import CrateGraph.Proofs.Ontology.DistinctTerms
import Mathlib.Data.List.Basic

/-!
Runs over entries whose addresses are renamed.

What a run knows it knows by addresses, and it only ever asks whether two of them are the same. If
no two addresses are renamed to the same one, a run over renamed entries therefore does what it does
over the entries themselves, hands over the renamed statements and counts the same.
-/

namespace CrateGraph

open Rdf (Statement Term Triple)
open Ontology

/-! ### Renaming addresses -/

variable (place : String → String)

/-- Values and datatypes are no addresses. -/
def Rdf.Term.rename : Term → Term
  | .iri value => .iri (place value)
  | value => value

/-- Neither a property is an address nor the class that a node is an instance of. -/
def Rdf.Triple.rename (triple : Triple) : Triple where
  subject := place triple.subject
  predicate := triple.predicate
  object :=
    if triple.predicate = Property.type then triple.object else triple.object.rename place

def Rdf.Statement.rename : Statement → Statement
  | .namespaceName name iri => .namespaceName name iri
  | .triple stated => .triple (stated.rename place)

def Step.rename : Step → Step
  | .triple stated => .triple (stated.rename place)
  | .mention iri name => .mention (place iri) name
  | .countFunction => .countFunction
  | .countUnresolved => .countUnresolved

def Entry.rename : Entry → Entry
  | .description steps => .description (steps.map (Step.rename place))
  | .module path steps => .module path (steps.map (Step.rename place))
  | .type iri fullPath steps => .type (place iri) fullPath (steps.map (Step.rename place))
  | .implementation id target steps =>
      .implementation id (place target) (steps.map (Step.rename place))
  | .log record => .log record
  | .namespaceName name iri => .namespaceName name iri
  | .skippedImplementation reason => .skippedImplementation reason

/-- Modules are known by their paths, and counts count no addresses. -/
def Progress.rename (progress : Progress) : Progress :=
  { progress with
    types := progress.types.map place
    stubs := progress.stubs.map place }

@[simp] theorem Progress.rename_stats (progress : Progress) :
    (progress.rename place).stats = progress.stats :=
  rfl

/-! ### Steps -/

namespace Step

@[simp] theorem rename_type (node nodeClass : String) :
    (iri node Property.type nodeClass).rename place = iri (place node) Property.type nodeClass := by
  simp [iri, Step.rename, Rdf.Triple.rename]

@[simp] theorem rename_edge {property : String} (apart : property ≠ Property.type)
    (subject target : String) :
    (iri subject property target).rename place = iri (place subject) property (place target) := by
  simp [iri, Step.rename, Rdf.Triple.rename, Rdf.Term.rename, apart]

@[simp] theorem rename_literal (subject property value : String) :
    (literal subject property value).rename place = literal (place subject) property value := by
  simp [literal, Step.rename, Rdf.Triple.rename, Rdf.Term.rename]

@[simp] theorem rename_bool (subject property : String) (value : Bool) :
    (bool subject property value).rename place = bool (place subject) property value := by
  simp [bool, Step.rename, Rdf.Triple.rename, Rdf.Term.bool, Rdf.Term.rename]

@[simp] theorem rename_int (subject property : String) (value : Int) :
    (int subject property value).rename place = int (place subject) property value := by
  simp [int, Step.rename, Rdf.Triple.rename, Rdf.Term.int, Rdf.Term.rename]

@[simp] theorem rename_mention (iri name : String) :
    (mention iri name).rename place = mention (place iri) name :=
  rfl

@[simp] theorem rename_countFunction : countFunction.rename place = countFunction :=
  rfl

@[simp] theorem rename_countUnresolved : countUnresolved.rename place = countUnresolved :=
  rfl

end Step

/-! ### Runs -/

namespace Progress

variable {place} (injective : Function.Injective place)

theorem stubNode_rename (iri name : String) :
    stubNode (place iri) name = (stubNode iri name).map (Triple.rename place) := by
  simp [stubNode, Rdf.Triple.rename, Rdf.Term.rename]

include injective

theorem runStep_rename (progress : Progress) (step : Step) :
    (progress.rename place).runStep (step.rename place) =
      ((progress.runStep step).1.rename place,
        (progress.runStep step).2.map (Triple.rename place)) := by
  cases step with
  | triple stated => rfl
  | mention iri name =>
      have known : (place iri ∈ (progress.rename place).types ∨
          place iri ∈ (progress.rename place).stubs) ↔
            iri ∈ progress.types ∨ iri ∈ progress.stubs :=
        or_congr (List.mem_map_of_injective injective) (List.mem_map_of_injective injective)
      simp only [Step.rename, runStep, known]
      split
      · rfl
      · rw [stubNode_rename]
        rfl
  | countFunction | countUnresolved => rfl

theorem runSteps_rename (progress : Progress) (steps : List Step) :
    (progress.rename place).runSteps (steps.map (Step.rename place)) =
      ((progress.runSteps steps).1.rename place,
        (progress.runSteps steps).2.map (Triple.rename place)) := by
  induction steps generalizing progress with
  | nil => rfl
  | cons step rest induction =>
      simp only [List.map_cons, runSteps, runStep_rename injective, induction, List.map_append]

/-- What a run knows and hands over, without what it logs. -/
def handing (outcome : Progress × List Event) : Progress × List Statement :=
  (outcome.1, outcome.2.filterMap Event.statement?)

omit injective in
theorem handing_describe (progress : Progress) (steps : List Step) :
    handing (progress.describe steps) =
      ((progress.runSteps steps).1, (progress.runSteps steps).2.map Statement.triple) := by
  have same : Event.statement? ∘ (fun triple => Event.statement (.triple triple)) =
      some ∘ Statement.triple := rfl
  rw [handing, describe, List.filterMap_map, same, List.filterMap_eq_map]

omit injective in
/-- The records of the log name addresses and are left out here for that reason. -/
theorem handing_runEntries_cons (progress : Progress) (entry : Entry) (rest : List Entry) :
    handing (progress.runEntries (entry :: rest)) =
      ((handing ((handing (progress.runEntry entry)).1.runEntries rest)).1,
        (handing (progress.runEntry entry)).2 ++
          (handing ((handing (progress.runEntry entry)).1.runEntries rest)).2) := by
  simp only [handing, runEntries, List.filterMap_append]

/-- The outcome with its addresses renamed. -/
def renameOutcome (place : String → String) (outcome : Progress × List Statement) :
    Progress × List Statement :=
  (outcome.1.rename place, outcome.2.map (Statement.rename place))

theorem handing_describe_rename (progress : Progress) (steps : List Step) :
    handing ((progress.rename place).describe (steps.map (Step.rename place))) =
      renameOutcome place (handing (progress.describe steps)) := by
  simp only [handing_describe, runSteps_rename injective, renameOutcome, List.map_map]
  rfl

theorem handing_runEntry_rename (progress : Progress) (entry : Entry) :
    handing ((progress.rename place).runEntry (entry.rename place)) =
      renameOutcome place (handing (progress.runEntry entry)) := by
  cases entry with
  | log | namespaceName | skippedImplementation => rfl
  | description steps => exact handing_describe_rename injective progress steps
  | module path steps =>
      change handing (if path ∈ progress.modules then _ else _) = _
      rw [runEntry]
      split
      · rfl
      · exact handing_describe_rename injective (progress.declareModule path) steps
  | type iri fullPath steps =>
      have known : place iri ∈ (progress.rename place).types ↔ iri ∈ progress.types :=
        List.mem_map_of_injective injective
      simp only [Entry.rename, runEntry, known]
      split
      · rfl
      · exact handing_describe_rename injective (progress.declareType iri) steps
  | implementation id target steps =>
      have declared : place target ∈ (progress.rename place).types ↔ target ∈ progress.types :=
        List.mem_map_of_injective injective
      simp only [Entry.rename, runEntry, declared]
      split
      · exact handing_describe_rename injective progress.countImplementation steps
      · rfl

theorem handing_runEntries_rename (progress : Progress) (entries : List Entry) :
    handing ((progress.rename place).runEntries (entries.map (Entry.rename place))) =
      renameOutcome place (handing (progress.runEntries entries)) := by
  induction entries generalizing progress with
  | nil => rfl
  | cons entry rest induction =>
      rw [List.map_cons, handing_runEntries_cons, handing_runEntries_cons,
        handing_runEntry_rename injective]
      simp only [renameOutcome, induction, List.map_append]

end Progress

end CrateGraph
