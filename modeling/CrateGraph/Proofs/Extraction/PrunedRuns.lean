import CrateGraph.Proofs.Extraction.CarriedOut

/-!
Runs of which some triples are left out.

What a run knows, and with it what it writes later, changes only where it declares something or
comes to a mention of a type. So it does not matter whether unwanted triples are dropped from what a
run produces or the steps that state them from its entries. Two outlines that are the same without
such steps produce the same wanted triples.
-/

namespace CrateGraph

open Rdf (Triple Statement)

variable {keep : Triple → Bool}

def Rdf.Statement.isKept (keep : Triple → Bool) : Statement → Bool
  | .namespaceName _ _ => true
  | .triple stated => keep stated

theorem filterMap_triple?_filter (statements : List Statement) :
    (statements.filter (·.isKept keep)).filterMap Statement.triple? =
      (statements.filterMap Statement.triple?).filter keep := by
  rw [List.filterMap_filter, List.filter_filterMap]
  congr 1
  funext statement
  cases statement <;> rfl

def Event.isKept (keep : Triple → Bool) : Event → Bool
  | .statement handed => handed.isKept keep
  | .log _ => true

theorem filterMap_statement?_filter (events : List Event) :
    (events.filter (·.isKept keep)).filterMap Event.statement? =
      (events.filterMap Event.statement?).filter (·.isKept keep) := by
  rw [List.filterMap_filter, List.filter_filterMap]
  congr 1
  funext event
  cases event <;> rfl

/-- Mentions stay, since they decide which types are known. What only counts goes. -/
def Step.isKept (keep : Triple → Bool) : Step → Bool
  | .triple stated => keep stated
  | .mention _ _ => true
  | .countFunction | .countUnresolved => false

def Step.prune (keep : Triple → Bool) (steps : List Step) : List Step :=
  steps.filter (Step.isKept keep)

@[simp] theorem Step.prune_nil : prune keep [] = [] :=
  rfl

@[simp] theorem Step.prune_append (left right : List Step) :
    prune keep (left ++ right) = prune keep left ++ prune keep right :=
  List.filter_append ..

theorem Step.prune_flatMap {Source : Type} (sources : List Source)
    (describe : Source → List Step) :
    prune keep (sources.flatMap describe) =
      sources.flatMap fun source => prune keep (describe source) :=
  List.filter_flatMap

/-- Steps that are taken only if a flag is on do not matter if they are dropped when it is off. -/
theorem Step.prune_optional {flag : Bool} {steps : List Step}
    (dropped : flag = false → ∀ step ∈ steps, ¬step.isKept keep) :
    prune keep steps = prune keep (if flag then steps else []) := by
  cases flag with
  | false => exact List.filter_eq_nil_iff.mpr (dropped rfl)
  | true => rfl

def Entry.prune (keep : Triple → Bool) : Entry → Entry
  | .description steps => .description (Step.prune keep steps)
  | .module path steps => .module path (Step.prune keep steps)
  | .type iri fullPath steps => .type iri fullPath (Step.prune keep steps)
  | .implementation id target steps => .implementation id target (Step.prune keep steps)
  | .log record => .log record
  | .namespaceName name iri => .namespaceName name iri
  | .skippedImplementation reason => .skippedImplementation reason

namespace Progress

/-- Two moments, of one run or of two, at which the same nodes are written. -/
structure SameNodes (left right : Progress) : Prop where
  types : left.types = right.types
  stubs : left.stubs = right.stubs
  modules : left.modules = right.modules

/-- A run and a run without some of its steps: they end with the same nodes, and the second produces
what is kept of the first. -/
structure Shadows {Output : Type} (isKept : Output → Bool) (full pruned : Progress × List Output) :
    Prop where
  nodes : SameNodes full.1 pruned.1
  outputs : full.2.filter isKept = pruned.2

/-- The nodes of types that are merely mentioned are wanted. -/
def KeepsStubs (keep : Triple → Bool) : Prop :=
  ∀ iri name, ∀ triple ∈ stubNode iri name, keep triple

variable {left right : Progress}

/-! ### Steps -/

theorem runStep_shadows (stubs : KeepsStubs keep) (same : SameNodes left right) {step : Step}
    (kept : step.isKept keep) : Shadows keep (left.runStep step) (right.runStep step) := by
  cases step with
  | triple triple =>
      refine ⟨same, List.filter_eq_self.mpr ?_⟩
      simpa [runStep, Step.isKept] using kept
  | mention iri name =>
      simp only [runStep, same.types, same.stubs]
      split
      · exact ⟨same, rfl⟩
      · exact ⟨⟨rfl, rfl, same.modules⟩, List.filter_eq_self.mpr (stubs iri name)⟩
  | countFunction | countUnresolved => cases kept

theorem runStep_shadows_of_dropped (same : SameNodes left right) {step : Step}
    (dropped : ¬step.isKept keep) : Shadows keep (left.runStep step) (right, []) := by
  cases step with
  | triple triple =>
      refine ⟨same, List.filter_eq_nil_iff.mpr ?_⟩
      simpa [runStep, Step.isKept] using dropped
  | mention iri name => exact absurd rfl dropped
  | countFunction | countUnresolved =>
      exact ⟨⟨same.types, same.stubs, same.modules⟩, rfl⟩

theorem runSteps_shadows (stubs : KeepsStubs keep) (same : SameNodes left right)
    (steps : List Step) :
    Shadows keep (left.runSteps steps) (right.runSteps (Step.prune keep steps)) := by
  induction steps generalizing left right with
  | nil => exact ⟨same, rfl⟩
  | cons step rest induction =>
      rw [Step.prune, List.filter_cons]
      split
      · next kept =>
          have first := runStep_shadows stubs same kept
          have later := induction first.nodes
          refine ⟨later.nodes, ?_⟩
          simp only [runSteps, List.filter_append, first.outputs, later.outputs]
          rfl
      · next dropped =>
          have first := runStep_shadows_of_dropped same dropped
          have later := induction first.nodes
          refine ⟨later.nodes, ?_⟩
          simp only [runSteps, List.filter_append, first.outputs, later.outputs]
          rfl

/-! ### Entries -/

theorem SameNodes.declareModule (same : SameNodes left right) (path : String) :
    SameNodes (left.declareModule path) (right.declareModule path) :=
  ⟨same.types, same.stubs, congrArg (path :: ·) same.modules⟩

theorem SameNodes.declareType (same : SameNodes left right) (iri : String) :
    SameNodes (left.declareType iri) (right.declareType iri) :=
  ⟨congrArg (iri :: ·) same.types, same.stubs, same.modules⟩

theorem SameNodes.countImplementation (same : SameNodes left right) :
    SameNodes left.countImplementation right.countImplementation :=
  ⟨same.types, same.stubs, same.modules⟩

theorem SameNodes.skipImplementation (same : SameNodes left right) (reason : SkipReason) :
    SameNodes (left.skipImplementation reason) (right.skipImplementation reason) :=
  ⟨same.types, same.stubs, same.modules⟩

theorem describe_shadows (stubs : KeepsStubs keep) (same : SameNodes left right)
    (steps : List Step) :
    Shadows (Event.isKept keep) (left.describe steps)
      (right.describe (Step.prune keep steps)) := by
  have shadows := runSteps_shadows stubs same steps
  refine ⟨shadows.nodes, ?_⟩
  simp only [describe, List.filter_map, ← shadows.outputs]
  rfl

theorem runEntry_shadows (stubs : KeepsStubs keep) (same : SameNodes left right) (entry : Entry) :
    Shadows (Event.isKept keep) (left.runEntry entry) (right.runEntry (entry.prune keep)) := by
  cases entry with
  | log record => exact ⟨same, rfl⟩
  | namespaceName name iri => exact ⟨same, rfl⟩
  | description steps => exact describe_shadows stubs same steps
  | module path steps =>
      rw [Entry.prune, runEntry, runEntry, same.modules]
      split
      · exact ⟨same, rfl⟩
      · exact describe_shadows stubs (same.declareModule path) steps
  | type iri fullPath steps =>
      rw [Entry.prune, runEntry, runEntry, same.types]
      split
      · exact ⟨same, rfl⟩
      · exact describe_shadows stubs (same.declareType iri) steps
  | implementation id target steps =>
      rw [Entry.prune, runEntry, runEntry, same.types]
      split
      · exact describe_shadows stubs same.countImplementation steps
      · exact ⟨same.skipImplementation .foreign, rfl⟩
  | skippedImplementation reason => exact ⟨same.skipImplementation reason, rfl⟩

theorem runEntries_shadows (stubs : KeepsStubs keep) (same : SameNodes left right)
    (entries : List Entry) :
    Shadows (Event.isKept keep) (left.runEntries entries)
      (right.runEntries (entries.map (Entry.prune keep))) := by
  induction entries generalizing left right with
  | nil => exact ⟨same, rfl⟩
  | cons entry rest induction =>
      have first := runEntry_shadows stubs same entry
      have later := induction first.nodes
      refine ⟨later.nodes, ?_⟩
      simp only [List.map_cons, runEntries, List.filter_append, first.outputs, later.outputs]

/-- Entries that are the same but for unwanted triples produce the same wanted events. -/
theorem filter_runEntries_eq (stubs : KeepsStubs keep) (same : SameNodes left right)
    {first second : List Entry}
    (entries : first.map (Entry.prune keep) = second.map (Entry.prune keep)) :
    (left.runEntries first).2.filter (Event.isKept keep) =
      (right.runEntries second).2.filter (Event.isKept keep) := by
  have refl : SameNodes right right := ⟨rfl, rfl, rfl⟩
  rw [(runEntries_shadows stubs same first).outputs, entries,
    (runEntries_shadows stubs refl second).outputs]

end Progress

end CrateGraph
