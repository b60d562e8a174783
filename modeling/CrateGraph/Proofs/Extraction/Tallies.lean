import CrateGraph.Proofs.Extraction.Instances
import Mathlib.Algebra.Ring.Int.Defs

/-!
What a run remembers and counts, at any time.

A run remembers the types and modules that it has declared, and counts them along with the
implementations that it has come to. All of this changes with entries only, and agrees with the
entries that were carried out. Functions and merely mentioned types are counted step by step, and
agree with the marks of the steps and with the triples stated so far.
-/

namespace CrateGraph

open Rdf (Triple)
open Ontology

/-! ### Sums of values -/

theorem Entries.sum_values_insert {Key : Type} [DecidableEq Key] (key : Key) (value : Int)
    (entries : Entries Key Int) :
    ((insert key value entries).map Prod.snd).sum + (get? key entries).getD 0 =
      (entries.map Prod.snd).sum + value := by
  induction entries with
  | nil => simp [insert, get?]
  | cons entry rest induction =>
      obtain ⟨name, present⟩ := entry
      by_cases same : name = key
      · simp only [insert, get?, same, if_true, List.map_cons, List.sum_cons, Option.getD_some]
        omega
      · simp only [insert, get?, same, if_false, List.map_cons, List.sum_cons]
        omega

/-- A new value takes the place of what the key had in the sum of all values. -/
theorem Table.sum_values_insert (table : Table Int) (key : String) (value : Int) :
    (table.insert key value).values.sum + (table.get? key).getD 0 = table.values.sum + value :=
  Entries.sum_values_insert key value table.entries

/-! ### What entries are about -/

namespace Entry

def declaredType? : Entry → Option String
  | .type iri _ _ => some iri
  | _ => none

def declaredModule? : Entry → Option String
  | .module path _ => some path
  | _ => none

def implementationId? : Entry → Option ItemId
  | .implementation id _ _ => some id
  | _ => none

end Entry

namespace Progress

/-! ### What no step changes -/

/-- Two moments of a run between which no entry was begun. -/
structure SameEntry (before after : Progress) : Prop where
  types : after.types = before.types
  modules : after.modules = before.modules
  typeCount : after.stats.types = before.stats.types
  moduleCount : after.stats.namespaces = before.stats.namespaces
  processed : after.stats.implementationsProcessed = before.stats.implementationsProcessed
  skipped : after.stats.implementationsSkipped = before.stats.implementationsSkipped

theorem SameEntry.refl (progress : Progress) : SameEntry progress progress :=
  ⟨rfl, rfl, rfl, rfl, rfl, rfl⟩

theorem SameEntry.trans {before between after : Progress} (first : SameEntry before between)
    (second : SameEntry between after) : SameEntry before after where
  types := second.types.trans first.types
  modules := second.modules.trans first.modules
  typeCount := second.typeCount.trans first.typeCount
  moduleCount := second.moduleCount.trans first.moduleCount
  processed := second.processed.trans first.processed
  skipped := second.skipped.trans first.skipped

theorem sameEntry_runStep (progress : Progress) (step : Step) :
    SameEntry progress (progress.runStep step).1 := by
  cases step with
  | triple triple => exact .refl progress
  | mention iri name =>
      rw [runStep]
      split
      · exact .refl progress
      · exact ⟨rfl, rfl, rfl, rfl, rfl, rfl⟩
  | countFunction => exact ⟨rfl, rfl, rfl, rfl, rfl, rfl⟩
  | countUnresolved => exact ⟨rfl, rfl, rfl, rfl, rfl, rfl⟩

theorem sameEntry_runSteps (progress : Progress) (steps : List Step) :
    SameEntry progress (progress.runSteps steps).1 := by
  induction steps generalizing progress with
  | nil => exact .refl progress
  | cons step rest induction =>
      exact (progress.sameEntry_runStep step).trans (induction (progress.runStep step).1)

/-! ### What entries change -/

/-- The declarations remembered and the counts kept are those of the entries carried out. -/
structure EntryTally (progress : Progress) (carried : List Entry) : Prop where
  types : carried.filterMap Entry.declaredType? = progress.types.reverse
  typesNodup : progress.types.Nodup
  typeCount : progress.stats.types = progress.types.length
  modules : carried.filterMap Entry.declaredModule? = progress.modules.reverse
  modulesNodup : progress.modules.Nodup
  moduleCount : progress.stats.namespaces = progress.modules.length
  processed : progress.stats.implementationsProcessed =
    (carried.filterMap Entry.implementationId?).length

namespace EntryTally

variable {progress : Progress} {carried : List Entry}

theorem start (extraction : Extraction) : EntryTally (Progress.start extraction) [] where
  types := rfl
  typesNodup := List.nodup_nil
  typeCount := rfl
  modules := rfl
  modulesNodup := List.nodup_nil
  moduleCount := rfl
  processed := rfl

theorem of_sameEntry {after : Progress} (tally : EntryTally progress carried)
    (same : SameEntry progress after) : EntryTally after carried := by
  constructor
  · rw [same.types, tally.types]
  · rw [same.types]
    exact tally.typesNodup
  · rw [same.types, same.typeCount, tally.typeCount]
  · rw [same.modules, tally.modules]
  · rw [same.modules]
    exact tally.modulesNodup
  · rw [same.modules, same.moduleCount, tally.moduleCount]
  · rw [same.processed, tally.processed]

/-- An entry that declares nothing and describes no implementation counts for nothing. -/
theorem append_silent {entry : Entry} (tally : EntryTally progress carried)
    (type : entry.declaredType? = none) (module : entry.declaredModule? = none)
    (implementation : entry.implementationId? = none) :
    EntryTally progress (carried ++ [entry]) := by
  constructor
  · simp [type, tally.types]
  · exact tally.typesNodup
  · exact tally.typeCount
  · simp [module, tally.modules]
  · exact tally.modulesNodup
  · exact tally.moduleCount
  · simp [implementation, tally.processed]

theorem skipImplementation (tally : EntryTally progress carried) (reason : SkipReason) :
    EntryTally (progress.skipImplementation reason) carried :=
  ⟨tally.types, tally.typesNodup, tally.typeCount, tally.modules, tally.modulesNodup,
    tally.moduleCount, tally.processed⟩

theorem note {entry : Entry} (tally : EntryTally progress carried)
    (carries : progress.carriesOut entry) :
    EntryTally (progress.note entry) (carried ++ [entry]) := by
  cases entry with
  | log | namespaceName | description => exact tally.append_silent rfl rfl rfl
  | skippedImplementation reason =>
      exact (tally.skipImplementation reason).append_silent rfl rfl rfl
  | module path steps =>
      have fresh : path ∉ progress.modules := of_decide_eq_true carries
      constructor
      · simp [Entry.declaredType?, tally.types, Progress.note, declareModule]
      · exact tally.typesNodup
      · exact tally.typeCount
      · simp [Entry.declaredModule?, tally.modules, Progress.note, declareModule]
      · exact List.nodup_cons.mpr ⟨fresh, tally.modulesNodup⟩
      · simp [Progress.note, declareModule, tally.moduleCount]
      · simp [List.filterMap_cons, Entry.implementationId?, tally.processed, Progress.note,
          declareModule]
  | type iri fullPath steps =>
      have fresh : iri ∉ progress.types := of_decide_eq_true carries
      constructor
      · simp [Entry.declaredType?, tally.types, Progress.note, declareType]
      · exact List.nodup_cons.mpr ⟨fresh, tally.typesNodup⟩
      · simp [Progress.note, declareType, tally.typeCount]
      · simp [Entry.declaredModule?, tally.modules, Progress.note, declareType]
      · exact tally.modulesNodup
      · exact tally.moduleCount
      · simp [List.filterMap_cons, Entry.implementationId?, tally.processed, Progress.note,
          declareType]
  | implementation id target steps =>
      constructor
      · simp [Entry.declaredType?, tally.types, Progress.note, countImplementation]
      · exact tally.typesNodup
      · exact tally.typeCount
      · simp [Entry.declaredModule?, tally.modules, Progress.note, countImplementation]
      · exact tally.modulesNodup
      · exact tally.moduleCount
      · simp [Entry.implementationId?, tally.processed, Progress.note, countImplementation]

theorem pass (tally : EntryTally progress carried) (entry : Entry) :
    EntryTally (progress.pass entry) carried := by
  cases entry with
  | implementation => exact tally.skipImplementation .foreign
  | log | namespaceName | description | module | type | skippedImplementation => exact tally

theorem runEntry (tally : EntryTally progress carried) (entry : Entry) :
    EntryTally (progress.runEntry entry).1
      (carried ++ if progress.carriesOut entry then [entry] else []) := by
  split
  · next carries =>
      rw [(runEntry_of_carriesOut carries).1]
      exact (tally.note carries).of_sameEntry (sameEntry_runSteps _ _)
  · next passed =>
      rw [(runEntry_of_not_carriesOut passed).1, List.append_nil]
      exact tally.pass entry

theorem runEntries (tally : EntryTally progress carried) (entries : List Entry) :
    EntryTally (progress.runEntries entries).1 (carried ++ progress.carriedOut entries) := by
  induction entries generalizing progress carried with
  | nil => simpa [Progress.runEntries, carriedOut] using tally
  | cons entry rest induction =>
      rw [carriedOut, ← List.append_assoc]
      exact induction (tally.runEntry entry)

end EntryTally

/-! ### Implementations that are described or skipped -/

/-- The number of implementations that the run has come to, according to its counts. -/
def handled (progress : Progress) : Int :=
  progress.stats.implementationsProcessed + progress.stats.implementationsSkipped.values.sum

theorem handled_skipImplementation (progress : Progress) (reason : SkipReason) :
    (progress.skipImplementation reason).handled = progress.handled + 1 := by
  have raised := Table.sum_values_insert progress.stats.implementationsSkipped reason.name
    ((progress.stats.implementationsSkipped.get? reason.name).getD 0 + 1)
  simp only [handled, skipImplementation, ExtractionStats.skip]
  omega

theorem handled_note (progress : Progress) (entry : Entry) :
    (progress.note entry).handled =
      progress.handled + if entry.isImplementation then 1 else 0 := by
  cases entry with
  | skippedImplementation reason => exact progress.handled_skipImplementation reason
  | implementation id target steps =>
      simp only [note, handled, countImplementation, Entry.isImplementation, if_true]
      omega
  | log | namespaceName | description | module | type => exact (Int.add_zero _).symm

theorem handled_pass {progress : Progress} {entry : Entry}
    (passed : ¬progress.carriesOut entry) :
    (progress.pass entry).handled =
      progress.handled + if entry.isImplementation then 1 else 0 := by
  cases entry with
  | implementation => exact progress.handled_skipImplementation .foreign
  | skippedImplementation => exact absurd rfl passed
  | log | namespaceName | description | module | type => exact (Int.add_zero _).symm

theorem SameEntry.handled {before after : Progress} (same : SameEntry before after) :
    after.handled = before.handled := by
  rw [Progress.handled, Progress.handled, same.processed, same.skipped]

theorem handled_runEntry (progress : Progress) (entry : Entry) :
    (progress.runEntry entry).1.handled =
      progress.handled + if entry.isImplementation then 1 else 0 := by
  by_cases carries : progress.carriesOut entry
  · rw [(runEntry_of_carriesOut carries).1, (sameEntry_runSteps _ _).handled, handled_note]
  · rw [(runEntry_of_not_carriesOut carries).1, handled_pass carries]

theorem handled_runEntries (progress : Progress) (entries : List Entry) :
    (progress.runEntries entries).1.handled =
      progress.handled + entries.countP Entry.isImplementation := by
  induction entries generalizing progress with
  | nil => simp [runEntries]
  | cons entry rest induction =>
      change ((progress.runEntry entry).1.runEntries rest).1.handled = _
      rw [induction, handled_runEntry, List.countP_cons]
      split
      · omega
      · omega

/-! ### What steps change -/

/-- The functions counted are those of the marks, and the types merely mentioned those of the
triples. -/
structure StepTally (progress : Progress) (found : List Mark) (triples : List Triple) : Prop where
  functions : progress.stats.functions = found.count .function
  stubs : instances [Class.type] triples = progress.stubs.reverse
  stubsNodup : progress.stubs.Nodup
  stubCount : progress.stats.externalTypes = progress.stubs.length

namespace StepTally

variable {progress : Progress} {found : List Mark} {triples : List Triple}

theorem start (extraction : Extraction) : StepTally (Progress.start extraction) [] [] where
  functions := rfl
  stubs := rfl
  stubsNodup := List.nodup_nil
  stubCount := rfl

theorem note (tally : StepTally progress found triples) (entry : Entry) :
    StepTally (progress.note entry) found triples := by
  cases entry with
  | module | type | implementation | skippedImplementation =>
      exact ⟨tally.functions, tally.stubs, tally.stubsNodup, tally.stubCount⟩
  | log | namespaceName | description => exact tally

theorem pass (tally : StepTally progress found triples) (entry : Entry) :
    StepTally (progress.pass entry) found triples := by
  cases entry with
  | implementation => exact ⟨tally.functions, tally.stubs, tally.stubsNodup, tally.stubCount⟩
  | log | namespaceName | description | module | type | skippedImplementation => exact tally

/-- A step that names no type as merely mentioned leaves this to the run. -/
theorem runStep {step : Step} (tally : StepTally progress found triples)
    (plain : ∀ node, step ≠ .iri node Property.type Class.type) :
    StepTally (progress.runStep step).1 (found ++ step.mark?.toList)
      (triples ++ (progress.runStep step).2) := by
  cases step with
  | triple triple =>
      have unlisted : instance? [Class.type] triple = none := by
        rw [Option.eq_none_iff_forall_ne_some]
        intro node isInstance
        rcases (instance?_eq_some_iff _ _ _).mp isInstance with ⟨nodeClass, listed, rfl⟩
        rw [List.mem_singleton.mp listed] at plain
        exact plain node rfl
      have uncounted : .function ∉ (Step.triple triple).mark?.toList := by
        intro counted
        have equal := Step.eq_of_mark? (Option.mem_toList.mp counted)
        cases equal
      constructor
      · rw [List.count_append, List.count_eq_zero.mpr uncounted]
        exact tally.functions
      · have listed : instances [Class.type] [triple] = [] := by simp [instances, unlisted]
        rw [Progress.runStep, instances_append, listed, List.append_nil]
        exact tally.stubs
      · exact tally.stubsNodup
      · exact tally.stubCount
  | mention iri name =>
      rw [Progress.runStep]
      split
      · simpa using tally
      · next fresh =>
          have unknown : iri ∉ progress.stubs := fun member => fresh (Or.inr member)
          constructor
          · simpa using tally.functions
          · have listed : instances [Class.type] (stubNode iri name) = [iri] := by
              simp [instances, stubNode, instance?]
            rw [instances_append, listed, tally.stubs]
            simp
          · exact List.nodup_cons.mpr ⟨unknown, tally.stubsNodup⟩
          · simp [tally.stubCount]
  | countFunction =>
      constructor
      · simp [Progress.runStep, tally.functions]
      · simpa [Progress.runStep] using tally.stubs
      · exact tally.stubsNodup
      · exact tally.stubCount
  | countUnresolved =>
      constructor
      · simpa [Progress.runStep] using tally.functions
      · simpa [Progress.runStep] using tally.stubs
      · exact tally.stubsNodup
      · exact tally.stubCount

theorem runSteps {steps : List Step} (tally : StepTally progress found triples)
    (plain : ∀ node, .iri node Property.type Class.type ∉ steps) :
    StepTally (progress.runSteps steps).1 (found ++ marks steps)
      (triples ++ (progress.runSteps steps).2) := by
  induction steps generalizing progress found triples with
  | nil => simpa [Progress.runSteps] using tally
  | cons step rest induction =>
      have now : ∀ node, step ≠ .iri node Property.type Class.type := by
        intro node equal
        exact plain node (equal ▸ List.mem_cons_self)
      have further := induction (tally.runStep now)
        (fun node later => plain node (List.mem_cons_of_mem step later))
      rw [List.append_assoc, List.append_assoc] at further
      rw [marks_cons]
      exact further

theorem runEntry {entry : Entry} (tally : StepTally progress found triples)
    (plain : ∀ node, .iri node Property.type Class.type ∉ entry.steps) :
    StepTally (progress.runEntry entry).1
      (found ++ if progress.carriesOut entry then marks entry.steps else [])
      (triples ++ (progress.runEntry entry).2.filterMap Event.triple?) := by
  split
  · next carries =>
      rw [(runEntry_of_carriesOut carries).1, (runEntry_of_carriesOut carries).2]
      exact (tally.note entry).runSteps plain
  · next passed =>
      rw [(runEntry_of_not_carriesOut passed).1, (runEntry_of_not_carriesOut passed).2,
        List.append_nil, List.append_nil]
      exact tally.pass entry

theorem runEntries {entries : List Entry} (tally : StepTally progress found triples)
    (plain : ∀ entry ∈ entries, ∀ node, .iri node Property.type Class.type ∉ entry.steps) :
    StepTally (progress.runEntries entries).1
      (found ++ (progress.carriedOut entries).flatMap fun entry => marks entry.steps)
      (triples ++ (progress.runEntries entries).2.filterMap Event.triple?) := by
  induction entries generalizing progress found triples with
  | nil => simpa [Progress.runEntries, carriedOut] using tally
  | cons entry rest induction =>
      have now := tally.runEntry (plain entry List.mem_cons_self)
      have further := induction now
        (fun other later => plain other (List.mem_cons_of_mem entry later))
      have marked : (if progress.carriesOut entry then [entry] else []).flatMap
          (fun entry => marks entry.steps) =
            if progress.carriesOut entry then marks entry.steps else [] := by
        split <;> simp
      rw [List.append_assoc, List.append_assoc, ← List.filterMap_append] at further
      rw [carriedOut, List.flatMap_append, marked]
      exact further

end StepTally

end Progress

end CrateGraph
