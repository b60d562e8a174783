import CrateGraph.Extraction.Outline
import CrateGraph.Extraction.Stats

/-!
Carrying out an outline.

A run knows the types, the modules and the merely mentioned types that it has written so far, and
counts what it does. What it knows outlives the run, so a second run over the same crate repeats
only what is said unconditionally.
-/

namespace CrateGraph

open Rdf (Statement Triple)
open Ontology

structure Progress where
  types : List String
  stubs : List String
  modules : List String
  stats : ExtractionStats

inductive Event where
  | statement (statement : Statement)
  | log (record : LogRecord)

def Event.statement? : Event → Option Statement
  | .statement handed => some handed
  | .log _ => none

def Event.log? : Event → Option LogRecord
  | .statement _ => none
  | .log record => some record

namespace Progress

def start (extraction : Extraction) : Progress where
  types := []
  stubs := []
  modules := []
  stats := ExtractionStats.start extraction.crateName extraction.crateVersion

/-! ### Steps -/

def stubNode (iri name : String) : List Triple :=
  [⟨iri, Property.type, .iri Class.type⟩, ⟨iri, Property.name, .literal name⟩]

def runStep (progress : Progress) : Step → Progress × List Triple
  | .triple triple => (progress, [triple])
  | .mention iri name =>
      if iri ∈ progress.types ∨ iri ∈ progress.stubs then (progress, [])
      else
        ({ progress with
            stubs := iri :: progress.stubs
            stats := { progress.stats with
              externalTypes := progress.stats.externalTypes + 1 } },
          stubNode iri name)
  | .countFunction =>
      ({ progress with
          stats := { progress.stats with functions := progress.stats.functions + 1 } }, [])
  | .countUnresolved =>
      ({ progress with
          stats := { progress.stats with
            unresolvedTypes := progress.stats.unresolvedTypes + 1 } }, [])

def runSteps (progress : Progress) : List Step → Progress × List Triple
  | [] => (progress, [])
  | step :: rest =>
      let (progress, triples) := progress.runStep step
      let (progress, further) := progress.runSteps rest
      (progress, triples ++ further)

def describe (progress : Progress) (steps : List Step) : Progress × List Event :=
  let (progress, triples) := progress.runSteps steps
  (progress, triples.map fun triple => .statement (.triple triple))

/-! ### Entries -/

def declareModule (progress : Progress) (path : String) : Progress :=
  { progress with
    modules := path :: progress.modules
    stats := { progress.stats with namespaces := progress.stats.namespaces + 1 } }

def declareType (progress : Progress) (iri : String) : Progress :=
  { progress with
    types := iri :: progress.types
    stats := { progress.stats with types := progress.stats.types + 1 } }

def countImplementation (progress : Progress) : Progress :=
  { progress with
    stats := { progress.stats with
      implementationsProcessed := progress.stats.implementationsProcessed + 1 } }

def skipImplementation (progress : Progress) (reason : SkipReason) : Progress :=
  { progress with stats := progress.stats.skip reason.name }

def runEntry (progress : Progress) : Entry → Progress × List Event
  | .log record => (progress, [.log record])
  | .namespaceName name iri => (progress, [.statement (.namespaceName name iri)])
  | .description steps => progress.describe steps
  | .module path steps =>
      if path ∈ progress.modules then (progress, [])
      else (progress.declareModule path).describe steps
  | .type iri fullPath steps =>
      if iri ∈ progress.types then
        (progress, [.log ⟨.extraction, .debug,
          "Type " ++ fullPath ++ " already emitted, skipping duplicate"⟩])
      else (progress.declareType iri).describe steps
  | .implementation id target steps =>
      if target ∈ progress.types then progress.countImplementation.describe steps
      else
        (progress.skipImplementation .foreign, [.log ⟨.extraction, .debug,
          "Impl " ++ id ++ " targets " ++ target ++ ", not a local type; skipping"⟩])
  | .skippedImplementation reason => (progress.skipImplementation reason, [])

def runEntries (progress : Progress) : List Entry → Progress × List Event
  | [] => (progress, [])
  | entry :: rest =>
      let (progress, events) := progress.runEntry entry
      let (progress, further) := progress.runEntries rest
      (progress, events ++ further)

/-- The address of a type on request, which counts like any other reference. -/
def resolveType (progress : Progress) (extraction : Extraction) (type : RustType) :
    Progress × Option String :=
  match extraction.typeIri? type with
  | some iri => (progress, some iri)
  | none => ((progress.runStep .countUnresolved).1, none)

end Progress

namespace Extraction

def completionRecord (extraction : Extraction) (stats : ExtractionStats) : LogRecord where
  source := .extraction
  level := .info
  message :=
    "Extracted " ++ extraction.crateName ++ " v" ++ extraction.crateVersion ++ ": " ++
      toString stats.types ++ " types, " ++ toString stats.namespaces ++ " modules, " ++
      toString stats.implementationsProcessed ++ " impls"

/-- One run over the crate, from what was written before it. -/
def run (extraction : Extraction) (progress : Progress) : Progress × List Event :=
  let (progress, events) := progress.runEntries extraction.outline
  (progress, events ++ [.log (extraction.completionRecord progress.stats)])

def statements (extraction : Extraction) : List Statement :=
  (extraction.run (Progress.start extraction)).2.filterMap Event.statement?

end Extraction

end CrateGraph
