import CrateGraph.Proofs.Extraction.Descriptions
import CrateGraph.Proofs.Extraction.EnteredModules
import CrateGraph.Proofs.Extraction.PrunedRuns

/-!
Runs over a crate one after the other, each with what the runs before it have written.

Only types, modules and merely mentioned types are written once; a further run says everything else
once more. An entry that it carries out declares nothing, and the first run has carried it out, too,
so all types that it mentions are known and all triples that it states were handed over.

Main statement: after any number of runs the triples are those of the first run, as a set, and the
nodes that are known and the modules that are entered are the same as after the first run.
-/

namespace CrateGraph

open Rdf (Triple)

namespace Progress

/-! ### Steps and entries that find everything written -/

theorem SameNodes.refl (progress : Progress) : SameNodes progress progress :=
  ⟨rfl, rfl, rfl⟩

theorem SameNodes.symm {left right : Progress} (same : SameNodes left right) :
    SameNodes right left :=
  ⟨same.types.symm, same.stubs.symm, same.modules.symm⟩

theorem SameNodes.trans {left middle right : Progress} (first : SameNodes left middle)
    (second : SameNodes middle right) : SameNodes left right :=
  ⟨first.types.trans second.types, first.stubs.trans second.stubs,
    first.modules.trans second.modules⟩

theorem SameNodes.knows_iff {left right : Progress} (same : SameNodes left right) (iri : String) :
    left.Knows iri ↔ right.Knows iri := by
  rw [Knows, Knows, same.types, same.stubs]

theorem SameNodes.declares_iff {left right : Progress} (same : SameNodes left right)
    (declaration : Declaration) : left.Declares declaration ↔ right.Declares declaration := by
  cases declaration with
  | module path => rw [Declares, Declares, same.modules]
  | type iri => rw [Declares, Declares, same.types]

theorem runEntries_singleton (progress : Progress) (entry : Entry) :
    progress.runEntries [entry] = progress.runEntry entry := by
  simp only [runEntries, List.append_nil]

/-- Where all mentioned types are known, steps add no node and write what they state. -/
theorem runSteps_of_knows {progress : Progress} {steps : List Step}
    (knows : ∀ iri name, .mention iri name ∈ steps → progress.Knows iri) :
    SameNodes (progress.runSteps steps).1 progress ∧
      (progress.runSteps steps).2 = steps.filterMap Step.triple? := by
  induction steps generalizing progress with
  | nil => exact ⟨.refl progress, rfl⟩
  | cons step rest induction =>
      have first : SameNodes (progress.runStep step).1 progress ∧
          (progress.runStep step).2 = step.triple?.toList := by
        cases step with
        | mention iri name =>
            have known : iri ∈ progress.types ∨ iri ∈ progress.stubs :=
              knows iri name List.mem_cons_self
            rw [runStep, if_pos known]
            exact ⟨.refl progress, rfl⟩
        | triple | countFunction | countUnresolved => exact ⟨⟨rfl, rfl, rfl⟩, rfl⟩
      have further := induction fun iri name member =>
        (first.1.knows_iff iri).mpr (knows iri name (List.mem_cons_of_mem step member))
      refine ⟨further.1.trans first.1, ?_⟩
      simp only [runSteps]
      rw [first.2, further.2]
      cases step <;> rfl

theorem not_declares_of_carriesOut {progress : Progress} {entry : Entry}
    (carried : progress.carriesOut entry) {declaration : Declaration}
    (asked : entry.declaration? = some declaration) : ¬progress.Declares declaration := by
  have plain : ∀ id target steps, entry ≠ .implementation id target steps := by
    rintro id target steps rfl
    cases asked
  exact (progress.carriesOut_iff_not_declares plain).mp carried declaration asked

/-- What is noted at an entry that declares nothing is a count. -/
theorem sameNodes_note (progress : Progress) {entry : Entry}
    (silent : entry.declaration? = none) : SameNodes (progress.note entry) progress := by
  cases entry with
  | module | type => cases silent
  | log | namespaceName | description | implementation | skippedImplementation =>
      exact ⟨rfl, rfl, rfl⟩

theorem sameNodes_pass (progress : Progress) (entry : Entry) :
    SameNodes (progress.pass entry) progress := by
  cases entry <;> exact ⟨rfl, rfl, rfl⟩

end Progress

open Progress (SameNodes)

namespace Extraction

variable {extraction : Extraction} {progress : Progress}

/-! ### A further run -/

section Further

variable (same : SameNodes progress extraction.outcome)
include same

/-- What is still carried out when everything is written has been carried out before, and it
declares nothing. -/
theorem mem_carriedOut_of_further {entry : Entry} (member : entry ∈ extraction.outline)
    (carried : progress.carriesOut entry) :
    entry ∈ extraction.carriedOut ∧ entry.declaration? = none := by
  rw [Progress.carriesOut_congr same.declares_iff] at carried
  have silent : entry.declaration? = none := by
    cases asked : entry.declaration? with
    | none => rfl
    | some declaration =>
        have declared : extraction.outcome.Declares declaration :=
          (Progress.declares_runEntries (.start extraction) extraction.outline declaration).mpr
            (Or.inr ⟨entry, member, asked⟩)
        exact absurd declared (Progress.not_declares_of_carriesOut carried asked)
  refine ⟨(extraction.mem_carriedOut_iff entry).mpr ?_, silent⟩
  rw [outline_eq, List.mem_append, List.mem_append] at member
  rcases member with (opening | walk) | closing
  · exact Or.inl opening
  · refine Or.inr (Or.inl ⟨walk, fun declaration asked => ?_⟩)
    rw [silent] at asked
    cases asked
  · exact Or.inr (Or.inr ⟨closing, carried⟩)

theorem runEntry_of_further {entry : Entry} (member : entry ∈ extraction.outline) :
    SameNodes (progress.runEntry entry).1 extraction.outcome ∧
      (progress.runEntry entry).2.filterMap Event.triple? ⊆ extraction.triples := by
  by_cases carried : progress.carriesOut entry
  · rcases mem_carriedOut_of_further same member carried with ⟨before, silent⟩
    have noted := (progress.sameNodes_note silent).trans same
    have knows : ∀ iri name, .mention iri name ∈ entry.steps →
        (progress.note entry).Knows iri := by
      intro iri name mentioned
      rw [noted.knows_iff, knows_outcome_iff]
      exact ⟨entry, before, Or.inr ⟨name, mentioned⟩⟩
    rcases Progress.runSteps_of_knows knows with ⟨nodes, written⟩
    rcases Progress.runEntry_of_carriesOut carried with ⟨state, output⟩
    rw [state, output, written]
    refine ⟨nodes.trans noted, fun triple stated => ?_⟩
    rw [mem_triples_iff_origin, statedTriples_eq, List.mem_filterMap]
    rcases List.mem_filterMap.mp stated with ⟨step, present, states⟩
    exact Or.inl ⟨step, List.mem_flatMap.mpr ⟨entry, before, present⟩, states⟩
  · rcases Progress.runEntry_of_not_carriesOut carried with ⟨state, output⟩
    rw [state, output]
    exact ⟨(progress.sameNodes_pass entry).trans same, List.nil_subset _⟩

theorem runEntries_of_further {entries : List Entry} (part : entries ⊆ extraction.outline) :
    SameNodes (progress.runEntries entries).1 extraction.outcome ∧
      (progress.runEntries entries).2.filterMap Event.triple? ⊆ extraction.triples := by
  induction entries generalizing progress with
  | nil => exact ⟨same, List.nil_subset _⟩
  | cons entry rest induction =>
      rw [List.cons_subset] at part
      rcases runEntry_of_further same part.1 with ⟨nodes, now⟩
      rcases induction nodes part.2 with ⟨atEnd, later⟩
      refine ⟨atEnd, ?_⟩
      simp only [Progress.runEntries]
      rw [List.filterMap_append]
      exact List.append_subset.mpr ⟨now, later⟩

theorem run_of_further :
    SameNodes (extraction.run progress).1 extraction.outcome ∧
      (extraction.run progress).2.filterMap Event.triple? ⊆ extraction.triples := by
  rcases runEntries_of_further same (List.Subset.refl _) with ⟨nodes, written⟩
  rw [← filterMap_run fun _ => rfl] at written
  exact ⟨nodes, written⟩

end Further

/-! ### Sessions -/

/-- What is held from one run to the next, with the triples that were handed over so far. -/
structure Session where
  progress : Progress
  entered : Finset ItemId
  triples : List Triple

def Session.start (extraction : Extraction) : Session :=
  ⟨.start extraction, ∅, []⟩

/-- A run enters and leaves modules with the set that the session holds, and goes by the entries
that the walk comes to in this way. -/
inductive Session.Runs (extraction : Extraction) (session : Session) : Session → Prop
  | run {entries : List Entry} {after : Finset ItemId}
      (walks : extraction.Walks session.entered
        (.module extraction.crate.root extraction.crateName) entries after) :
      Runs extraction session
        { progress := (session.progress.runEntries
            (extraction.opening ++ entries ++ extraction.closing)).1
          entered := after
          triples := session.triples ++ (session.progress.runEntries
            (extraction.opening ++ entries ++ extraction.closing)).2.filterMap Event.triple? }

/-- The sessions that a number of runs lead to. -/
inductive After (extraction : Extraction) : Nat → Session → Prop
  | start : After extraction 0 (.start extraction)
  | run {count : Nat} {before after : Session} (earlier : After extraction count before)
      (runs : before.Runs extraction after) : After extraction (count + 1) after

/-- The session after a number of runs, each of which has left the modules that it has entered. -/
def session (extraction : Extraction) : Nat → Session
  | 0 => .start extraction
  | count + 1 =>
      { progress := (extraction.run (extraction.session count).progress).1
        entered := ∅
        triples := (extraction.session count).triples ++
          (extraction.run (extraction.session count).progress).2.filterMap Event.triple? }

variable (extraction)

theorem runs_iff {before : Session} (after : Session) (outside : before.entered = ∅) :
    before.Runs extraction after ↔
      after =
        { progress := (extraction.run before.progress).1
          entered := ∅
          triples := before.triples ++
            (extraction.run before.progress).2.filterMap Event.triple? } := by
  rw [filterMap_run fun _ => rfl]
  constructor
  · rintro ⟨walks⟩
    rw [outside, ← List.toFinset_nil] at walks
    rcases walks_module_iff.mp walks with ⟨rfl, rfl⟩
    rfl
  · rintro rfl
    have walks : extraction.Walks _ _ _ _ :=
      walks_module [] extraction.crate.root extraction.crateName
    rw [List.toFinset_nil, ← outside] at walks
    have runs := Session.Runs.run walks
    rwa [outside] at runs

theorem entered_session (count : Nat) : (extraction.session count).entered = ∅ := by
  cases count <;> rfl

/-- Any number of runs can be made, and they lead to one session. -/
theorem after_iff (count : Nat) (session : Session) :
    extraction.After count session ↔ session = extraction.session count := by
  induction count generalizing session with
  | zero =>
      constructor
      · rintro ⟨⟩
        rfl
      · rintro rfl
        exact .start
  | succ count induction =>
      have next := extraction.runs_iff session (extraction.entered_session count)
      constructor
      · intro after
        cases after with
        | run earlier runs =>
            rw [induction] at earlier
            subst earlier
            exact next.mp runs
      · intro isNext
        exact .run ((induction _).mpr rfl) (next.mpr isNext)

theorem session_one_triples : (extraction.session 1).triples = extraction.triples := by
  rw [triples_eq, ← filterMap_run fun _ => rfl]
  exact List.nil_append _

/-- Every run after the first finds all nodes written and repeats triples. -/
theorem session_succ (count : Nat) :
    SameNodes (extraction.session (count + 1)).progress extraction.outcome ∧
      ∀ triple, triple ∈ (extraction.session (count + 1)).triples ↔
        triple ∈ extraction.triples := by
  induction count with
  | zero => exact ⟨.refl _, fun triple => by rw [session_one_triples]⟩
  | succ count induction =>
      rcases induction with ⟨nodes, triples⟩
      rcases run_of_further nodes with ⟨nodesAfter, repeated⟩
      refine ⟨nodesAfter, fun triple => ?_⟩
      rw [session, List.mem_append, triples]
      exact or_iff_left_of_imp (@repeated triple)

/-- However often a crate is extracted, there is one session that the runs lead to, and it has the
triples, the nodes and the entered modules that the first run has led to. -/
theorem repeating_adds_nothing (count : Nat) :
    (∀ session, extraction.After (count + 1) session ↔
        session = extraction.session (count + 1)) ∧
      (∀ triple, triple ∈ (extraction.session (count + 1)).triples ↔
        triple ∈ (extraction.session 1).triples) ∧
      SameNodes (extraction.session (count + 1)).progress (extraction.session 1).progress ∧
      (extraction.session (count + 1)).entered = (extraction.session 1).entered := by
  rcases extraction.session_succ count with ⟨nodes, triples⟩
  refine ⟨extraction.after_iff (count + 1), fun triple => ?_, nodes, ?_⟩
  · rw [triples, session_one_triples]
  · rw [entered_session, entered_session]

end Extraction

end CrateGraph
