import CrateGraph.Proofs.Extraction.CarriedOut

/-!
Where the triples of a run come from, and which types it knows.

A run writes a triple because a description states it, or as a part of the node of a type that a
description merely mentions. It knows a type once it has declared it or written such a node, and in
the end it knows the types that it has declared or that something carried out mentions.
-/

namespace CrateGraph

open Rdf (Triple)

def Step.isMention : Step → Bool
  | .mention _ _ => true
  | _ => false

namespace Progress

/-! ### The steps at which triples are written -/

/-- The triples that a run writes at those of its steps that are wanted. -/
def writtenAt (wanted : Step → Bool) (progress : Progress) : List Step → List Triple
  | [] => []
  | step :: rest =>
      (if wanted step then (progress.runStep step).2 else []) ++
        (progress.runStep step).1.writtenAt wanted rest

/-- The same over the steps of entries, where these are carried out. -/
def entriesWrittenAt (wanted : Step → Bool) (progress : Progress) : List Entry → List Triple
  | [] => []
  | entry :: rest =>
      (if progress.carriesOut entry then (progress.note entry).writtenAt wanted entry.steps
        else []) ++
        (progress.runEntry entry).1.entriesWrittenAt wanted rest

theorem writtenAt_true (progress : Progress) (steps : List Step) :
    progress.writtenAt (fun _ => true) steps = (progress.runSteps steps).2 := by
  induction steps generalizing progress with
  | nil => rfl
  | cons step rest induction =>
      rw [writtenAt, if_pos rfl, induction]
      rfl

theorem entriesWrittenAt_true (progress : Progress) (entries : List Entry) :
    progress.entriesWrittenAt (fun _ => true) entries =
      (progress.runEntries entries).2.filterMap Event.triple? := by
  induction entries generalizing progress with
  | nil => rfl
  | cons entry rest induction =>
      have first : (if progress.carriesOut entry then
          (progress.note entry).writtenAt (fun _ => true) entry.steps else []) =
            (progress.runEntry entry).2.filterMap Event.triple? := by
        split
        · next carried => rw [writtenAt_true, (runEntry_of_carriesOut carried).2]
        · next passed => rw [(runEntry_of_not_carriesOut passed).2]
      rw [entriesWrittenAt, first, induction, ← List.filterMap_append]
      rfl

/-- Steps that are no mentions write what they state. -/
theorem writtenAt_statements (progress : Progress) (steps : List Step) :
    progress.writtenAt (!·.isMention) steps = steps.filterMap Step.triple? := by
  induction steps generalizing progress with
  | nil => rfl
  | cons step rest induction =>
      rw [writtenAt, induction]
      cases step <;> rfl

theorem entriesWrittenAt_statements (progress : Progress) (entries : List Entry) :
    progress.entriesWrittenAt (!·.isMention) entries =
      ((progress.carriedOut entries).flatMap Entry.steps).filterMap Step.triple? := by
  induction entries generalizing progress with
  | nil => rfl
  | cons entry rest induction =>
      rw [entriesWrittenAt, induction, carriedOut, List.flatMap_append, List.filterMap_append]
      split
      · rw [writtenAt_statements, List.flatMap_singleton]
      · rfl

theorem mem_writtenAt_true_iff (wanted : Step → Bool) (progress : Progress) (steps : List Step)
    (triple : Triple) :
    triple ∈ progress.writtenAt (fun _ => true) steps ↔
      triple ∈ progress.writtenAt (!wanted ·) steps ∨ triple ∈ progress.writtenAt wanted steps := by
  induction steps generalizing progress with
  | nil => simp [writtenAt]
  | cons step rest induction =>
      simp only [writtenAt, List.mem_append, induction, if_true]
      by_cases chosen : wanted step
      · simp [chosen, or_left_comm]
      · simp [chosen, or_assoc]

theorem mem_entriesWrittenAt_true_iff (wanted : Step → Bool) (progress : Progress)
    (entries : List Entry) (triple : Triple) :
    triple ∈ progress.entriesWrittenAt (fun _ => true) entries ↔
      triple ∈ progress.entriesWrittenAt (!wanted ·) entries ∨
        triple ∈ progress.entriesWrittenAt wanted entries := by
  induction entries generalizing progress with
  | nil => simp [entriesWrittenAt]
  | cons entry rest induction =>
      simp only [entriesWrittenAt, List.mem_append, induction]
      cases progress.carriesOut entry
      · simp
      · simp only [if_true, mem_writtenAt_true_iff wanted]
        rw [or_or_or_comm]

/-- What is written at a mention is part of a node that is written there as a whole. -/
theorem exists_stubNode_of_mem_writtenAt {progress : Progress} {steps : List Step}
    {triple : Triple} (written : triple ∈ progress.writtenAt Step.isMention steps) :
    ∃ iri name, triple ∈ stubNode iri name ∧
      stubNode iri name ⊆ progress.writtenAt Step.isMention steps := by
  induction steps generalizing progress with
  | nil => cases written
  | cons step rest induction =>
      rw [writtenAt] at written ⊢
      rcases List.mem_append.mp written with now | later
      · cases step with
        | mention iri name =>
            simp only [Step.isMention, if_true, runStep] at now ⊢
            split at now
            · cases now
            · next fresh =>
                rw [if_neg fresh]
                exact ⟨iri, name, now, List.subset_append_left _ _⟩
        | triple | countFunction | countUnresolved => cases now
      · rcases induction later with ⟨iri, name, inNode, whole⟩
        exact ⟨iri, name, inNode, List.Subset.trans whole (List.subset_append_right _ _)⟩

theorem exists_stubNode_of_mem_entriesWrittenAt {progress : Progress} {entries : List Entry}
    {triple : Triple} (written : triple ∈ progress.entriesWrittenAt Step.isMention entries) :
    ∃ iri name, triple ∈ stubNode iri name ∧
      stubNode iri name ⊆ progress.entriesWrittenAt Step.isMention entries := by
  induction entries generalizing progress with
  | nil => cases written
  | cons entry rest induction =>
      rw [entriesWrittenAt] at written ⊢
      rcases List.mem_append.mp written with now | later
      · split at now
        · next carried =>
            rcases exists_stubNode_of_mem_writtenAt now with ⟨iri, name, inNode, whole⟩
            rw [if_pos carried]
            exact ⟨iri, name, inNode, List.Subset.trans whole (List.subset_append_left _ _)⟩
        · cases now
      · rcases induction later with ⟨iri, name, inNode, whole⟩
        exact ⟨iri, name, inNode, List.Subset.trans whole (List.subset_append_right _ _)⟩

/-- What a run writes at a step, if it writes anything there. -/
def mayWrite : Step → List Triple
  | .triple stated => [stated]
  | .mention iri name => stubNode iri name
  | _ => []

theorem runStep_subset_mayWrite (progress : Progress) (step : Step) :
    (progress.runStep step).2 ⊆ mayWrite step := by
  cases step with
  | triple => exact List.Subset.refl _
  | mention iri name =>
      rw [runStep]
      split
      · exact List.nil_subset _
      · exact List.Subset.refl _
  | countFunction | countUnresolved => exact List.nil_subset _

theorem runSteps_subset_mayWrite (progress : Progress) (steps : List Step) :
    (progress.runSteps steps).2 ⊆ steps.flatMap mayWrite := by
  induction steps generalizing progress with
  | nil => exact List.Subset.refl _
  | cons step rest induction =>
      exact List.append_subset.mpr
        ⟨List.subset_append_of_subset_left _ (progress.runStep_subset_mayWrite step),
          List.subset_append_of_subset_right _ (induction _)⟩

theorem runEntries_subset_mayWrite (progress : Progress) (entries : List Entry) :
    (progress.runEntries entries).2.filterMap Event.triple? ⊆
      (entries.flatMap Entry.steps).flatMap mayWrite := by
  induction entries generalizing progress with
  | nil => exact List.Subset.refl _
  | cons entry rest induction =>
      have now : (progress.runEntry entry).2.filterMap Event.triple? ⊆
          entry.steps.flatMap mayWrite := by
        by_cases carried : progress.carriesOut entry
        · rw [(runEntry_of_carriesOut carried).2]
          exact runSteps_subset_mayWrite _ _
        · rw [(runEntry_of_not_carriesOut carried).2]
          exact List.nil_subset _
      have later := induction (progress.runEntry entry).1
      simp only [runEntries]
      rw [List.filterMap_append, List.flatMap_cons, List.flatMap_append]
      exact List.append_subset.mpr
        ⟨List.subset_append_of_subset_left _ now, List.subset_append_of_subset_right _ later⟩

/-! ### The types that a run knows -/

/-- The type with the address is declared or has a node as one that is merely mentioned. -/
def Knows (progress : Progress) (iri : String) : Prop :=
  iri ∈ progress.types ∨ iri ∈ progress.stubs

theorem knows_runStep (progress : Progress) (step : Step) (iri : String) :
    (progress.runStep step).1.Knows iri ↔
      progress.Knows iri ∨ ∃ name, step = .mention iri name := by
  cases step with
  | mention other name =>
      rw [runStep]
      split
      · next known =>
          have again : (∃ written, Step.mention other name = .mention iri written) →
              progress.Knows iri := by
            rintro ⟨_, same⟩
            cases same
            exact known
          exact (or_iff_left_of_imp again).symm
      · simp [Knows, or_left_comm, or_comm, eq_comm]
  | triple | countFunction | countUnresolved => simp [runStep, Knows]

theorem knows_runSteps (progress : Progress) (steps : List Step) (iri : String) :
    (progress.runSteps steps).1.Knows iri ↔
      progress.Knows iri ∨ ∃ name, .mention iri name ∈ steps := by
  induction steps generalizing progress with
  | nil => simp [runSteps]
  | cons step rest induction =>
      have further := induction (progress.runStep step).1
      rw [knows_runStep, or_assoc, ← exists_or] at further
      simpa [runSteps, eq_comm] using further

end Progress

namespace Entry

/-- The entry declares the type with the address, or its steps mention it. -/
def Names (entry : Entry) (iri : String) : Prop :=
  entry.declaration? = some (.type iri) ∨ ∃ name, .mention iri name ∈ entry.steps

end Entry

namespace Progress

theorem knows_runEntry (progress : Progress) (entry : Entry) (iri : String) :
    (progress.runEntry entry).1.Knows iri ↔
      progress.Knows iri ∨ (progress.carriesOut entry ∧ entry.Names iri) := by
  by_cases carried : progress.carriesOut entry
  · rw [(runEntry_of_carriesOut carried).1, knows_runSteps]
    have noted : (progress.note entry).Knows iri ↔
        progress.Knows iri ∨ entry.declaration? = some (.type iri) := by
      cases entry with
      | type other fullPath steps =>
          simp only [note, declareType, Knows, Entry.declaration?, List.mem_cons,
            Option.some.injEq, Declaration.type.injEq]
          rw [or_assoc, or_comm, eq_comm]
      | log | namespaceName | description | module | implementation | skippedImplementation =>
          simp [note, declareModule, countImplementation, skipImplementation, Knows,
            Entry.declaration?]
    simp [noted, carried, Entry.Names, or_assoc]
  · rw [(runEntry_of_not_carriesOut carried).1]
    have passed : (progress.pass entry).Knows iri ↔ progress.Knows iri := by
      cases entry <;> rfl
    simp [passed, carried]

theorem knows_runEntries (progress : Progress) (entries : List Entry) (iri : String) :
    (progress.runEntries entries).1.Knows iri ↔
      progress.Knows iri ∨ ∃ entry ∈ progress.carriedOut entries, entry.Names iri := by
  induction entries generalizing progress with
  | nil => simp [runEntries, carriedOut]
  | cons entry rest induction =>
      have further := induction (progress.runEntry entry).1
      rw [knows_runEntry, or_assoc] at further
      rw [carriedOut]
      apply further.trans
      split
      · next carried => simp [carried]
      · next passed => simp [passed]

end Progress

namespace Extraction

variable (extraction : Extraction)

/-- The triples that the first run over the crate writes at those of its steps that are wanted. -/
def triplesAt (wanted : Step → Bool) : List Triple :=
  (Progress.start extraction).entriesWrittenAt wanted extraction.outline

theorem triplesAt_true : extraction.triplesAt (fun _ => true) = extraction.triples := by
  rw [triplesAt, Progress.entriesWrittenAt_true, triples_eq]

/-- The triples that descriptions state, the nodes of merely mentioned types set aside. -/
def statedTriples : List Triple :=
  extraction.triplesAt (!·.isMention)

def stubTriples : List Triple :=
  extraction.triplesAt Step.isMention

theorem statedTriples_eq :
    extraction.statedTriples =
      (extraction.carriedOut.flatMap Entry.steps).filterMap Step.triple? :=
  Progress.entriesWrittenAt_statements _ _

theorem mem_triples_iff_origin (triple : Triple) :
    triple ∈ extraction.triples ↔
      triple ∈ extraction.statedTriples ∨ triple ∈ extraction.stubTriples := by
  rw [← triplesAt_true]
  exact Progress.mem_entriesWrittenAt_true_iff Step.isMention _ _ triple

theorem exists_stubNode_of_mem_stubTriples {triple : Triple}
    (written : triple ∈ extraction.stubTriples) :
    ∃ iri name, triple ∈ Progress.stubNode iri name ∧
      Progress.stubNode iri name ⊆ extraction.stubTriples :=
  Progress.exists_stubNode_of_mem_entriesWrittenAt written

theorem triples_subset_mayWrite :
    extraction.triples ⊆ (extraction.outline.flatMap Entry.steps).flatMap Progress.mayWrite := by
  rw [triples_eq]
  exact Progress.runEntries_subset_mayWrite _ _

theorem knows_outcome_iff (iri : String) :
    extraction.outcome.Knows iri ↔ ∃ entry ∈ extraction.carriedOut, entry.Names iri := by
  have fresh : ¬(Progress.start extraction).Knows iri := by
    simp [Progress.start, Progress.Knows]
  apply ((Progress.start extraction).knows_runEntries extraction.outline iri).trans
  rw [or_iff_right fresh]
  rfl

end Extraction

end CrateGraph
