import CrateGraph.Proofs.Extraction.Declarations

/-!
The entries that a run carries out, and the triples that it states.

A run passes over what is declared already and over implementations of types that are not declared.
The steps of all other entries it carries out, and these steps are all that it says, nodes of merely
mentioned types apart.
-/

namespace CrateGraph

open Rdf (Statement Triple)

def Event.triple? (event : Event) : Option Triple :=
  event.statement?.bind Statement.triple?

/-- The triple that a step states whatever was written before it. -/
def Step.triple? : Step → Option Triple
  | .triple stated => some stated
  | _ => none

theorem Step.eq_triple_of_triple? {step : Step} {stated : Triple}
    (states : step.triple? = some stated) : step = .triple stated := by
  cases step with
  | triple other => exact congrArg Step.triple (Option.some.inj states)
  | mention | countFunction | countUnresolved => cases states

def Entry.steps : Entry → List Step
  | .description steps => steps
  | .module _ steps => steps
  | .type _ _ steps => steps
  | .implementation _ _ steps => steps
  | _ => []

/-- Is the entry about an implementation, be it to be described or to be skipped? -/
def Entry.isImplementation : Entry → Bool
  | .implementation .. => true
  | .skippedImplementation _ => true
  | _ => false

/-- The first of some entries that asks for a declaration. -/
def Entry.firstDeclaring? (entries : List Entry) (declaration : Declaration) : Option Entry :=
  entries.find? fun entry => entry.declaration? = some declaration

namespace Progress

/-- Does a run carry out the steps of an entry that it comes to now? -/
def carriesOut (progress : Progress) : Entry → Bool
  | .module path _ => path ∉ progress.modules
  | .type iri _ _ => iri ∉ progress.types
  | .implementation _ target _ => target ∈ progress.types
  | _ => true

def carriedOut (progress : Progress) : List Entry → List Entry
  | [] => []
  | entry :: rest =>
      (if progress.carriesOut entry then [entry] else []) ++
        (progress.runEntry entry).1.carriedOut rest

theorem runEntries_append (progress : Progress) (left right : List Entry) :
    (progress.runEntries (left ++ right)).1 =
      ((progress.runEntries left).1.runEntries right).1 := by
  induction left generalizing progress with
  | nil => rfl
  | cons entry rest induction => exact induction (progress.runEntry entry).1

theorem events_runEntries_append (progress : Progress) (left right : List Entry) :
    (progress.runEntries (left ++ right)).2 =
      (progress.runEntries left).2 ++ ((progress.runEntries left).1.runEntries right).2 := by
  induction left generalizing progress with
  | nil => rfl
  | cons entry rest induction =>
      simp only [List.cons_append, runEntries, induction, List.append_assoc]

theorem carriedOut_append (progress : Progress) (left right : List Entry) :
    progress.carriedOut (left ++ right) =
      progress.carriedOut left ++ (progress.runEntries left).1.carriedOut right := by
  induction left generalizing progress with
  | nil => rfl
  | cons entry rest induction =>
      rw [List.cons_append, carriedOut, carriedOut, induction, List.append_assoc]
      rfl

theorem carriedOut_sublist (progress : Progress) (entries : List Entry) :
    (progress.carriedOut entries).Sublist entries := by
  induction entries generalizing progress with
  | nil => exact List.Sublist.refl []
  | cons entry rest induction =>
      rw [carriedOut]
      split
      · exact (induction _).cons_cons entry
      · exact (induction _).cons entry

theorem mem_carriedOut_iff (progress : Progress) (entries : List Entry) (entry : Entry) :
    entry ∈ progress.carriedOut entries ↔
      ∃ before after, entries = before ++ entry :: after ∧
        (progress.runEntries before).1.carriesOut entry := by
  constructor
  · intro member
    induction entries generalizing progress with
    | nil => cases member
    | cons first rest induction =>
        rcases List.mem_append.mp member with now | later
        · split at now
          · next carried =>
              rw [List.mem_singleton.mp now]
              exact ⟨[], rest, rfl, carried⟩
          · cases now
        · rcases induction _ later with ⟨before, after, equal, carried⟩
          exact ⟨first :: before, after, by rw [equal, List.cons_append], carried⟩
  · intro place
    rcases place with ⟨before, after, rfl, carried⟩
    rw [carriedOut_append, carriedOut, if_pos carried]
    simp

/-- Entries that are unconditional are all carried out. -/
theorem carriedOut_eq_self {entries : List Entry}
    (always : ∀ entry ∈ entries, ∀ progress : Progress, progress.carriesOut entry)
    (progress : Progress) : progress.carriedOut entries = entries := by
  induction entries generalizing progress with
  | nil => rfl
  | cons entry rest induction =>
      have further := fun other member => always other (List.mem_cons_of_mem entry member)
      rw [carriedOut, if_pos (always entry List.mem_cons_self progress), induction further]
      rfl

/-! ### When an entry is carried out -/

theorem carriesOut_congr {left right : Progress}
    (same : ∀ declaration, left.Declares declaration ↔ right.Declares declaration)
    (entry : Entry) : left.carriesOut entry = right.carriesOut entry := by
  cases entry with
  | module path steps => exact decide_eq_decide.mpr (not_congr (same (.module path)))
  | type iri fullPath steps => exact decide_eq_decide.mpr (not_congr (same (.type iri)))
  | implementation id target steps => exact decide_eq_decide.mpr (same (.type target))
  | log | namespaceName | description | skippedImplementation => rfl

/-- While nothing is declared, it does not matter when an entry is come to. -/
theorem mem_carriedOut_iff_of_undeclaring {entries : List Entry}
    (undeclaring : ∀ entry ∈ entries, entry.declaration? = none) (progress : Progress)
    (entry : Entry) :
    entry ∈ progress.carriedOut entries ↔ entry ∈ entries ∧ progress.carriesOut entry := by
  have unchanged : ∀ before after, entries = before ++ entry :: after →
      (progress.runEntries before).1.carriesOut entry = progress.carriesOut entry := by
    intro before after equal
    apply carriesOut_congr
    intro declaration
    rw [declares_runEntries]
    apply or_iff_left
    intro asking
    rcases asking with ⟨earlier, member, asked⟩
    rw [undeclaring earlier (equal ▸ List.mem_append_left _ member)] at asked
    cases asked
  rw [mem_carriedOut_iff]
  constructor
  · intro place
    rcases place with ⟨before, after, equal, carried⟩
    rw [unchanged before after equal] at carried
    exact ⟨equal ▸ by simp, carried⟩
  · intro place
    rcases place with ⟨member, carried⟩
    rcases List.append_of_mem member with ⟨before, after, equal⟩
    rw [← unchanged before after equal] at carried
    exact ⟨before, after, equal, carried⟩

theorem carriesOut_iff_not_declares (progress : Progress) {entry : Entry}
    (plain : ∀ id target steps, entry ≠ .implementation id target steps) :
    progress.carriesOut entry ↔
      ∀ declaration, entry.declaration? = some declaration → ¬progress.Declares declaration := by
  cases entry with
  | module path steps => simp [carriesOut, Entry.declaration?, Declares]
  | type iri fullPath steps => simp [carriesOut, Entry.declaration?, Declares]
  | implementation id target steps => exact absurd rfl (plain id target steps)
  | log | namespaceName | description | skippedImplementation =>
      simp [carriesOut, Entry.declaration?]

/-- A declaration is carried out by the first entry that asks for it. -/
theorem mem_carriedOut_iff_first {progress : Progress}
    (fresh : ∀ declaration, ¬progress.Declares declaration) {entries : List Entry}
    (plain : ∀ id target steps, .implementation id target steps ∉ entries) (entry : Entry) :
    entry ∈ progress.carriedOut entries ↔
      entry ∈ entries ∧ ∀ declaration, entry.declaration? = some declaration →
        Entry.firstDeclaring? entries declaration = some entry := by
  have carries : ∀ before after, entries = before ++ entry :: after →
      ((progress.runEntries before).1.carriesOut entry ↔
        ∀ declaration, entry.declaration? = some declaration →
          ∀ earlier ∈ before, earlier.declaration? ≠ some declaration) := by
    intro before after equal
    rw [carriesOut_iff_not_declares]
    · simp [declares_runEntries, fresh]
    · intro id target steps isImplementation
      apply plain id target steps
      rw [equal, isImplementation]
      simp
  rw [mem_carriedOut_iff]
  constructor
  · intro place
    rcases place with ⟨before, after, equal, carried⟩
    rw [carries before after equal] at carried
    refine ⟨equal ▸ by simp, ?_⟩
    intro declaration asked
    refine List.find?_eq_some_iff_append.mpr ⟨by simpa using asked, before, after, equal, ?_⟩
    intro earlier member
    simpa using carried declaration asked earlier member
  · intro place
    rcases place with ⟨member, first⟩
    cases asked : entry.declaration? with
    | none =>
        rcases List.append_of_mem member with ⟨before, after, equal⟩
        refine ⟨before, after, equal, (carries before after equal).mpr ?_⟩
        intro declaration isAsked
        rw [asked] at isAsked
        cases isAsked
    | some declaration =>
        rcases List.find?_eq_some_iff_append.mp (first declaration asked) with
          ⟨_, before, after, equal, earlier⟩
        refine ⟨before, after, equal, (carries before after equal).mpr ?_⟩
        intro other isAsked entry member
        obtain rfl : declaration = other := Option.some.inj (asked.symm.trans isAsked)
        simpa using earlier entry member

/-! ### What a run does at an entry -/

/-- What is noted when an entry is carried out, before its steps. -/
def note (progress : Progress) : Entry → Progress
  | .module path _ => progress.declareModule path
  | .type iri _ _ => progress.declareType iri
  | .implementation .. => progress.countImplementation
  | .skippedImplementation reason => progress.skipImplementation reason
  | _ => progress

/-- What is noted when an entry is passed over. -/
def pass (progress : Progress) : Entry → Progress
  | .implementation .. => progress.skipImplementation .foreign
  | _ => progress

theorem filterMap_triple?_describe (progress : Progress) (steps : List Step) :
    (progress.describe steps).2.filterMap Event.triple? = (progress.runSteps steps).2 := by
  have same : Event.triple? ∘ (fun triple => Event.statement (.triple triple)) = some := rfl
  rw [describe, List.filterMap_map, same, List.filterMap_some]

theorem runEntry_of_carriesOut {progress : Progress} {entry : Entry}
    (carried : progress.carriesOut entry) :
    (progress.runEntry entry).1 = ((progress.note entry).runSteps entry.steps).1 ∧
      (progress.runEntry entry).2.filterMap Event.triple? =
        ((progress.note entry).runSteps entry.steps).2 := by
  cases entry with
  | log | namespaceName | skippedImplementation => exact ⟨rfl, rfl⟩
  | description steps => exact ⟨rfl, progress.filterMap_triple?_describe steps⟩
  | module path steps =>
      have fresh : path ∉ progress.modules := of_decide_eq_true carried
      rw [runEntry, if_neg fresh]
      exact ⟨rfl, filterMap_triple?_describe _ steps⟩
  | type iri fullPath steps =>
      have fresh : iri ∉ progress.types := of_decide_eq_true carried
      rw [runEntry, if_neg fresh]
      exact ⟨rfl, filterMap_triple?_describe _ steps⟩
  | implementation id target steps =>
      have declared : target ∈ progress.types := of_decide_eq_true carried
      rw [runEntry, if_pos declared]
      exact ⟨rfl, filterMap_triple?_describe _ steps⟩

theorem runEntry_of_not_carriesOut {progress : Progress} {entry : Entry}
    (passed : ¬progress.carriesOut entry) :
    (progress.runEntry entry).1 = progress.pass entry ∧
      (progress.runEntry entry).2.filterMap Event.triple? = [] := by
  cases entry with
  | log | namespaceName | description | skippedImplementation => exact absurd rfl passed
  | module path steps =>
      have known : path ∈ progress.modules := by simpa [carriesOut] using passed
      rw [runEntry, if_pos known]
      exact ⟨rfl, rfl⟩
  | type iri fullPath steps =>
      have known : iri ∈ progress.types := by simpa [carriesOut] using passed
      rw [runEntry, if_pos known]
      exact ⟨rfl, rfl⟩
  | implementation id target steps =>
      have foreign : target ∉ progress.types := by simpa [carriesOut] using passed
      rw [runEntry, if_neg foreign]
      exact ⟨rfl, rfl⟩

/-! ### Views of the triples of a run -/

variable {View : Type} {view : Triple → Option View}

/-- Nothing of the nodes of merely mentioned types comes into the view. -/
def SkipsStubs (view : Triple → Option View) : Prop :=
  ∀ iri name, (stubNode iri name).filterMap view = []

theorem filterMap_runStep {step : Step}
    (skips : ∀ iri name, step = .mention iri name → (stubNode iri name).filterMap view = [])
    (progress : Progress) :
    (progress.runStep step).2.filterMap view = step.triple?.toList.filterMap view := by
  cases step with
  | triple triple => rfl
  | mention iri name =>
      rw [runStep]
      split
      · rfl
      · exact skips iri name rfl
  | countFunction => rfl
  | countUnresolved => rfl

/-- It is enough that the view skips the nodes of the types that the steps mention. -/
theorem filterMap_runSteps_of_mentions {steps : List Step}
    (skips : ∀ iri name, .mention iri name ∈ steps → (stubNode iri name).filterMap view = [])
    (progress : Progress) :
    (progress.runSteps steps).2.filterMap view =
      (steps.filterMap Step.triple?).filterMap view := by
  induction steps generalizing progress with
  | nil => rfl
  | cons step rest induction =>
      have first : (step :: rest).filterMap Step.triple? =
          step.triple?.toList ++ rest.filterMap Step.triple? := by
        cases step <;> rfl
      have now := filterMap_runStep
        (fun iri name same => skips iri name (same ▸ List.mem_cons_self)) progress
      have later := induction fun iri name member =>
        skips iri name (List.mem_cons_of_mem step member)
      simp only [runSteps]
      rw [first, List.filterMap_append, List.filterMap_append, now, later]

theorem filterMap_runSteps (skips : SkipsStubs view) (progress : Progress) (steps : List Step) :
    (progress.runSteps steps).2.filterMap view =
      (steps.filterMap Step.triple?).filterMap view :=
  filterMap_runSteps_of_mentions (fun iri name _ => skips iri name) progress

theorem filterMap_runEntry (skips : SkipsStubs view) (progress : Progress) (entry : Entry) :
    ((progress.runEntry entry).2.filterMap Event.triple?).filterMap view =
      ((if progress.carriesOut entry then entry.steps else []).filterMap Step.triple?).filterMap
        view := by
  split
  · next carried => rw [(runEntry_of_carriesOut carried).2, filterMap_runSteps skips]
  · next passed =>
      rw [(runEntry_of_not_carriesOut passed).2]
      rfl

theorem filterMap_runEntries (skips : SkipsStubs view) (progress : Progress)
    (entries : List Entry) :
    ((progress.runEntries entries).2.filterMap Event.triple?).filterMap view =
      (((progress.carriedOut entries).flatMap Entry.steps).filterMap Step.triple?).filterMap
        view := by
  induction entries generalizing progress with
  | nil => rfl
  | cons entry rest induction =>
      simp only [runEntries, carriedOut, List.filterMap_append, List.flatMap_append]
      rw [filterMap_runEntry skips, induction]
      split <;> simp

end Progress

namespace Extraction

def outcome (extraction : Extraction) : Progress :=
  (extraction.run (Progress.start extraction)).1

def carriedOut (extraction : Extraction) : List Entry :=
  (Progress.start extraction).carriedOut extraction.outline

def triples (extraction : Extraction) : List Triple :=
  extraction.statements.filterMap Statement.triple?

/-- The record at the end of a run says nothing of what the run hands over. -/
theorem filterMap_run {View : Type} {view : Event → Option View}
    (silent : ∀ record, view (.log record) = none) (extraction : Extraction)
    (progress : Progress) :
    (extraction.run progress).2.filterMap view =
      (progress.runEntries extraction.outline).2.filterMap view := by
  simp only [run, List.filterMap_append, List.filterMap_cons_none (silent _), List.filterMap_nil,
    List.append_nil]

theorem triples_eq (extraction : Extraction) :
    extraction.triples =
      ((Progress.start extraction).runEntries extraction.outline).2.filterMap Event.triple? := by
  rw [triples, statements, List.filterMap_filterMap]
  change List.filterMap Event.triple? (_ ++ [Event.log _]) = _
  rw [List.filterMap_append]
  exact List.append_nil _

/-- What comes into a view of the triples is what comes into it of the steps carried out. -/
theorem filterMap_triples {View : Type} {view : Triple → Option View}
    (skips : Progress.SkipsStubs view) (extraction : Extraction) :
    extraction.triples.filterMap view =
      ((extraction.carriedOut.flatMap Entry.steps).filterMap Step.triple?).filterMap view := by
  rw [triples_eq, Progress.filterMap_runEntries skips, carriedOut]

end Extraction

end CrateGraph
