import CrateGraph.Extraction.Run

/-!
What a run declares.

An entry of the outline may declare a module by its path or a type by its address. A run ends up
with exactly the declarations among its entries, whatever else the entries say and in whatever
order they come.
-/

namespace CrateGraph

/-- What a run remembers to have written in full. -/
inductive Declaration where
  | module (path : String)
  | type (iri : String)
deriving DecidableEq

def Entry.declaration? : Entry → Option Declaration
  | .module path _ => some (.module path)
  | .type iri _ _ => some (.type iri)
  | _ => none

namespace Progress

def Declares (progress : Progress) : Declaration → Prop
  | .module path => path ∈ progress.modules
  | .type iri => iri ∈ progress.types

theorem Declares.congr {left right : Progress} (modules : left.modules = right.modules)
    (types : left.types = right.types) (declaration : Declaration) :
    left.Declares declaration ↔ right.Declares declaration := by
  cases declaration with
  | module path => rw [Declares, Declares, modules]
  | type iri => rw [Declares, Declares, types]

theorem declares_declareModule (progress : Progress) (path : String) (declaration : Declaration) :
    (progress.declareModule path).Declares declaration ↔
      progress.Declares declaration ∨ Declaration.module path = declaration := by
  cases declaration with
  | module other =>
      simp only [Declares, declareModule, List.mem_cons, Declaration.module.injEq]
      rw [or_comm, eq_comm]
  | type iri => simp only [Declares, declareModule, reduceCtorEq, or_false]

theorem declares_declareType (progress : Progress) (iri : String) (declaration : Declaration) :
    (progress.declareType iri).Declares declaration ↔
      progress.Declares declaration ∨ Declaration.type iri = declaration := by
  cases declaration with
  | module path => simp only [Declares, declareType, reduceCtorEq, or_false]
  | type other =>
      simp only [Declares, declareType, List.mem_cons, Declaration.type.injEq]
      rw [or_comm, eq_comm]

/-! ### Steps declare nothing -/

theorem declares_runStep (progress : Progress) (step : Step) (declaration : Declaration) :
    (progress.runStep step).1.Declares declaration ↔ progress.Declares declaration := by
  cases step with
  | triple triple => rfl
  | mention iri name =>
      rw [runStep]
      split
      · rfl
      · exact Declares.congr rfl rfl declaration
  | countFunction => exact Declares.congr rfl rfl declaration
  | countUnresolved => exact Declares.congr rfl rfl declaration

theorem declares_describe (progress : Progress) (steps : List Step) (declaration : Declaration) :
    (progress.describe steps).1.Declares declaration ↔ progress.Declares declaration := by
  change (progress.runSteps steps).1.Declares declaration ↔ _
  induction steps generalizing progress with
  | nil => rfl
  | cons step rest induction =>
      exact (induction (progress.runStep step).1).trans
        (progress.declares_runStep step declaration)

/-! ### Entries declare what they ask for -/

theorem declares_runEntry (progress : Progress) (entry : Entry) (declaration : Declaration) :
    (progress.runEntry entry).1.Declares declaration ↔
      progress.Declares declaration ∨ entry.declaration? = some declaration := by
  cases entry with
  | module path steps =>
      simp only [runEntry, Entry.declaration?, Option.some.injEq]
      split
      · next known =>
          have kept : Declaration.module path = declaration → progress.Declares declaration := by
            intro equal
            subst equal
            exact known
          exact (or_iff_left_of_imp kept).symm
      · rw [declares_describe, declares_declareModule]
  | type iri fullPath steps =>
      simp only [runEntry, Entry.declaration?, Option.some.injEq]
      split
      · next known =>
          have kept : Declaration.type iri = declaration → progress.Declares declaration := by
            intro equal
            subst equal
            exact known
          exact (or_iff_left_of_imp kept).symm
      · rw [declares_describe, declares_declareType]
  | implementation id target steps =>
      simp only [runEntry, Entry.declaration?, reduceCtorEq, or_false]
      split
      · rw [declares_describe]
        exact Declares.congr rfl rfl declaration
      · exact Declares.congr rfl rfl declaration
  | description steps =>
      simp only [runEntry, Entry.declaration?, reduceCtorEq, or_false]
      exact progress.declares_describe steps declaration
  | log record => simp only [runEntry, Entry.declaration?, reduceCtorEq, or_false]
  | namespaceName name iri => simp only [runEntry, Entry.declaration?, reduceCtorEq, or_false]
  | skippedImplementation reason =>
      simp only [runEntry, Entry.declaration?, reduceCtorEq, or_false]
      exact Declares.congr rfl rfl declaration

/-! ### Runs declare what their entries ask for -/

theorem declares_runEntries (progress : Progress) (entries : List Entry)
    (declaration : Declaration) :
    (progress.runEntries entries).1.Declares declaration ↔
      progress.Declares declaration ∨
        ∃ entry ∈ entries, entry.declaration? = some declaration := by
  induction entries generalizing progress with
  | nil => simp [runEntries]
  | cons entry rest induction =>
      have further := induction (progress.runEntry entry).1
      rw [declares_runEntry, or_assoc] at further
      simpa [runEntries, List.mem_cons, exists_eq_or_imp] using further

theorem not_declares_start (extraction : Extraction) (declaration : Declaration) :
    ¬(Progress.start extraction).Declares declaration := by
  cases declaration with
  | module path => exact List.not_mem_nil
  | type iri => exact List.not_mem_nil

end Progress

namespace Extraction

theorem declaration?_of_mem_implementationEntries (extraction : Extraction) {id : ItemId}
    {body : ImplementationBody} {entry : Entry}
    (member : entry ∈ extraction.implementationEntries id body) : entry.declaration? = none := by
  unfold implementationEntries at member
  split at member
  · rw [List.mem_singleton.mp member]
    rfl
  · split at member
    · rw [List.mem_singleton.mp member]
      rfl
    · split at member
      · simp only [List.mem_cons, List.not_mem_nil, or_false] at member
        rcases member with equal | equal
        · rw [equal]
          rfl
        · rw [equal]
          rfl
      · rw [List.mem_singleton.mp member]
        rfl

theorem declaration?_of_mem_allImplementationEntries (extraction : Extraction) {entry : Entry}
    (member : entry ∈ extraction.allImplementationEntries) : entry.declaration? = none := by
  rcases List.mem_cons.mp member with equal | later
  · rw [equal]
    rfl
  · rcases List.mem_flatMap.mp later with ⟨⟨id, body⟩, _, inEntries⟩
    exact extraction.declaration?_of_mem_implementationEntries inEntries

/-- Of the whole outline only the walk through the modules asks for declarations. -/
theorem declares_run_iff (extraction : Extraction) (declaration : Declaration) :
    (extraction.run (Progress.start extraction)).1.Declares declaration ↔
      ∃ entry ∈ extraction.moduleEntries [] extraction.crate.root extraction.crateName,
        entry.declaration? = some declaration := by
  change ((Progress.start extraction).runEntries extraction.outline).1.Declares declaration ↔ _
  rw [Progress.declares_runEntries, or_iff_right (Progress.not_declares_start extraction _)]
  constructor
  · intro asking
    rcases asking with ⟨entry, member, asked⟩
    simp only [outline, List.mem_append, List.mem_singleton, namespaceEntries, List.mem_map]
      at member
    rcases member with (((⟨_, _, rfl⟩ | rfl) | ⟨_, _, rfl⟩) | walked) | later
    · cases asked
    · cases asked
    · cases asked
    · exact ⟨entry, walked, asked⟩
    · split at later
      · rw [extraction.declaration?_of_mem_allImplementationEntries later] at asked
        cases asked
      · cases later
  · intro walking
    rcases walking with ⟨entry, walked, asked⟩
    refine ⟨entry, ?_, asked⟩
    simp only [outline, List.mem_append]
    exact Or.inl (Or.inr walked)

end Extraction

end CrateGraph
