import CrateGraph.Proofs.Extraction.EntryOrder
import CrateGraph.Proofs.Extraction.Origins

/-!
Entries that declare nothing, in any order.

Whether a run carries out an entry depends on what is declared. So over entries that declare nothing
it is settled beforehand which are carried out, which types they make known and which
implementations are skipped for which reason. What depends on the order is the name that a merely
mentioned type gets and the place of a reason among the reasons; the summary puts these in an order
of its own.
-/

namespace CrateGraph

/-! ### Tables with the same entries -/

theorem Table.perm_entries_iff {Value : Type} {left right : Table Value} :
    left.entries.Perm right.entries ↔ ∀ key, left.get? key = right.get? key := by
  rw [List.perm_ext_iff_of_nodup left.nodup.of_map right.nodup.of_map]
  constructor
  · intro same key
    apply Option.ext
    intro value
    rw [← mem_entries_iff, ← mem_entries_iff, same]
  · rintro same ⟨key, value⟩
    rw [mem_entries_iff, mem_entries_iff, same]

namespace ExtractionStats

/-- The same counts, with the reasons for which implementations were skipped in any order. -/
structure Agree (left right : ExtractionStats) : Prop where
  crateName : left.crateName = right.crateName
  crateVersion : left.crateVersion = right.crateVersion
  namespaces : left.namespaces = right.namespaces
  types : left.types = right.types
  functions : left.functions = right.functions
  externalTypes : left.externalTypes = right.externalTypes
  processed : left.implementationsProcessed = right.implementationsProcessed
  unresolved : left.unresolvedTypes = right.unresolvedTypes
  skipped : left.implementationsSkipped.entries.Perm right.implementationsSkipped.entries

theorem pairwise_skippedByReason (stats : ExtractionStats) :
    stats.skippedByReason.Pairwise fun first second => first.1 ≤ second.1 := by
  have sorted : stats.skippedByReason.Pairwise
      fun first second => decide (first.1 ≤ second.1) := by
    apply List.pairwise_mergeSort
    · intro first second third below further
      exact decide_eq_true
        (String.le_trans (of_decide_eq_true below) (of_decide_eq_true further))
    · intro first second
      simpa using String.le_total first.1 second.1
  exact sorted.imp of_decide_eq_true

namespace Agree

variable {left right : ExtractionStats} (agree : Agree left right)
include agree

/-- No reason has two counts, so sorting by reasons leaves no choice. -/
theorem skippedByReason_eq : left.skippedByReason = right.skippedByReason := by
  have perm : left.skippedByReason.Perm right.skippedByReason :=
    (List.mergeSort_perm _ _).trans (agree.skipped.trans (List.mergeSort_perm _ _).symm)
  refine perm.eq_of_pairwise ?_ left.pairwise_skippedByReason right.pairwise_skippedByReason
  intro first second inLeft inRight below above
  have firstIn : first ∈ left.implementationsSkipped.entries :=
    (List.mergeSort_perm _ _).mem_iff.mp inLeft
  have secondIn : second ∈ left.implementationsSkipped.entries :=
    agree.skipped.mem_iff.mpr ((List.mergeSort_perm _ _).mem_iff.mp inRight)
  exact List.inj_on_of_nodup_map left.implementationsSkipped.nodup firstIn secondIn
    (String.le_antisymm below above)

theorem summary_eq : left.summary = right.summary := by
  have empty : left.implementationsSkipped.entries.isEmpty =
      right.implementationsSkipped.entries.isEmpty := agree.skipped.isEmpty_eq
  simp only [summary, agree.skippedByReason_eq, empty, agree.crateName, agree.crateVersion,
    agree.namespaces, agree.types, agree.functions, agree.externalTypes, agree.processed,
    agree.unresolved]

end Agree

/-- What a reason that comes up makes of the count under a key. -/
def raise (key : String) (count : Option Int) (reason : String) : Option Int :=
  if reason = key then some (count.getD 0 + 1) else count

theorem get?_skip (stats : ExtractionStats) (reason key : String) :
    (stats.skip reason).implementationsSkipped.get? key =
      raise key (stats.implementationsSkipped.get? key) reason := by
  rw [skip, Table.get?_insert, raise]
  split
  · next same => rw [same]
  · rfl

theorem foldl_raise_of_perm {first second : List String} (perm : first.Perm second)
    (key : String) (count : Option Int) :
    first.foldl (raise key) count = second.foldl (raise key) count := by
  apply perm.foldl_eq'
  intro reason _ other _ count
  simp only [raise]
  split
  · split <;> rfl
  · rfl

end ExtractionStats

def Step.isUnresolved : Step → Bool
  | .countUnresolved => true
  | _ => false

namespace Progress

/-! ### What is carried out -/

theorem SameDeclared.of_undeclaring {entry : Entry} (undeclaring : entry.declaration? = none)
    (progress : Progress) : SameDeclared (progress.runEntry entry).1 progress := by
  intro declaration
  simp [declares_runEntry, undeclaring]

section Undeclaring

variable {entries : List Entry} (undeclaring : ∀ entry ∈ entries, entry.declaration? = none)
include undeclaring

theorem carriedOut_eq_filter (progress : Progress) :
    progress.carriedOut entries = entries.filter progress.carriesOut := by
  induction entries with
  | nil => rfl
  | cons entry rest induction =>
      have same := SameDeclared.of_undeclaring (undeclaring entry List.mem_cons_self) progress
      have further := induction fun other later =>
        undeclaring other (List.mem_cons_of_mem entry later)
      rw [carriedOut, same.carriedOut_eq, further, List.filter_cons]
      split <;> rfl

theorem carriedOut_perm_of_undeclaring {other : List Entry} (perm : entries.Perm other)
    (progress : Progress) : (progress.carriedOut entries).Perm (progress.carriedOut other) := by
  rw [carriedOut_eq_filter undeclaring,
    carriedOut_eq_filter fun entry member => undeclaring entry (perm.mem_iff.mpr member)]
  exact perm.filter _

end Undeclaring

/-! ### Merely mentioned types -/

theorem mem_stubs_runStep (progress : Progress) (step : Step) (iri : String) :
    iri ∈ (progress.runStep step).1.stubs ↔
      iri ∈ progress.stubs ∨ iri ∉ progress.types ∧ ∃ name, step = .mention iri name := by
  cases step with
  | mention other name =>
      rw [runStep]
      split
      · next known =>
          refine (or_iff_left_of_imp ?_).symm
          rintro ⟨undeclared, _, same⟩
          cases same
          exact known.resolve_left undeclared
      · next fresh =>
          simp only [List.mem_cons, Step.mention.injEq]
          constructor
          · rintro (rfl | old)
            · exact Or.inr ⟨fun declared => fresh (Or.inl declared), name, rfl, rfl⟩
            · exact Or.inl old
          · rintro (old | ⟨_, _, rfl, _⟩)
            · exact Or.inr old
            · exact Or.inl rfl
  | triple | countFunction | countUnresolved => simp [runStep]

theorem mem_stubs_runSteps (progress : Progress) (steps : List Step) (iri : String) :
    iri ∈ (progress.runSteps steps).1.stubs ↔
      iri ∈ progress.stubs ∨ iri ∉ progress.types ∧ ∃ name, .mention iri name ∈ steps := by
  induction steps generalizing progress with
  | nil => simp [runSteps]
  | cons step rest induction =>
      have further := induction (progress.runStep step).1
      rw [mem_stubs_runStep, (progress.sameEntry_runStep step).types, or_assoc, ← and_or_left,
        ← exists_or] at further
      simpa [runSteps, eq_comm] using further

theorem mem_stubs_runEntry {entry : Entry} (undeclaring : entry.declaration? = none)
    (progress : Progress) (iri : String) :
    iri ∈ (progress.runEntry entry).1.stubs ↔
      iri ∈ progress.stubs ∨ iri ∉ progress.types ∧ progress.carriesOut entry ∧
        ∃ name, .mention iri name ∈ entry.steps := by
  by_cases carried : progress.carriesOut entry
  · have noted : (progress.note entry).stubs = progress.stubs ∧
        (progress.note entry).types = progress.types := by
      cases entry with
      | module | type => cases undeclaring
      | log | namespaceName | description | implementation | skippedImplementation =>
          exact ⟨rfl, rfl⟩
    rw [(runEntry_of_carriesOut carried).1, mem_stubs_runSteps, noted.1, noted.2]
    simp [carried]
  · have passed : (progress.pass entry).stubs = progress.stubs := by
      cases entry <;> rfl
    rw [(runEntry_of_not_carriesOut carried).1, passed]
    simp [carried]

/-- A type becomes known as merely mentioned if it is not declared and something carried out
mentions it. -/
theorem mem_stubs_runEntries {entries : List Entry}
    (undeclaring : ∀ entry ∈ entries, entry.declaration? = none) (progress : Progress)
    (iri : String) :
    iri ∈ (progress.runEntries entries).1.stubs ↔
      iri ∈ progress.stubs ∨ iri ∉ progress.types ∧
        ∃ entry ∈ progress.carriedOut entries, ∃ name, .mention iri name ∈ entry.steps := by
  induction entries generalizing progress with
  | nil => simp [runEntries, carriedOut]
  | cons entry rest induction =>
      have now := undeclaring entry List.mem_cons_self
      have declared : iri ∈ (progress.runEntry entry).1.types ↔ iri ∈ progress.types :=
        SameDeclared.of_undeclaring now progress (.type iri)
      have further := induction
        (fun other later => undeclaring other (List.mem_cons_of_mem entry later))
        (progress.runEntry entry).1
      rw [mem_stubs_runEntry now, declared, or_assoc, ← and_or_left] at further
      rw [carriedOut]
      refine further.trans ?_
      split
      · next carried => simp [carried]
      · next passed => simp [passed]

/-! ### Counts -/

theorem unresolved_runStep (progress : Progress) (step : Step) :
    (progress.runStep step).1.stats.unresolvedTypes =
      progress.stats.unresolvedTypes + if step.isUnresolved then 1 else 0 := by
  cases step with
  | mention iri name =>
      rw [runStep]
      split <;> exact (Int.add_zero _).symm
  | triple | countFunction => exact (Int.add_zero _).symm
  | countUnresolved => rfl

theorem unresolved_runSteps (progress : Progress) (steps : List Step) :
    (progress.runSteps steps).1.stats.unresolvedTypes =
      progress.stats.unresolvedTypes + steps.countP Step.isUnresolved := by
  induction steps generalizing progress with
  | nil => simp [runSteps]
  | cons step rest induction =>
      change ((progress.runStep step).1.runSteps rest).1.stats.unresolvedTypes = _
      rw [induction, unresolved_runStep, List.countP_cons]
      split <;> omega

theorem unresolved_runEntries (progress : Progress) (entries : List Entry) :
    (progress.runEntries entries).1.stats.unresolvedTypes =
      progress.stats.unresolvedTypes +
        ((progress.carriedOut entries).flatMap Entry.steps).countP Step.isUnresolved := by
  induction entries generalizing progress with
  | nil => simp [runEntries, carriedOut]
  | cons entry rest induction =>
      have now : (progress.runEntry entry).1.stats.unresolvedTypes =
          progress.stats.unresolvedTypes +
            (if progress.carriesOut entry then entry.steps else []).countP Step.isUnresolved := by
        split
        · next carried =>
            rw [(runEntry_of_carriesOut carried).1, unresolved_runSteps]
            cases entry <;> rfl
        · next passed =>
            rw [(runEntry_of_not_carriesOut passed).1]
            cases entry <;> exact (Int.add_zero _).symm
      change ((progress.runEntry entry).1.runEntries rest).1.stats.unresolvedTypes = _
      rw [induction, now, carriedOut, List.flatMap_append, List.countP_append]
      split
      · simp only [List.flatMap_singleton]
        omega
      · simp only [List.flatMap_nil, List.countP_nil]
        omega

def heading (progress : Progress) : String × String :=
  (progress.stats.crateName, progress.stats.crateVersion)

theorem heading_runSteps (progress : Progress) (steps : List Step) :
    (progress.runSteps steps).1.heading = progress.heading := by
  induction steps generalizing progress with
  | nil => rfl
  | cons step rest induction =>
      have now : (progress.runStep step).1.heading = progress.heading := by
        cases step with
        | mention iri name =>
            rw [runStep]
            split <;> rfl
        | triple | countFunction | countUnresolved => rfl
      exact (induction (progress.runStep step).1).trans now

theorem heading_runEntries (progress : Progress) (entries : List Entry) :
    (progress.runEntries entries).1.heading = progress.heading := by
  induction entries generalizing progress with
  | nil => rfl
  | cons entry rest induction =>
      have now : (progress.runEntry entry).1.heading = progress.heading := by
        by_cases carried : progress.carriesOut entry
        · rw [(runEntry_of_carriesOut carried).1, heading_runSteps]
          cases entry <;> rfl
        · rw [(runEntry_of_not_carriesOut carried).1]
          cases entry <;> rfl
      exact (induction (progress.runEntry entry).1).trans now

/-! ### Skipped implementations -/

/-- The reason for which a run that comes to an entry now skips an implementation, if it does. -/
def skipReason? (progress : Progress) : Entry → Option SkipReason
  | .implementation _ target _ => if target ∈ progress.types then none else some .foreign
  | .skippedImplementation reason => some reason
  | _ => none

theorem SameDeclared.skipReason?_eq {left right : Progress} (same : SameDeclared left right) :
    left.skipReason? = right.skipReason? := by
  funext entry
  cases entry with
  | implementation id target steps =>
      have declared : target ∈ left.types ↔ target ∈ right.types := same (.type target)
      simp only [skipReason?, declared]
  | log | namespaceName | description | module | type | skippedImplementation => rfl

theorem get?_skipped_runEntry (progress : Progress) (entry : Entry) (key : String) :
    (progress.runEntry entry).1.stats.implementationsSkipped.get? key =
      ((progress.skipReason? entry).toList.map SkipReason.name).foldl (ExtractionStats.raise key)
        (progress.stats.implementationsSkipped.get? key) := by
  by_cases carried : progress.carriesOut entry
  · rw [(runEntry_of_carriesOut carried).1, (sameEntry_runSteps _ _).skipped]
    cases entry with
    | implementation id target steps =>
        have declared : target ∈ progress.types := of_decide_eq_true carried
        simp [note, countImplementation, skipReason?, declared]
    | skippedImplementation reason => exact progress.stats.get?_skip reason.name key
    | log | namespaceName | description | module | type => rfl
  · rw [(runEntry_of_not_carriesOut carried).1]
    cases entry with
    | implementation id target steps =>
        have foreign : target ∉ progress.types := by simpa [carriesOut] using carried
        rw [skipReason?, if_neg foreign]
        exact progress.stats.get?_skip SkipReason.foreign.name key
    | skippedImplementation => exact absurd rfl carried
    | log | namespaceName | description | module | type => rfl

theorem get?_skipped_runEntries {entries : List Entry}
    (undeclaring : ∀ entry ∈ entries, entry.declaration? = none) (progress : Progress)
    (key : String) :
    (progress.runEntries entries).1.stats.implementationsSkipped.get? key =
      ((entries.filterMap progress.skipReason?).map SkipReason.name).foldl
        (ExtractionStats.raise key) (progress.stats.implementationsSkipped.get? key) := by
  induction entries generalizing progress with
  | nil => rfl
  | cons entry rest induction =>
      have same := SameDeclared.of_undeclaring (undeclaring entry List.mem_cons_self) progress
      have further := induction
        (fun other later => undeclaring other (List.mem_cons_of_mem entry later))
        (progress.runEntry entry).1
      rw [get?_skipped_runEntry, same.skipReason?_eq, ← List.foldl_append, ← List.map_append]
        at further
      rw [List.filterMap_cons]
      refine further.trans ?_
      cases progress.skipReason? entry <;> rfl

theorem skipped_runEntries_perm {first second : List Entry}
    (undeclaring : ∀ entry ∈ first, entry.declaration? = none) (perm : first.Perm second)
    (progress : Progress) :
    (progress.runEntries first).1.stats.implementationsSkipped.entries.Perm
      (progress.runEntries second).1.stats.implementationsSkipped.entries := by
  rw [Table.perm_entries_iff]
  intro key
  rw [get?_skipped_runEntries undeclaring,
    get?_skipped_runEntries fun entry member => undeclaring entry (perm.mem_iff.mpr member)]
  exact ExtractionStats.foldl_raise_of_perm ((perm.filterMap _).map _) key _

end Progress

end CrateGraph
