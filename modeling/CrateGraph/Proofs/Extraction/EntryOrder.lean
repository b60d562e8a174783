import CrateGraph.Proofs.Extraction.Tallies
import Mathlib.Data.List.Perm.Basic

/-!
The order of the entries of a run.

Of several entries that ask for the same declaration a run carries out the first. Where these are
all the same entry, their order does not matter: two runs that come to the same entries in different
orders carry out the same entries.
-/

namespace CrateGraph

/-- Entries whose order does not matter: none is about an implementation, and those that ask for
the same declaration are the same. -/
structure Entry.Interchangeable (entries : List Entry) : Prop where
  plain : ∀ entry ∈ entries, entry.isImplementation = false
  unambiguous : ∀ declaration, ∀ first ∈ entries, ∀ second ∈ entries,
    first.declaration? = some declaration → second.declaration? = some declaration →
    first = second

theorem Entry.Interchangeable.mono {entries part : List Entry}
    (interchangeable : Interchangeable entries) (subset : part ⊆ entries) :
    Interchangeable part where
  plain entry member := interchangeable.plain entry (subset member)
  unambiguous declaration first isFirst second isSecond :=
    interchangeable.unambiguous declaration first (subset isFirst) second (subset isSecond)

namespace Progress

/-- Two moments, of one run or of two, at which the same is declared. -/
def SameDeclared (left right : Progress) : Prop :=
  ∀ declaration, left.Declares declaration ↔ right.Declares declaration

namespace SameDeclared

variable {left right : Progress}

theorem refl (progress : Progress) : SameDeclared progress progress :=
  fun _ => Iff.rfl

theorem runEntry (same : SameDeclared left right) (entry : Entry) :
    SameDeclared (left.runEntry entry).1 (right.runEntry entry).1 := by
  intro declaration
  rw [declares_runEntry, declares_runEntry, same declaration]

theorem runEntries_of_perm (same : SameDeclared left right) {first second : List Entry}
    (perm : first.Perm second) :
    SameDeclared (left.runEntries first).1 (right.runEntries second).1 := by
  intro declaration
  simp only [declares_runEntries, same declaration, perm.mem_iff]

theorem carriedOut_eq (same : SameDeclared left right) (entries : List Entry) :
    left.carriedOut entries = right.carriedOut entries := by
  induction entries generalizing left right with
  | nil => rfl
  | cons entry rest induction =>
      rw [carriedOut, carriedOut, carriesOut_congr same, induction (same.runEntry entry)]

end SameDeclared

/-! ### Entries in two orders -/

/-- Whether an entry is carried out does not depend on one before it that asks for another
declaration. -/
theorem carriesOut_runEntry {entry earlier : Entry} (plain : entry.isImplementation = false)
    (apart : ∀ declaration, earlier.declaration? = some declaration →
      entry.declaration? ≠ some declaration) (progress : Progress) :
    (progress.runEntry earlier).1.carriesOut entry = progress.carriesOut entry := by
  have described : ∀ id target steps, entry ≠ .implementation id target steps := by
    rintro id target steps rfl
    cases plain
  rw [Bool.eq_iff_iff, carriesOut_iff_not_declares _ described,
    carriesOut_iff_not_declares _ described]
  apply forall_congr'
  intro declaration
  apply imp_congr_right
  intro asked
  rw [declares_runEntry, or_iff_left]
  intro askedEarlier
  exact apart declaration askedEarlier asked

/-- Two entries in a row are carried out alike in either order. -/
theorem carriedOut_swap {left right : Progress} (same : SameDeclared left right)
    {first second : Entry} {rest : List Entry}
    (interchangeable : Entry.Interchangeable (first :: second :: rest)) :
    (left.carriedOut (first :: second :: rest)).Perm
      (right.carriedOut (second :: first :: rest)) := by
  by_cases equal : first = second
  · rw [equal, same.carriedOut_eq]
  · have apart : ∀ declaration, first.declaration? = some declaration →
        second.declaration? ≠ some declaration := by
      intro declaration asksFirst asksSecond
      exact equal (interchangeable.unambiguous declaration first (by simp) second (by simp)
        asksFirst asksSecond)
    have apartBack : ∀ declaration, second.declaration? = some declaration →
        first.declaration? ≠ some declaration :=
      fun declaration asksSecond asksFirst => apart declaration asksFirst asksSecond
    have restSame : ((left.runEntry first).1.runEntry second).1.carriedOut rest =
        ((right.runEntry second).1.runEntry first).1.carriedOut rest := by
      apply SameDeclared.carriedOut_eq
      exact same.runEntries_of_perm (List.Perm.swap second first [])
    simp only [carriedOut, carriesOut_runEntry (interchangeable.plain second (by simp)) apart,
      carriesOut_runEntry (interchangeable.plain first (by simp)) apartBack,
      carriesOut_congr same, restSame]
    rw [← List.append_assoc, ← List.append_assoc]
    exact List.perm_append_comm.append_right _

/-- Runs that come to the same entries in different orders carry out the same ones. -/
theorem carriedOut_perm {first second : List Entry} (perm : first.Perm second)
    (interchangeable : Entry.Interchangeable first) {left right : Progress}
    (same : SameDeclared left right) :
    (left.carriedOut first).Perm (right.carriedOut second) := by
  induction perm generalizing left right with
  | nil => exact List.Perm.refl _
  | cons entry _ induction =>
      rw [carriedOut, carriedOut, carriesOut_congr same]
      apply List.Perm.append_left
      exact induction (interchangeable.mono (List.subset_cons_self _ _)) (same.runEntry entry)
  | swap second first rest => exact carriedOut_swap same interchangeable
  | trans firstPerm _ firstInduction secondInduction =>
      have between := interchangeable.mono firstPerm.symm.subset
      exact (firstInduction interchangeable (SameDeclared.refl left)).trans
        (secondInduction between same)

/-- What is counted with entries does not depend on their order. -/
theorem EntryTally.counts_eq {left right : Progress} {first second : List Entry}
    (leftTally : EntryTally left first) (rightTally : EntryTally right second)
    (perm : first.Perm second) :
    left.stats.types = right.stats.types ∧ left.stats.namespaces = right.stats.namespaces ∧
      left.stats.implementationsProcessed = right.stats.implementationsProcessed := by
  have types := (perm.filterMap Entry.declaredType?).length_eq
  have modules := (perm.filterMap Entry.declaredModule?).length_eq
  have implementations := (perm.filterMap Entry.implementationId?).length_eq
  rw [leftTally.types, rightTally.types, List.length_reverse, List.length_reverse] at types
  rw [leftTally.modules, rightTally.modules, List.length_reverse, List.length_reverse] at modules
  refine ⟨?_, ?_, ?_⟩
  · rw [leftTally.typeCount, rightTally.typeCount, types]
  · rw [leftTally.moduleCount, rightTally.moduleCount, modules]
  · rw [leftTally.processed, rightTally.processed, implementations]

/-! ### Skipped implementations -/

/-- Entries that are about no implementations skip none. -/
theorem skipped_runEntries_of_plain {entries : List Entry}
    (plain : ∀ entry ∈ entries, entry.isImplementation = false) (progress : Progress) :
    (progress.runEntries entries).1.stats.implementationsSkipped =
      progress.stats.implementationsSkipped := by
  induction entries generalizing progress with
  | nil => rfl
  | cons entry rest induction =>
      have now : (progress.runEntry entry).1.stats.implementationsSkipped =
          progress.stats.implementationsSkipped := by
        have apart := plain entry List.mem_cons_self
        by_cases carried : progress.carriesOut entry
        · rw [(runEntry_of_carriesOut carried).1, (sameEntry_runSteps _ _).skipped]
          cases entry with
          | implementation | skippedImplementation => cases apart
          | log | namespaceName | description | module | type => rfl
        · rw [(runEntry_of_not_carriesOut carried).1]
          cases entry with
          | implementation => cases apart
          | log | namespaceName | description | module | type | skippedImplementation => rfl
      have further := induction (fun other later => plain other (List.mem_cons_of_mem entry later))
        (progress.runEntry entry).1
      exact further.trans now

/-- What is skipped depends on no more than what is declared. -/
theorem SameDeclared.skipped_runEntries {left right : Progress} (same : SameDeclared left right)
    (skipped : left.stats.implementationsSkipped = right.stats.implementationsSkipped)
    (entries : List Entry) :
    (left.runEntries entries).1.stats.implementationsSkipped =
      (right.runEntries entries).1.stats.implementationsSkipped := by
  induction entries generalizing left right with
  | nil => exact skipped
  | cons entry rest induction =>
      apply induction (same.runEntry entry)
      have carries := carriesOut_congr same entry
      by_cases carried : left.carriesOut entry
      · rw [(runEntry_of_carriesOut carried).1, (runEntry_of_carriesOut (carries ▸ carried)).1,
          (sameEntry_runSteps _ _).skipped, (sameEntry_runSteps _ _).skipped]
        cases entry with
        | skippedImplementation reason =>
            simp only [note, skipImplementation, ExtractionStats.skip, skipped]
        | log | namespaceName | description | module | type | implementation => exact skipped
      · rw [(runEntry_of_not_carriesOut carried).1,
          (runEntry_of_not_carriesOut (carries ▸ carried)).1]
        cases entry with
        | implementation id target steps =>
            simp only [pass, skipImplementation, ExtractionStats.skip, skipped]
        | log | namespaceName | description | module | type | skippedImplementation =>
            exact skipped

end Progress

end CrateGraph
