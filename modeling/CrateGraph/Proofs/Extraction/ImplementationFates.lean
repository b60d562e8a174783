import CrateGraph.Proofs.Extraction.CommutingEntries
import CrateGraph.Proofs.Extraction.Counters
import CrateGraph.Proofs.Extraction.InverseEdges
import CrateGraph.Proofs.Extraction.MemberEdges
import CrateGraph.Proofs.Extraction.NodeAddresses
import CrateGraph.Proofs.Extraction.Readings
import CrateGraph.Proofs.Extraction.RepeatedRuns

/-!
What becomes of each implementation.

An implementation is left out for one of four reasons, or it is described. The reasons are tested in
an order, and the last test asks for the types that are declared when the walk ends; the pass over
the implementations declares none. So what becomes of an implementation is settled before the pass
begins, whatever comes before it there.

Main statement: each implementation has one fate, the counts are the numbers of implementations with
each fate, and the members of a described implementation belong to the implementation if it is one
of a trait, and else to the type.
-/

namespace CrateGraph

open Rdf (Triple)

/-- What becomes of an implementation: it is left out for a reason, or it is described. -/
inductive Fate where
  | skipped (reason : SkipReason)
  | described
deriving DecidableEq

theorem SkipReason.name_injective : Function.Injective SkipReason.name := by
  intro left right same
  cases left <;> cases right <;> first | rfl | simp [name] at same

/-! ### Counts by fate -/

namespace Progress

/-- The number of implementations with the fate so far, according to the counts. -/
def tally (progress : Progress) : Fate → Int
  | .skipped reason => (progress.stats.implementationsSkipped.get? reason.name).getD 0
  | .described => progress.stats.implementationsProcessed

variable {progress : Progress} {entry : Entry} (fate : Fate)

theorem SameEntry.tally_eq {before after : Progress} (same : SameEntry before after) :
    after.tally fate = before.tally fate := by
  cases fate with
  | skipped reason => rw [tally, tally, same.skipped]
  | described => rw [tally, tally, same.processed]

theorem tally_skipImplementation (progress : Progress) (reason : SkipReason) :
    (progress.skipImplementation reason).tally fate =
      progress.tally fate + if .skipped reason = fate then 1 else 0 := by
  cases fate with
  | described => simp [tally, skipImplementation, ExtractionStats.skip]
  | skipped other =>
      rw [tally, skipImplementation, ExtractionStats.get?_skip, ExtractionStats.raise]
      by_cases same : reason = other
      · subst same
        simp [tally]
      · have apart : reason.name ≠ other.name := fun equal =>
          same (SkipReason.name_injective equal)
        simp [tally, same, apart]

theorem tally_countImplementation (progress : Progress) :
    progress.countImplementation.tally fate =
      progress.tally fate + if .described = fate then 1 else 0 := by
  cases fate <;> simp [tally, countImplementation]

theorem tally_note (progress : Progress) (plain : entry.isImplementation = false) :
    (progress.note entry).tally fate = progress.tally fate := by
  cases entry with
  | implementation | skippedImplementation => cases plain
  | log | namespaceName | description | module | type => cases fate <;> rfl

theorem tally_runEntry_of_plain (progress : Progress) (plain : entry.isImplementation = false) :
    (progress.runEntry entry).1.tally fate = progress.tally fate := by
  by_cases carried : progress.carriesOut entry
  · rw [(runEntry_of_carriesOut carried).1, (sameEntry_runSteps _ _).tally_eq,
      tally_note fate progress plain]
  · rw [(runEntry_of_not_carriesOut carried).1]
    cases entry with
    | implementation => cases plain
    | log | namespaceName | description | module | type | skippedImplementation => rfl

theorem tally_runEntries_of_plain {entries : List Entry}
    (plain : ∀ entry ∈ entries, entry.isImplementation = false) (progress : Progress) :
    (progress.runEntries entries).1.tally fate = progress.tally fate := by
  induction entries generalizing progress with
  | nil => rfl
  | cons entry rest induction =>
      have now := progress.tally_runEntry_of_plain fate (plain entry List.mem_cons_self)
      have later := induction (fun other member => plain other (List.mem_cons_of_mem entry member))
        (progress.runEntry entry).1
      exact later.trans now

/-- An entry that asks for no declaration adds none. -/
theorem declared_runEntry_of_silent (silent : entry.declaration? = none) (progress : Progress) :
    (progress.runEntry entry).1.types = progress.types ∧
      (progress.runEntry entry).1.modules = progress.modules := by
  by_cases carried : progress.carriesOut entry
  · have noted := progress.sameNodes_note silent
    have stepped := (progress.note entry).sameEntry_runSteps entry.steps
    rw [(runEntry_of_carriesOut carried).1]
    exact ⟨stepped.types.trans noted.types, stepped.modules.trans noted.modules⟩
  · have passed := progress.sameNodes_pass entry
    rw [(runEntry_of_not_carriesOut carried).1]
    exact ⟨passed.types, passed.modules⟩

theorem declared_runEntries_of_silent {entries : List Entry}
    (silent : ∀ entry ∈ entries, entry.declaration? = none) (progress : Progress) :
    (progress.runEntries entries).1.types = progress.types ∧
      (progress.runEntries entries).1.modules = progress.modules := by
  induction entries generalizing progress with
  | nil => exact ⟨rfl, rfl⟩
  | cons entry rest induction =>
      have now := progress.declared_runEntry_of_silent (silent entry List.mem_cons_self)
      have later := induction (fun other member => silent other (List.mem_cons_of_mem entry member))
        (progress.runEntry entry).1
      exact ⟨later.1.trans now.1, later.2.trans now.2⟩

end Progress

namespace Extraction

variable (extraction : Extraction)

/-! ### Fates -/

/-- The reasons are tested in this order. The types that count as declared are those that the walk
has declared. -/
inductive Fated (body : ImplementationBody) : Fate → Prop
  | synthetic (isSynthetic : body.isSynthetic) : Fated body (.skipped .synthetic)
  | blanket (notSynthetic : body.isSynthetic = false) (isBlanket : body.blanket.isSome) :
      Fated body (.skipped .blanket)
  | unresolved (notSynthetic : body.isSynthetic = false) (notBlanket : body.blanket = none)
      (unresolved : extraction.typeIri? body.target = none) : Fated body (.skipped .unresolved)
  | foreign {target : String} (notSynthetic : body.isSynthetic = false)
      (notBlanket : body.blanket = none) (resolves : extraction.typeIri? body.target = some target)
      (foreign : target ∉ extraction.walked.types) : Fated body (.skipped .foreign)
  | described {target : String} (notSynthetic : body.isSynthetic = false)
      (notBlanket : body.blanket = none) (resolves : extraction.typeIri? body.target = some target)
      (declared : target ∈ extraction.walked.types) : Fated body .described

def fate (body : ImplementationBody) : Fate :=
  if body.isSynthetic then .skipped .synthetic
  else if body.blanket.isSome then .skipped .blanket
  else
    match extraction.typeIri? body.target with
    | none => .skipped .unresolved
    | some target => if target ∈ extraction.walked.types then .described else .skipped .foreign

theorem fated_iff (body : ImplementationBody) (fate : Fate) :
    extraction.Fated body fate ↔ extraction.fate body = fate := by
  constructor
  · intro fated
    cases fated with
    | synthetic isSynthetic => simp [Extraction.fate, isSynthetic]
    | blanket notSynthetic isBlanket => simp [Extraction.fate, notSynthetic, isBlanket]
    | unresolved notSynthetic notBlanket unresolved =>
        simp [Extraction.fate, notSynthetic, notBlanket, unresolved]
    | foreign notSynthetic notBlanket resolves foreign =>
        simp [Extraction.fate, notSynthetic, notBlanket, resolves, foreign]
    | described notSynthetic notBlanket resolves declared =>
        simp [Extraction.fate, notSynthetic, notBlanket, resolves, declared]
  · rintro rfl
    rw [Extraction.fate]
    split
    · next isSynthetic => exact .synthetic isSynthetic
    · next notSynthetic =>
        rw [Bool.not_eq_true] at notSynthetic
        split
        · next isBlanket => exact .blanket notSynthetic isBlanket
        · next notBlanket =>
            rw [Option.not_isSome_iff_eq_none] at notBlanket
            split
            · next unresolved => exact .unresolved notSynthetic notBlanket unresolved
            · next target resolves =>
                split
                · next declared => exact .described notSynthetic notBlanket resolves declared
                · next foreign => exact .foreign notSynthetic notBlanket resolves foreign

def hasFate (fate : Fate) (item : Item) : Bool :=
  match item.body with
  | .implementation body => extraction.fate body = fate
  | _ => false

/-! ### The pass over the implementations -/

/-- What is written when the pass has taken up some implementations, one after the other. -/
def passed (others : List (ItemId × ImplementationBody)) : Progress :=
  (extraction.walked.runEntries
    (others.flatMap fun (id, body) => extraction.implementationEntries id body)).1

theorem silent_of_mem_implementations {others : List (ItemId × ImplementationBody)} {entry : Entry}
    (member : entry ∈ others.flatMap fun (id, body) => extraction.implementationEntries id body) :
    entry.declaration? = none := by
  rcases List.mem_flatMap.mp member with ⟨⟨id, body⟩, _, own⟩
  exact extraction.declaration?_of_mem_implementationEntries own

theorem declared_passed (others : List (ItemId × ImplementationBody)) :
    (extraction.passed others).types = extraction.walked.types ∧
      (extraction.passed others).modules = extraction.walked.modules :=
  Progress.declared_runEntries_of_silent (fun _ => extraction.silent_of_mem_implementations)
    extraction.walked

/-- What an implementation of a resolved type comes to: an entry of its own. -/
theorem implementationEntries_of_resolves {body : ImplementationBody} {target : String}
    (notSynthetic : body.isSynthetic = false) (notBlanket : body.blanket = none)
    (resolves : extraction.typeIri? body.target = some target) (id : ItemId) :
    extraction.implementationEntries id body =
      [.implementation id target (extraction.implementationNode id target body)] := by
  simp [implementationEntries, notSynthetic, notBlanket, resolves]

/-- An implementation is counted with its fate. -/
theorem tally_implementationEntries {progress : Progress}
    (declared : progress.types = extraction.walked.types) (id : ItemId) (body : ImplementationBody)
    (fate : Fate) :
    (progress.runEntries (extraction.implementationEntries id body)).1.tally fate =
      progress.tally fate + if extraction.fate body = fate then 1 else 0 := by
  have fated := (extraction.fated_iff body _).mpr rfl
  generalize extraction.fate body = own at fated
  cases fated with
  | synthetic isSynthetic =>
      rw [implementationEntries, if_pos isSynthetic]
      exact Progress.tally_skipImplementation fate progress .synthetic
  | blanket notSynthetic isBlanket =>
      rw [implementationEntries, notSynthetic, if_neg Bool.false_ne_true, if_pos isBlanket]
      exact Progress.tally_skipImplementation fate progress .blanket
  | unresolved notSynthetic notBlanket unresolved =>
      have entries : extraction.implementationEntries id body =
          [.description [.countUnresolved], .skippedImplementation .unresolved] := by
        simp [implementationEntries, notSynthetic, notBlanket, unresolved]
      have skipped := Progress.tally_skipImplementation fate
        (progress.runEntry (.description [.countUnresolved])).1 .unresolved
      rw [Progress.tally_runEntry_of_plain fate progress rfl] at skipped
      rw [entries]
      exact skipped
  | @foreign target notSynthetic notBlanket resolves foreign =>
      rw [extraction.implementationEntries_of_resolves notSynthetic notBlanket resolves]
      have isPassed : ¬progress.carriesOut
          (.implementation id target (extraction.implementationNode id target body)) := by
        rw [Progress.carriesOut, declared]
        simpa using foreign
      rw [Progress.runEntries_singleton, (Progress.runEntry_of_not_carriesOut isPassed).1]
      exact Progress.tally_skipImplementation fate progress .foreign
  | @described target notSynthetic notBlanket resolves isDeclared =>
      rw [extraction.implementationEntries_of_resolves notSynthetic notBlanket resolves]
      have carried : progress.carriesOut
          (.implementation id target (extraction.implementationNode id target body)) := by
        rw [Progress.carriesOut, declared]
        simpa using isDeclared
      rw [Progress.runEntries_singleton, (Progress.runEntry_of_carriesOut carried).1,
        (Progress.sameEntry_runSteps _ _).tally_eq]
      exact Progress.tally_countImplementation fate progress

theorem passed_append (earlier later : List (ItemId × ImplementationBody)) :
    extraction.passed (earlier ++ later) =
      ((extraction.passed earlier).runEntries
        (later.flatMap fun (id, body) => extraction.implementationEntries id body)).1 := by
  rw [passed, passed, List.flatMap_append, Progress.runEntries_append]

theorem tally_walked (fate : Fate) : extraction.walked.tally fate = 0 := by
  rw [walked, Progress.tally_runEntries_of_plain fate
      (fun _ => extraction.isImplementation_of_mem_walk), opened,
    Progress.tally_runEntries_of_plain fate
      (fun _ => extraction.isImplementation_of_mem_opening)]
  cases fate <;> rfl

theorem tally_passed (others : List (ItemId × ImplementationBody)) (fate : Fate) :
    (extraction.passed others).tally fate =
      others.countP fun other => extraction.fate other.2 = fate := by
  induction others using List.reverseRecOn with
  | nil => exact extraction.tally_walked fate
  | append_singleton earlier last induction =>
      have own := extraction.tally_implementationEntries (extraction.declared_passed earlier).1
        last.1 last.2 fate
      rw [passed_append, List.flatMap_singleton, own, induction, List.countP_append,
        List.countP_singleton]
      split <;> simp [*]

/-- The run ends when the pass has taken up all implementations. -/
theorem outcome_eq_passed (included : extraction.options.includeImplementations) :
    extraction.outcome = extraction.passed extraction.implementations := by
  rw [outcome_eq, closing, if_pos included]
  rfl

theorem countP_implementations (fate : Fate) :
    extraction.implementations.countP (fun entry => extraction.fate entry.2 = fate) =
      extraction.crate.index.values.countP (extraction.hasFate fate) := by
  rw [implementations, List.countP_filterMap, Table.values, List.countP_map]
  congr 1
  funext entry
  rcases entry with ⟨id, item⟩
  cases shape : item.body
  all_goals simp [shape, hasFate]

/-! ### Implementations apart from one another -/

/-- The second crate has implementations of its own. All else is that of the first crate, and so is
the name of each item. -/
structure SameBesideImplementations (left right : Extraction) : Prop where
  frame : SameFrame left right
  items : ∀ id item, item.body.isImplementation = false →
    (left.item? id = some item ↔ right.item? id = some item)
  names : ∀ id, (left.item? id).bind Item.properName? = (right.item? id).bind Item.properName?

namespace SameBesideImplementations

variable {left right : Extraction} (same : SameBesideImplementations left right)
include same

theorem crateName_eq : left.crateName = right.crateName := by
  change ((left.item? left.crate.root).bind Item.properName?).getD Crate.unnamed =
    ((right.item? right.crate.root).bind Item.properName?).getD Crate.unnamed
  rw [same.names, same.frame.root_eq]

theorem typeIri_eq : left.typeIri = right.typeIri := by
  funext path
  have version : left.crateVersion = right.crateVersion := by
    rw [crateVersion, crateVersion, same.frame.crate]
  rw [typeIri, typeIri, minter, minter, same.frame.options, same.crateName_eq, version]

theorem typeIri?_eq : left.typeIri? = right.typeIri? := by
  have referenceIri : left.referenceIri = right.referenceIri := by
    funext reference
    have paths : left.crate.paths = right.crate.paths := by rw [same.frame.crate]
    simp only [Extraction.referenceIri, referencedPath, same.typeIri_eq, paths, same.names]
  have minter : left.minter = right.minter := by
    rw [Extraction.minter, Extraction.minter, same.frame.options]
  funext type
  cases type <;> simp only [typeIri?, referenceIri, minter]

theorem symm : SameBesideImplementations right left where
  frame := ⟨by rw [same.frame.crate], same.frame.options.symm⟩
  items id item other := (same.items id item other).symm
  names id := (same.names id).symm

theorem moduleBody?_eq : left.moduleBody? = right.moduleBody? := by
  funext id
  apply Option.ext
  intro body
  rw [moduleBody?_eq_some_iff, moduleBody?_eq_some_iff]
  apply exists_congr
  intro item
  apply and_congr_left
  intro isModule
  apply same.items
  rw [isModule]
  rfl

theorem lists_eq : left.Lists = right.Lists := by
  funext outer inner
  rw [Lists, Lists, same.moduleBody?_eq]

theorem moduleChain {ids : List ItemId} (chain : left.ModuleChain ids) :
    right.ModuleChain ids where
  fromRoot := same.frame.root_eq ▸ chain.fromRoot
  distinct := chain.distinct
  isModule := same.moduleBody?_eq ▸ chain.isModule
  listed := same.lists_eq ▸ chain.listed

theorem chainPath_eq : left.chainPath = right.chainPath := by
  have moduleName : left.moduleName = right.moduleName := by
    funext id
    rw [Extraction.moduleName, Extraction.moduleName, same.names]
  funext ids
  rw [chainPath, chainPath, same.crateName_eq, moduleName]

/-- Implementations have no part in the declaration of types. -/
theorem mem_walked_types {iri : String} (declared : iri ∈ left.walked.types) :
    iri ∈ right.walked.types := by
  have inLeft := (left.type_declared_iff iri).mp
    ((left.declares_outcome_iff (.type iri)).mpr declared)
  apply (right.declares_outcome_iff (.type iri)).mp
  apply (right.type_declared_iff iri).mpr
  rcases inLeft with ⟨ids, last, id, item, name, chain, isLast, lists, found, isType, named⟩
  have other : item.body.isImplementation = false := by
    cases shape : item.body
    all_goals first | rfl | simp [shape, ItemBody.isTypeBody] at isType
  rw [same.typeIri_eq, same.chainPath_eq] at named
  exact ⟨ids, last, id, item, name, same.moduleChain chain, isLast, same.lists_eq ▸ lists,
    (same.items id item other).mp found, isType, named⟩

theorem fate_eq : left.fate = right.fate := by
  have declared : ∀ iri, iri ∈ left.walked.types ↔ iri ∈ right.walked.types :=
    fun _ => ⟨same.mem_walked_types, same.symm.mem_walked_types⟩
  funext body
  simp only [fate, same.typeIri?_eq, declared]

end SameBesideImplementations

/-! ### The members of a described implementation -/

/-- What the pass says of an implementation that it takes up after some others. -/
def said (others : List (ItemId × ImplementationBody)) (id : ItemId) (body : ImplementationBody) :
    List Triple :=
  ((extraction.passed others).runEntries
    (extraction.implementationEntries id body)).2.filterMap Event.triple?

/-- The triples make the listed items members of the owner, and nothing a member of the other
node. -/
structure MakesMembers (triples : List Triple) (owner other : String) (listed : List ItemId) :
    Prop where
  apart : owner ≠ other
  edges : triples.filter Triple.isMemberEdge = extraction.edgesOfMembers owner listed
  onOwner : ∀ triple ∈ triples, triple.isMemberEdge → triple.IsMemberEdgeOf owner
  notOnOther : ∀ triple ∈ triples, ¬triple.IsMemberEdgeOf other

theorem filter_said {body : ImplementationBody} {target : String}
    (fated : extraction.Fated body .described)
    (resolves : extraction.typeIri? body.target = some target)
    (others : List (ItemId × ImplementationBody)) (id : ItemId) :
    (extraction.said others id body).filter Triple.isMemberEdge =
      extraction.edgesOfMembers (extraction.memberOwner id target body) body.items := by
  cases fated with
  | @described other notSynthetic notBlanket sameResolves declared =>
      obtain rfl : target = other := Option.some.inj (resolves.symm.trans sameResolves)
      have carried : (extraction.passed others).carriesOut
          (.implementation id target (extraction.implementationNode id target body)) := by
        rw [Progress.carriesOut, (extraction.declared_passed others).1]
        simpa using declared
      have stated := Progress.filterMap_runEntry skipsStubs_memberEdge (extraction.passed others)
        (.implementation id target (extraction.implementationNode id target body))
      rw [if_pos carried, List.filterMap_eq_filter, Entry.steps,
        ← memberEdges_eq_filter, memberEdges_implementationNode] at stated
      rw [said, extraction.implementationEntries_of_resolves notSynthetic notBlanket resolves,
        Progress.runEntries_singleton, stated]

/-- A declared type is no implementation. -/
theorem implementationIri_ne_of_declared {target : String}
    (declared : target ∈ extraction.walked.types) (id : ItemId) :
    extraction.implementationIri id ≠ target := by
  have inOutcome := (extraction.declares_outcome_iff (.type target)).mpr declared
  rcases extraction.exists_declaresType inOutcome with ⟨path, name, _, _, rfl⟩
  rw [implementationIri_eq, typeIri_eq]
  intro same
  have bare := Iri.Entity.bare_eq_of_iri_eq same
  cases bare

theorem makesMembers {triples : List Triple} {owner other : String} {listed : List ItemId}
    (apart : owner ≠ other)
    (edges : triples.filter Triple.isMemberEdge = extraction.edgesOfMembers owner listed) :
    extraction.MakesMembers triples owner other listed := by
  have onOwner : ∀ triple ∈ triples, triple.isMemberEdge → triple.IsMemberEdgeOf owner := by
    intro triple member isEdge
    have isListed : triple ∈ extraction.edgesOfMembers owner listed := by
      rw [← edges]
      exact List.mem_filter.mpr ⟨member, isEdge⟩
    rcases List.mem_flatMap.mp isListed with ⟨id, _, ofItem⟩
    rcases List.mem_flatMap.mp ofItem with ⟨item, _, own⟩
    exact isMemberEdgeOf_of_mem_edgesOfMember own
  refine ⟨apart, edges, onOwner, ?_⟩
  intro triple member onOther
  exact apart ((onOwner triple member onOther.isMemberEdge).owner_eq onOther)

theorem makesMembers_said {body : ImplementationBody} {target : String}
    (fated : extraction.Fated body .described)
    (resolves : extraction.typeIri? body.target = some target)
    (others : List (ItemId × ImplementationBody)) (id : ItemId) :
    if body.trait.isSome then
      extraction.MakesMembers (extraction.said others id body) (extraction.implementationIri id)
        target body.items
    else
      extraction.MakesMembers (extraction.said others id body) target
        (extraction.implementationIri id) body.items := by
  have edges := extraction.filter_said fated resolves others id
  have apart : extraction.implementationIri id ≠ target := by
    cases fated with
    | described _ _ sameResolves declared =>
        rw [resolves] at sameResolves
        exact extraction.implementationIri_ne_of_declared
          (Option.some.inj sameResolves ▸ declared) id
  rw [memberOwner] at edges
  split
  · next ofTrait =>
      rw [if_pos ofTrait] at edges
      exact extraction.makesMembers apart edges
  · next inherent =>
      rw [if_neg inherent] at edges
      exact extraction.makesMembers apart.symm edges

/-- Each implementation has the one fate whose conditions it meets, the counts are the numbers of
implementations with each fate, and other implementations have no say in it, be it that they are
others in the crate or that others are taken up before. The pass declares nothing. Whatever it has
taken up before, it makes the items that a described implementation lists members of the
implementation if that is one of a trait, and else of the type. -/
theorem implementations_have_fates (included : extraction.options.includeImplementations) :
    (∀ body fate, extraction.Fated body fate ↔ extraction.fate body = fate) ∧
      (∀ fate, extraction.outcome.tally fate =
        extraction.crate.index.values.countP (extraction.hasFate fate)) ∧
      (∀ other, extraction.SameBesideImplementations other → extraction.fate = other.fate) ∧
      extraction.outcome = extraction.passed extraction.implementations ∧
      ∀ others id body,
        (extraction.passed others).types = extraction.walked.types ∧
          (extraction.passed others).modules = extraction.walked.modules ∧
          (∀ fate, (extraction.passed (others ++ [(id, body)])).tally fate =
            (extraction.passed others).tally fate +
              if extraction.fate body = fate then 1 else 0) ∧
          ∀ target, extraction.fate body = .described →
            extraction.typeIri? body.target = some target →
            if body.trait.isSome then
              extraction.MakesMembers (extraction.said others id body)
                (extraction.implementationIri id) target body.items
            else
              extraction.MakesMembers (extraction.said others id body) target
                (extraction.implementationIri id) body.items := by
  refine ⟨extraction.fated_iff, ?_, fun _ same => same.fate_eq,
    extraction.outcome_eq_passed included, ?_⟩
  · intro fate
    rw [extraction.outcome_eq_passed included, tally_passed, countP_implementations]
  · intro others id body
    rcases extraction.declared_passed others with ⟨types, modules⟩
    refine ⟨types, modules, ?_, ?_⟩
    · intro fate
      rw [passed_append, List.flatMap_singleton]
      exact extraction.tally_implementationEntries types id body fate
    · intro target described resolves
      exact extraction.makesMembers_said ((extraction.fated_iff body _).mpr described) resolves
        others id

/-- The implementation of `Wrapper` is described, and its constant belongs to the type. -/
theorem wrapperImplementation_is_described :
    wrapping.options.includeImplementations ∧
      wrapping.fate wrapperImplementation = .described ∧
      wrapping.outcome.tally .described = 1 ∧
      wrapping.MakesMembers (wrapping.said [] "2" wrapperImplementation) wrapping.typeNode
        (wrapping.implementationIri "2") ["3"] := by
  have processes := wrapping_processes
  rcases wrapping.implementations_have_fates processes.included with
    ⟨fates, counts, _, _, passes⟩
  have declared := (wrapping.declares_outcome_iff (.type _)).mp processes.declared
  have described := (fates wrapperImplementation .described).mp
    (.described processes.notSynthetic processes.notBlanket processes.resolves declared)
  refine ⟨processes.included, described, ?_, ?_⟩
  · have values : wrapping.crate.index.values =
        [.plain (some "demo") (.module ⟨["1"], false, true⟩), wrapper,
          .plain none (.implementation wrapperImplementation), wrapperLimit] := rfl
    rw [counts, values]
    simp [hasFate, Item.plain, wrapper, wrapperLimit, described]
  · exact (passes [] "2" wrapperImplementation).2.2.2 _ described processes.resolves

end Extraction

end CrateGraph
