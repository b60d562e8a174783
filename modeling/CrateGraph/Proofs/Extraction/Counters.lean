import CrateGraph.Proofs.Extraction.NodeAddresses
import CrateGraph.Proofs.Extraction.Tallies

/-!
Everything is declared at most once, and the counters tell the truth.

Each entry of the outline says of exactly what it is about that it is a declared type, a module or
an implementation, and counts a function for every method. What a run remembers and counts is
therefore what its triples show.
-/

namespace CrateGraph

open Rdf (Triple)
open Ontology

/-! ### Classes of what entries are about -/

/-- The classes of which every declared type has exactly one. -/
def declaredClasses : List String :=
  [Class.struct, Class.enum, Class.interface, Class.union, Class.typeAlias]

def implementationClasses : List String :=
  [Class.traitImplementation, Class.inherentImplementation]

@[simp] theorem mem_declaredClasses :
    Class.struct ∈ declaredClasses ∧ Class.enum ∈ declaredClasses ∧
      Class.interface ∈ declaredClasses ∧ Class.union ∈ declaredClasses ∧
      Class.typeAlias ∈ declaredClasses := by
  simp [declaredClasses]

@[simp] theorem not_mem_declaredClasses :
    Class.trait ∉ declaredClasses ∧ Class.crate ∉ declaredClasses ∧
      Class.assembly ∉ declaredClasses ∧ Class.module ∉ declaredClasses ∧
      Class.container ∉ declaredClasses ∧ Class.traitImplementation ∉ declaredClasses ∧
      Class.inherentImplementation ∉ declaredClasses ∧ Class.type ∉ declaredClasses := by
  simp [declaredClasses, Class.struct, Class.enum, Class.interface, Class.union, Class.typeAlias,
    Class.trait, Class.crate, Class.assembly, Class.module, Class.container,
    Class.traitImplementation, Class.inherentImplementation, Class.type]

@[simp] theorem mem_implementationClasses :
    Class.traitImplementation ∈ implementationClasses ∧
      Class.inherentImplementation ∈ implementationClasses := by
  simp [implementationClasses]

@[simp] theorem not_mem_implementationClasses :
    Class.struct ∉ implementationClasses ∧ Class.enum ∉ implementationClasses ∧
      Class.interface ∉ implementationClasses ∧ Class.union ∉ implementationClasses ∧
      Class.typeAlias ∉ implementationClasses ∧ Class.trait ∉ implementationClasses ∧
      Class.crate ∉ implementationClasses ∧ Class.assembly ∉ implementationClasses ∧
      Class.module ∉ implementationClasses ∧ Class.container ∉ implementationClasses ∧
      Class.type ∉ implementationClasses := by
  simp [implementationClasses, Class.struct, Class.enum, Class.interface, Class.union,
    Class.typeAlias, Class.trait, Class.crate, Class.assembly, Class.module, Class.container,
    Class.traitImplementation, Class.inherentImplementation, Class.type]

/-- What an entry is about has none of the three classes that stand alone, a module's own apart. -/
@[simp] theorem header_class_ne {other : String}
    (alone : other = Class.module ∨ other = Class.type ∨ other = Class.method) :
    Class.struct ≠ other ∧ Class.enum ≠ other ∧ Class.interface ≠ other ∧ Class.union ≠ other ∧
      Class.typeAlias ≠ other ∧ Class.trait ≠ other ∧ Class.crate ≠ other ∧
      Class.assembly ≠ other ∧ Class.container ≠ other ∧ Class.traitImplementation ≠ other ∧
      Class.inherentImplementation ≠ other := by
  rcases alone with rfl | rfl | rfl
  all_goals
    simp [Class.struct, Class.enum, Class.interface, Class.union, Class.typeAlias, Class.trait,
      Class.crate, Class.assembly, Class.module, Class.container, Class.traitImplementation,
      Class.inherentImplementation, Class.type, Class.method]

@[simp] theorem module_class_ne : Class.module ≠ Class.type ∧ Class.module ≠ Class.method := by
  simp [Class.module, Class.type, Class.method]

theorem member_class_apart {nodeClass : String} (isMember : nodeClass ∈ memberClasses) :
    nodeClass ∉ declaredClasses ∧ nodeClass ∉ implementationClasses ∧
      nodeClass ≠ Class.module ∧ nodeClass ≠ Class.type := by
  simp only [memberClasses, List.mem_cons, List.not_mem_nil, or_false] at isMember
  rcases isMember with rfl | rfl | rfl | rfl | rfl | rfl
  all_goals
    simp [declaredClasses, implementationClasses, Class.struct, Class.enum, Class.interface,
      Class.union, Class.typeAlias, Class.method, Class.field, Class.constant, Class.static,
      Class.enumVariant, Class.member, Class.module, Class.type, Class.traitImplementation,
      Class.inherentImplementation]

def ItemBody.isImplementation : ItemBody → Bool
  | .implementation _ => true
  | _ => false

namespace Extraction

variable (extraction : Extraction)

/-! ### What the marks of an entry show -/

/-- Marks that show what an entry is about and no other type, module or implementation, with a
function counted for each method. -/
structure Announces (entry : Entry) (found : List Mark) : Prop where
  types : found.filterMap (Mark.instance? declaredClasses) = entry.declaredType?.toList
  modules : found.filterMap (Mark.instance? [Class.module]) =
    (entry.declaredModule?.map extraction.moduleIri).toList
  implementations : found.filterMap (Mark.instance? implementationClasses) =
    (entry.implementationId?.map extraction.implementationIri).toList
  mentions : found.filterMap (Mark.instance? [Class.type]) = []
  balanced : found.count .function = (found.filterMap (Mark.instance? [Class.method])).length

theorem Announces.append_members {extraction : Extraction} {entry : Entry}
    {header members : List Mark} (announces : extraction.Announces entry header)
    (memberMarks : MemberMarks members) : extraction.Announces entry (header ++ members) := by
  have silent : ∀ {classes : List String}, (∀ nodeClass ∈ memberClasses, nodeClass ∉ classes) →
      (header ++ members).filterMap (Mark.instance? classes) =
        header.filterMap (Mark.instance? classes) := by
    intro classes apart
    rw [List.filterMap_append, memberMarks.filterMap_instance? apart, List.append_nil]
  constructor
  · rw [silent fun _ isMember => (member_class_apart isMember).1]
    exact announces.types
  · rw [silent fun _ isMember => by simp [member_class_apart isMember]]
    exact announces.modules
  · rw [silent fun _ isMember => (member_class_apart isMember).2.1]
    exact announces.implementations
  · rw [silent fun _ isMember => by simp [member_class_apart isMember]]
    exact announces.mentions
  · rw [List.count_append, List.filterMap_append, List.length_append, announces.balanced,
      memberMarks.balanced]

theorem announces_nil {entry : Entry} (type : entry.declaredType? = none)
    (module : entry.declaredModule? = none) (implementation : entry.implementationId? = none) :
    extraction.Announces entry [] where
  types := by simp [type]
  modules := by simp [module]
  implementations := by simp [implementation]
  mentions := rfl
  balanced := rfl

theorem announces_description {steps : List Step} (memberMarks : MemberMarks (marks steps)) :
    extraction.Announces (.description steps) (marks steps) :=
  (extraction.announces_nil rfl rfl rfl).append_members memberMarks

theorem announces_crateNode :
    extraction.Announces (.description extraction.crateNode) (marks extraction.crateNode) := by
  rw [marks_crateNode]
  constructor
  all_goals
    simp [Entry.declaredType?, Entry.declaredModule?, Entry.implementationId?]

theorem announces_dependency (external : ExternalCrate) :
    extraction.Announces (.description (extraction.dependency external))
      (marks (extraction.dependency external)) := by
  rw [marks_dependency]
  split
  · exact extraction.announces_nil rfl rfl rfl
  · constructor
    all_goals
      simp [Entry.declaredType?, Entry.declaredModule?, Entry.implementationId?]

theorem announces_moduleNode (path : String) (item : Item) :
    extraction.Announces (.module path (extraction.moduleNode path item))
      (marks (extraction.moduleNode path item)) := by
  rw [marks_moduleNode]
  constructor
  all_goals
    simp [Entry.declaredType?, Entry.declaredModule?, Entry.implementationId?]

theorem announces_typeEntry {path name : String} {item : Item} (isType : item.body.isTypeBody) :
    extraction.Announces (extraction.typeEntry path name item)
      (marks (extraction.typeEntry path name item).steps) := by
  rw [marks_typeEntry]
  refine Announces.append_members ?_ (extraction.memberMarks_typeDetails _ _)
  -- Of the two classes of a trait only one is a class of declared types.
  cases shape : item.body with
  | struct | enum | union | trait | typeAlias =>
      constructor
      all_goals
        simp [typeClasses, typeEntry, Entry.declaredType?, Entry.declaredModule?,
          Entry.implementationId?]
  | module | variant | function | implementation | reexport | constant | static | field
  | macroSource | associatedConstant | associatedType | unknown =>
      rw [shape] at isType
      cases isType

theorem announces_implementationNode (id : ItemId) (target : String) (body : ImplementationBody) :
    extraction.Announces (.implementation id target (extraction.implementationNode id target body))
      (marks (extraction.implementationNode id target body)) := by
  rw [marks_implementationNode]
  refine Announces.append_members ?_ (extraction.memberMarks_implementationMembers _ _)
  split
  · constructor
    all_goals
      simp [List.filterMap_cons, Entry.declaredType?, Entry.declaredModule?,
        Entry.implementationId?]
  · constructor
    all_goals
      simp [Entry.declaredType?, Entry.declaredModule?, Entry.implementationId?]

theorem announces_of_mem_walk {entry : Entry} (member : entry ∈ extraction.walk) :
    extraction.Announces entry (marks entry.steps) := by
  cases extraction.walkEntry_of_mem_walk member with
  | log => exact extraction.announces_nil rfl rfl rfl
  | module path item => exact extraction.announces_moduleNode path item
  | function => exact extraction.announces_description (extraction.memberMarks_moduleFunction _ _ _)
  | constant => exact extraction.announces_description (extraction.memberMarks_constant _ _ _)
  | static => exact extraction.announces_description (extraction.memberMarks_static _ _ _)
  | type _ isType _ => exact extraction.announces_typeEntry isType

theorem announces_of_mem_closing {entry : Entry} (member : entry ∈ extraction.closing) :
    extraction.Announces entry (marks entry.steps) := by
  unfold closing at member
  split at member
  · rcases List.mem_cons.mp member with rfl | later
    · exact extraction.announces_nil rfl rfl rfl
    · rcases List.mem_flatMap.mp later with ⟨⟨id, body⟩, _, own⟩
      rcases extraction.mem_implementationEntries_cases own with
        ⟨_, rfl⟩ | rfl | ⟨target, _, _, _, rfl⟩
      · exact extraction.announces_nil rfl rfl rfl
      · exact extraction.announces_nil rfl rfl rfl
      · exact extraction.announces_implementationNode id target body
  · cases member

theorem announces_of_mem_outline {entry : Entry} (member : entry ∈ extraction.outline) :
    extraction.Announces entry (marks entry.steps) := by
  rw [outline_eq, List.mem_append, List.mem_append] at member
  rcases member with (opening | walked) | closing
  · rcases (extraction.mem_opening_iff entry).mp opening with
      ⟨_, _, _, rfl⟩ | rfl | ⟨external, _, rfl⟩
    · exact extraction.announces_nil rfl rfl rfl
    · exact extraction.announces_crateNode
    · exact extraction.announces_dependency external
  · exact extraction.announces_of_mem_walk walked
  · exact extraction.announces_of_mem_closing closing

theorem announces_of_mem_carriedOut {entry : Entry} (member : entry ∈ extraction.carriedOut) :
    extraction.Announces entry (marks entry.steps) :=
  extraction.announces_of_mem_outline ((Progress.carriedOut_sublist _ _).subset member)

/-! ### What the marks of a run show -/

/-- If every entry shows what it announces in some classes, then so do all triples. -/
theorem instances_eq_announced {classes : List String}
    (own : ∀ nodeClass ∈ classes, nodeClass ∉ signatureClasses) (declared : Class.type ∉ classes)
    {announced : Entry → Option String}
    (each : ∀ entry, extraction.Announces entry (marks entry.steps) →
      (marks entry.steps).filterMap (Mark.instance? classes) = (announced entry).toList) :
    instances classes extraction.triples = extraction.carriedOut.filterMap announced := by
  rw [extraction.instances_triples own declared, carriedMarks, List.filterMap_flatMap,
    List.filterMap_eq_flatMap_toList]
  apply List.flatMap_congr
  intro entry member
  exact each entry (extraction.announces_of_mem_carriedOut member)

theorem carriedMarks_balanced :
    extraction.carriedMarks.count .function =
      (extraction.carriedMarks.filterMap (Mark.instance? [Class.method])).length := by
  rw [carriedMarks, List.count_flatMap, List.filterMap_flatMap, List.length_flatMap]
  congr 1
  apply List.map_congr_left
  intro entry member
  exact (extraction.announces_of_mem_carriedOut member).balanced

theorem entryTally_outcome : extraction.outcome.EntryTally extraction.carriedOut :=
  (Progress.EntryTally.start extraction).runEntries extraction.outline

/-- No description calls a node a merely mentioned type. -/
theorem type_type_not_mem_steps {entry : Entry} (member : entry ∈ extraction.outline)
    (node : String) : .iri node Property.type Class.type ∉ entry.steps := by
  intro stated
  have own : Class.type ∉ signatureClasses := by
    simp [signatureClasses, Class.type, Class.typeParameter, Class.constParameter,
      Class.lifetime, Class.parameter]
  have marked := (mem_marks_iff (.typed node Class.type) (Step.mark?_own own node) _).mpr stated
  have shown : node ∈ (marks entry.steps).filterMap (Mark.instance? [Class.type]) :=
    List.mem_filterMap.mpr ⟨_, marked, by simp⟩
  rw [(extraction.announces_of_mem_outline member).mentions] at shown
  cases shown

theorem stepTally_outcome :
    extraction.outcome.StepTally extraction.carriedMarks extraction.triples := by
  rw [triples_eq]
  exact (Progress.StepTally.start extraction).runEntries
    fun _ => extraction.type_type_not_mem_steps

/-- Every function that is counted is a method node, and every method node is counted. -/
theorem functions_eq_length_methods :
    extraction.outcome.stats.functions =
      (instances [Class.method] extraction.triples).length := by
  rw [extraction.stepTally_outcome.functions, carriedMarks_balanced, instances_triples]
  · simp
  · simp [Class.type, Class.method]

/-! ### Implementations -/

theorem implementationIds_sublist (implementations : List (ItemId × ImplementationBody)) :
    ((implementations.flatMap fun (id, body) =>
        extraction.implementationEntries id body).filterMap Entry.implementationId?).Sublist
      (implementations.map Prod.fst) := by
  induction implementations with
  | nil => exact List.Sublist.refl []
  | cons implementation rest induction =>
      rcases implementation with ⟨id, body⟩
      have own : ((extraction.implementationEntries id body).filterMap
          Entry.implementationId?).Sublist [id] := by
        unfold implementationEntries
        split
        · simp [Entry.implementationId?]
        · split
          · simp [Entry.implementationId?]
          · split
            · simp [Entry.implementationId?]
            · simp [Entry.implementationId?]
      rw [List.flatMap_cons, List.filterMap_append]
      exact own.append induction

theorem keys_implementations_sublist :
    (extraction.implementations.map Prod.fst).Sublist extraction.crate.index.keys := by
  unfold implementations Table.keys
  induction extraction.crate.index.entries with
  | nil => exact List.Sublist.refl []
  | cons entry rest induction =>
      rcases entry with ⟨id, item⟩
      rw [List.filterMap_cons]
      dsimp only
      split
      · next skipped => exact induction.cons id
      · next found kept =>
          split at kept
          · cases kept
            exact induction.cons_cons id
          · cases kept

/-- No implementation is described twice, for each has an entry of the index of its own. -/
theorem implementationIds_nodup :
    (extraction.carriedOut.filterMap Entry.implementationId?).Nodup := by
  have outside : ∀ {entries : List Entry}, (∀ entry ∈ entries, entry.isImplementation = false) →
      entries.filterMap Entry.implementationId? = [] := by
    intro entries apart
    rw [List.filterMap_eq_nil_iff]
    intro entry member
    have notImplementation := apart entry member
    cases entry with
    | implementation => cases notImplementation
    | log | namespaceName | description | module | type | skippedImplementation => rfl
  have listed : (extraction.outline.filterMap Entry.implementationId?).Sublist
      (extraction.implementations.map Prod.fst) := by
    rw [outline_eq, List.filterMap_append, List.filterMap_append,
      outside fun _ => extraction.isImplementation_of_mem_opening,
      outside fun _ => extraction.isImplementation_of_mem_walk]
    unfold closing
    split
    · exact extraction.implementationIds_sublist extraction.implementations
    · exact List.nil_sublist _
  have carried : (extraction.carriedOut.filterMap Entry.implementationId?).Sublist
      (extraction.outline.filterMap Entry.implementationId?) :=
    (Progress.carriedOut_sublist _ _).filterMap _
  exact ((carried.trans listed).trans extraction.keys_implementations_sublist).nodup
    extraction.crate.index.nodup

theorem length_implementations :
    extraction.implementations.length =
      extraction.crate.index.values.countP (·.body.isImplementation) := by
  rw [implementations, List.length_filterMap_eq_countP, Table.values, List.countP_map]
  congr 1
  funext entry
  rcases entry with ⟨id, item⟩
  cases shape : item.body
  all_goals simp [shape, ItemBody.isImplementation]

theorem countP_implementationEntries (id : ItemId) (body : ImplementationBody) :
    (extraction.implementationEntries id body).countP Entry.isImplementation = 1 := by
  unfold implementationEntries
  split
  · rfl
  · split
    · rfl
    · split
      · rfl
      · rfl

theorem countP_outline :
    extraction.outline.countP Entry.isImplementation =
      if extraction.options.includeImplementations then
        extraction.crate.index.values.countP (·.body.isImplementation)
      else 0 := by
  have opening : extraction.opening.countP Entry.isImplementation = 0 := by
    rw [List.countP_eq_zero]
    intro entry member
    simp [extraction.isImplementation_of_mem_opening member]
  have walked : extraction.walk.countP Entry.isImplementation = 0 := by
    rw [List.countP_eq_zero]
    intro entry member
    simp [extraction.isImplementation_of_mem_walk member]
  rw [outline_eq, List.countP_append, List.countP_append, opening, walked, Nat.zero_add,
    ← length_implementations]
  unfold closing
  split
  · rw [allImplementationEntries, List.countP_cons, List.countP_flatMap]
    simp [Function.comp_def, countP_implementationEntries, logEntry, Entry.isImplementation]
  · rfl

theorem handled_outcome :
    extraction.outcome.handled = extraction.outline.countP Entry.isImplementation := by
  have counted := (Progress.start extraction).handled_runEntries extraction.outline
  have fresh : (Progress.start extraction).handled = 0 := rfl
  rw [fresh, Int.zero_add] at counted
  exact counted

theorem processed_le_countP :
    extraction.outcome.stats.implementationsProcessed ≤
      extraction.outline.countP Entry.isImplementation := by
  have described : ∀ entry : Entry, entry.implementationId?.isSome → entry.isImplementation := by
    intro entry isDescribed
    cases entry with
    | implementation => rfl
    | log | namespaceName | description | module | type | skippedImplementation =>
        cases isDescribed
  rw [extraction.entryTally_outcome.processed, List.length_filterMap_eq_countP]
  have carried : extraction.carriedOut.countP (·.implementationId?.isSome) ≤
      extraction.outline.countP (·.implementationId?.isSome) :=
    (Progress.carriedOut_sublist _ _).countP_le
  have listed : extraction.outline.countP (·.implementationId?.isSome) ≤
      extraction.outline.countP Entry.isImplementation :=
    List.countP_mono_left fun entry _ => described entry
  exact_mod_cast carried.trans listed

/-- All implementations of the index are either described or skipped, or none is looked at. -/
theorem processed_and_skipped :
    if extraction.options.includeImplementations then
      extraction.outcome.stats.implementationsProcessed +
          extraction.outcome.stats.implementationsSkipped.values.sum =
        extraction.crate.index.values.countP (·.body.isImplementation)
    else
      extraction.outcome.stats.implementationsProcessed = 0 ∧
        extraction.outcome.stats.implementationsSkipped.values.sum = 0 := by
  have handled := extraction.handled_outcome
  have bounded := extraction.processed_le_countP
  have processed := extraction.entryTally_outcome.processed
  rw [countP_outline] at handled bounded
  unfold Progress.handled at handled
  split
  · next included =>
      rw [if_pos included] at handled
      exact handled
  · next excluded =>
      rw [if_neg excluded] at handled bounded
      omega

/-! ### The counters -/

/-- Some nodes are pairwise distinct, and both a count and the size of a set give their number. -/
structure Counted (nodes remembered : List String) (count : Int) : Prop where
  nodup : nodes.Nodup
  number : nodes.length = count
  rememberedNodup : remembered.Nodup
  size : remembered.length = count

theorem types_counted :
    Counted (instances declaredClasses extraction.triples) extraction.outcome.types
      extraction.outcome.stats.types := by
  have tally := extraction.entryTally_outcome
  have shown : instances declaredClasses extraction.triples = extraction.outcome.types.reverse := by
    rw [← tally.types]
    apply instances_eq_announced
    · simp [declaredClasses]
    · simp
    · exact fun _ announces => announces.types
  rw [shown]
  constructor
  · exact List.nodup_reverse.mpr tally.typesNodup
  · rw [List.length_reverse, tally.typeCount]
  · exact tally.typesNodup
  · exact tally.typeCount.symm

theorem modules_counted :
    Counted (instances [Class.module] extraction.triples) extraction.outcome.modules
      extraction.outcome.stats.namespaces := by
  have tally := extraction.entryTally_outcome
  have shown : instances [Class.module] extraction.triples =
      extraction.outcome.modules.reverse.map extraction.moduleIri := by
    rw [← tally.modules, List.map_filterMap]
    apply instances_eq_announced
    · simp
    · simp [Class.type, Class.module]
    · exact fun _ announces => announces.modules
  rw [shown]
  constructor
  · exact (List.nodup_reverse.mpr tally.modulesNodup).map extraction.moduleIri_injective
  · rw [List.length_map, List.length_reverse, tally.moduleCount]
  · exact tally.modulesNodup
  · exact tally.moduleCount.symm

theorem stubs_counted :
    Counted (instances [Class.type] extraction.triples) extraction.outcome.stubs
      extraction.outcome.stats.externalTypes := by
  have tally := extraction.stepTally_outcome
  rw [tally.stubs]
  constructor
  · exact List.nodup_reverse.mpr tally.stubsNodup
  · rw [List.length_reverse, tally.stubCount]
  · exact tally.stubsNodup
  · exact tally.stubCount.symm

theorem implementations_counted :
    (instances implementationClasses extraction.triples).Nodup ∧
      (instances implementationClasses extraction.triples).length =
        extraction.outcome.stats.implementationsProcessed := by
  have shown : instances implementationClasses extraction.triples =
      (extraction.carriedOut.filterMap Entry.implementationId?).map
        extraction.implementationIri := by
    rw [List.map_filterMap]
    apply instances_eq_announced
    · simp [implementationClasses]
    · simp
    · exact fun _ announces => announces.implementations
  rw [shown]
  constructor
  · exact extraction.implementationIds_nodup.map extraction.implementationIri_injective
  · rw [List.length_map, extraction.entryTally_outcome.processed]

/-- What is declared is declared once. The counters of types, modules, merely mentioned types and
functions give the numbers of their nodes, and the implementations that are counted or skipped make
up those of the index. -/
theorem declared_once_and_counted :
    Counted (instances declaredClasses extraction.triples) extraction.outcome.types
        extraction.outcome.stats.types ∧
      Counted (instances [Class.module] extraction.triples) extraction.outcome.modules
        extraction.outcome.stats.namespaces ∧
      Counted (instances [Class.type] extraction.triples) extraction.outcome.stubs
        extraction.outcome.stats.externalTypes ∧
      (instances [Class.method] extraction.triples).length = extraction.outcome.stats.functions ∧
      (instances implementationClasses extraction.triples).Nodup ∧
      (instances implementationClasses extraction.triples).length =
        extraction.outcome.stats.implementationsProcessed ∧
      if extraction.options.includeImplementations then
        extraction.outcome.stats.implementationsProcessed +
            extraction.outcome.stats.implementationsSkipped.values.sum =
          extraction.crate.index.values.countP (·.body.isImplementation)
      else
        extraction.outcome.stats.implementationsProcessed = 0 ∧
          extraction.outcome.stats.implementationsSkipped.values.sum = 0 :=
  ⟨extraction.types_counted, extraction.modules_counted, extraction.stubs_counted,
    extraction.functions_eq_length_methods.symm, extraction.implementations_counted.1,
    extraction.implementations_counted.2, extraction.processed_and_skipped⟩

end Extraction

end CrateGraph
