import CrateGraph.Proofs.Extraction.Origins
import CrateGraph.Proofs.Extraction.ReachableDeclarations

/-!
What the first run over a crate describes, in terms of the crate.

The run describes the crate and its dependencies, each module and each type once, as the item that
the walk comes to first, every function, constant and static that the walk comes to, and the
implementations of declared types. A triple that is not about a merely mentioned type is in the
result exactly if one of these descriptions holds it.
-/

namespace CrateGraph

open Rdf (Triple)

namespace Extraction

/-! ### The items that the walk comes to -/

def walk (extraction : Extraction) : List Entry :=
  extraction.moduleEntries [] extraction.crate.root extraction.crateName

/-- The walk comes to the item in a module with the path. -/
def Visits (extraction : Extraction) (path : String) (item : Item) : Prop :=
  ∃ ids last id, extraction.ModuleChain ids ∧ ids.getLast? = some last ∧
    extraction.Lists last id ∧ extraction.item? id = some item ∧
    path = extraction.chainPath ids

theorem visits_of_root (extraction : Extraction) {body : ModuleBody} {id : ItemId} {item : Item}
    (holds : extraction.moduleBody? extraction.crate.root = some body) (listed : id ∈ body.items)
    (found : extraction.item? id = some item) : extraction.Visits extraction.crateName item := by
  refine ⟨[extraction.crate.root], extraction.crate.root, id, ?_, rfl, ⟨body, holds, listed⟩, found,
    String.intercalate_singleton.symm⟩
  exact (extraction.moduleChain_singleton_iff _).mpr ⟨rfl, Option.isSome_of_eq_some holds⟩

theorem Visits.found {extraction : Extraction} {path : String} {item : Item}
    (visited : extraction.Visits path item) : ∃ id, extraction.item? id = some item := by
  rcases visited with ⟨_, _, id, _, _, _, found, _⟩
  exact ⟨id, found⟩

/-- What the walk says of a type that it comes to in a module with the path. -/
def typeEntry (extraction : Extraction) (path name : String) (item : Item) : Entry :=
  .type (extraction.typeIri (extendPath path name)) (extendPath path name)
    (extraction.typeHeader (extraction.typeIri (extendPath path name)) name path item
        (typeClasses item.body) ++
      extraction.typeDetails (extraction.typeIri (extendPath path name)) item.body)

theorem mem_itemEntries_iff (extraction : Extraction) (item : Item) (path : String)
    (entry : Entry) :
    entry ∈ extraction.itemEntries item path ↔
      (∃ body, item.body = .function body ∧
        entry = .description (extraction.moduleFunction item body path)) ∨
      (∃ body, item.body = .constant body ∧
        entry = .description (extraction.constant item body path)) ∨
      (∃ body, item.body = .static body ∧
        entry = .description (extraction.static item body path)) ∨
      (∃ name, item.body.isTypeBody ∧ item.properName? = some name ∧
        entry = extraction.typeEntry path name item) := by
  unfold itemEntries
  split
  · next isFunction => simp [isFunction, ItemBody.isTypeBody]
  · next isConstant => simp [isConstant, ItemBody.isTypeBody]
  · next isStatic => simp [isStatic, ItemBody.isTypeBody]
  · next notFunction notConstant notStatic =>
      have isNone : (∀ body, item.body ≠ .function body) ∧ (∀ body, item.body ≠ .constant body) ∧
          ∀ body, item.body ≠ .static body := ⟨notFunction, notConstant, notStatic⟩
      simp only [isNone, false_and, exists_false, false_or]
      split
      · next noClass =>
          rw [typeClasses_eq_nil_iff] at noClass
          simp [noClass]
      · next nameless _ => simp [nameless]
      · next name named classes =>
          have isType : item.body.isTypeBody = true := by
            rw [← Bool.not_eq_false, ← typeClasses_eq_nil_iff]
            exact classes
          simp [named, isType, typeEntry]

theorem ne_log_of_mem_itemEntries (extraction : Extraction) {item : Item} {path : String}
    {entry : Entry} (own : entry ∈ extraction.itemEntries item path) (record : LogRecord) :
    entry ≠ .log record := by
  rcases (extraction.mem_itemEntries_iff item path entry).mp own with
    ⟨_, _, rfl⟩ | ⟨_, _, rfl⟩ | ⟨_, _, rfl⟩ | ⟨_, _, _, rfl⟩
  all_goals exact Entry.noConfusion

theorem mem_walk_of_visits (extraction : Extraction) {path : String} {item : Item} {entry : Entry}
    (visited : extraction.Visits path item) (own : entry ∈ extraction.itemEntries item path) :
    entry ∈ extraction.walk := by
  rcases visited with ⟨ids, last, id, chain, isLast, lists, found, rfl⟩
  rcases extraction.exists_stop_of_moduleChain chain with ⟨stop, reached, rfl⟩
  obtain rfl : stop.id = last := Option.some.inj (stop.getLast?_chain.symm.trans isLast)
  rcases extraction.moduleChain_of_stop reached lists.isModule with ⟨_, pathEqual⟩
  rcases lists with ⟨body, holds, listed⟩
  rcases (extraction.moduleBody?_eq_some_iff _ _).mp holds with ⟨outer, outerFound, isModule⟩
  apply extraction.mem_moduleEntries_of_stop (extraction.ne_log_of_mem_itemEntries own) reached ?_
    List.not_mem_nil
  refine (extraction.mem_stopEntries_iff stop entry).mpr ⟨outer, body, outerFound, isModule, ?_⟩
  exact Or.inr ⟨id, listed, item, found, pathEqual ▸ own⟩

/-- The walk logs, declares modules and goes through the items that it comes to. -/
inductive WalkEntry (extraction : Extraction) : Entry → Prop
  | log (record : LogRecord) : WalkEntry extraction (.log record)
  | module (path : String) (item : Item) :
      WalkEntry extraction (.module path (extraction.moduleNode path item))
  | function {path : String} {item : Item} {body : FunctionBody}
      (visited : extraction.Visits path item) (isFunction : item.body = .function body) :
      WalkEntry extraction (.description (extraction.moduleFunction item body path))
  | constant {path : String} {item : Item} {body : ConstantBody}
      (visited : extraction.Visits path item) (isConstant : item.body = .constant body) :
      WalkEntry extraction (.description (extraction.constant item body path))
  | static {path : String} {item : Item} {body : StaticBody}
      (visited : extraction.Visits path item) (isStatic : item.body = .static body) :
      WalkEntry extraction (.description (extraction.static item body path))
  | type {path name : String} {item : Item} (visited : extraction.Visits path item)
      (isType : item.body.isTypeBody) (named : item.properName? = some name) :
      WalkEntry extraction (extraction.typeEntry path name item)

theorem walkEntry_of_mem_itemEntries (extraction : Extraction) {path : String} {item : Item}
    {entry : Entry} (visited : extraction.Visits path item)
    (own : entry ∈ extraction.itemEntries item path) : extraction.WalkEntry entry := by
  rcases (extraction.mem_itemEntries_iff item path entry).mp own with
    ⟨_, isFunction, rfl⟩ | ⟨_, isConstant, rfl⟩ | ⟨_, isStatic, rfl⟩ | ⟨_, isType, named, rfl⟩
  · exact .function visited isFunction
  · exact .constant visited isConstant
  · exact .static visited isStatic
  · exact .type visited isType named

theorem walkEntry_of_mem_walk (extraction : Extraction) {entry : Entry}
    (member : entry ∈ extraction.walk) : extraction.WalkEntry entry := by
  by_cases isLog : ∃ record, entry = .log record
  · rcases isLog with ⟨record, rfl⟩
    exact .log record
  · have said : ∀ record, entry ≠ .log record := fun record equal => isLog ⟨record, equal⟩
    rcases extraction.exists_stop_of_mem_moduleEntries said _ _ _ member with ⟨stop, reached, own⟩
    rcases (extraction.mem_stopEntries_iff stop entry).mp own with
      ⟨outer, body, found, isModule, reason⟩
    rcases reason with ⟨_, rfl⟩ | ⟨child, listed, childItem, childFound, ofChild⟩
    · exact .module stop.path outer
    · have holds := (extraction.moduleBody?_eq_some_iff _ _).mpr ⟨outer, found, isModule⟩
      have chain := extraction.moduleChain_of_stop reached (Option.isSome_of_eq_some holds)
      have visited : extraction.Visits stop.path childItem :=
        ⟨stop.chain, stop.id, child, chain.1, stop.getLast?_chain, ⟨body, holds, listed⟩,
          childFound, chain.2⟩
      exact extraction.walkEntry_of_mem_itemEntries visited ofChild

theorem isImplementation_of_mem_walk (extraction : Extraction) {entry : Entry}
    (member : entry ∈ extraction.walk) : entry.isImplementation = false := by
  cases extraction.walkEntry_of_mem_walk member with
  | log | module | function | constant | static | type => rfl

theorem implementation_not_mem_walk (extraction : Extraction) (id : ItemId) (target : String)
    (steps : List Step) : .implementation id target steps ∉ extraction.walk := by
  intro member
  have apart := extraction.isImplementation_of_mem_walk member
  cases apart

/-! ### The parts of the outline -/

def opening (extraction : Extraction) : List Entry :=
  namespaceEntries ++ [.description extraction.crateNode] ++
    extraction.crate.externalCrates.values.map
      (fun external => .description (extraction.dependency external))

def closing (extraction : Extraction) : List Entry :=
  if extraction.options.includeImplementations then extraction.allImplementationEntries else []

theorem outline_eq (extraction : Extraction) :
    extraction.outline = extraction.opening ++ extraction.walk ++ extraction.closing :=
  rfl

theorem mem_opening_iff (extraction : Extraction) (entry : Entry) :
    entry ∈ extraction.opening ↔
      (∃ name iri, (name, iri) ∈ Ontology.namespaceNames ∧ entry = .namespaceName name iri) ∨
      entry = .description extraction.crateNode ∨
      ∃ external ∈ extraction.crate.externalCrates.values,
        entry = .description (extraction.dependency external) := by
  simp [opening, namespaceEntries, eq_comm]

theorem declaration?_of_mem_opening (extraction : Extraction) {entry : Entry}
    (member : entry ∈ extraction.opening) : entry.declaration? = none := by
  rcases (extraction.mem_opening_iff entry).mp member with
    ⟨_, _, _, rfl⟩ | rfl | ⟨_, _, rfl⟩
  all_goals rfl

theorem isImplementation_of_mem_opening (extraction : Extraction) {entry : Entry}
    (member : entry ∈ extraction.opening) : entry.isImplementation = false := by
  rcases (extraction.mem_opening_iff entry).mp member with
    ⟨_, _, _, rfl⟩ | rfl | ⟨_, _, rfl⟩
  all_goals rfl

theorem declaration?_of_mem_closing (extraction : Extraction) {entry : Entry}
    (member : entry ∈ extraction.closing) : entry.declaration? = none := by
  unfold closing at member
  split at member
  · exact extraction.declaration?_of_mem_allImplementationEntries member
  · cases member

theorem carriesOut_of_mem_opening (extraction : Extraction) {entry : Entry}
    (member : entry ∈ extraction.opening) (progress : Progress) : progress.carriesOut entry := by
  rcases (extraction.mem_opening_iff entry).mp member with
    ⟨_, _, _, rfl⟩ | rfl | ⟨_, _, rfl⟩
  all_goals rfl

def opened (extraction : Extraction) : Progress :=
  ((Progress.start extraction).runEntries extraction.opening).1

def walked (extraction : Extraction) : Progress :=
  (extraction.opened.runEntries extraction.walk).1

theorem outcome_eq (extraction : Extraction) :
    extraction.outcome = (extraction.walked.runEntries extraction.closing).1 := by
  change ((Progress.start extraction).runEntries extraction.outline).1 = _
  rw [outline_eq, Progress.runEntries_append, Progress.runEntries_append]
  rfl

theorem not_declares_opened (extraction : Extraction) (declaration : Declaration) :
    ¬extraction.opened.Declares declaration := by
  intro declared
  rcases (Progress.declares_runEntries _ _ _).mp declared with before | ⟨entry, member, asked⟩
  · exact Progress.not_declares_start extraction declaration before
  · rw [extraction.declaration?_of_mem_opening member] at asked
    cases asked

theorem declares_outcome_iff (extraction : Extraction) (declaration : Declaration) :
    extraction.outcome.Declares declaration ↔ extraction.walked.Declares declaration := by
  rw [outcome_eq, Progress.declares_runEntries]
  apply or_iff_left
  intro asking
  rcases asking with ⟨entry, member, asked⟩
  rw [extraction.declaration?_of_mem_closing member] at asked
  cases asked

theorem carriedOut_eq (extraction : Extraction) :
    extraction.carriedOut =
      extraction.opening ++ extraction.opened.carriedOut extraction.walk ++
        extraction.walked.carriedOut extraction.closing := by
  rw [carriedOut, outline_eq, Progress.carriedOut_append, Progress.carriedOut_append,
    Progress.runEntries_append,
    Progress.carriedOut_eq_self (fun _ => extraction.carriesOut_of_mem_opening)]
  rfl

theorem mem_carriedOut_iff (extraction : Extraction) (entry : Entry) :
    entry ∈ extraction.carriedOut ↔
      entry ∈ extraction.opening ∨
      (entry ∈ extraction.walk ∧ ∀ declaration, entry.declaration? = some declaration →
        Entry.firstDeclaring? extraction.walk declaration = some entry) ∨
      (entry ∈ extraction.closing ∧ extraction.outcome.carriesOut entry) := by
  have closes : extraction.walked.carriesOut entry = extraction.outcome.carriesOut entry :=
    Progress.carriesOut_congr (fun _ => (extraction.declares_outcome_iff _).symm) entry
  rw [carriedOut_eq, List.mem_append, List.mem_append, or_assoc,
    Progress.mem_carriedOut_iff_first extraction.not_declares_opened
      extraction.implementation_not_mem_walk,
    Progress.mem_carriedOut_iff_of_undeclaring (fun _ => extraction.declaration?_of_mem_closing),
    closes]

/-! ### Declared types -/

/-- The walk declares the type by the name in the module with the path, as this item. -/
structure DeclaresType (extraction : Extraction) (path name : String) (item : Item) : Prop where
  visited : extraction.Visits path item
  isType : item.body.isTypeBody
  named : item.properName? = some name
  first : Entry.firstDeclaring? extraction.walk
      (.type (extraction.typeIri (extendPath path name))) =
    some (extraction.typeEntry path name item)

theorem DeclaresType.mem_types {extraction : Extraction} {path name : String} {item : Item}
    (declares : extraction.DeclaresType path name item) :
    extraction.typeIri (extendPath path name) ∈ extraction.outcome.types :=
  (extraction.declares_run_iff (.type _)).mpr
    ⟨_, List.mem_of_find?_eq_some declares.first, rfl⟩

theorem typeEntry_mem_walk (extraction : Extraction) {path name : String} {item : Item}
    (visited : extraction.Visits path item) (isType : item.body.isTypeBody)
    (named : item.properName? = some name) :
    extraction.typeEntry path name item ∈ extraction.walk := by
  apply extraction.mem_walk_of_visits visited
  exact (extraction.mem_itemEntries_iff item path _).mpr
    (Or.inr (Or.inr (Or.inr ⟨name, isType, named, rfl⟩)))

theorem mem_types_of_visits (extraction : Extraction) {path name : String} {item : Item}
    (visited : extraction.Visits path item) (isType : item.body.isTypeBody)
    (named : item.properName? = some name) :
    extraction.typeIri (extendPath path name) ∈ extraction.outcome.types :=
  (extraction.declares_run_iff (.type _)).mpr
    ⟨_, extraction.typeEntry_mem_walk visited isType named, rfl⟩

/-- What a run declares, its walk has a first entry for. -/
theorem exists_firstDeclaring (extraction : Extraction) {declaration : Declaration}
    (declared : extraction.outcome.Declares declaration) :
    ∃ entry, Entry.firstDeclaring? extraction.walk declaration = some entry ∧
      entry.declaration? = some declaration := by
  rcases (extraction.declares_run_iff declaration).mp declared with ⟨asking, walked, asked⟩
  have found : (Entry.firstDeclaring? extraction.walk declaration).isSome :=
    List.find?_isSome.mpr ⟨asking, walked, by simpa using asked⟩
  rcases Option.isSome_iff_exists.mp found with ⟨entry, first⟩
  exact ⟨entry, first, by simpa using List.find?_some first⟩

theorem exists_declaresType (extraction : Extraction) {iri : String}
    (declared : iri ∈ extraction.outcome.types) :
    ∃ path name item, extraction.DeclaresType path name item ∧
      iri = extraction.typeIri (extendPath path name) := by
  have declares : extraction.outcome.Declares (.type iri) := declared
  rcases extraction.exists_firstDeclaring declares with ⟨entry, first, asked⟩
  cases extraction.walkEntry_of_mem_walk (List.mem_of_find?_eq_some first) with
  | log | module | function | constant | static => cases asked
  | type visited isType named =>
      obtain rfl := Declaration.type.inj (Option.some.inj asked)
      exact ⟨_, _, _, ⟨visited, isType, named, first⟩, rfl⟩

theorem exists_firstModule (extraction : Extraction) {path : String}
    (declared : path ∈ extraction.outcome.modules) :
    ∃ item, Entry.firstDeclaring? extraction.walk (.module path) =
      some (.module path (extraction.moduleNode path item)) := by
  have declares : extraction.outcome.Declares (.module path) := declared
  rcases extraction.exists_firstDeclaring declares with ⟨entry, first, asked⟩
  cases extraction.walkEntry_of_mem_walk (List.mem_of_find?_eq_some first) with
  | log | function | constant | static | type => cases asked
  | module other item =>
      obtain rfl := Declaration.module.inj (Option.some.inj asked)
      exact ⟨item, first⟩

/-! ### Implementations of declared types -/

/-- The run describes the implementation, as one of the type with the target's address. -/
structure Processes (extraction : Extraction) (id : ItemId) (body : ImplementationBody)
    (target : String) : Prop where
  included : extraction.options.includeImplementations
  found : ∃ item, extraction.item? id = some item ∧ item.body = .implementation body
  notSynthetic : body.isSynthetic = false
  notBlanket : body.blanket = none
  resolves : extraction.typeIri? body.target = some target
  declared : target ∈ extraction.outcome.types

theorem mem_implementations_iff (extraction : Extraction) (id : ItemId)
    (body : ImplementationBody) :
    (id, body) ∈ extraction.implementations ↔
      ∃ item, extraction.item? id = some item ∧ item.body = .implementation body := by
  rw [implementations, List.mem_filterMap]
  constructor
  · intro listing
    rcases listing with ⟨⟨key, item⟩, member, holds⟩
    rw [Table.mem_entries_iff] at member
    dsimp only at holds
    split at holds
    · next found isImplementation =>
        cases holds
        exact ⟨item, member, isImplementation⟩
    · cases holds
  · intro finding
    rcases finding with ⟨item, found, isImplementation⟩
    refine ⟨(id, item), (Table.mem_entries_iff _ _ _).mpr found, ?_⟩
    dsimp only
    rw [isImplementation]

theorem mem_implementationEntries_cases (extraction : Extraction) {id : ItemId}
    {body : ImplementationBody} {entry : Entry}
    (member : entry ∈ extraction.implementationEntries id body) :
    (∃ reason, entry = .skippedImplementation reason) ∨
      entry = .description [.countUnresolved] ∨
      ∃ target, body.isSynthetic = false ∧ body.blanket = none ∧
        extraction.typeIri? body.target = some target ∧
        entry = .implementation id target (extraction.implementationNode id target body) := by
  unfold implementationEntries at member
  split at member
  · exact Or.inl ⟨_, List.mem_singleton.mp member⟩
  · next notSynthetic =>
      split at member
      · exact Or.inl ⟨_, List.mem_singleton.mp member⟩
      · next notBlanket =>
          split at member
          · simp only [List.mem_cons, List.not_mem_nil, or_false] at member
            rcases member with equal | equal
            · exact Or.inr (Or.inl equal)
            · exact Or.inl ⟨_, equal⟩
          · next target resolves =>
              exact Or.inr (Or.inr ⟨target, by simpa using notSynthetic, by simpa using notBlanket,
                resolves, List.mem_singleton.mp member⟩)

theorem implementation_mem_closing (extraction : Extraction) {id : ItemId}
    {body : ImplementationBody} {target : String}
    (processes : extraction.Processes id body target) :
    .implementation id target (extraction.implementationNode id target body) ∈
      extraction.closing := by
  have listed := (extraction.mem_implementations_iff id body).mpr processes.found
  rw [closing, if_pos processes.included]
  refine List.mem_cons_of_mem _ (List.mem_flatMap.mpr ⟨(id, body), listed, ?_⟩)
  simp [implementationEntries, processes.notSynthetic, processes.notBlanket, processes.resolves]

theorem processes_of_mem_closing (extraction : Extraction) {entry : Entry} {triple : Triple}
    (member : entry ∈ extraction.closing) (carried : extraction.outcome.carriesOut entry)
    (states : .triple triple ∈ entry.steps) :
    ∃ id body target, extraction.Processes id body target ∧
      entry.steps = extraction.implementationNode id target body := by
  unfold closing at member
  split at member
  · next included =>
      rcases List.mem_cons.mp member with rfl | later
      · cases states
      · rcases List.mem_flatMap.mp later with ⟨⟨id, body⟩, listed, own⟩
        rcases extraction.mem_implementationEntries_cases own with
          ⟨_, rfl⟩ | rfl | ⟨target, notSynthetic, notBlanket, resolves, rfl⟩
        · cases states
        · simp [Entry.steps] at states
        · have declared : target ∈ extraction.outcome.types := by
            simpa [Progress.carriesOut] using carried
          have found := (extraction.mem_implementations_iff id body).mp listed
          exact ⟨id, body, target,
            ⟨included, found, notSynthetic, notBlanket, resolves, declared⟩, rfl⟩
  · cases member

/-! ### All descriptions -/

inductive Describes (extraction : Extraction) : List Step → Prop
  | crate : Describes extraction extraction.crateNode
  | dependency {external : ExternalCrate}
      (listed : external ∈ extraction.crate.externalCrates.values) :
      Describes extraction (extraction.dependency external)
  | module {path : String} {item : Item}
      (first : Entry.firstDeclaring? extraction.walk (.module path) =
        some (.module path (extraction.moduleNode path item))) :
      Describes extraction (extraction.moduleNode path item)
  | function {path : String} {item : Item} {body : FunctionBody}
      (visited : extraction.Visits path item) (isFunction : item.body = .function body) :
      Describes extraction (extraction.moduleFunction item body path)
  | constant {path : String} {item : Item} {body : ConstantBody}
      (visited : extraction.Visits path item) (isConstant : item.body = .constant body) :
      Describes extraction (extraction.constant item body path)
  | static {path : String} {item : Item} {body : StaticBody}
      (visited : extraction.Visits path item) (isStatic : item.body = .static body) :
      Describes extraction (extraction.static item body path)
  | type {path name : String} {item : Item} (declares : extraction.DeclaresType path name item) :
      Describes extraction (extraction.typeEntry path name item).steps
  | implementation {id : ItemId} {body : ImplementationBody} {target : String}
      (processes : extraction.Processes id body target) :
      Describes extraction (extraction.implementationNode id target body)

theorem describes_of_mem_carriedOut (extraction : Extraction) {entry : Entry} {triple : Triple}
    (carried : entry ∈ extraction.carriedOut) (states : .triple triple ∈ entry.steps) :
    extraction.Describes entry.steps := by
  rcases (extraction.mem_carriedOut_iff entry).mp carried with
    opening | ⟨walked, first⟩ | ⟨closing, carries⟩
  · rcases (extraction.mem_opening_iff entry).mp opening with
      ⟨_, _, _, rfl⟩ | rfl | ⟨external, listed, rfl⟩
    · cases states
    · exact .crate
    · exact .dependency listed
  · cases extraction.walkEntry_of_mem_walk walked with
    | log => cases states
    | module => exact .module (first _ rfl)
    | function visited isFunction => exact .function visited isFunction
    | constant visited isConstant => exact .constant visited isConstant
    | static visited isStatic => exact .static visited isStatic
    | type visited isType named => exact .type ⟨visited, isType, named, first _ rfl⟩
  · rcases extraction.processes_of_mem_closing closing carries states with
      ⟨id, body, target, processes, equal⟩
    rw [equal]
    exact .implementation processes

theorem exists_carriedOut_of_describes (extraction : Extraction) {steps : List Step}
    (describes : extraction.Describes steps) :
    ∃ entry ∈ extraction.carriedOut, entry.steps = steps := by
  have walks : ∀ {path item entry}, extraction.Visits path item →
      entry ∈ extraction.itemEntries item path → entry.declaration? = none →
      entry ∈ extraction.carriedOut := by
    intro path item entry visited own undeclaring
    refine (extraction.mem_carriedOut_iff entry).mpr (Or.inr (Or.inl ?_))
    refine ⟨extraction.mem_walk_of_visits visited own, ?_⟩
    intro declaration asked
    rw [undeclaring] at asked
    cases asked
  have declares : ∀ {entry declaration}, entry.declaration? = some declaration →
      Entry.firstDeclaring? extraction.walk declaration = some entry →
      entry ∈ extraction.carriedOut := by
    intro entry declaration asked first
    refine (extraction.mem_carriedOut_iff entry).mpr (Or.inr (Or.inl ?_))
    refine ⟨List.mem_of_find?_eq_some first, ?_⟩
    intro other isAsked
    obtain rfl : declaration = other := Option.some.inj (asked.symm.trans isAsked)
    exact first
  have opens : ∀ {entry}, entry ∈ extraction.opening → entry ∈ extraction.carriedOut :=
    fun member => (extraction.mem_carriedOut_iff _).mpr (Or.inl member)
  cases describes with
  | crate =>
      exact ⟨.description _, opens ((extraction.mem_opening_iff _).mpr (Or.inr (Or.inl rfl))), rfl⟩
  | dependency listed =>
      exact ⟨.description _,
        opens ((extraction.mem_opening_iff _).mpr (Or.inr (Or.inr ⟨_, listed, rfl⟩))), rfl⟩
  | module first => exact ⟨_, declares rfl first, rfl⟩
  | function visited isFunction =>
      exact ⟨_, walks visited ((extraction.mem_itemEntries_iff _ _ _).mpr
        (Or.inl ⟨_, isFunction, rfl⟩)) rfl, rfl⟩
  | constant visited isConstant =>
      exact ⟨_, walks visited ((extraction.mem_itemEntries_iff _ _ _).mpr
        (Or.inr (Or.inl ⟨_, isConstant, rfl⟩))) rfl, rfl⟩
  | static visited isStatic =>
      exact ⟨_, walks visited ((extraction.mem_itemEntries_iff _ _ _).mpr
        (Or.inr (Or.inr (Or.inl ⟨_, isStatic, rfl⟩)))) rfl, rfl⟩
  | type declaresType => exact ⟨_, declares rfl declaresType.first, rfl⟩
  | implementation processes =>
      refine ⟨_, (extraction.mem_carriedOut_iff _).mpr (Or.inr (Or.inr
        ⟨extraction.implementation_mem_closing processes, ?_⟩)), rfl⟩
      simpa [Progress.carriesOut] using processes.declared

/-- The triples stated are those of the descriptions. -/
theorem mem_statedTriples_iff (extraction : Extraction) (triple : Triple) :
    triple ∈ extraction.statedTriples ↔
      ∃ steps, extraction.Describes steps ∧ .triple triple ∈ steps := by
  rw [statedTriples_eq, List.mem_filterMap]
  constructor
  · intro stating
    rcases stating with ⟨step, member, states⟩
    obtain rfl := Step.eq_triple_of_triple? states
    rcases List.mem_flatMap.mp member with ⟨entry, carried, own⟩
    exact ⟨entry.steps, extraction.describes_of_mem_carriedOut carried own, own⟩
  · intro describing
    rcases describing with ⟨steps, describes, own⟩
    rcases extraction.exists_carriedOut_of_describes describes with ⟨entry, carried, rfl⟩
    exact ⟨.triple triple, List.mem_flatMap.mpr ⟨entry, carried, own⟩, rfl⟩

/-- Nodes of merely mentioned types apart, the triples are those of the descriptions. -/
theorem mem_triples_iff (extraction : Extraction) {triple : Triple}
    (notStub : ∀ iri name, triple ∉ Progress.stubNode iri name) :
    triple ∈ extraction.triples ↔
      ∃ steps, extraction.Describes steps ∧ Step.triple triple ∈ steps := by
  rw [mem_triples_iff_origin, mem_statedTriples_iff]
  apply or_iff_left
  intro written
  rcases extraction.exists_stubNode_of_mem_stubTriples written with ⟨iri, name, own, _⟩
  exact notStub iri name own

theorem mem_triples_of_describes (extraction : Extraction) {steps : List Step}
    (describes : extraction.Describes steps) {triple : Triple} (states : .triple triple ∈ steps) :
    triple ∈ extraction.triples :=
  (extraction.mem_triples_iff_origin triple).mpr
    (Or.inl ((extraction.mem_statedTriples_iff triple).mpr ⟨steps, describes, states⟩))

end Extraction

/-! ### Crates with few items -/

/-- A public item of which nothing but a name and a body is known. -/
def Item.plain (name : Option String) (body : ItemBody) : Item where
  id := none
  name := name
  visibility := .everywhere
  attributes := []
  body := body
  crateId := 0
  docs := none
  span := none
  deprecation := none
  links := Table.empty

theorem Item.properName?_plain {name : String} (proper : name ≠ "") (body : ItemBody) :
    (Item.plain (some name) body).properName? = some name :=
  (Item.properName?_eq_some_iff _ _).mpr ⟨rfl, proper⟩

namespace Extraction

/-- A crate named `demo` under the default options. Its root has the id 0 and lists the ids given;
all other items follow. -/
def demo (listed : List ItemId) (items : Entries String Item) (paths : Table ItemSummary)
    (nodup : ("0" :: items.map Prod.fst).Nodup := by simp) : Extraction where
  crate :=
    { root := "0"
      version := some "1.0.0"
      index := ⟨("0", .plain (some "demo") (.module ⟨listed, false, true⟩)) :: items, nodup⟩
      paths := paths
      externalCrates := Table.empty
      formatVersion := 30
      includesPrivate := false }
  options := ExtractionOptions.default

variable {listed : List ItemId} {items : Entries String Item} {paths : Table ItemSummary}
  {nodup : ("0" :: items.map Prod.fst).Nodup}

theorem crateName_demo : (demo listed items paths nodup).crateName = "demo" :=
  rfl

theorem item?_demo {id : ItemId} {item : Item} (member : (id, item) ∈ items) :
    (demo listed items paths nodup).item? id = some item :=
  Entries.get?_of_mem nodup (List.mem_cons_of_mem _ member)

theorem mem_of_item?_demo {id : ItemId} {item : Item}
    (found : (demo listed items paths nodup).item? id = some item)
    (inner : ∀ body, item.body ≠ .module body) : (id, item) ∈ items := by
  have member := (Table.mem_entries_iff _ _ _).mpr found
  rcases List.mem_cons.mp member with root | other
  · cases root
    exact absurd rfl (inner _)
  · exact other

theorem visits_demo {id : ItemId} {item : Item} (isListed : id ∈ listed)
    (member : (id, item) ∈ items) : (demo listed items paths nodup).Visits "demo" item := by
  have holds : (demo listed items paths nodup).moduleBody? "0" = some ⟨listed, false, true⟩ := by
    simp [moduleBody?, demo, item?, Table.get?, Entries.get?, Item.plain]
  rw [← crateName_demo]
  exact visits_of_root _ holds isListed (item?_demo member)

/-- The only type of the crate is declared as the item that it is. -/
theorem exists_declaresType_demo {id : ItemId} {item : Item} {name : String}
    (isListed : id ∈ listed) (member : (id, item) ∈ items) (isType : item.body.isTypeBody)
    (named : item.properName? = some name)
    (only : ∀ entry ∈ items, entry.2.body.isTypeBody → entry.2 = item) :
    ∃ path, (demo listed items paths nodup).DeclaresType path name item ∧
      (demo listed items paths nodup).typeIri (extendPath path name) =
        (demo listed items paths nodup).typeIri (extendPath "demo" name) := by
  have visited : (demo listed items paths nodup).Visits "demo" item := visits_demo isListed member
  have declared := mem_types_of_visits _ visited isType named
  rcases exists_declaresType _ declared with ⟨path, otherName, other, declares, same⟩
  rcases declares.visited.found with ⟨otherId, found⟩
  have inner : ∀ body, other.body ≠ .module body := by
    intro body isModule
    have isType := declares.isType
    rw [isModule] at isType
    cases isType
  obtain rfl : other = item := only _ (mem_of_item?_demo found inner) declares.isType
  obtain rfl : name = otherName := Option.some.inj (named.symm.trans declares.named)
  exact ⟨path, declares, same.symm⟩

end Extraction

end CrateGraph
