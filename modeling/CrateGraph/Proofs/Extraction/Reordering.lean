import CrateGraph.Proofs.Extraction.Counters
import CrateGraph.Proofs.Extraction.EntryOrder
import CrateGraph.Proofs.Extraction.Readings

/-!
The order in which modules list their items.

Whether a type that something mentions is declared already depends on the order in which the walk
comes to the types, so the nodes of merely mentioned types depend on it too. Main statement: if no
two types and no two modules have the same path, then nothing else does. In particular a type that
was mentioned before it is come to is declared in full.
-/

namespace CrateGraph

open Ontology

/-! ### Reordered crates -/

/-- The second item is the first one, but for the order of what it lists as a module. -/
inductive Item.Reordered : Item → Item → Prop
  | same (item : Item) : Reordered item item
  | module {item : Item} {body : ModuleBody} {items : List ItemId}
      (isModule : item.body = .module body) (perm : body.items.Perm items) :
      Reordered item { item with body := .module { body with items := items } }

/-- The second crate is the first one, but for the order in which modules list their items. -/
structure Crate.Reordered (left right : Crate) : Prop where
  rest : right = { left with index := right.index }
  index : List.Forall₂ (fun first second => first.1 = second.1 ∧ first.2.Reordered second.2)
    left.index.entries right.index.entries

theorem Item.Reordered.alike {left right : Item} (reordered : left.Reordered right) :
    left.Alike right := by
  cases reordered with
  | same => exact .refl left
  | module isModule _ =>
      refine ⟨rfl, rfl, rfl, Or.inr ⟨?_, rfl⟩⟩
      rw [isModule]
      rfl

theorem Item.Reordered.body_cases {left right : Item} (reordered : left.Reordered right) :
    (left = right ∧ ∀ body, left.body ≠ .module body) ∨
      ∃ leftBody rightBody, left.body = .module leftBody ∧ right.body = .module rightBody ∧
        leftBody.items.Perm rightBody.items := by
  cases reordered with
  | same =>
      by_cases isModule : ∃ body, left.body = .module body
      · rcases isModule with ⟨body, isModule⟩
        exact Or.inr ⟨body, body, isModule, isModule, .refl _⟩
      · exact Or.inl ⟨rfl, fun body equal => isModule ⟨body, equal⟩⟩
  | module isModule perm => exact Or.inr ⟨_, _, isModule, rfl, perm⟩

theorem Entries.rel_get? {Value : Type} {related : Value → Value → Prop}
    {left right : Entries String Value}
    (entries : List.Forall₂ (fun first second => first.1 = second.1 ∧ related first.2 second.2)
      left right) (key : String) : Option.Rel related (get? key left) (get? key right) := by
  induction entries with
  | nil => exact .none
  | @cons first second _ _ entry _ induction =>
      rcases first with ⟨name, firstValue⟩
      rcases second with ⟨_, secondValue⟩
      rcases entry with ⟨rfl, values⟩
      simp only [get?]
      split
      · exact .some values
      · exact induction

namespace Extraction

/-- The second extraction is the first one, of a reordered crate. -/
structure Reordered (left right : Extraction) : Prop where
  crate : left.crate.Reordered right.crate
  options : left.options = right.options

namespace Reordered

variable {left right : Extraction} (reordered : left.Reordered right)
include reordered

theorem item?_cases (id : ItemId) :
    (left.item? id = none ∧ right.item? id = none) ∨
      ∃ leftItem rightItem, left.item? id = some leftItem ∧ right.item? id = some rightItem ∧
        leftItem.Reordered rightItem :=
  optionRel_cases (Entries.rel_get? reordered.crate.index id)

theorem frame : SameFrame left right :=
  ⟨reordered.crate.rest, reordered.options⟩

theorem readsAlike : ReadsAlike left right := by
  apply reordered.frame.readsAlike
  intro id
  rcases reordered.item?_cases id with
    ⟨leftMissing, rightMissing⟩ | ⟨_, _, leftFound, rightFound, items⟩
  · rw [leftMissing, rightMissing]
    exact .none
  · rw [leftFound, rightFound]
    exact .some items.alike

/-! ### The outline of a reordered crate -/

theorem opening_eq : left.opening = right.opening := by
  rw [opening, opening, reordered.readsAlike.crateNode_eq, reordered.readsAlike.dependency_eq,
    reordered.crate.rest]

theorem implementations_eq : left.implementations = right.implementations := by
  have index := reordered.crate.index
  unfold implementations
  generalize left.crate.index.entries = leftEntries at index
  generalize right.crate.index.entries = rightEntries at index
  induction index with
  | nil => rfl
  | @cons first second _ _ entry _ induction =>
      rcases first with ⟨id, leftItem⟩
      rcases second with ⟨_, rightItem⟩
      rcases entry with ⟨rfl, (items : leftItem.Reordered rightItem)⟩
      rw [List.filterMap_cons, List.filterMap_cons, induction]
      rcases items.body_cases with ⟨rfl, _⟩ | ⟨_, _, leftIsModule, rightIsModule, _⟩
      · rfl
      · simp only [leftIsModule, rightIsModule]

theorem closing_eq : left.closing = right.closing := by
  rw [closing, closing, reordered.options, allImplementationEntries, allImplementationEntries,
    reordered.implementations_eq,
    reordered.readsAlike.implementationEntries_eq reordered.frame.sameDetail]

/-- A listed item is described in the same words, and a listed module in another order if what is
inside of it is. -/
theorem childEntries_perm {active : List ItemId} {path : String} {child : ItemId}
    (inside : ∀ innerPath, (left.moduleEntries active child innerPath).Perm
      (right.moduleEntries active child innerPath)) :
    (left.childEntries active path child).Perm (right.childEntries active path child) := by
  unfold childEntries
  rw [reordered.readsAlike.itemEntries_eq reordered.frame.sameDetail]
  rcases reordered.item?_cases child with
    ⟨leftMissing, rightMissing⟩ | ⟨_, _, leftFound, rightFound, items⟩
  · rw [leftMissing, rightMissing]
  · simp only [leftFound, rightFound]
    rcases items.body_cases with ⟨rfl, _⟩ | ⟨_, _, leftIsModule, rightIsModule, _⟩
    · split
      · exact inside _
      · exact List.Perm.refl _
    · simp only [leftIsModule, rightIsModule, items.alike.properName?_eq]
      exact inside _

theorem moduleEntries_perm_of_children {active : List ItemId} {id : ItemId} {path : String}
    (children : ∀ item, left.item? id = some item → id ∉ active → ∀ child,
      (left.childEntries (id :: active) path child).Perm
        (right.childEntries (id :: active) path child)) :
    (left.moduleEntries active id path).Perm (right.moduleEntries active id path) := by
  rw [moduleEntries_eq, moduleEntries_eq]
  rcases reordered.item?_cases id with
    ⟨leftMissing, rightMissing⟩ | ⟨_, _, leftFound, rightFound, items⟩
  · rw [leftMissing, rightMissing]
  · simp only [leftFound, rightFound]
    rcases items.body_cases with ⟨rfl, inner⟩ | ⟨_, _, leftIsModule, rightIsModule, perm⟩
    · split
      · next isModule => exact absurd isModule (inner _)
      · exact List.Perm.refl _
    · simp only [leftIsModule, rightIsModule, reordered.frame.root_eq,
        reordered.readsAlike.moduleNode_eq path items.alike]
      split
      · exact List.Perm.refl _
      · next fresh =>
          apply List.Perm.append_left
          exact perm.flatMap fun child _ => children _ leftFound fresh child

/-- The walk says the same in another order: the items of each module change places. -/
theorem moduleEntries_perm (active : List ItemId) (id : ItemId) (path : String) :
    (left.moduleEntries active id path).Perm (right.moduleEntries active id path) := by
  apply reordered.moduleEntries_perm_of_children
  intro item found fresh child
  apply reordered.childEntries_perm
  intro innerPath
  exact moduleEntries_perm (id :: active) child innerPath
termination_by left.idleModules active
decreasing_by exact left.idleModules_lt found fresh

theorem walk_perm : left.walk.Perm right.walk := by
  rw [walk, walk, reordered.frame.root_eq, reordered.readsAlike.name]
  exact reordered.moduleEntries_perm _ _ _

end Reordered

/-! ### Paths that tell types and modules apart -/

/-- The walk comes to the module with the id under the path. -/
def ReachesModule (extraction : Extraction) (path : String) (id : ItemId) : Prop :=
  ∃ ids, extraction.ModuleChain ids ∧ ids.getLast? = some id ∧ path = extraction.chainPath ids

/-- The walk comes to the type with the id under the path. -/
def ReachesType (extraction : Extraction) (path : String) (id : ItemId) : Prop :=
  ∃ outer last item name, extraction.ReachesModule outer last ∧ extraction.Lists last id ∧
    extraction.item? id = some item ∧ item.body.isTypeBody ∧ item.properName? = some name ∧
    path = extendPath outer name

/-- No two modules and no two types have the same path. -/
structure DistinctPaths (extraction : Extraction) : Prop where
  modules : ∀ path first second, extraction.ReachesModule path first →
    extraction.ReachesModule path second → first = second
  types : ∀ path first second, extraction.ReachesType path first →
    extraction.ReachesType path second → first = second

variable (extraction : Extraction)

theorem exists_reachesModule_of_mem_walk {path : String} {steps : List Step}
    (member : .module path steps ∈ extraction.walk) :
    ∃ id item, extraction.ReachesModule path id ∧ extraction.item? id = some item ∧
      steps = extraction.moduleNode path item := by
  rcases extraction.exists_stop_of_mem_moduleEntries (by simp) _ _ _ member with
    ⟨stop, reached, own⟩
  rcases (extraction.mem_stopEntries_iff stop _).mp own with
    ⟨item, body, found, isModule, ⟨_, same⟩ | ⟨_, _, childItem, _, ofChild⟩⟩
  · have holds := (extraction.moduleBody?_eq_some_iff _ _).mpr ⟨item, found, isModule⟩
    have chain := extraction.moduleChain_of_stop reached (Option.isSome_of_eq_some holds)
    cases same
    exact ⟨stop.id, item, ⟨stop.chain, chain.1, stop.getLast?_chain, chain.2⟩, found, rfl⟩
  · rcases (extraction.mem_itemEntries_iff childItem stop.path _).mp ofChild with
      ⟨_, _, other⟩ | ⟨_, _, other⟩ | ⟨_, _, other⟩ | ⟨_, _, _, other⟩
    all_goals cases other

theorem Visits.exists_reachesType {extraction : Extraction} {path name : String} {item : Item}
    (visited : extraction.Visits path item) (isType : item.body.isTypeBody)
    (named : item.properName? = some name) :
    ∃ id, extraction.ReachesType (extendPath path name) id ∧ extraction.item? id = some item := by
  rcases visited with ⟨ids, last, id, chain, isLast, lists, found, rfl⟩
  exact ⟨id, ⟨_, last, item, name, ⟨ids, chain, isLast, rfl⟩, lists, found, isType, named, rfl⟩,
    found⟩

/-- Two declared types with the same address are one item under one path. -/
theorem DistinctPaths.typeEntry_eq {extraction : Extraction} (distinct : extraction.DistinctPaths)
    {firstPath firstName secondPath secondName : String} {first second : Item}
    (firstVisited : extraction.Visits firstPath first) (firstIsType : first.body.isTypeBody)
    (firstNamed : first.properName? = some firstName)
    (secondVisited : extraction.Visits secondPath second) (secondIsType : second.body.isTypeBody)
    (secondNamed : second.properName? = some secondName)
    (same : extraction.typeIri (extendPath firstPath firstName) =
      extraction.typeIri (extendPath secondPath secondName)) :
    extraction.typeEntry firstPath firstName first =
      extraction.typeEntry secondPath secondName second := by
  have samePath := extraction.typeIri_injective same
  rcases firstVisited.exists_reachesType firstIsType firstNamed with ⟨firstId, firstReached, found⟩
  rcases secondVisited.exists_reachesType secondIsType secondNamed with
    ⟨secondId, secondReached, secondFound⟩
  obtain rfl : firstId = secondId :=
    distinct.types _ _ _ firstReached (samePath ▸ secondReached)
  obtain rfl : first = second := Option.some.inj (found.symm.trans secondFound)
  obtain rfl : firstName = secondName := Option.some.inj (firstNamed.symm.trans secondNamed)
  obtain rfl : firstPath = secondPath := by
    simpa [extendPath, String.append_assoc] using samePath
  rfl

theorem DistinctPaths.interchangeable_walk {extraction : Extraction}
    (distinct : extraction.DistinctPaths) : Entry.Interchangeable extraction.walk where
  plain _ := extraction.isImplementation_of_mem_walk
  unambiguous := by
    intro declaration first isFirst second isSecond asksFirst asksSecond
    cases extraction.walkEntry_of_mem_walk isFirst with
    | log | function | constant | static => cases asksFirst
    | module path item =>
        cases extraction.walkEntry_of_mem_walk isSecond with
        | log | function | constant | static => cases asksSecond
        | type =>
            rw [← asksFirst] at asksSecond
            cases asksSecond
        | module otherPath other =>
            rw [← asksFirst] at asksSecond
            cases asksSecond
            rcases extraction.exists_reachesModule_of_mem_walk isFirst with
              ⟨firstId, firstItem, firstReached, firstFound, firstSteps⟩
            rcases extraction.exists_reachesModule_of_mem_walk isSecond with
              ⟨secondId, secondItem, secondReached, secondFound, secondSteps⟩
            obtain rfl := distinct.modules _ _ _ firstReached secondReached
            obtain rfl := Option.some.inj (firstFound.symm.trans secondFound)
            rw [firstSteps, secondSteps]
    | type visited isType named =>
        cases extraction.walkEntry_of_mem_walk isSecond with
        | log | function | constant | static => cases asksSecond
        | module =>
            rw [← asksFirst] at asksSecond
            cases asksSecond
        | type otherVisited otherIsType otherNamed =>
            have same := Declaration.type.inj (Option.some.inj (asksFirst.trans asksSecond.symm))
            exact distinct.typeEntry_eq visited isType named otherVisited otherIsType otherNamed
              same

/-- Each type that the walk comes to is declared as the item that it is. -/
theorem DistinctPaths.declaresType {extraction : Extraction} (distinct : extraction.DistinctPaths)
    {path name : String} {item : Item} (visited : extraction.Visits path item)
    (isType : item.body.isTypeBody) (named : item.properName? = some name) :
    extraction.DeclaresType path name item := by
  refine ⟨visited, isType, named, ?_⟩
  have member := extraction.typeEntry_mem_walk visited isType named
  have asking : ∃ first, Entry.firstDeclaring? extraction.walk
      (.type (extraction.typeIri (extendPath path name))) = some first := by
    rw [← Option.isSome_iff_exists, Entry.firstDeclaring?, List.find?_isSome]
    exact ⟨_, member, by simp [typeEntry, Entry.declaration?]⟩
  rcases asking with ⟨first, isFirst⟩
  have asked : first.declaration? = some (.type (extraction.typeIri (extendPath path name))) := by
    simpa using List.find?_some isFirst
  rw [isFirst, distinct.interchangeable_walk.unambiguous _ first
    (List.mem_of_find?_eq_some isFirst) _ member asked rfl]

/-! ### Runs over reordered crates -/

theorem sameDeclared_opened (left right : Extraction) :
    Progress.SameDeclared left.opened right.opened := by
  intro declaration
  simp [not_declares_opened]

namespace Reordered

variable {left right : Extraction} (reordered : left.Reordered right)
include reordered

theorem sameDeclared_walked : Progress.SameDeclared left.walked right.walked :=
  (sameDeclared_opened left right).runEntries_of_perm reordered.walk_perm

/-- The runs carry out the same entries. -/
theorem carriedOut_perm (distinct : left.DistinctPaths) :
    left.carriedOut.Perm right.carriedOut := by
  have walks := Progress.carriedOut_perm reordered.walk_perm distinct.interchangeable_walk
    (sameDeclared_opened left right)
  rw [carriedOut_eq, carriedOut_eq, reordered.opening_eq, reordered.closing_eq,
    reordered.sameDeclared_walked.carriedOut_eq]
  exact (walks.append_left _).append_right _

theorem statedTriples_perm (distinct : left.DistinctPaths) :
    left.statedTriples.Perm right.statedTriples := by
  rw [statedTriples_eq, statedTriples_eq]
  exact ((reordered.carriedOut_perm distinct).flatMap_right Entry.steps).filterMap Step.triple?

theorem functions_eq (distinct : left.DistinctPaths) :
    left.outcome.stats.functions = right.outcome.stats.functions := by
  rw [left.stepTally_outcome.functions, right.stepTally_outcome.functions]
  have marked : left.carriedMarks.Perm right.carriedMarks :=
    (reordered.carriedOut_perm distinct).flatMap_right _
  rw [marked.count_eq]

theorem skipped_eq :
    left.outcome.stats.implementationsSkipped = right.outcome.stats.implementationsSkipped := by
  have untouched : ∀ extraction : Extraction,
      extraction.walked.stats.implementationsSkipped = Table.empty := by
    intro extraction
    rw [walked, Progress.skipped_runEntries_of_plain
      (fun _ => extraction.isImplementation_of_mem_walk), opened,
      Progress.skipped_runEntries_of_plain (fun _ => extraction.isImplementation_of_mem_opening)]
    rfl
  rw [outcome_eq, outcome_eq, reordered.closing_eq]
  apply reordered.sameDeclared_walked.skipped_runEntries
  rw [untouched, untouched]

end Reordered

/-- Whatever the order in which modules list their items, the run states the same triples, nodes of
merely mentioned types set aside, keeps the same counts and knows the same types. Each type that the
walk comes to is declared in full, also if it was mentioned before. -/
theorem reordering_moves_only_stubs {left right : Extraction} (reordered : left.Reordered right)
    (distinct : left.DistinctPaths) :
    left.statedTriples.Perm right.statedTriples ∧
      left.outcome.stats.types = right.outcome.stats.types ∧
      left.outcome.stats.namespaces = right.outcome.stats.namespaces ∧
      left.outcome.stats.functions = right.outcome.stats.functions ∧
      left.outcome.stats.implementationsProcessed =
        right.outcome.stats.implementationsProcessed ∧
      left.outcome.stats.implementationsSkipped = right.outcome.stats.implementationsSkipped ∧
      (∀ iri, left.outcome.Knows iri ↔ right.outcome.Knows iri) ∧
      ∀ path name item, left.Visits path item → item.body.isTypeBody →
        item.properName? = some name → ∀ triple,
          .triple triple ∈ (left.typeEntry path name item).steps →
            triple ∈ left.statedTriples ∧ triple ∈ right.statedTriples := by
  have carried := reordered.carriedOut_perm distinct
  have stated := reordered.statedTriples_perm distinct
  rcases left.entryTally_outcome.counts_eq right.entryTally_outcome carried with
    ⟨types, modules, processed⟩
  refine ⟨stated, types, modules, reordered.functions_eq distinct, processed,
    reordered.skipped_eq, ?_, ?_⟩
  · intro iri
    simp only [knows_outcome_iff, carried.mem_iff]
  · intro path name item visited isType named triple own
    have declares := distinct.declaresType visited isType named
    have inLeft : triple ∈ left.statedTriples :=
      (left.mem_statedTriples_iff triple).mpr ⟨_, .type declares, own⟩
    exact ⟨inLeft, stated.mem_iff.mp inLeft⟩

/-! ### A type that is mentioned before it is come to -/

section Demo

variable {listed : List ItemId} {items : Entries String Item} {paths : Table ItemSummary}
  {nodup : ("0" :: items.map Prod.fst).Nodup}

theorem reordered_demo {other : List ItemId} (perm : listed.Perm other) :
    (demo listed items paths nodup).Reordered (demo other items paths nodup) := by
  have root : Item.Reordered (.plain (some "demo") (.module ⟨listed, false, true⟩))
      (.plain (some "demo") (.module ⟨other, false, true⟩)) :=
    @Item.Reordered.module (.plain (some "demo") (.module ⟨listed, false, true⟩)) _ other rfl perm
  have others : List.Forall₂ (fun first second : String × Item =>
      first.1 = second.1 ∧ first.2.Reordered second.2) items items :=
    List.forall₂_same.mpr fun entry _ => ⟨rfl, .same entry.2⟩
  exact ⟨⟨rfl, .cons ⟨rfl, root⟩ others⟩, rfl⟩

theorem moduleChain_demo (noModules : ∀ entry ∈ items, ¬entry.2.body.isModule) {ids : List ItemId}
    (chain : (demo listed items paths nodup).ModuleChain ids) : ids = ["0"] := by
  have onlyRoot : ∀ id ∈ ids, id = "0" := by
    intro id member
    rcases Option.isSome_iff_exists.mp (chain.isModule id member) with ⟨body, holds⟩
    rcases (moduleBody?_eq_some_iff _ _ _).mp holds with ⟨item, found, isModule⟩
    rcases List.mem_cons.mp ((Table.mem_entries_iff _ _ _).mpr found) with root | other
    · exact congrArg Prod.fst root
    · exact absurd (by rw [isModule]; rfl) (noModules _ other)
  match ids, chain, onlyRoot with
  | [], chain, _ => cases chain.fromRoot
  | [first], _, onlyRoot => rw [onlyRoot first (by simp)]
  | first :: second :: rest, chain, onlyRoot =>
      have repeated : first = second := by
        rw [onlyRoot first (by simp), onlyRoot second (by simp)]
      have fresh := (List.nodup_cons.mp chain.distinct).1
      rw [repeated] at fresh
      exact absurd List.mem_cons_self fresh

theorem reachesModule_demo (noModules : ∀ entry ∈ items, ¬entry.2.body.isModule) {path : String}
    {id : ItemId} (reached : (demo listed items paths nodup).ReachesModule path id) :
    path = "demo" ∧ id = "0" := by
  rcases reached with ⟨ids, chain, isLast, rfl⟩
  obtain rfl := moduleChain_demo noModules chain
  exact ⟨String.intercalate_singleton, (Option.some.inj isLast).symm⟩

/-- In a crate with no module but its root it is enough that names tell the types apart. -/
theorem distinctPaths_demo (noModules : ∀ entry ∈ items, ¬entry.2.body.isModule)
    (names : ∀ first ∈ items, ∀ second ∈ items, first.2.body.isTypeBody →
      second.2.body.isTypeBody → first.2.name = second.2.name → first.1 = second.1) :
    (demo listed items paths nodup).DistinctPaths where
  modules path first second firstReached secondReached := by
    rw [(reachesModule_demo noModules firstReached).2,
      (reachesModule_demo noModules secondReached).2]
  types path first second firstReached secondReached := by
    rcases firstReached with
      ⟨_, _, firstItem, firstName, firstOuter, _, firstFound, firstIsType, firstNamed, rfl⟩
    rcases secondReached with
      ⟨_, _, secondItem, secondName, secondOuter, _, secondFound, secondIsType, secondNamed, same⟩
    rw [(reachesModule_demo noModules firstOuter).1, (reachesModule_demo noModules secondOuter).1]
      at same
    have sameName : firstName = secondName := by
      simpa [extendPath, String.append_assoc] using same
    have notModule : ∀ item : Item, item.body.isTypeBody → ∀ body, item.body ≠ .module body := by
      intro item isType body isModule
      rw [isModule] at isType
      cases isType
    apply names _ (mem_of_item?_demo firstFound (notModule _ firstIsType)) _
      (mem_of_item?_demo secondFound (notModule _ secondIsType)) firstIsType secondIsType
    rw [((Item.properName?_eq_some_iff _ _).mp firstNamed).1,
      ((Item.properName?_eq_some_iff _ _).mp secondNamed).1, sameName]

end Demo

/-- A trait with the bounds given and without items. -/
def boundTrait (name : String) (bounds : List GenericBound) : Item :=
  .plain (some name) (.trait {
    generics := ⟨[], []⟩
    bounds := bounds
    items := []
    implementations := []
    isAuto := false
    isUnsafe := false
    isDynCompatible := true })

/-- The trait `Source` has the supertrait `Read` of the same crate, which lists them in an order of
its own. -/
def layered (listed : List ItemId) : Extraction :=
  demo listed
    [("1", boundTrait "Source" [.trait ⟨"Read", some "2", none⟩ "none" []]),
      ("2", boundTrait "Read" [])]
    ⟨[("2", ⟨["demo", "Read"], .trait, 0⟩)], by simp⟩

theorem layered_reordered : (layered ["1", "2"]).Reordered (layered ["2", "1"]) :=
  reordered_demo (.swap _ _ _)

theorem layered_distinctPaths : (layered ["1", "2"]).DistinctPaths := by
  apply distinctPaths_demo
  · simp [boundTrait, Item.plain, ItemBody.isModule]
  · simp [boundTrait, Item.plain]

theorem forward_mention_moves_only_stubs :
    (layered ["1", "2"]).Reordered (layered ["2", "1"]) ∧ (layered ["1", "2"]).DistinctPaths ∧
      (layered ["1", "2"]).statedTriples.Perm (layered ["2", "1"]).statedTriples ∧
      ⟨(layered ["1", "2"]).typeIri (extendPath "demo" "Read"), Property.type, .iri Class.trait⟩ ∈
        (layered ["1", "2"]).statedTriples := by
  have laws := reordering_moves_only_stubs layered_reordered layered_distinctPaths
  have visited : (layered ["1", "2"]).Visits "demo" (boundTrait "Read" []) :=
    visits_demo (.tail _ (.head _)) (.tail _ (.head _))
  refine ⟨layered_reordered, layered_distinctPaths, laws.1, ?_⟩
  rcases laws with ⟨_, _, _, _, _, _, _, declared⟩
  refine (declared "demo" "Read" _ visited rfl (Item.properName?_plain (by simp) _) _ ?_).1
  simp [typeEntry, Entry.steps, typeHeader, typeClasses, boundTrait, Item.plain, Step.iri]

end Extraction

end CrateGraph
