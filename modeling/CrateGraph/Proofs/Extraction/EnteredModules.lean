import CrateGraph.Proofs.Extraction.ModuleWalk
import Mathlib.Data.Finset.Basic
import Mathlib.Data.Finset.Dedup

/-!
The walk through the modules as a run that keeps a set of the modules that it has entered.

A module is put into the set when the walk enters it and taken out when the walk leaves it, and what
comes after it goes on with the set as it is then.

Main statement: such a run comes to an end in exactly one way, with the entries of the outline, and
it leaves the set as it was before.
-/

namespace CrateGraph.Extraction

/-- What a walk has to do: go through a module, or through items that a module lists. -/
inductive WalkTask where
  | module (id : ItemId) (path : String)
  | items (path : String) (ids : List ItemId)

/-- Starting with some modules entered, the walk does a task by way of some entries and ends with
some modules entered. -/
inductive Walks (extraction : Extraction) :
    Finset ItemId → WalkTask → List Entry → Finset ItemId → Prop
  | missing {entered : Finset ItemId} {id : ItemId} {path : String}
      (absent : extraction.item? id = none) :
      Walks extraction entered (.module id path)
        [logEntry .warning ("Module " ++ id ++ " (" ++ path ++ ") not found in index")] entered
  | noModule {entered : Finset ItemId} {id : ItemId} {path : String} {item : Item}
      (found : extraction.item? id = some item) (other : ∀ body, item.body ≠ .module body) :
      Walks extraction entered (.module id path) [] entered
  | cycle {entered : Finset ItemId} {id : ItemId} {path : String} {item : Item} {body : ModuleBody}
      (found : extraction.item? id = some item) (isModule : item.body = .module body)
      (inside : id ∈ entered) :
      Walks extraction entered (.module id path)
        [logEntry .warning ("Module cycle detected at " ++ path ++ ", not descending again")]
        entered
  | enter {entered after : Finset ItemId} {id : ItemId} {path : String} {item : Item}
      {body : ModuleBody} {entries : List Entry} (found : extraction.item? id = some item)
      (isModule : item.body = .module body) (outside : id ∉ entered)
      (within : Walks extraction (insert id entered) (.items path body.items) entries after) :
      Walks extraction entered (.module id path)
        ((if id = extraction.crate.root then []
          else [.module path (extraction.moduleNode path item)]) ++ entries) (after.erase id)
  | done {entered : Finset ItemId} {path : String} :
      Walks extraction entered (.items path []) [] entered
  | missingItem {entered after : Finset ItemId} {path : String} {id : ItemId} {ids : List ItemId}
      {further : List Entry} (absent : extraction.item? id = none)
      (rest : Walks extraction entered (.items path ids) further after) :
      Walks extraction entered (.items path (id :: ids))
        ([logEntry .debug ("Item " ++ id ++ " in " ++ path ++ " not in index, skipping")] ++
          further) after
  | innerModule {entered between after : Finset ItemId} {path : String} {id : ItemId}
      {ids : List ItemId} {item : Item} {body : ModuleBody} {first further : List Entry}
      (found : extraction.item? id = some item) (isModule : item.body = .module body)
      (inner : Walks extraction entered
        (.module id (extendPath path (item.properName?.getD unnamedModule))) first between)
      (rest : Walks extraction between (.items path ids) further after) :
      Walks extraction entered (.items path (id :: ids)) (first ++ further) after
  | item {entered after : Finset ItemId} {path : String} {id : ItemId} {ids : List ItemId}
      {item : Item} {further : List Entry} (found : extraction.item? id = some item)
      (other : ∀ body, item.body ≠ .module body)
      (rest : Walks extraction entered (.items path ids) further after) :
      Walks extraction entered (.items path (id :: ids))
        (extraction.itemEntries item path ++ further) after

variable (extraction : Extraction)

def taskEntries (active : List ItemId) : WalkTask → List Entry
  | .module id path => extraction.moduleEntries active id path
  | .items path ids => ids.flatMap (extraction.childEntries active path)

theorem childEntries_of_other {active : List ItemId} {path : String} {id : ItemId} {item : Item}
    (found : extraction.item? id = some item) (other : ∀ body, item.body ≠ .module body) :
    extraction.childEntries active path id = extraction.itemEntries item path := by
  simp only [childEntries, found]

variable {extraction}

theorem Walks.eq {entered after : Finset ItemId} {task : WalkTask} {entries : List Entry}
    (walks : extraction.Walks entered task entries after) {active : List ItemId}
    (same : active.toFinset = entered) :
    entries = extraction.taskEntries active task ∧ after = entered := by
  induction walks generalizing active with
  | missing absent =>
      rw [taskEntries, moduleEntries_eq, absent]
      exact ⟨rfl, rfl⟩
  | @noModule _ _ _ item found other =>
      rw [taskEntries, moduleEntries_eq, found]
      cases isBody : item.body with
      | module body => exact absurd isBody (other body)
      | _ => simp [isBody]
  | cycle found isModule inside =>
      rw [← same, List.mem_toFinset] at inside
      simp only [taskEntries, moduleEntries_eq, found, isModule, if_pos inside, and_self]
  | @enter entered after id path item body entries found isModule outside _ within =>
      have further : (id :: active).toFinset = insert id entered := by
        rw [List.toFinset_cons, same]
      rcases within further with ⟨said, rfl⟩
      rw [Finset.erase_insert outside]
      rw [← same, List.mem_toFinset] at outside
      simp only [taskEntries, moduleEntries_eq, found, isModule, if_neg outside, said, and_self]
  | done => exact ⟨rfl, rfl⟩
  | missingItem absent _ rest =>
      rcases rest same with ⟨said, unchanged⟩
      simp only [taskEntries, List.flatMap_cons, childEntries, absent, said, unchanged, and_self]
  | innerModule found isModule _ _ inner rest =>
      rcases inner same with ⟨first, rfl⟩
      rcases rest same with ⟨said, unchanged⟩
      refine ⟨?_, unchanged⟩
      rw [first, said]
      simp only [taskEntries, List.flatMap_cons, childEntries, found, isModule]
  | item found other _ rest =>
      rcases rest same with ⟨said, unchanged⟩
      refine ⟨?_, unchanged⟩
      rw [said, taskEntries, taskEntries, List.flatMap_cons,
        extraction.childEntries_of_other found other]

theorem walks_items {active : List ItemId}
    (inside : ∀ id innerPath, extraction.Walks active.toFinset (.module id innerPath)
      (extraction.moduleEntries active id innerPath) active.toFinset)
    (path : String) (ids : List ItemId) :
    extraction.Walks active.toFinset (.items path ids)
      (ids.flatMap (extraction.childEntries active path)) active.toFinset := by
  induction ids with
  | nil => exact .done
  | cons id rest induction =>
      rw [List.flatMap_cons]
      cases found : extraction.item? id with
      | none =>
          simp only [childEntries, found]
          exact .missingItem found induction
      | some item =>
          by_cases isModule : ∃ body, item.body = .module body
          · rcases isModule with ⟨body, isModule⟩
            simp only [childEntries, found, isModule]
            exact .innerModule found isModule (inside _ _) induction
          · rw [not_exists] at isModule
            rw [extraction.childEntries_of_other found isModule]
            exact .item found isModule induction

/-- The walk comes to an end with what the outline has, and it leaves all that it enters. -/
theorem walks_module (active : List ItemId) (id : ItemId) (path : String) :
    extraction.Walks active.toFinset (.module id path) (extraction.moduleEntries active id path)
      active.toFinset := by
  induction active, id, path using extraction.walk_induction with
  | step active id path inside =>
      rw [moduleEntries_eq]
      cases found : extraction.item? id with
      | none => exact .missing found
      | some item =>
          cases isBody : item.body with
          | module body =>
              simp only [isBody]
              split
              · next entered => exact .cycle found isBody (List.mem_toFinset.mpr entered)
              · next outside =>
                  have items := walks_items (inside item found outside) path body.items
                  have absent : id ∉ active.toFinset := mt List.mem_toFinset.mp outside
                  rw [List.toFinset_cons] at items
                  have walks := Walks.enter found isBody absent items
                  rwa [Finset.erase_insert absent] at walks
          | _ =>
              simp only [isBody]
              exact .noModule found (by simp [isBody])

theorem walks_module_iff {active : List ItemId} {id : ItemId} {path : String}
    {entries : List Entry} {after : Finset ItemId} :
    extraction.Walks active.toFinset (.module id path) entries after ↔
      entries = extraction.moduleEntries active id path ∧ after = active.toFinset := by
  constructor
  · intro walks
    exact walks.eq rfl
  · rintro ⟨rfl, rfl⟩
    exact walks_module active id path

end CrateGraph.Extraction
