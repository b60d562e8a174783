import CrateGraph.Extraction.Description
import CrateGraph.Log

/-!
The outline of an extraction: everything that may be said about a crate, in the order in which it is
said.

The outline follows the modules depth first from the root and then lists the implementations in the
order of the index. Like the descriptions in it, it depends on the crate and the options alone;
whether an entry is carried out can depend on the entries before it.
-/

namespace CrateGraph

open Rdf (Statement)

inductive SkipReason where
  | synthetic
  | blanket
  | unresolved
  | foreign
deriving DecidableEq

def SkipReason.name : SkipReason → String
  | .synthetic => "synthetic"
  | .blanket => "blanket"
  | .unresolved => "unresolved"
  | .foreign => "foreign"

inductive Entry where
  | log (record : LogRecord)
  | namespaceName (name iri : String)
  /-- Said unconditionally. -/
  | description (steps : List Step)
  /-- Said once for each path. -/
  | module (path : String) (steps : List Step)
  /-- Said once for each address. -/
  | type (iri fullPath : String) (steps : List Step)
  /-- Said if the target is a type that was declared before. -/
  | implementation (id : ItemId) (target : String) (steps : List Step)
  | skippedImplementation (reason : SkipReason)

namespace Extraction

def logEntry (level : LogLevel) (message : String) : Entry :=
  .log ⟨.extraction, level, message⟩

/-! ### Items of a module -/

/-- An item other than a module, as an item of the module with the given path. Re-exports say
nothing, and implementations come later. -/
def itemEntries (extraction : Extraction) (item : Item) (path : String) : List Entry :=
  match item.body with
  | .function body => [.description (extraction.moduleFunction item body path)]
  | .constant body => [.description (extraction.constant item body path)]
  | .static body => [.description (extraction.static item body path)]
  | body =>
      match typeClasses body, item.properName? with
      | [], _ => []
      | _, none => []
      | classes, some name =>
          let fullPath := extendPath path name
          let type := extraction.typeIri fullPath
          [.type type fullPath
            (extraction.typeHeader type name path item classes ++
              extraction.typeDetails type body)]

/-! ### The walk through the modules -/

/-- The modules of the index that a walk is not inside of. -/
def idleModules (extraction : Extraction) (active : List ItemId) : Nat :=
  (extraction.crate.index.keys.filter (· ∉ active)).length

theorem idleModules_lt (extraction : Extraction) {active : List ItemId} {id : ItemId} {item : Item}
    (found : extraction.item? id = some item) (idle : id ∉ active) :
    extraction.idleModules (id :: active) < extraction.idleModules active := by
  have member : id ∈ extraction.crate.index.keys :=
    List.mem_map.mpr ⟨(id, item), Entries.mem_of_get? found, rfl⟩
  have split : (extraction.crate.index.keys.filter (· ∉ active)).filter (· ≠ id) =
      extraction.crate.index.keys.filter (· ∉ id :: active) := by
    rw [List.filter_filter]
    congr 1
    funext key
    simp [List.mem_cons, not_or]
  unfold idleModules
  rw [← split]
  refine Nat.lt_of_le_of_ne (List.length_filter_le _ _) fun equal => ?_
  have kept := List.length_filter_eq_length_iff.mp equal id
    (List.mem_filter.mpr ⟨member, by simpa using idle⟩)
  simp at kept

def unnamedModule : String := "unnamed"

/-- The entries of the module with the given id under the given path. The walk is inside of the
active modules, and it does not enter a module a second time before it has left it. The root module
is the crate itself and has no node as a module. Modules may be nested to any depth: the limit that
an interpreter sets to its recursion is left out. -/
def moduleEntries (extraction : Extraction) (active : List ItemId) (id : ItemId) (path : String) :
    List Entry :=
  match _found : extraction.item? id with
  | none =>
      [logEntry .warning ("Module " ++ id ++ " (" ++ path ++ ") not found in index")]
  | some item =>
      match item.body with
      | .module body =>
          if inside : id ∈ active then
            [logEntry .warning
              ("Module cycle detected at " ++ path ++ ", not descending again")]
          else
            (if id = extraction.crate.root then []
              else [.module path (extraction.moduleNode path item)]) ++
            body.items.flatMap fun child =>
              match extraction.item? child with
              | none =>
                  [logEntry .debug
                    ("Item " ++ child ++ " in " ++ path ++ " not in index, skipping")]
              | some childItem =>
                  match childItem.body with
                  | .module _ =>
                      extraction.moduleEntries (id :: active) child
                        (extendPath path (childItem.properName?.getD unnamedModule))
                  | _ => extraction.itemEntries childItem path
      | _ => []
termination_by extraction.idleModules active
decreasing_by exact extraction.idleModules_lt _found inside

/-! ### The implementations -/

def implementationEntries (extraction : Extraction) (id : ItemId) (body : ImplementationBody) :
    List Entry :=
  if body.isSynthetic then [.skippedImplementation .synthetic]
  else if body.blanket.isSome then [.skippedImplementation .blanket]
  else
    match extraction.typeIri? body.target with
    | none => [.description [.countUnresolved], .skippedImplementation .unresolved]
    | some target =>
        [.implementation id target (extraction.implementationNode id target body)]

def implementations (extraction : Extraction) : List (ItemId × ImplementationBody) :=
  extraction.crate.index.entries.filterMap fun (id, item) =>
    match item.body with
    | .implementation body => some (id, body)
    | _ => none

def allImplementationEntries (extraction : Extraction) : List Entry :=
  logEntry .debug
      ("Processing " ++ toString extraction.implementations.length ++ " impl blocks") ::
    extraction.implementations.flatMap fun (id, body) => extraction.implementationEntries id body

/-! ### The whole outline -/

def namespaceEntries : List Entry :=
  Ontology.namespaceNames.map fun (name, iri) => .namespaceName name iri

def outline (extraction : Extraction) : List Entry :=
  namespaceEntries ++
    [.description extraction.crateNode] ++
    extraction.crate.externalCrates.values.map
      (fun external => .description (extraction.dependency external)) ++
    extraction.moduleEntries [] extraction.crate.root extraction.crateName ++
    (if extraction.options.includeImplementations then extraction.allImplementationEntries else [])

end Extraction

end CrateGraph
