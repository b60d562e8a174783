import CrateGraph.Proofs.Extraction.NamespaceSteps
import CrateGraph.Proofs.Extraction.ReferentialClosure

/-!
The way from a namespace up to the root module.

A module is described without regard to the module that the walk came from: its parent is read off
its path. Main statement: where no module but the crate itself has a name with a colon, that parent
is the module that the walk came from, so that parents lead from each namespace to the root module,
in as many steps as the walk is inside of modules there.
-/

namespace CrateGraph

open Ontology

/-! ### Parents of paths -/

theorem Extraction.beforeSeparator?_append {name : List Char} (plain : ':' ∉ name)
    (path : List Char) : beforeSeparator? (name ++ ':' :: ':' :: path) = some path.reverse := by
  induction name with
  | nil => rfl
  | cons letter rest induction =>
      rcases not_or.mp (List.mem_cons.not.mp plain) with ⟨notColon, restPlain⟩
      rw [List.cons_append, beforeSeparator?]
      · exact induction restPlain
      · intro _ colon
        exact absurd colon.symm notColon

/-- The last separator of a path is the one before its last name. -/
theorem Extraction.parentPath?_extendPath {name : String} (plain : ':' ∉ name.toList)
    (path : String) : parentPath? (extendPath path name) = some path := by
  have reversed : (extendPath path name).toList.reverse =
      name.toList.reverse ++ ':' :: ':' :: path.toList.reverse := by
    simp [extendPath, pathSeparator]
  have backwards : ':' ∉ name.toList.reverse := by simpa using plain
  rw [parentPath?, reversed, beforeSeparator?_append backwards, List.reverse_reverse]
  simp

theorem length_lt_length_extendPath (path name : String) :
    path.length < (extendPath path name).length := by
  simp only [extendPath, pathSeparator, String.length_append]
  have separator : "::".length = 2 := rfl
  omega

namespace Extraction

variable (extraction : Extraction)

/-! ### Namespaces and their parents -/

def IsNamespace (node : String) : Prop :=
  ⟨node, Property.type, .iri Class.container⟩ ∈ extraction.triples

def HasParent (node parent : String) : Prop :=
  ⟨node, Property.parentNamespace, .iri parent⟩ ∈ extraction.triples

/-- So many steps to the parent lead from the one node to the other. -/
inductive Climbs : Nat → String → String → Prop
  | here (node : String) : Climbs 0 node node
  | up {steps : Nat} {node parent top : String} (hasParent : extraction.HasParent node parent)
      (rest : Climbs steps parent top) : Climbs (steps + 1) node top

/-- No module has a name with a colon, save perhaps the root, which is the crate itself. -/
def PlainModuleNames : Prop :=
  ∀ id item body name, extraction.item? id = some item → item.body = .module body →
    id ≠ extraction.crate.root → item.name = some name → ':' ∉ name.toList

theorem isNamespace_iff (node : String) :
    extraction.IsNamespace node ↔
      ∃ path ∈ extraction.outcome.modules, node = extraction.moduleIri path := by
  rw [IsNamespace, extraction.nesting_mem_triples_iff (by simp [Rdf.Triple.isNesting])]
  simp [nests_iff, Property.parentNamespace]

theorem parent_stated_iff (node : String) (object : Rdf.Term) :
    ⟨node, Property.parentNamespace, object⟩ ∈ extraction.triples ↔
      ∃ path ∈ extraction.outcome.modules, ∃ outer, parentPath? path = some outer ∧
        node = extraction.moduleIri path ∧ object = .iri (extraction.moduleIri outer) := by
  rw [extraction.nesting_mem_triples_iff (by simp [Rdf.Triple.isNesting])]
  simp [nests_iff, Property.parentNamespace]

/-! ### The stops of the walk -/

variable {extraction}

/-- The walk comes to the one stop, and goes on from there to the other. -/
structure Enters (extraction : Extraction) (outer inner : Stop) : Prop where
  reached : Relation.ReflTransGen extraction.Descends extraction.rootStop outer
  descends : extraction.Descends outer inner

theorem ne_root_of_enters {outer inner : Stop} (enters : extraction.Enters outer inner) :
    inner.id ≠ extraction.crate.root := by
  have reached := enters.reached.tail enters.descends
  rcases extraction.moduleChain_of_stop reached enters.descends.isModule with ⟨chain, _⟩
  have long : 2 ≤ inner.chain.length := by
    simp [Stop.chain, enters.descends.active_eq]
  exact (chain.two_le_length_iff inner.getLast?_chain).mp long

theorem mem_modules_iff_enters (path : String) :
    path ∈ extraction.outcome.modules ↔
      ∃ outer inner, extraction.Enters outer inner ∧ path = inner.path := by
  rw [outcome, module_declared_iff]
  constructor
  · intro chained
    rcases chained with ⟨ids, chain, long, rfl⟩
    rcases extraction.exists_stop_of_moduleChain chain with ⟨inner, reached, rfl⟩
    have isModule := chain.isModule inner.id (List.mem_of_getLast? inner.getLast?_chain)
    have path := (extraction.moduleChain_of_stop reached isModule).2
    cases reached with
    | refl => simp [rootStop, Stop.chain] at long
    | tail reached descends => exact ⟨_, inner, ⟨reached, descends⟩, path.symm⟩
  · intro entering
    rcases entering with ⟨outer, inner, enters, rfl⟩
    have reached := enters.reached.tail enters.descends
    rcases extraction.moduleChain_of_stop reached enters.descends.isModule with ⟨chain, path⟩
    have long := (chain.two_le_length_iff inner.getLast?_chain).mpr (ne_root_of_enters enters)
    exact ⟨inner.chain, chain, long, path⟩

theorem length_le_of_reached {stop : Stop}
    (reached : Relation.ReflTransGen extraction.Descends extraction.rootStop stop) :
    extraction.crateName.length ≤ stop.path.length := by
  induction reached with
  | refl => exact Nat.le_refl _
  | @tail outer inner _ descends induction =>
      have longer := length_lt_length_extendPath outer.path (extraction.moduleName inner.id)
      rw [← descends.path_eq] at longer
      exact induction.trans longer.le

namespace Enters

variable {outer inner : Stop} (enters : extraction.Enters outer inner)
include enters

theorem length_lt : outer.path.length < inner.path.length := by
  rw [enters.descends.path_eq]
  exact length_lt_length_extendPath _ _

theorem declared : inner.path ∈ extraction.outcome.modules :=
  (mem_modules_iff_enters _).mpr ⟨outer, inner, enters, rfl⟩

/-- The name that the path of a module ends with has no colon. -/
theorem colon_not_mem_moduleName (plain : extraction.PlainModuleNames) :
    ':' ∉ (extraction.moduleName inner.id).toList := by
  rcases Option.isSome_iff_exists.mp enters.descends.isModule with ⟨body, holds⟩
  rcases (extraction.moduleBody?_eq_some_iff _ _).mp holds with ⟨item, found, isModule⟩
  rw [extraction.moduleName_of_found found]
  cases named : item.properName? with
  | none => decide
  | some name =>
      have hasName := ((item.properName?_eq_some_iff name).mp named).1
      exact plain inner.id item body name found isModule (ne_root_of_enters enters) hasName

theorem parentPath?_eq (plain : extraction.PlainModuleNames) :
    parentPath? inner.path = some outer.path := by
  rw [enters.descends.path_eq]
  exact parentPath?_extendPath (enters.colon_not_mem_moduleName plain) outer.path

theorem parent_stated_iff (plain : extraction.PlainModuleNames) (object : Rdf.Term) :
    ⟨extraction.moduleIri inner.path, Property.parentNamespace, object⟩ ∈ extraction.triples ↔
      object = .iri (extraction.moduleIri outer.path) := by
  rw [extraction.parent_stated_iff]
  constructor
  · intro stated
    rcases stated with ⟨path, _, other, isParent, sameNode, rfl⟩
    obtain rfl := extraction.moduleIri_injective sameNode
    rw [enters.parentPath?_eq plain] at isParent
    rw [Option.some.inj isParent]
  · intro isObject
    exact ⟨inner.path, enters.declared, outer.path, enters.parentPath?_eq plain, rfl, isObject⟩

theorem parent_ne : extraction.moduleIri outer.path ≠ extraction.moduleIri inner.path := by
  intro same
  exact enters.length_lt.ne (congrArg String.length (extraction.moduleIri_injective same))

end Enters

theorem isNamespace_iff_enters (node : String) :
    extraction.IsNamespace node ↔
      ∃ outer inner, extraction.Enters outer inner ∧ node = extraction.moduleIri inner.path := by
  rw [extraction.isNamespace_iff]
  constructor
  · intro declared
    rcases declared with ⟨path, isModule, rfl⟩
    rcases (mem_modules_iff_enters path).mp isModule with ⟨outer, inner, enters, rfl⟩
    exact ⟨outer, inner, enters, rfl⟩
  · intro entered
    rcases entered with ⟨outer, inner, enters, rfl⟩
    exact ⟨inner.path, enters.declared, rfl⟩

/-- The module that the walk comes from is the root or was entered itself. -/
theorem Enters.root_or_isNamespace {outer inner : Stop} (enters : extraction.Enters outer inner) :
    extraction.moduleIri outer.path = extraction.rootModuleIri ∨
      extraction.IsNamespace (extraction.moduleIri outer.path) := by
  cases enters.reached with
  | refl => exact Or.inl rfl
  | tail reached descends =>
      exact Or.inr ((isNamespace_iff_enters _).mpr ⟨_, outer, ⟨reached, descends⟩, rfl⟩)

/-- The paths of all other modules are longer than that of the root. -/
theorem root_has_no_parent (object : Rdf.Term) :
    ⟨extraction.rootModuleIri, Property.parentNamespace, object⟩ ∉ extraction.triples := by
  intro stated
  rcases (extraction.parent_stated_iff _ _).mp stated with ⟨path, declared, _, _, same, _⟩
  rcases (mem_modules_iff_enters path).mp declared with ⟨outer, inner, enters, rfl⟩
  have atRoot : extraction.crateName = inner.path := extraction.moduleIri_injective same
  have longer := (length_le_of_reached enters.reached).trans_lt enters.length_lt
  exact longer.ne (congrArg String.length atRoot)

/-- Each module that the walk is inside of is one step further up. -/
theorem climbs_of_reached (plain : extraction.PlainModuleNames) {stop : Stop}
    (reached : Relation.ReflTransGen extraction.Descends extraction.rootStop stop) :
    extraction.Climbs stop.active.length (extraction.moduleIri stop.path)
      extraction.rootModuleIri := by
  induction reached with
  | refl => exact .here _
  | @tail outer inner reached descends induction =>
      have enters : extraction.Enters outer inner := ⟨reached, descends⟩
      rw [descends.active_eq, List.length_cons]
      exact .up ((enters.parent_stated_iff plain _).mpr rfl) induction

theorem HasParent.unique {node parent other : String} (hasParent : extraction.HasParent node parent)
    (again : extraction.HasParent node other) : parent = other := by
  rcases (extraction.parent_stated_iff _ _).mp hasParent with ⟨path, _, outer, isParent, rfl, same⟩
  rcases (extraction.parent_stated_iff _ _).mp again with
    ⟨otherPath, _, otherOuter, isOther, sameNode, otherSame⟩
  obtain rfl := extraction.moduleIri_injective sameNode
  obtain rfl := Option.some.inj (isParent.symm.trans isOther)
  rw [Rdf.Term.iri.inj same, Rdf.Term.iri.inj otherSame]

/-- The root is only reached once on the way up, as it has no parent itself. -/
theorem Climbs.steps_eq {steps others : Nat} {node : String}
    (climbs : extraction.Climbs steps node extraction.rootModuleIri)
    (again : extraction.Climbs others node extraction.rootModuleIri) : steps = others := by
  generalize isTop : extraction.rootModuleIri = top at climbs
  induction climbs generalizing others with
  | here =>
      subst isTop
      cases again with
      | here => rfl
      | up hasParent => exact absurd hasParent (root_has_no_parent _)
  | up hasParent _ induction =>
      cases again with
      | here => exact absurd hasParent (root_has_no_parent _)
      | up otherParent rest =>
          rw [hasParent.unique otherParent] at induction
          rw [induction rest isTop]

variable (extraction)

/-- The namespaces are the modules that the walk enters. The one parent of a namespace is the module
that the walk entered it from: another namespace, or the root module, which is as many steps up as
the walk is inside of modules, no more and no fewer, and has no parent itself. -/
theorem parents_lead_to_root (plain : extraction.PlainModuleNames) :
    (∀ node, extraction.IsNamespace node ↔
      ∃ outer inner, extraction.Enters outer inner ∧ node = extraction.moduleIri inner.path) ∧
    (∀ outer inner, extraction.Enters outer inner →
      (∀ object,
        ⟨extraction.moduleIri inner.path, Property.parentNamespace, object⟩ ∈
            extraction.triples ↔
          object = .iri (extraction.moduleIri outer.path)) ∧
      extraction.moduleIri outer.path ≠ extraction.moduleIri inner.path ∧
      (extraction.moduleIri outer.path = extraction.rootModuleIri ∨
        extraction.IsNamespace (extraction.moduleIri outer.path)) ∧
      ∀ steps, extraction.Climbs steps (extraction.moduleIri inner.path)
          extraction.rootModuleIri ↔
        steps = inner.active.length) ∧
    ∀ object,
      ⟨extraction.rootModuleIri, Property.parentNamespace, object⟩ ∉ extraction.triples := by
  refine ⟨isNamespace_iff_enters, ?_, root_has_no_parent⟩
  intro outer inner enters
  have climbs := climbs_of_reached plain (enters.reached.tail enters.descends)
  refine ⟨enters.parent_stated_iff plain, enters.parent_ne, enters.root_or_isNamespace, ?_⟩
  intro steps
  constructor
  · intro others
    exact others.steps_eq climbs
  · intro equal
    rwa [equal]

/-- The module `outer` of the crate `demo` holds the module `inner`. -/
def nesting : Extraction :=
  demo ["1"]
    [("1", .plain (some "outer") (.module ⟨["2"], false, false⟩)),
      ("2", .plain (some "inner") (.module ⟨[], false, false⟩))] Table.empty

theorem nesting_plainModuleNames : nesting.PlainModuleNames := by
  intro id item body name found _ inner named
  have member := (Table.mem_entries_iff _ _ _).mpr found
  simp only [nesting, demo, List.mem_cons, Prod.mk.injEq, List.not_mem_nil, or_false] at member
  rcases member with ⟨rfl, _⟩ | ⟨_, rfl⟩ | ⟨_, rfl⟩
  · exact absurd rfl inner
  · cases named
    decide
  · cases named
    decide

def nestingOuter : Stop :=
  ⟨["0"], "1", extendPath "demo" "outer"⟩

def nestingInner : Stop :=
  ⟨["1", "0"], "2", extendPath (extendPath "demo" "outer") "inner"⟩

theorem nesting_enters : nesting.Enters nestingOuter nestingInner where
  reached := .single {
    listed := ⟨⟨["1"], false, true⟩, rfl, List.mem_cons_self⟩
    isModule := by decide +kernel
    active_eq := rfl
    fresh := by decide +kernel
    path_eq := by decide +kernel }
  descends := {
    listed := ⟨⟨["2"], false, false⟩, rfl, List.mem_cons_self⟩
    isModule := by decide +kernel
    active_eq := rfl
    fresh := by decide +kernel
    path_eq := by decide +kernel }

/-- The module `inner` is two steps below the root module. -/
theorem nesting_leads_to_root :
    nesting.PlainModuleNames ∧
      nesting.IsNamespace (nesting.moduleIri "demo::outer::inner") ∧
      (∀ object,
        ⟨nesting.moduleIri "demo::outer::inner", Property.parentNamespace, object⟩ ∈
            nesting.triples ↔
          object = .iri (nesting.moduleIri "demo::outer")) ∧
      ∀ steps,
        nesting.Climbs steps (nesting.moduleIri "demo::outer::inner") nesting.rootModuleIri ↔
          steps = 2 := by
  rcases nesting.parents_lead_to_root nesting_plainModuleNames with ⟨namespaces, parents, _⟩
  rcases parents _ _ nesting_enters with ⟨sole, _, _, climbs⟩
  have outerPath : nestingOuter.path = "demo::outer" := by decide +kernel
  have innerPath : nestingInner.path = "demo::outer::inner" := by decide +kernel
  rw [innerPath] at sole climbs
  rw [outerPath] at sole
  refine ⟨nesting_plainModuleNames, ?_, sole, climbs⟩
  rw [← innerPath]
  exact (namespaces _).mpr ⟨nestingOuter, nestingInner, nesting_enters, rfl⟩

end Extraction

end CrateGraph
